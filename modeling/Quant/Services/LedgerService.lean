import Quant.Execution.Financing
import Quant.Execution.Risk

/-!
# The ledger service

`LedgerService` of `services/ledger_service.py` over the tables of `infrastructure/database/ledger_models.py`. The engine of the
service is an object in memory and the tables are the committed database. A call works in one session: what it adds and changes is
in the database from its commit on, and a call that raises leaves the database as it was, with its session rolled back. Where the
database itself fails is up to an oracle.
-/

namespace Quant

open Pylib

/-! ## Tables -/

/-- A row of `tax_lots` has the fields of a lot. -/
abbrev DBTaxLot := LotFields

/-- A row of `realized_trades` has the fields of a realized gain. -/
abbrev DBRealizedTrade := RealizedGainRecord

/-- A row of `ledger_entries` has the fields of a draft. -/
abbrev DBLedgerEntry := JournalEntryDraft

/-- A row of `portfolio_ledgers`. -/
structure DBPortfolioLedger where
  portfolioId : String
  cashBalance : ℚ := 100000
  marginDebt : ℚ := 0
  totalEquity : ℚ := 100000
  deriving DecidableEq

/-- A row of `daily_pnl_snapshots`. -/
structure DBDailyPnLSnapshot where
  portfolioId : String
  dateStr : String
  nav : ℚ
  cash : ℚ
  grossNotional : ℚ
  realizedPnl : ℚ
  unrealizedPnl : ℚ
  marginInterestAccrued : ℚ
  borrowFeesAccrued : ℚ
  deriving DecidableEq

/-- The tables, each under its unique key. -/
structure LedgerDb where
  portfolioLedgers : Dict String DBPortfolioLedger := ∅
  taxLots : Dict String DBTaxLot := ∅
  realizedTrades : Dict String DBRealizedTrade := ∅
  ledgerEntries : List DBLedgerEntry := []
  dailySnapshots : Dict (String × String) DBDailyPnLSnapshot := ∅
  deriving DecidableEq

/-- Where the database fails in a call: at a query, by its number, or at a commit. -/
structure SessionFaults where
  query : ℕ → Option Exc := fun _ => none
  commit : ℕ → Option Exc := fun _ => none

/-- What a commit raises on a row whose key is taken. -/
def integrityError (table : String) : Exc := ⟨.databaseError, "UNIQUE constraint failed: %", [.str table]⟩

/-- Insert rows under their keys. -/
def insertRows {κ ν : Type} [DecidableEq κ] (table : String) (key : ν → κ) : List ν → Dict κ ν → Except Exc (Dict κ ν)
  | [], d => .ok d
  | row :: rows, d =>
    if d.contains (key row) then .error (integrityError table) else insertRows table key rows (d.set (key row) row)

/-! ## Journal entries -/

/-- `math.isclose(a, b, abs_tol=absTol)`, with its default relative tolerance. -/
def iscloseTo (absTol a b : ℚ) : Bool := |a - b| ≤ max (1 / 10 ^ 9 * max |a| |b|) absTol

/-- What the entries of one transaction share. -/
structure Transaction where
  transactionId : String
  portfolioId : String
  timestamp : Instant

/-- An entry of a transaction. -/
def Transaction.entry (tx : Transaction) (accountName : String) (entryType : EntryType) (amount : ℚ) : DBLedgerEntry :=
  { transactionId := tx.transactionId
    portfolioId := tx.portfolioId
    accountName := accountName
    entryType := entryType
    amount := amount
    timestamp := tx.timestamp }

/-- The entry of a gain or of a loss above the threshold. -/
def Transaction.gainEntries (tx : Transaction) (gainOrLoss : ℚ) : List DBLedgerEntry :=
  if gainOrLoss > 1 / 10 ^ 4 then [tx.entry "REVENUE_REALIZED_GAIN" .credit gainOrLoss]
  else if gainOrLoss < -(1 / 10 ^ 4) then [tx.entry "EXPENSE_REALIZED_LOSS" .debit |gainOrLoss|]
  else []

/-- The entries of a realized trade. -/
def Transaction.tradeEntries (tx : Transaction) (symbol : String) (trade : RealizedGainRecord) : List DBLedgerEntry :=
  let tradeProceeds := round (trade.quantity * trade.executionPrice) 4
  let tradeCostBasis := round trade.costBasis 4
  if trade.side = "SELL" then
    [tx.entry "ASSET_CASH" .debit tradeProceeds, tx.entry ("ASSET_INVENTORY_" ++ symbol) .credit tradeCostBasis] ++
      tx.gainEntries (round (tradeProceeds - tradeCostBasis) 4)
  else if trade.side = "COVER" then
    [tx.entry ("LIABILITY_SHORT_" ++ symbol) .debit tradeCostBasis, tx.entry "ASSET_CASH" .credit tradeProceeds] ++
      tx.gainEntries (round (tradeCostBasis - tradeProceeds) 4)
  else []

/-- The entries of a new lot. -/
def Transaction.lotEntries (tx : Transaction) (symbol : String) (lot : TaxLot) : List DBLedgerEntry :=
  let lotNotional := round (lot.originalQuantity * lot.costBasisPerShare) 4
  match lot.side with
  | .long => [tx.entry ("ASSET_INVENTORY_" ++ symbol) .debit lotNotional, tx.entry "ASSET_CASH" .credit lotNotional]
  | .short => [tx.entry "ASSET_CASH" .debit lotNotional, tx.entry ("LIABILITY_SHORT_" ++ symbol) .credit lotNotional]

/-- The entries of a fill: those of its trades, then those of its new lots. -/
def Transaction.journalEntries (tx : Transaction) (symbol : String) (res : FillAllocationResult) : List DBLedgerEntry :=
  res.allocatedTrades.flatMap (tx.tradeEntries symbol) ++ res.newOpenLots.flatMap (tx.lotEntries symbol)

/-- The check that a transaction is balanced: what it raises. -/
def Transaction.unbalancedFault (tx : Transaction) (entries : List DBLedgerEntry) : Option Exc :=
  let totDebit := round (entryTotal .debit entries) 4
  let totCredit := round (entryTotal .credit entries) 4
  if ¬ iscloseTo (1 / 10 ^ 3) totDebit totCredit then
    some ⟨.unbalancedTransaction, "Unbalanced journal transaction %: Debits=% != Credits=%",
      [.str tx.transactionId, .num totDebit, .num totCredit]⟩
  else none

/-! ## Writing a fill -/

/-- A row takes over what a depleted lot has left. -/
def updateLot (rows : Dict String DBTaxLot) (lot : TaxLot) : Dict String DBTaxLot :=
  match rows.get? lot.lotId with
  | none => rows
  | some row => rows.set lot.lotId { row with remainingQuantity := lot.remainingQuantity, status := lot.status }

/-- The row of a new lot. -/
def lotRow (portfolioId : String) (lot : TaxLot) : DBTaxLot := { lot.toLotFields with portfolioId := portfolioId }

/-- The row of a realized trade. -/
def tradeRow (portfolioId : String) (trade : RealizedGainRecord) : DBRealizedTrade := { trade with portfolioId := portfolioId }

/-- The cash of a portfolio after a fill, and its margin debt. -/
def DBPortfolioLedger.addCash (row : DBPortfolioLedger) (cashDelta : ℚ) : DBPortfolioLedger :=
  let cashBalance := round (row.cashBalance + cashDelta) 4
  { row with cashBalance := cashBalance, marginDebt := max 0 (-cashBalance) }

/-- The database with what a fill writes. -/
def LedgerDb.writeFill (db : LedgerDb) (portfolioId : String) (res : FillAllocationResult) (entries : List DBLedgerEntry)
    (cashDelta : ℚ) : Except Exc LedgerDb :=
  match insertRows "tax_lots.id" (·.lotId) (res.newOpenLots.map (lotRow portfolioId))
    (res.depletedLots.foldl updateLot db.taxLots) with
  | .error exc => .error exc
  | .ok taxLots =>
    match insertRows "realized_trades.id" (·.tradeId) (res.allocatedTrades.map (tradeRow portfolioId)) db.realizedTrades with
    | .error exc => .error exc
    | .ok realizedTrades => .ok
      { db with
        taxLots := taxLots
        realizedTrades := realizedTrades
        ledgerEntries := db.ledgerEntries ++ entries
        portfolioLedgers :=
          match db.portfolioLedgers.get? portfolioId with
          | none => db.portfolioLedgers
          | some row => db.portfolioLedgers.set portfolioId (row.addCash cashDelta) }

/-! ## The service -/

structure LedgerService where
  portfolioId : String
  taxLotEngine : TaxLotEngine
  financingModel : FinancingConfig

namespace LedgerService

/-- The change of cash by a fill. -/
def cashDelta (a : FillArgs) : ℚ :=
  let grossNotional := a.quantity * a.executionPrice
  if FillSide.parse a.side = some .buy then -grossNotional else grossNotional

/-- A call of `record_fill`: its arguments, what it draws, and where the database fails. -/
structure FillCall extends FillArgs where
  entropy : Entropy
  txId : String
  faults : SessionFaults := {}

/-- The instant of a fill. -/
def FillCall.fillTime (c : FillCall) : Instant := c.timestamp.getD { micros := c.entropy.now }

/-- The arguments for the engine. -/
def FillCall.args (c : FillCall) : FillArgs := { c.toFillArgs with timestamp := some c.fillTime }

/-- The transaction of a fill. -/
def FillCall.transaction (c : FillCall) (portfolioId : String) : Transaction :=
  { transactionId := c.txId, portfolioId := portfolioId, timestamp := c.fillTime }

/-- `record_fill` after the allocation, which has changed the engine already. -/
def persistFill (portfolioId : String) (db : LedgerDb) (c : FillCall) (res : FillAllocationResult) : Except Exc LedgerDb :=
  match (List.range res.depletedLots.length).findSome? c.faults.query with
  | some exc => .error exc
  | none =>
    let tx := c.transaction portfolioId
    let entries := tx.journalEntries c.symbol res
    match tx.unbalancedFault entries with
    | some exc => .error exc
    | none =>
      match c.faults.query res.depletedLots.length with
      | some exc => .error exc
      | none =>
        match c.faults.commit 0 with
        | some exc => .error exc
        | none => db.writeFill portfolioId res entries (cashDelta c.toFillArgs)

/-- `record_fill`. -/
def recordFill (svc : LedgerService) (db : LedgerDb) (c : FillCall) :
    Except Exc FillAllocationResult × LedgerService × LedgerDb :=
  match svc.taxLotEngine.allocateFill c.args c.entropy with
  | (.error exc, e) => (.error exc, { svc with taxLotEngine := e }, db)
  | (.ok res, e) =>
    match persistFill svc.portfolioId db c res with
    | .error exc => (.error exc, { svc with taxLotEngine := e }, db)
    | .ok db' => (.ok res, { svc with taxLotEngine := e }, db')

/-! ## End of day -/

/-- A call of `accrue_daily_eod`. -/
structure AccrualCall where
  dateStr : String
  currentPrices : Dict String ℚ
  days : ℚ := 1
  draw : AccrualDraw
  faults : SessionFaults := {}

/-- The positions of the engine. -/
def positions (svc : LedgerService) : Dict String ℚ := svc.taxLotEngine.lots.map (fun s _ => svc.taxLotEngine.getPosition s)

/-- The loop over the positions: the gross notional and the unrealized profit. -/
def markLoop (e : TaxLotEngine) (currentPrices : Dict String ℚ) :
    List (String × ℚ) → ℚ × ℚ → Except Exc (ℚ × ℚ)
  | [], st => .ok st
  | (sym, pos) :: rest, st =>
    if |pos| > lotEpsilon then
      let price := currentPrices.getD sym 0
      match e.getUnrealizedPnl sym price with
      | .error exc => .error exc
      | .ok pnl => markLoop e currentPrices rest (st.1 + |pos| * price, st.2 + pnl)
    else markLoop e currentPrices rest st

/-- The value of some positions at some prices. -/
def holdingsValue (positions prices : Dict String ℚ) : ℚ := (positions.items.map (fun p => p.2 * prices.getD p.1 0)).sum

/-- The snapshot of a day. -/
def snapshot (portfolioId : String) (c : AccrualCall) (accrual : DailyAccrualResult) (nav gross unrealized realized : ℚ) :
    DBDailyPnLSnapshot :=
  { portfolioId := portfolioId
    dateStr := c.dateStr
    nav := round nav 4
    cash := round accrual.cashBalanceAfter 4
    grossNotional := round gross 4
    realizedPnl := round realized 4
    unrealizedPnl := round unrealized 4
    marginInterestAccrued := accrual.marginInterestAccrued
    borrowFeesAccrued := accrual.borrowFeesAccrued }

/-- `accrue_daily_eod`. -/
def accrueDailyEod (svc : LedgerService) (db : LedgerDb) (c : AccrualCall) : Except Exc DailyAccrualResult × LedgerDb :=
  match c.faults.query 0 with
  | some exc => (.error exc, db)
  | none =>
    match db.portfolioLedgers.get? svc.portfolioId with
    | none => (.error ⟨.portfolioNotFound, "Portfolio '%' not found", [.str svc.portfolioId]⟩, db)
    | some row =>
      match svc.financingModel.accrueDailyFinancing svc.portfolioId row.cashBalance svc.positions c.currentPrices c.dateStr
        c.days c.draw with
      | .error exc => (.error exc, db)
      | .ok accrual =>
        match markLoop svc.taxLotEngine c.currentPrices svc.positions.items (0, 0) with
        | .error exc => (.error exc, db)
        | .ok (gross, unrealized) =>
          let nav := accrual.cashBalanceAfter + holdingsValue svc.positions c.currentPrices
          match c.faults.query 1 with
          | some exc => (.error exc, db)
          | none =>
            let trades := db.realizedTrades.values.filter (fun t => t.portfolioId = svc.portfolioId)
            let realized := (trades.map (·.realizedPnl)).sum
            match c.faults.commit 0 with
            | some exc => (.error exc, db)
            | none =>
              if db.dailySnapshots.contains (svc.portfolioId, c.dateStr) then
                (.error (integrityError "daily_pnl_snapshots.portfolio_id, daily_pnl_snapshots.date_str"), db)
              else
                (.ok accrual,
                  { db with
                    ledgerEntries := db.ledgerEntries ++ accrual.journalEntries
                    dailySnapshots := db.dailySnapshots.set (svc.portfolioId, c.dateStr)
                      (snapshot svc.portfolioId c accrual nav gross unrealized realized)
                    portfolioLedgers := db.portfolioLedgers.set svc.portfolioId
                      { row with
                        cashBalance := accrual.cashBalanceAfter
                        marginDebt := accrual.marginDebitBalance
                        totalEquity := round nav 4 } })

/-! ## Rehydration -/

/-- The active lots of a portfolio, oldest first. -/
def activeRows (db : LedgerDb) (portfolioId : String) : List DBTaxLot :=
  db.taxLots.values.filter (fun row => row.portfolioId = portfolioId ∧ (row.status = .lotOpen ∨ row.status = .lotPartial))

/-- The loop that rebuilds the lots of the engine. -/
def rehydrateLots (portfolioId : String) : List DBTaxLot → TaxLotEngine → Except Exc Unit × TaxLotEngine
  | [], e => (.ok (), e)
  | row :: rows, e =>
    let e := e.touch row.symbol
    match ({ row with portfolioId := portfolioId } : LotFields).create with
    | .error exc => (.error exc, e)
    | .ok l => rehydrateLots portfolioId rows (e.withLots row.symbol (e.lotsOf row.symbol ++ [l]))

/-- The positions that count, from the lots of the engine. -/
def openPositions (e : TaxLotEngine) : Dict String ℚ :=
  e.lots.keys.foldl (fun d sym => if |e.getPosition sym| > lotEpsilon then d.set sym (e.getPosition sym) else d) ∅

/-- The prices that were given, and the cost of the last lot of each other symbol. -/
def fallbackPrices (e : TaxLotEngine) (prices : Dict String ℚ) : Dict String ℚ :=
  e.lots.items.foldl
    (fun d p => if d.contains p.1 then d else (p.2.getLast?).elim d (fun l => d.set p.1 l.costBasisPerShare)) prices

/-- `except Exception`: what a failed rehydration raises. -/
def rehydrationError (exc : Exc) : Exc :=
  if exc.isException then ⟨.rehydrationFailed, "Rehydration failed: " ++ exc.text, exc.args⟩ else exc

/-- The ledger of the portfolio, provisioned where there is none. -/
def provision (portfolioId : String) (db : LedgerDb) : DBPortfolioLedger × LedgerDb :=
  match db.portfolioLedgers.get? portfolioId with
  | some row => (row, db)
  | none =>
    ({ portfolioId := portfolioId },
      { db with portfolioLedgers := db.portfolioLedgers.set portfolioId { portfolioId := portfolioId } })

/-- The portfolio a rehydration returns, before its constructor checks it. -/
def riskFields (e : TaxLotEngine) (cash totalEquity : ℚ) (prices : Dict String ℚ) : PortfolioRiskState :=
  { cash := cash
    positions := openPositions e
    currentPrices := prices
    peakEquity := max totalEquity 1000
    initialEquity := max totalEquity 1000 }

/-- `initialize_or_rehydrate`. -/
def initializeOrRehydrate (svc : LedgerService) (db : LedgerDb) (currentPrices : Dict String ℚ) (faults : SessionFaults) :
    Except Exc PortfolioRiskState × LedgerService × LedgerDb :=
  match faults.query 0 with
  | some exc => (.error (rehydrationError exc), svc, db)
  | none =>
    match (if db.portfolioLedgers.contains svc.portfolioId then none else faults.commit 0) with
    | some exc => (.error (rehydrationError exc), svc, db)
    | none =>
      let (row, db) := provision svc.portfolioId db
      match faults.query 1 with
      | some exc => (.error (rehydrationError exc), svc, db)
      | none =>
        let rows := (activeRows db svc.portfolioId).mergeSort (fun r r' => r.openTimestamp.micros ≤ r'.openTimestamp.micros)
        match rehydrateLots svc.portfolioId rows { svc.taxLotEngine with lots := ∅ } with
        | (.error exc, e) => (.error (rehydrationError exc), { svc with taxLotEngine := e }, db)
        | (.ok (), e) =>
          let svc := { svc with taxLotEngine := e }
          let prices := fallbackPrices e currentPrices
          let totalEquity := row.cashBalance + holdingsValue (openPositions e) prices
          match faults.commit 1 with
          | some exc => (.error (rehydrationError exc), svc, db)
          | none =>
            let db := { db with
              portfolioLedgers := db.portfolioLedgers.set svc.portfolioId { row with totalEquity := totalEquity } }
            match (riskFields e row.cashBalance totalEquity prices).create with
            | .error exc => (.error (rehydrationError exc), svc, db)
            | .ok state => (.ok state, svc, db)

end LedgerService

end Quant
