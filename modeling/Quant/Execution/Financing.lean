import Quant.Execution.TaxLot

/-!
# The financing model

`FinancingConfig` and `FinancingModel` of `execution/financing.py`: margin interest on a debit balance, borrow fees on short
positions, and the journal entries for both. A description is left out of an entry, as nothing reads it.
-/

namespace Quant

open Pylib

/-! ## Configuration -/

/-- The configuration as it is given. -/
structure FinancingConfigFields where
  annualMarginRate : ℚ := 65 / 1000
  defaultBorrowRate : ℚ := 15 / 1000
  hardToBorrowRates : Dict String ℚ := ∅
  dayCountConvention : ℤ := 360
  deriving DecidableEq

/-- A configuration its constructor accepted; the rates of the table are not checked. -/
structure FinancingConfig extends FinancingConfigFields where
  annualMarginRate_nonneg : 0 ≤ annualMarginRate
  defaultBorrowRate_nonneg : 0 ≤ defaultBorrowRate
  dayCountConvention_mem : dayCountConvention = 360 ∨ dayCountConvention = 365
  deriving DecidableEq

/-- `FinancingConfig.__post_init__`. -/
def FinancingConfigFields.create (c : FinancingConfigFields) : Except Exc FinancingConfig :=
  if h1 : c.annualMarginRate < 0 then
    .error ⟨.invalidRate, "annual_margin_rate must be non-negative, got %", [.num c.annualMarginRate]⟩
  else if h2 : c.defaultBorrowRate < 0 then
    .error ⟨.invalidRate, "default_borrow_rate must be non-negative, got %", [.num c.defaultBorrowRate]⟩
  else if h3 : c.dayCountConvention = 360 ∨ c.dayCountConvention = 365 then .ok
    { c with
      annualMarginRate_nonneg := not_lt.1 h1
      defaultBorrowRate_nonneg := not_lt.1 h2
      dayCountConvention_mem := h3 }
  else .error ⟨.financingError, "day_count_convention must be 360 or 365, got %", [.num c.dayCountConvention]⟩

/-- `FinancingConfig()`. -/
def FinancingConfig.default : FinancingConfig :=
  { annualMarginRate_nonneg := by norm_num
    defaultBorrowRate_nonneg := by norm_num
    dayCountConvention_mem := .inl rfl }

/-- The default configuration passes its own checks. -/
example : ({} : FinancingConfigFields).create = .ok .default := by decide +kernel

/-! ## Entries and results -/

inductive EntryType where
  | debit
  | credit
  deriving DecidableEq, Repr

/-- One side of a journal transaction. -/
structure JournalEntryDraft where
  transactionId : String
  portfolioId : String
  accountName : String
  entryType : EntryType
  amount : ℚ
  timestamp : Instant
  deriving DecidableEq

/-- The sum of the amounts of one type. -/
def entryTotal (t : EntryType) (entries : List JournalEntryDraft) : ℚ :=
  ((entries.filter (fun e => e.entryType = t)).map (·.amount)).sum

structure DailyAccrualResult where
  portfolioId : String
  dateStr : String
  cashBalanceBefore : ℚ
  marginDebitBalance : ℚ
  marginInterestAccrued : ℚ
  shortBorrowNotional : ℚ
  borrowFeesAccrued : ℚ
  totalFinancingDrag : ℚ
  cashBalanceAfter : ℚ
  journalEntries : List JournalEntryDraft
  deriving DecidableEq

/-- The clock and the transaction identifiers an accrual draws. -/
structure AccrualDraw where
  now : Instant
  marginTx : String
  borrowTx : String

namespace FinancingConfig

/-! ## Charges -/

/-- `calculate_margin_interest`. -/
def calculateMarginInterest (c : FinancingConfig) (cashBalance days : ℚ) : Except Exc ℚ :=
  if days < 0 then .error ⟨.nonFiniteLedgerInput, "days must be non-negative and finite, got %", [.num days]⟩
  else if cashBalance ≥ 0 ∨ days = 0 then .ok 0
  else
    let debit := |cashBalance|
    let dailyRate := c.annualMarginRate / c.dayCountConvention
    .ok (round (debit * dailyRate * days) 4)

/-- What the loop over the positions carries: the fees, the notional, and the fee of each symbol. -/
structure BorrowState where
  totalFees : ℚ := 0
  totalShortNotional : ℚ := 0
  perSymbolFees : Dict String ℚ := ∅
  deriving DecidableEq

/-- The fee of a short position. -/
def borrowFee (c : FinancingConfig) (sym : String) (shortNotional days : ℚ) : ℚ :=
  round (shortNotional * (c.hardToBorrowRates.getD sym c.defaultBorrowRate / c.dayCountConvention) * days) 4

/-- The loop over the positions. -/
def borrowLoop (c : FinancingConfig) (marketPrices : Dict String ℚ) (days : ℚ) :
    List (String × ℚ) → BorrowState → Except Exc BorrowState
  | [], st => .ok st
  | (sym, qty) :: rest, st =>
    if qty ≥ 0 then borrowLoop c marketPrices days rest st
    else
      match marketPrices.get? sym with
      | none => .error ⟨.nonFiniteLedgerInput, "Missing or non-numeric price for short symbol %", [.str sym]⟩
      | some price =>
        if price ≤ 0 then
          .error ⟨.nonFiniteLedgerInput, "Price for short symbol % must be positive and finite", [.str sym]⟩
        else
          let shortNotional := |qty| * price
          let fee := c.borrowFee sym shortNotional days
          borrowLoop c marketPrices days rest
            { totalFees := st.totalFees + fee
              totalShortNotional := st.totalShortNotional + shortNotional
              perSymbolFees := st.perSymbolFees.set sym fee }

/-- `calculate_borrow_fees`: the total fees, the total notional, and the fee of each symbol. -/
def calculateBorrowFees (c : FinancingConfig) (positions marketPrices : Dict String ℚ) (days : ℚ) :
    Except Exc (ℚ × ℚ × Dict String ℚ) :=
  if days < 0 then .error ⟨.nonFiniteLedgerInput, "days must be non-negative, got %", [.num days]⟩
  else
    match c.borrowLoop marketPrices days positions.items {} with
    | .error exc => .error exc
    | .ok st => .ok (round st.totalFees 4, round st.totalShortNotional 2, st.perSymbolFees)

/-! ## Accrual -/

/-- The two entries of a charge, unless it is next to nothing. -/
def chargeEntries (portfolioId txId account : String) (amount : ℚ) (now : Instant) : List JournalEntryDraft :=
  if amount > 1 / 10 ^ 6 then
    [{ transactionId := txId
       portfolioId := portfolioId
       accountName := account
       entryType := .debit
       amount := amount
       timestamp := now },
     { transactionId := txId
       portfolioId := portfolioId
       accountName := "ASSET_CASH"
       entryType := .credit
       amount := amount
       timestamp := now }]
  else []

/-- `accrue_daily_financing`. -/
def accrueDailyFinancing (c : FinancingConfig) (portfolioId : String) (cashBalance : ℚ) (positions marketPrices : Dict String ℚ)
    (dateStr : String) (days : ℚ) (draw : AccrualDraw) : Except Exc DailyAccrualResult :=
  match c.calculateMarginInterest cashBalance days with
  | .error exc => .error exc
  | .ok marginInterest =>
    match c.calculateBorrowFees positions marketPrices days with
    | .error exc => .error exc
    | .ok (borrowFees, shortNotional, _) =>
      let totalDrag := round (marginInterest + borrowFees) 4
      let entries := chargeEntries portfolioId draw.marginTx "EXPENSE_MARGIN_INTEREST" marginInterest draw.now ++
        chargeEntries portfolioId draw.borrowTx "EXPENSE_SHORT_BORROW" borrowFees draw.now
      if ¬ TaxLotEngine.isclose (entryTotal .debit entries) (entryTotal .credit entries) then
        .error ⟨.financingError, "Double-entry balance broken: debits (%) != credits (%)",
          [.num (entryTotal .debit entries), .num (entryTotal .credit entries)]⟩
      else .ok
        { portfolioId := portfolioId
          dateStr := dateStr
          cashBalanceBefore := cashBalance
          -- the debt before the charges
          marginDebitBalance := max 0 (-cashBalance)
          marginInterestAccrued := marginInterest
          shortBorrowNotional := shortNotional
          borrowFeesAccrued := borrowFees
          totalFinancingDrag := totalDrag
          cashBalanceAfter := round (cashBalance - totalDrag) 4
          journalEntries := entries }

end FinancingConfig

end Quant
