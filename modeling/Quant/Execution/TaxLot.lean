import Mathlib.Data.List.Sort
import Quant.Exceptions
import Quant.Pylib.Decimal
import Quant.Pylib.Dict
import Quant.Pylib.Text

/-!
# The tax-lot engine

`TaxLotEngine` of `execution/tax_lot.py`: open lots per symbol, and `allocate_fill`, which adds a lot or matches a fill against
the open ones. The lots of a symbol are mutable objects in a list and the matching loop depletes them in place; here a lot is a
value and its object is its place in that list. An engine call that raises returns the engine it leaves behind together with the
exception.
-/

namespace Quant

open Pylib

inductive TaxLotMethod where
  | fifo
  | lifo
  deriving DecidableEq, Repr

inductive LotSide where
  | long
  | short
  deriving DecidableEq, Repr

inductive LotStatus where
  | lotOpen
  | lotPartial
  | lotClosed
  deriving DecidableEq, Repr

/-- A `datetime`: its microseconds since the epoch, and whether it has a UTC offset. -/
structure Instant where
  micros : ℤ
  aware : Bool := true
  deriving DecidableEq

/-- The fields of a lot. -/
structure LotFields where
  lotId : String
  portfolioId : String
  symbol : String
  side : LotSide
  openTimestamp : Instant
  originalQuantity : ℚ
  remainingQuantity : ℚ
  costBasisPerShare : ℚ
  status : LotStatus := .lotOpen
  deriving DecidableEq

/-- A lot its constructor accepted. -/
structure TaxLot extends LotFields where
  originalQuantity_pos : 0 < originalQuantity
  remainingQuantity_nonneg : 0 ≤ remainingQuantity
  costBasisPerShare_pos : 0 < costBasisPerShare
  deriving DecidableEq

/-- `TaxLot.__post_init__`. -/
def LotFields.create (f : LotFields) : Except Exc TaxLot :=
  if h1 : f.originalQuantity ≤ 0 then
    .error ⟨.nonFiniteLedgerInput, "original_quantity must be strictly positive and finite, got %", [.num f.originalQuantity]⟩
  else if h2 : f.remainingQuantity < 0 then
    .error ⟨.nonFiniteLedgerInput, "remaining_quantity must be non-negative and finite, got %", [.num f.remainingQuantity]⟩
  else if h3 : f.costBasisPerShare ≤ 0 then
    .error ⟨.nonFiniteLedgerInput, "cost_basis_per_share must be strictly positive and finite, got %",
      [.num f.costBasisPerShare]⟩
  else .ok
    { f with
      originalQuantity_pos := not_le.1 h1
      remainingQuantity_nonneg := not_lt.1 h2
      costBasisPerShare_pos := not_le.1 h3 }

/-- A lot with at most this much left is no longer open. -/
def lotEpsilon : ℚ := 1 / 10 ^ 8

namespace TaxLot

/-- Whether a lot counts as open. -/
def isOpen (l : TaxLot) : Bool := lotEpsilon < l.remainingQuantity

/-- The quantity a fill of `r` takes from a lot. -/
def matchQty (l : TaxLot) (r : ℚ) : ℚ := min l.remainingQuantity r

/-- A lot after a fill of `r` was matched against it. -/
def deplete (l : TaxLot) (r : ℚ) : TaxLot :=
  if l.remainingQuantity - l.matchQty r ≤ lotEpsilon then
    { l with remainingQuantity := 0, status := .lotClosed, remainingQuantity_nonneg := le_refl 0 }
  else
    { l with
      remainingQuantity := l.remainingQuantity - l.matchQty r
      status := .lotPartial
      remainingQuantity_nonneg := sub_nonneg.2 (min_le_left _ _) }

/-- What closing the rest of a lot at a price would bring. -/
def unrealized (l : TaxLot) (price : ℚ) : ℚ :=
  let marketVal := l.remainingQuantity * price
  let costVal := l.remainingQuantity * l.costBasisPerShare
  if l.side = .long then marketVal - costVal else costVal - marketVal

end TaxLot

/-- The realized gain or loss of one match. -/
structure RealizedGainRecord where
  tradeId : String
  portfolioId : String
  lotId : String
  symbol : String
  side : String
  closeTimestamp : Instant
  quantity : ℚ
  executionPrice : ℚ
  costBasis : ℚ
  realizedPnl : ℚ
  holdingPeriodSeconds : ℚ
  deriving DecidableEq

/-- What `allocate_fill` returns. -/
structure FillAllocationResult where
  allocatedTrades : List RealizedGainRecord
  newOpenLots : List TaxLot
  depletedLots : List TaxLot
  totalRealizedPnl : ℚ
  remainingPosition : ℚ
  deriving DecidableEq

/-- The engine: the lots of every symbol, in the order they were added. -/
structure TaxLotEngine where
  portfolioId : String := "default_portfolio"
  defaultMethod : TaxLotMethod := .fifo
  allowShorting : Bool := true
  lots : Dict String (List TaxLot) := ∅
  deriving DecidableEq

/-- The side of a fill, `"BUY"` or `"SELL"` once stripped and in upper case. -/
inductive FillSide where
  | buy
  | sell
  deriving DecidableEq, Repr

/-- `side.upper().strip()`, and the check that it is one of the two. -/
def FillSide.parse (side : String) : Option FillSide :=
  if strip (upper side) = "BUY" then some .buy else if strip (upper side) = "SELL" then some .sell else none

/-- The clock and the random identifiers a call draws. -/
structure Entropy where
  now : ℤ
  hex : ℕ → String

/-- The arguments of `allocate_fill`, with its defaults. -/
structure FillArgs where
  symbol : String
  side : String
  quantity : ℚ
  executionPrice : ℚ
  timestamp : Option Instant := none
  method : Option TaxLotMethod := none
  deriving DecidableEq

namespace TaxLotEngine

/-- The lots kept for a symbol, the depleted ones included. -/
def lotsOf (e : TaxLotEngine) (symbol : String) : List TaxLot := e.lots.getD symbol []

/-- `get_open_lots(symbol)`. -/
def getOpenLots (e : TaxLotEngine) (symbol : String) : List TaxLot := (e.lotsOf symbol).filter (·.isOpen)

/-- `get_position`: the open quantity, signed by the side of the first open lot. -/
def getPosition (e : TaxLotEngine) (symbol : String) : ℚ :=
  match e.getOpenLots symbol with
  | [] => 0
  | l :: ls =>
    let total := ((l :: ls).map (·.remainingQuantity)).sum
    if l.side = .long then total else -total

/-- `get_unrealized_pnl`. -/
def getUnrealizedPnl (e : TaxLotEngine) (symbol : String) (currentPrice : ℚ) : Except Exc ℚ :=
  if currentPrice ≤ 0 then
    .error ⟨.nonFiniteLedgerInput, "current_price must be positive and finite, got %", [.num currentPrice]⟩
  else .ok (round ((e.getOpenLots symbol).map (·.unrealized currentPrice)).sum 4)

/-- `math.isclose(a, b, abs_tol=1e-6)`, with its default relative tolerance. -/
def isclose (a b : ℚ) : Bool := |a - b| ≤ max (1 / 10 ^ 9 * max |a| |b|) (1 / 10 ^ 6)

/-- `verify_inventory_conservation`. -/
def verifyInventoryConservation (e : TaxLotEngine) (symbol : String) : Except Exc Unit :=
  match (e.lotsOf symbol).find? (fun l => l.remainingQuantity < 0) with
  | some l => .error ⟨.negativeInventory, "Invariant violated: negative lot quantity (%) in %",
      [.num l.remainingQuantity, .str symbol]⟩
  | none =>
    match e.getOpenLots symbol with
    | [] => .ok ()
    | l :: ls =>
      if (l :: ls).any (fun x => x.side ≠ l.side) then
        .error ⟨.negativeInventory, "Invariant violated: mixed LONG and SHORT lots found for %", [.str symbol]⟩
      else
        let total := ((l :: ls).map (·.remainingQuantity)).sum
        let expected := |e.getPosition symbol|
        if isclose total expected then .ok ()
        else .error ⟨.negativeInventory, "Inventory conservation broken: lots sum (%) != pos (%)",
          [.num total, .num expected]⟩

/-! ## The matching loop -/

/-- What the matching loop carries: the lots of the symbol, the quantity still to match, the running profit, the trades, and
the places of the lots it depleted. -/
structure MatchState where
  lots : List TaxLot
  remainingFill : ℚ
  totalPnl : ℚ := 0
  trades : List RealizedGainRecord := []
  depleted : List ℕ := []

/-- One turn of the loop: match the fill against the lot at a place. -/
def matchLot (e : TaxLotEngine) (a : FillArgs) (fillTime : Instant) (rnd : Entropy) (ms : MatchState) (p : TaxLot × ℕ) :
    MatchState :=
  let lot := p.1
  let q := lot.matchQty ms.remainingFill
  let holdingSeconds := max ((fillTime.micros - lot.openTimestamp.micros : ℚ) / 10 ^ 6) 0
  let costBasis := q * lot.costBasisPerShare
  let execVal := q * a.executionPrice
  let realized := if lot.side = .long then execVal - costBasis else costBasis - execVal
  let trade : RealizedGainRecord :=
    { tradeId := "trd_" ++ rnd.hex ms.trades.length
      portfolioId := e.portfolioId
      lotId := lot.lotId
      symbol := a.symbol
      side := if lot.side = .long then "SELL" else "COVER"
      closeTimestamp := fillTime
      quantity := round q 6
      executionPrice := round a.executionPrice 4
      costBasis := round costBasis 4
      realizedPnl := round realized 4
      holdingPeriodSeconds := round holdingSeconds 1 }
  { lots := ms.lots.set p.2 (lot.deplete ms.remainingFill)
    remainingFill := ms.remainingFill - q
    totalPnl := ms.totalPnl + realized
    trades := ms.trades ++ [trade]
    depleted := ms.depleted ++ [p.2] }

/-- The loop over the sorted open lots: it ends when the fill is used up. -/
def matchLots (e : TaxLotEngine) (a : FillArgs) (fillTime : Instant) (rnd : Entropy) : List (TaxLot × ℕ) → MatchState → MatchState
  | [], ms => ms
  | p :: ps, ms =>
    if ms.remainingFill ≤ lotEpsilon then ms
    else matchLots e a fillTime rnd ps (matchLot e a fillTime rnd ms p)

/-- The open lots with their places, oldest first for FIFO and newest first for LIFO. Python's `sorted` is stable, also with
`reverse=True`, so lots of one instant keep the order they were added in under both methods. -/
def sortedLots (e : TaxLotEngine) (symbol : String) (m : TaxLotMethod) : List (TaxLot × ℕ) :=
  let active := (e.lotsOf symbol).zipIdx.filter (fun p => p.1.isOpen)
  match m with
  | .fifo => active.mergeSort (fun p q => p.1.openTimestamp.micros ≤ q.1.openTimestamp.micros)
  | .lifo => active.mergeSort (fun p q => q.1.openTimestamp.micros ≤ p.1.openTimestamp.micros)

/-- The `TypeError` of an instant with a UTC offset beside one without: `sorted` raises it when the open lots mix the two, and
else the first turn of the loop does when the fill differs from the lots. Both happen before a lot is changed. -/
def instantFault (e : TaxLotEngine) (symbol : String) (quantity : ℚ) (fillTime : Instant) : Option Exc :=
  let active := e.getOpenLots symbol
  if active.any (fun l => active.any fun l' => l.openTimestamp.aware ≠ l'.openTimestamp.aware) then
    some ⟨.typeError, "can't compare offset-naive and offset-aware datetimes", []⟩
  else if lotEpsilon < quantity ∧ active.any (fun l => fillTime.aware ≠ l.openTimestamp.aware) then
    some ⟨.typeError, "can't subtract offset-naive and offset-aware datetimes", []⟩
  else none

/-! ## Allocating a fill -/

/-- Store the lots of a symbol. -/
def withLots (e : TaxLotEngine) (symbol : String) (ls : List TaxLot) : TaxLotEngine :=
  { e with lots := e.lots.set symbol ls }

/-- A symbol seen for the first time gets an empty list of lots. -/
def touch (e : TaxLotEngine) (symbol : String) : TaxLotEngine :=
  if e.lots.contains symbol then e else e.withLots symbol []

/-- Whether a fill adds to the inventory or starts a new position. -/
def isIncreasing (s : FillSide) (pos : ℚ) : Bool := (s = .buy ∧ 0 ≤ pos) ∨ (s = .sell ∧ pos ≤ 0)

/-- The end of `allocate_fill`: verify the inventory, then build the result. -/
def finish (e : TaxLotEngine) (symbol : String) (trades : List RealizedGainRecord) (newLots : List TaxLot)
    (depleted : List ℕ) (pnl : ℚ) : Except Exc FillAllocationResult × TaxLotEngine :=
  match e.verifyInventoryConservation symbol with
  | .error exc => (.error exc, e)
  | .ok () =>
    (.ok
      { allocatedTrades := trades
        newOpenLots := newLots
        depletedLots := depleted.filterMap (fun i => (e.lotsOf symbol)[i]?)
        totalRealizedPnl := round pnl 4
        remainingPosition := e.getPosition symbol }, e)

/-- The lot a fill opens. -/
def newLot (e : TaxLotEngine) (a : FillArgs) (fillTime : Instant) (hex : String) (side : LotSide) (quantity : ℚ) : LotFields :=
  { lotId := "lot_" ++ hex
    portfolioId := e.portfolioId
    symbol := a.symbol
    side := side
    openTimestamp := fillTime
    originalQuantity := quantity
    remainingQuantity := quantity
    costBasisPerShare := a.executionPrice }

/-- Scenario A: the fill opens a lot on the side it already has. -/
def increase (e : TaxLotEngine) (a : FillArgs) (s : FillSide) (fillTime : Instant) (rnd : Entropy) :
    Except Exc FillAllocationResult × TaxLotEngine :=
  if s = .sell ∧ ¬ e.allowShorting then
    (.error ⟨.orphanedFill, "Shorting disabled: cannot sell without existing long inventory for %", [.str a.symbol]⟩, e)
  else
    match (e.newLot a fillTime (rnd.hex 0) (if s = .buy then .long else .short) a.quantity).create with
    | .error exc => (.error exc, e)
    | .ok l => finish (e.withLots a.symbol (e.lotsOf a.symbol ++ [l])) a.symbol [] [l] [] 0

/-- What the loop starts from. -/
def startMatch (e : TaxLotEngine) (a : FillArgs) : MatchState :=
  { lots := e.lotsOf a.symbol, remainingFill := a.quantity }

/-- The loop run over the open lots of the symbol. -/
def matched (e : TaxLotEngine) (a : FillArgs) (fillTime : Instant) (rnd : Entropy) : MatchState :=
  matchLots e a fillTime rnd (e.sortedLots a.symbol (a.method.getD e.defaultMethod)) (e.startMatch a)

/-- Scenario B: the fill closes open lots, and what is left of it opens a lot on the other side. -/
def close (e : TaxLotEngine) (a : FillArgs) (s : FillSide) (fillTime : Instant) (rnd : Entropy) :
    Except Exc FillAllocationResult × TaxLotEngine :=
  match e.instantFault a.symbol a.quantity fillTime with
  | some exc => (.error exc, e)
  | none =>
    let ms := e.matched a fillTime rnd
    let e' := e.withLots a.symbol ms.lots
    if lotEpsilon < ms.remainingFill then
      if s = .sell ∧ ¬ e.allowShorting then
        (.error ⟨.orphanedFill, "Position flip exceeds inventory and shorting disabled for %", [.str a.symbol]⟩, e')
      else
        match (e.newLot a fillTime (rnd.hex ms.trades.length) (if s = .sell then .short else .long)
            (round ms.remainingFill 6)).create with
        | .error exc => (.error exc, e')
        | .ok l => finish (e.withLots a.symbol (ms.lots ++ [l])) a.symbol ms.trades [l] ms.depleted ms.totalPnl
    else finish e' a.symbol ms.trades [] ms.depleted ms.totalPnl

/-- `allocate_fill`: the checks on the arguments, then one of the two scenarios. -/
def allocateFill (e : TaxLotEngine) (a : FillArgs) (rnd : Entropy) : Except Exc FillAllocationResult × TaxLotEngine :=
  if a.symbol = "" then (.error ⟨.nonFiniteLedgerInput, "symbol must be a non-empty string", []⟩, e)
  else if a.quantity ≤ 0 then
    (.error ⟨.nonFiniteLedgerInput, "quantity must be strictly positive and finite, got %", [.num a.quantity]⟩, e)
  else if a.executionPrice ≤ 0 then
    (.error ⟨.nonFiniteLedgerInput, "execution_price must be strictly positive and finite, got %",
      [.num a.executionPrice]⟩, e)
  else
    match FillSide.parse a.side with
    | none => (.error ⟨.nonFiniteLedgerInput, "side must be 'BUY' or 'SELL', got '%'", [.str a.side]⟩, e)
    | some s =>
      let fillTime := a.timestamp.getD { micros := rnd.now }
      let e := e.touch a.symbol
      if isIncreasing s (e.getPosition a.symbol) then e.increase a s fillTime rnd else e.close a s fillTime rnd

end TaxLotEngine

end Quant
