import Mathlib.Algebra.Order.Ring.Rat
import Mathlib.Algebra.Order.Group.Abs
import Quant.Execution.Models
import Quant.Pylib.Dict

/-!
# The pre-trade risk firewall and the portfolio risk state

`RiskLimits`, `PortfolioRiskState` and `PreTradeRiskFirewall` of `execution/risk.py`. Quantities and prices are exact rationals,
so the checks for non-finite numbers and for booleans have no counterpart. A call that raises returns the state it leaves behind:
the drawdown check of the firewall may raise the peak before a later check raises an exception.
-/

namespace Quant

open Pylib

/-- The exception of a number or a symbol the risk mathematics refuses. -/
def nonFinite (text : String) (args : List ExcArg) : Exc := ⟨.nonFiniteRiskInput, text, args⟩

/-- `_validate_positive_scalar`: what it raises. -/
def positiveFault (val : ℚ) (name : String) : Option Exc :=
  if val ≤ 0 then some (nonFinite "Parameter '%' must be strictly positive (> 0.0), got %" [.str name, .num val]) else none

/-- `_validate_non_negative_scalar`: what it raises. -/
def nonNegativeFault (val : ℚ) (name : String) : Option Exc :=
  if val < 0 then some (nonFinite "Parameter '%' cannot be negative (< 0.0), got %" [.str name, .num val]) else none

theorem positiveFault_eq_none {val : ℚ} {name : String} : positiveFault val name = none ↔ 0 < val := by
  unfold positiveFault
  split <;> simp_all

theorem nonNegativeFault_eq_none {val : ℚ} {name : String} : nonNegativeFault val name = none ↔ 0 ≤ val := by
  unfold nonNegativeFault
  split <;> simp_all

/-! ## Limits -/

/-- The limits as they are given. -/
structure RiskLimitFields where
  maxOrderNotional : ℚ
  maxOrderQty : ℚ
  maxGrossLeverage : ℚ
  maxNetLeverage : ℚ
  maxConcentrationNavPct : ℚ
  maxIntradayDrawdownPct : ℚ
  minFreeMargin : ℚ := 0
  deriving DecidableEq

/-- Limits their constructor accepted. -/
structure RiskLimits extends RiskLimitFields where
  maxOrderNotional_pos : 0 < maxOrderNotional
  maxOrderQty_pos : 0 < maxOrderQty
  maxGrossLeverage_pos : 0 < maxGrossLeverage
  maxNetLeverage_pos : 0 < maxNetLeverage
  maxConcentrationNavPct_pos : 0 < maxConcentrationNavPct
  maxIntradayDrawdownPct_pos : 0 < maxIntradayDrawdownPct
  minFreeMargin_nonneg : 0 ≤ minFreeMargin
  deriving DecidableEq

/-- `RiskLimits.__post_init__`: the checks, in the order the source makes them. -/
def RiskLimitFields.create (l : RiskLimitFields) : Except Exc RiskLimits :=
  match h1 : positiveFault l.maxOrderNotional "max_order_notional",
    h2 : positiveFault l.maxOrderQty "max_order_qty",
    h3 : positiveFault l.maxGrossLeverage "max_gross_leverage",
    h4 : positiveFault l.maxNetLeverage "max_net_leverage",
    h5 : positiveFault l.maxConcentrationNavPct "max_concentration_nav_pct",
    h6 : positiveFault l.maxIntradayDrawdownPct "max_intraday_drawdown_pct",
    h7 : nonNegativeFault l.minFreeMargin "min_free_margin" with
  | some exc, _, _, _, _, _, _ => .error exc
  | none, some exc, _, _, _, _, _ => .error exc
  | none, none, some exc, _, _, _, _ => .error exc
  | none, none, none, some exc, _, _, _ => .error exc
  | none, none, none, none, some exc, _, _ => .error exc
  | none, none, none, none, none, some exc, _ => .error exc
  | none, none, none, none, none, none, some exc => .error exc
  | none, none, none, none, none, none, none => .ok
    { l with
      maxOrderNotional_pos := positiveFault_eq_none.1 h1
      maxOrderQty_pos := positiveFault_eq_none.1 h2
      maxGrossLeverage_pos := positiveFault_eq_none.1 h3
      maxNetLeverage_pos := positiveFault_eq_none.1 h4
      maxConcentrationNavPct_pos := positiveFault_eq_none.1 h5
      maxIntradayDrawdownPct_pos := positiveFault_eq_none.1 h6
      minFreeMargin_nonneg := nonNegativeFault_eq_none.1 h7 }

/-! ## The portfolio -/

/-- An amount the program takes for nothing. -/
def tiny (x : ℚ) : Bool := |x| ≤ 1 / 10 ^ 12

/-- Valuation, inventory, open leaves and drawdown of a portfolio. -/
structure PortfolioRiskState where
  cash : ℚ
  positions : Dict String ℚ := ∅
  pendingLeaves : Dict String ℚ := ∅
  currentPrices : Dict String ℚ := ∅
  peakEquity : ℚ := 0
  initialEquity : ℚ := 0
  deriving DecidableEq

namespace PortfolioRiskState

/-- The valuation price of a symbol: one that is missing or not positive raises. -/
def priceOf (s : PortfolioRiskState) (sym : String) : Except Exc ℚ :=
  match s.currentPrices.get? sym with
  | none => .error (nonFinite "Missing current market price for symbol '%' in portfolio state" [.str sym])
  | some p =>
    if p ≤ 0 then
      .error (nonFinite "Price for symbol '%' must be strictly positive finite scalar, got %" [.str sym, .num p])
    else .ok p

/-- The loop that adds the value of each position, at its price, to an amount of cash. -/
def addValues (price : String → Except Exc ℚ) : List (String × ℚ) → ℚ → Except Exc ℚ
  | [], eq => .ok eq
  | (sym, pos) :: rest, eq =>
    if tiny pos then addValues price rest eq
    else
      match price sym with
      | .error exc => .error exc
      | .ok p => addValues price rest (eq + pos * p)

/-- `current_equity`. -/
def currentEquity (s : PortfolioRiskState) : Except Exc ℚ := addValues s.priceOf s.positions.items s.cash

/-- What the constructor raises on an entry of the price table. -/
def priceEntryFault (entry : String × ℚ) : Option Exc :=
  if entry.1 = "" then some (nonFinite "Price symbol key must be non-empty str, got %" [.str entry.1])
  else if entry.2 ≤ 0 then
    some (nonFinite "Price for % must be strictly positive finite scalar, got %" [.str entry.1, .num entry.2])
  else none

/-- `PortfolioRiskState.__post_init__`: the checks, and the session baselines that were not given. -/
def create (s : PortfolioRiskState) : Except Exc PortfolioRiskState :=
  if "" ∈ s.positions.keys then .error (nonFinite "Position symbol key must be non-empty str, got %" [.str ""])
  else if "" ∈ s.pendingLeaves.keys then
    .error (nonFinite "Pending leaves symbol key must be non-empty str, got %" [.str ""])
  else
    match s.currentPrices.items.findSome? priceEntryFault, s.currentEquity with
    | some exc, _ => .error exc
    | none, .error exc => .error exc
    | none, .ok eq =>
      if s.initialEquity ≤ 0 ∧ eq ≤ 0 then .error (nonFinite "Initial equity must be positive, computed %" [.num eq])
      else
        let initial := if s.initialEquity ≤ 0 then eq else s.initialEquity
        .ok { s with
          initialEquity := initial
          peakEquity := max (if s.peakEquity ≤ 0 then initial else s.peakEquity) eq }

/-- Raise the peak to an equity above it. -/
def raisePeak (s : PortfolioRiskState) (eq : ℚ) : PortfolioRiskState :=
  if s.peakEquity < eq then { s with peakEquity := eq } else s

/-- `intraday_drawdown`: the drawdown, with the peak it may have raised. -/
def intradayDrawdown (s : PortfolioRiskState) : Except Exc (ℚ × PortfolioRiskState) :=
  match s.currentEquity with
  | .error exc => .error exc
  | .ok eq =>
    let s := s.raisePeak eq
    if s.peakEquity ≤ 0 then .ok (if eq ≤ 0 then 1 else 0, s)
    else .ok (max 0 ((s.peakEquity - eq) / s.peakEquity), s)

/-- The margin the working orders of a symbol lock: purchases in full, sales beyond the long position. -/
def lockedUnits (pos leaves : ℚ) : ℚ :=
  if 0 < leaves then leaves else if leaves < 0 then max 0 (|leaves| - max 0 pos) else 0

/-- The loop of `free_margin` over the working orders. -/
def addLocked (s : PortfolioRiskState) : List (String × ℚ) → ℚ → Except Exc ℚ
  | [], locked => .ok locked
  | (sym, leaves) :: rest, locked =>
    if tiny leaves then s.addLocked rest locked
    else
      match s.priceOf sym with
      | .error exc => .error exc
      | .ok p => s.addLocked rest (locked + lockedUnits (s.positions.getD sym 0) leaves * p)

/-- `free_margin`. -/
def freeMargin (s : PortfolioRiskState) : Except Exc ℚ :=
  match s.addLocked s.pendingLeaves.items 0 with
  | .error exc => .error exc
  | .ok locked => .ok (s.cash - locked)

/-- The exposure of a position with its working orders: of opposite signs they net, of one sign they add. -/
def nettedExposure (pos leaves : ℚ) : ℚ :=
  if (0 < pos ∧ leaves < 0) ∨ (pos < 0 ∧ 0 < leaves) then max |pos| |pos + leaves| else |pos| + |leaves|

/-- The symbols with a position or with working orders. The source iterates over a set: its order decides only which of several
missing prices an exception names. -/
def symbols (s : PortfolioRiskState) : List String := (s.positions.keys ++ s.pendingLeaves.keys).dedup

/-- The loop of `gross_leverage` and of `net_leverage`: they differ in the units a position with its working orders counts for. -/
def addExposures (s : PortfolioRiskState) (units : ℚ → ℚ → ℚ) : List String → ℚ → Except Exc ℚ
  | [], total => .ok total
  | sym :: rest, total =>
    let pos := s.positions.getD sym 0
    let leaves := s.pendingLeaves.getD sym 0
    if tiny pos ∧ tiny leaves then s.addExposures units rest total
    else
      match s.priceOf sym with
      | .error exc => .error exc
      | .ok p => s.addExposures units rest (total + units pos leaves * p)

/-- The measured notional of the portfolio over its equity; infinite when the equity is not positive. -/
def leverage (s : PortfolioRiskState) (units : ℚ → ℚ → ℚ) (measure : ℚ → ℚ) : Except Exc (WithTop ℚ) :=
  match s.currentEquity with
  | .error exc => .error exc
  | .ok eq =>
    if eq ≤ 0 then .ok ⊤
    else
      match s.addExposures units s.symbols 0 with
      | .error exc => .error exc
      | .ok total => .ok ((measure total / eq : ℚ) : WithTop ℚ)

/-- `gross_leverage`. -/
def grossLeverage (s : PortfolioRiskState) : Except Exc (WithTop ℚ) := s.leverage nettedExposure id

/-- `net_leverage`. -/
def netLeverage (s : PortfolioRiskState) : Except Exc (WithTop ℚ) := s.leverage (· + ·) abs

/-- `update_price`. -/
def updatePrice (s : PortfolioRiskState) (sym : String) (price : ℚ) : Except Exc Unit × PortfolioRiskState :=
  if sym = "" then (.error (nonFinite "Symbol must be non-empty str, got %" [.str sym]), s)
  else
    match positiveFault price ("price[" ++ sym ++ "]") with
    | some exc => (.error exc, s)
    | none =>
      let s := { s with currentPrices := s.currentPrices.set sym price }
      match s.currentEquity with
      | .error exc => (.error exc, s)
      | .ok eq => (.ok (), s.raisePeak eq)

/-- Set the leaves of a symbol, or drop the entry when nothing is left. -/
def putLeaves (leaves : Dict String ℚ) (sym : String) (x : ℚ) : Dict String ℚ :=
  if tiny x then leaves.erase sym else leaves.set sym x

/-- The leaves after a fill. A purchase touches only positive leaves; a sale works leaves of either sign towards zero. -/
def reconcileLeaves (leaves : Dict String ℚ) (sym : String) (qty : ℚ) (side : OrderSide) : Dict String ℚ :=
  match leaves.get? sym, side with
  | none, _ => leaves
  | some l, .buy => if 0 < l then putLeaves leaves sym (max 0 (l - qty)) else leaves
  | some l, .sell =>
    putLeaves leaves sym (if l < 0 then min 0 (l + qty) else if 0 < l then max 0 (l - qty) else l)

/-- A position below the tolerance is booked as zero. -/
def cleaned (pos : ℚ) : ℚ := if |pos| < 1 / 10 ^ 12 then 0 else pos

/-- What `update_fill` writes before it values the portfolio again. -/
def book (s : PortfolioRiskState) (sym : String) (qty price : ℚ) (side : OrderSide) : PortfolioRiskState :=
  { s with
    cash := s.cash - side.signed (qty * price)
    positions := s.positions.set sym (cleaned (s.positions.getD sym 0 + side.signed qty))
    pendingLeaves := reconcileLeaves s.pendingLeaves sym qty side
    currentPrices := s.currentPrices.set sym price }

/-- `update_fill`. -/
def updateFill (s : PortfolioRiskState) (sym : String) (qty price : ℚ) (side : OrderSide) :
    Except Exc Unit × PortfolioRiskState :=
  if sym = "" then (.error (nonFinite "Symbol must be non-empty str, got %" [.str sym]), s)
  else
    match positiveFault qty "filled_qty", positiveFault price "fill_price" with
    | some exc, _ => (.error exc, s)
    | none, some exc => (.error exc, s)
    | none, none =>
      let s := s.book sym qty price side
      match s.currentEquity with
      | .error exc => (.error exc, s)
      | .ok eq => (.ok (), s.raisePeak eq)

end PortfolioRiskState

/-! ## The firewall -/

namespace PreTradeRiskFirewall

open PortfolioRiskState

/-- The first check of `validate_order`: the numbers of the order and the reference price given. -/
def inputFault (o : Order) (currentPrice : Option ℚ) : Option Exc :=
  if o.quantity ≤ 0 then some (nonFinite "Order quantity must be finite scalar > 0.0, got %" [.num o.quantity])
  else if ∃ p ∈ o.price, p ≤ 0 then
    some (nonFinite "Order price must be finite scalar > 0.0, got %" [.num (o.price.getD 0)])
  else if ∃ p ∈ currentPrice, p ≤ 0 then
    some (nonFinite "current_price must be finite scalar > 0.0, got %" [.num (currentPrice.getD 0)])
  else none

/-- The reference price: the one given, the order's own, or the last valuation of the symbol. -/
def refPrice (s : PortfolioRiskState) (o : Order) (currentPrice : Option ℚ) : Option ℚ :=
  (currentPrice.orElse fun _ => o.price).orElse fun _ => s.currentPrices.get? o.symbol

/-- The units an order adds to a position beyond what it closes, less what working orders on its side already close. -/
def openingUnits (s : PortfolioRiskState) (o : Order) : ℚ :=
  let pos := s.positions.getD o.symbol 0
  let leaves := s.pendingLeaves.getD o.symbol 0
  match o.side with
  | .buy => max 0 (o.quantity - max 0 (-pos - max 0 leaves))
  | .sell => max 0 (o.quantity - max 0 (pos - |min 0 leaves|))

/-- The exposure of a position with its leaves: against each other when an order or the leaves reduce the position, else added. -/
def exposure (pos leaves delta : ℚ) : ℚ :=
  if (0 < pos ∧ (delta < 0 ∨ leaves < 0)) ∨ (pos < 0 ∧ (0 < delta ∨ 0 < leaves)) then max |pos| |pos + leaves|
  else |pos| + |leaves|

/-- The symbols of the positions, of the leaves and of the order. The source iterates over a set: its order decides only which of
several missing prices an exception names. -/
def allSymbols (s : PortfolioRiskState) (sym : String) : List String :=
  (s.positions.keys ++ s.pendingLeaves.keys ++ [sym]).dedup

/-- The valuation price of the projection: the reference price for the order's own symbol. -/
def projectedPrice (s : PortfolioRiskState) (sym : String) (ref : ℚ) (sym' : String) : Except Exc ℚ :=
  if sym' = sym then .ok ref else s.priceOf sym'

/-- The loop that adds up the projected gross and net notionals. -/
def addNotionals (s : PortfolioRiskState) (sym : String) (ref delta : ℚ) : List String → ℚ × ℚ → Except Exc (ℚ × ℚ)
  | [], acc => .ok acc
  | sym' :: rest, (gross, net) =>
    let pos := s.positions.getD sym' 0
    let leaves := s.pendingLeaves.getD sym' 0
    if sym' = sym then
      addNotionals s sym ref delta rest
        (gross + exposure pos (leaves + delta) delta * ref, net + (pos + (leaves + delta)) * ref)
    else if tiny pos ∧ tiny leaves then addNotionals s sym ref delta rest (gross, net)
    else
      match s.priceOf sym' with
      | .error exc => .error exc
      | .ok p => addNotionals s sym ref delta rest (gross + exposure pos leaves 0 * p, net + (pos + leaves) * p)

/-- The margin check: an order that opens nothing passes it whatever the free margin is. -/
def marginFault (limits : RiskLimits) (s : PortfolioRiskState) (o : Order) (ref : ℚ) : Option Exc :=
  let required := openingUnits s o * ref
  if 0 < required then
    match s.freeMargin with
    | .error exc => some exc
    | .ok free =>
      if free - required < limits.minFreeMargin then
        some ⟨.insufficientMarginRisk, "Projected free margin % breaches minimum buffer %",
          [.num (free - required), .num limits.minFreeMargin]⟩
      else none
  else none

/-- The gross and the net leverage that `validate_order` projects. -/
def projectedLeverage (s : PortfolioRiskState) (o : Order) (ref : ℚ) : Except Exc (ℚ × ℚ) :=
  match addValues (projectedPrice s o.symbol ref) s.positions.items s.cash with
  | .error exc => .error exc
  | .ok equity =>
    match addNotionals s o.symbol ref o.signedQuantity (allSymbols s o.symbol) (0, 0) with
    | .error exc => .error exc
    | .ok (gross, net) => .ok (gross / equity, |net| / equity)

/-- The leverage and concentration checks on the projected portfolio. -/
def leverageFault (limits : RiskLimits) (s : PortfolioRiskState) (o : Order) (ref : ℚ) : Option Exc :=
  match addValues (projectedPrice s o.symbol ref) s.positions.items s.cash with
  | .error exc => some exc
  | .ok equity =>
    if equity ≤ 0 then
      some ⟨.leverageLimitExceeded, "Current or projected portfolio equity (%) is non-positive; order rejected", [.num equity]⟩
    else
      match addNotionals s o.symbol ref o.signedQuantity (allSymbols s o.symbol) (0, 0) with
      | .error exc => some exc
      | .ok (gross, net) =>
        if limits.maxGrossLeverage < gross / equity then
          some ⟨.leverageLimitExceeded, "Projected gross leverage % exceeds limit %",
            [.num (gross / equity), .num limits.maxGrossLeverage]⟩
        else if limits.maxNetLeverage < |net| / equity then
          some ⟨.leverageLimitExceeded, "Projected net leverage % exceeds limit %",
            [.num (|net| / equity), .num limits.maxNetLeverage]⟩
        else
          let asset := exposure (s.positions.getD o.symbol 0) (s.pendingLeaves.getD o.symbol 0 + o.signedQuantity)
            o.signedQuantity * ref
          if limits.maxConcentrationNavPct < asset / equity then
            some ⟨.concentrationLimitExceeded, "Projected single-asset concentration for % (%) exceeds limit %",
              [.str o.symbol, .num (asset / equity), .num limits.maxConcentrationNavPct]⟩
          else none

/-- The checks of `validate_order` after the drawdown is known. -/
def limitFault (limits : RiskLimits) (s : PortfolioRiskState) (o : Order) (currentPrice : Option ℚ) (drawdown : ℚ) :
    Option Exc :=
  if limits.maxIntradayDrawdownPct ≤ drawdown then
    some ⟨.drawdownLimitExceeded, "Intraday drawdown % breaches tripwire limit %",
      [.num drawdown, .num limits.maxIntradayDrawdownPct]⟩
  else if limits.maxOrderQty < o.quantity then
    some ⟨.fatFingerQuantity, "Order quantity % exceeds max_order_qty %", [.num o.quantity, .num limits.maxOrderQty]⟩
  else
    match (refPrice s o currentPrice).filter (fun p => 0 < p) with
    | none => some (nonFinite "Cannot determine valid reference price for order on %" [.str o.symbol])
    | some ref =>
      if limits.maxOrderNotional < o.quantity * ref then
        some ⟨.fatFingerNotional, "Order notional % exceeds max_order_notional %",
          [.num (o.quantity * ref), .num limits.maxOrderNotional]⟩
      else
        match marginFault limits s o ref with
        | some exc => some exc
        | none => leverageFault limits s o ref

/-- `validate_order`. -/
def validateOrder (limits : RiskLimits) (s : PortfolioRiskState) (o : Order) (currentPrice : Option ℚ) :
    Except Exc Unit × PortfolioRiskState :=
  match inputFault o currentPrice with
  | some exc => (.error exc, s)
  | none =>
    match s.intradayDrawdown with
    | .error exc => (.error exc, s)
    | .ok (drawdown, s) =>
      match limitFault limits s o currentPrice drawdown with
      | some exc => (.error exc, s)
      | none => (.ok (), s)

end PreTradeRiskFirewall

end Quant
