import Mathlib.Algebra.Order.Ring.Rat
import Mathlib.Algebra.Order.Group.Unbundled.Abs
import Quant.Exceptions
import Quant.Pylib.Ndarray
import Quant.Pylib.Text

/-!
# The portfolio ledger of the simulation

`BarExecutionRecord` and `PortfolioLedger` of `analytics/simulation.py`. The numbers are exact; what the code checks about types,
array shapes and finiteness is checked here on `PyValue` and `PyArray`.
-/

namespace Quant

open Pylib

/-! ## Errors -/

/-- The diagnostic fault codes. -/
inductive SimulationFault where
  | lookaheadViolation
  | nonFiniteInput
  | capitalRuin
  | negativeFriction
  | starvation
  | dimensionMismatch
  deriving DecidableEq, Repr

def SimulationFault.code : SimulationFault → String
  | .lookaheadViolation => "ERR-SIM-001"
  | .nonFiniteInput => "ERR-SIM-002"
  | .capitalRuin => "ERR-SIM-003"
  | .negativeFriction => "ERR-SIM-004"
  | .starvation => "ERR-SIM-005"
  | .dimensionMismatch => "ERR-SIM-006"

inductive SimulationErrorClass where
  | lookaheadViolation
  | degenerate
  | infeasible
  deriving DecidableEq, Repr

/-- A raised `SimulationError`: the class, the code it is raised with, and the message as its template with the values in the
gaps. -/
structure SimulationError where
  cls : SimulationErrorClass
  fault : SimulationFault
  text : String
  args : List ExcArg := []
  deriving DecidableEq

/-- `str(v)` of an argument, as far as the messages need it. -/
def excArg : PyValue → ExcArg
  | .int n => .num n
  | .float x => .num x
  | .nonFinite s => .str s
  | .text s => .str s
  | .other type => .str type

/-! ## The records -/

/-- A bar record as it is given to its constructor, where the ledger builds it from exact numbers. -/
structure BarExecutionRecordFields where
  stepIndex : ℤ
  timestamp : ℤ
  grossPnl : ℚ
  netPnl : ℚ
  frictionCost : ℚ
  portfolioEquity : ℚ
  cashBalance : ℚ
  effectiveLeverage : ℚ
  drawdown : ℚ
  circuitBreakerTier : String
  circuitBreakerHaircut : ℚ
  targetAllocations : List ℚ
  discretizedAllocations : List ℚ
  deriving DecidableEq

/-- A bar record that passed its own checks. -/
structure BarExecutionRecord extends BarExecutionRecordFields where
  stepIndex_nonneg : 0 ≤ stepIndex
  timestamp_nonneg : 0 ≤ timestamp
  frictionCost_nonneg : 0 ≤ frictionCost
  effectiveLeverage_nonneg : 0 ≤ effectiveLeverage
  drawdown_mem : 0 ≤ drawdown ∧ drawdown ≤ 1
  circuitBreakerTier_nonblank : strip circuitBreakerTier ≠ ""
  circuitBreakerHaircut_mem : 0 ≤ circuitBreakerHaircut ∧ circuitBreakerHaircut ≤ 1
  allocations_length : targetAllocations.length = discretizedAllocations.length
  deriving DecidableEq

/-- `BarExecutionRecord.__post_init__`. -/
def BarExecutionRecordFields.create (r : BarExecutionRecordFields) : Except SimulationError BarExecutionRecord :=
  if h1 : r.stepIndex < 0 then
    .error ⟨.degenerate, .nonFiniteInput, "BarExecutionRecord step_index must be non-negative, got %", [.num r.stepIndex]⟩
  else if h2 : r.timestamp < 0 then
    .error ⟨.degenerate, .nonFiniteInput, "BarExecutionRecord timestamp must be non-negative, got %", [.num r.timestamp]⟩
  else if h3 : r.frictionCost < 0 then
    .error ⟨.infeasible, .negativeFriction, "BarExecutionRecord friction_cost must be non-negative (INV-SIM-003), got %",
      [.num r.frictionCost]⟩
  else if h4 : r.effectiveLeverage < 0 then
    .error ⟨.degenerate, .nonFiniteInput, "BarExecutionRecord effective_leverage must be non-negative, got %",
      [.num r.effectiveLeverage]⟩
  else if h5 : ¬ (0 ≤ r.drawdown ∧ r.drawdown ≤ 1) then
    .error ⟨.degenerate, .nonFiniteInput, "BarExecutionRecord drawdown must be in [0.0, 1.0], got %", [.num r.drawdown]⟩
  else if h6 : strip r.circuitBreakerTier = "" then
    .error ⟨.degenerate, .nonFiniteInput, "BarExecutionRecord circuit_breaker_tier must be a non-empty string, got %",
      [.str r.circuitBreakerTier]⟩
  else if h7 : ¬ (0 ≤ r.circuitBreakerHaircut ∧ r.circuitBreakerHaircut ≤ 1) then
    .error ⟨.degenerate, .nonFiniteInput, "BarExecutionRecord circuit_breaker_haircut must be in [0.0, 1.0], got %",
      [.num r.circuitBreakerHaircut]⟩
  else if h8 : r.targetAllocations.length ≠ r.discretizedAllocations.length then
    .error ⟨.degenerate, .dimensionMismatch, "BarExecutionRecord allocation dimension mismatch: target=% vs discretized=%",
      [.num r.targetAllocations.length, .num r.discretizedAllocations.length]⟩
  else .ok
    { r with
      stepIndex_nonneg := not_lt.1 h1
      timestamp_nonneg := not_lt.1 h2
      frictionCost_nonneg := not_lt.1 h3
      effectiveLeverage_nonneg := not_lt.1 h4
      drawdown_mem := not_not.1 h5
      circuitBreakerTier_nonblank := h6
      circuitBreakerHaircut_mem := not_not.1 h7
      allocations_length := not_not.1 h8 }

/-! ## The ledger -/

/-- The ledger; after the first bar it holds positions, which is what `update` asserts at every later one. -/
structure PortfolioLedger where
  initialCapital : ℚ
  equity : ℚ
  cash : ℚ
  positions : Option (List ℚ)
  hwm : ℚ
  drawdown : ℚ
  lastStepIndex : ℤ
  history : List BarExecutionRecord
  netReturns : List ℚ
  equityCurve : List ℚ
  positions_isSome : 0 ≤ lastStepIndex → positions.isSome
  deriving DecidableEq

namespace PortfolioLedger

/-- The ledger of a starting capital. -/
def initial (initialCapital : ℚ) : PortfolioLedger where
  initialCapital := initialCapital
  equity := initialCapital
  cash := initialCapital
  positions := none
  hwm := initialCapital
  drawdown := 0
  lastStepIndex := -1
  history := []
  netReturns := []
  equityCurve := []
  positions_isSome := fun h => absurd h (by decide)

/-- `PortfolioLedger.__init__` once the capital is known to be a finite number. -/
def create (initialCapital : ℚ) : Except SimulationError PortfolioLedger :=
  if initialCapital ≤ 0 then
    .error ⟨.degenerate, .capitalRuin, "PortfolioLedger initial_capital must be strictly positive, got %", [.num initialCapital]⟩
  else .ok (initial initialCapital)

/-- `PortfolioLedger.__init__`. -/
def init (initialCapital : PyValue) : Except SimulationError PortfolioLedger :=
  match initialCapital with
  | .int n => create n
  | .float x => create x
  | .nonFinite s =>
    .error ⟨.degenerate, .nonFiniteInput, "PortfolioLedger initial_capital must be a finite float, got %", [.str s]⟩
  | v => .error ⟨.degenerate, .nonFiniteInput, "PortfolioLedger initial_capital must be numeric, got %", [.str v.typeName]⟩

/-- `current_positions`: no element before the first bar. -/
def currentPositions (self : PortfolioLedger) : List ℚ := self.positions.getD []

end PortfolioLedger

/-- The arguments of `update`. -/
structure UpdateArgs where
  stepIndex : PyValue
  timestamp : PyValue
  returnVector : PyArray
  newPositions : PyArray
  frictionCost : PyValue
  circuitBreakerTier : PyValue
  circuitBreakerHaircut : PyValue
  targetAllocations : PyArray

/-! ### The checks of the arguments -/

/-- A check that raises or establishes `P`. -/
abbrev Check (P : Prop) : Type := Except SimulationError (PLift P)

/-- Step 1: the step index is the next one. -/
def PortfolioLedger.checkStepIndex (self : PortfolioLedger) :
    (v : PyValue) → Check (0 ≤ v.toInt ∧ v.toInt = self.lastStepIndex + 1)
  | .int t =>
    if h1 : t < 0 then .error ⟨.degenerate, .nonFiniteInput, "step_index must be non-negative, got %", [.num t]⟩
    else if h2 : t ≠ self.lastStepIndex + 1 then
      .error ⟨.lookaheadViolation, .lookaheadViolation,
        "Out-of-order execution step index: expected %, got % (INV-SIM-001)", [.num (self.lastStepIndex + 1), .num t]⟩
    else .ok ⟨not_lt.1 h1, not_not.1 h2⟩
  | v => .error ⟨.degenerate, .nonFiniteInput, "step_index must be an integer, got %", [.str v.typeName]⟩

/-- Step 2. -/
def checkTimestamp : (v : PyValue) → Check (0 ≤ v.toInt)
  | .int ts =>
    if h : ts < 0 then .error ⟨.degenerate, .nonFiniteInput, "timestamp must be non-negative, got %", [.num ts]⟩
    else .ok ⟨not_lt.1 h⟩
  | v => .error ⟨.degenerate, .nonFiniteInput, "timestamp must be an integer, got %", [.str v.typeName]⟩

/-- A finite friction cost. -/
def checkCost (x : ℚ) : Check (0 ≤ x) :=
  if h : x < 0 then
    .error ⟨.infeasible, .negativeFriction, "friction_cost must be non-negative (INV-SIM-003), got %", [.num x]⟩
  else .ok ⟨not_lt.1 h⟩

/-- Step 3. -/
def checkFriction : (v : PyValue) → Check (0 ≤ v.toRat)
  | .int n => checkCost n
  | .float x => checkCost x
  | .nonFinite s => .error ⟨.degenerate, .nonFiniteInput, "friction_cost must be a finite float, got %", [.str s]⟩
  | v => .error ⟨.degenerate, .nonFiniteInput, "friction_cost must be numeric, got %", [.str v.typeName]⟩

/-- Step 4, the tier. -/
def checkTier : (v : PyValue) → Check (strip v.toText ≠ "")
  | .text s =>
    if h : strip s = "" then
      .error ⟨.degenerate, .nonFiniteInput, "circuit_breaker_tier must be a non-empty string, got %", [.str s]⟩
    else .ok ⟨h⟩
  | v => .error ⟨.degenerate, .nonFiniteInput, "circuit_breaker_tier must be a non-empty string, got %", [excArg v]⟩

/-- A finite haircut. -/
def checkFraction (x : ℚ) : Check (0 ≤ x ∧ x ≤ 1) :=
  if h : 0 ≤ x ∧ x ≤ 1 then .ok ⟨h⟩
  else .error ⟨.degenerate, .nonFiniteInput, "circuit_breaker_haircut must be in [0.0, 1.0], got %", [.num x]⟩

/-- Step 4, the haircut. -/
def checkHaircut : (v : PyValue) → Check (0 ≤ v.toRat ∧ v.toRat ≤ 1)
  | .int n => checkFraction n
  | .float x => checkFraction x
  | .nonFinite s => .error ⟨.degenerate, .nonFiniteInput, "circuit_breaker_haircut must be in [0.0, 1.0], got %", [.str s]⟩
  | v => .error ⟨.degenerate, .nonFiniteInput, "circuit_breaker_haircut must be numeric, got %", [.str v.typeName]⟩

/-- An array of numbers. -/
def checkNumeric (name : String) : (v : PyArray) → Except SimulationError {a : Ndarray // v = .ndarray a}
  | .other type => .error ⟨.degenerate, .nonFiniteInput, "% must be a numpy ndarray, got %", [.str name, .str type]⟩
  | .ndarray a =>
    if ¬ a.dtype.isNumeric then
      .error ⟨.degenerate, .nonFiniteInput, "% must have numeric dtype, got %", [.str name, .str a.dtype.name]⟩
    else .ok ⟨a, rfl⟩

/-- A condition that is checked. -/
def ensure (c : Prop) [Decidable c] (exc : SimulationError) : Check c := if h : c then .ok ⟨h⟩ else .error exc

/-- Step 5: an array is numeric and has one dimension. -/
def checkVector (name : String) (v : PyArray) : Except SimulationError {a : Ndarray // v = .ndarray a ∧ a.ndim = 1} := do
  let a ← checkNumeric name v
  let h ← ensure (a.1.ndim = 1)
    ⟨.degenerate, .dimensionMismatch, "% must be 1-dimensional, got ndim=%", [.str name, .num a.1.ndim]⟩
  return ⟨a.1, a.2, h.down⟩

/-- Step 6: the vectors have one length, which is that of the positions held. -/
def PortfolioLedger.checkDimensions (self : PortfolioLedger) (returnVector newPositions targetAllocations : Ndarray) :
    Check (newPositions.dim 0 = returnVector.dim 0 ∧ targetAllocations.dim 0 = returnVector.dim 0) :=
  let n := returnVector.dim 0
  if h1 : newPositions.dim 0 ≠ n then
    .error ⟨.degenerate, .dimensionMismatch, "Dimension mismatch between return_vector (%) and new_positions (%)",
      [.num n, .num (newPositions.dim 0)]⟩
  else if h2 : targetAllocations.dim 0 ≠ n then
    .error ⟨.degenerate, .dimensionMismatch, "Dimension mismatch between new_positions (%) and target_allocations (%)",
      [.num n, .num (targetAllocations.dim 0)]⟩
  else
    match self.positions with
    | none => .ok ⟨not_not.1 h1, not_not.1 h2⟩
    | some held =>
      if held.length ≠ n then
        .error ⟨.degenerate, .dimensionMismatch, "Asset universe dimension changed from % to %", [.num held.length, .num n]⟩
      else .ok ⟨not_not.1 h1, not_not.1 h2⟩

/-- Step 7: an array has no NaN and no infinity. -/
def checkFinite (name : String) (a : Ndarray) : Check (a.allFinite = true) :=
  ensure (a.allFinite = true) ⟨.degenerate, .nonFiniteInput, "% contains non-finite values (NaN or Inf)", [.str name]⟩

namespace PortfolioLedger

/-- What the checks of `update` establish about a call. -/
structure Admissible (l : PortfolioLedger) (a : UpdateArgs) : Prop where
  stepIndex_nonneg : 0 ≤ a.stepIndex.toInt
  stepIndex_eq : a.stepIndex.toInt = l.lastStepIndex + 1
  timestamp_nonneg : 0 ≤ a.timestamp.toInt
  frictionCost_nonneg : 0 ≤ a.frictionCost.toRat
  circuitBreakerTier_nonblank : strip a.circuitBreakerTier.toText ≠ ""
  circuitBreakerHaircut_mem : 0 ≤ a.circuitBreakerHaircut.toRat ∧ a.circuitBreakerHaircut.toRat ≤ 1
  allocations_length : a.targetAllocations.values.length = a.newPositions.values.length

/-- Steps 1 to 7 of `update`. -/
def validate (self : PortfolioLedger) (a : UpdateArgs) : Except SimulationError (PLift (self.Admissible a)) := do
  let step ← self.checkStepIndex a.stepIndex
  let timestamp ← checkTimestamp a.timestamp
  let friction ← checkFriction a.frictionCost
  let tier ← checkTier a.circuitBreakerTier
  let haircut ← checkHaircut a.circuitBreakerHaircut
  let returnVector ← checkVector "return_vector" a.returnVector
  let newPositions ← checkVector "new_positions" a.newPositions
  let targetAllocations ← checkVector "target_allocations" a.targetAllocations
  let dims ← self.checkDimensions returnVector newPositions targetAllocations
  let _ ← checkFinite "return_vector" returnVector
  let finitePositions ← checkFinite "new_positions" newPositions
  let finiteTargets ← checkFinite "target_allocations" targetAllocations
  return ⟨{
    stepIndex_nonneg := step.down.1
    stepIndex_eq := step.down.2
    timestamp_nonneg := timestamp.down
    frictionCost_nonneg := friction.down
    circuitBreakerTier_nonblank := tier.down
    circuitBreakerHaircut_mem := haircut.down
    allocations_length := by
      rw [newPositions.2.1, targetAllocations.2.1, PyArray.values, PyArray.values,
        Ndarray.length_values newPositions.2.2 finitePositions.down,
        Ndarray.length_values targetAllocations.2.2 finiteTargets.down, dims.down.1, dims.down.2] }⟩

/-! ### Settlement -/

/-- The profit of a bar and the equity it is added to. -/
structure Settlement where
  grossPnl : ℚ
  netPnl : ℚ
  prevEquity : ℚ

/-- The equity after the bar. -/
def Settlement.equity (s : Settlement) : ℚ := s.prevEquity + s.netPnl

/-- Step 8: the return is earned on the positions held before the bar; before bar 0 there are none. -/
def settlement (self : PortfolioLedger) (a : UpdateArgs) : Settlement :=
  let friction := a.frictionCost.toRat
  if a.stepIndex.toInt = 0 then ⟨0, -friction, self.initialCapital⟩
  else
    let grossPnl := dot self.currentPositions a.returnVector.values
    ⟨grossPnl, grossPnl - friction, self.equity⟩

/-- Steps 11 to 14: the state a bar leaves, but for the record in the history. -/
def posted (self : PortfolioLedger) (a : UpdateArgs) : PortfolioLedger :=
  let s := self.settlement a
  let hwm := max self.hwm s.equity
  { self with
    hwm := hwm
    drawdown := max 0 (min 1 ((hwm - s.equity) / hwm))
    netReturns := self.netReturns ++ [(s.equity - s.prevEquity) / s.prevEquity]
    equityCurve := self.equityCurve ++ [s.equity]
    equity := s.equity
    cash := s.equity - a.newPositions.values.sum
    positions := some a.newPositions.values
    lastStepIndex := a.stepIndex.toInt
    positions_isSome := fun _ => rfl }

/-- Step 15: the record as it is given to its constructor. -/
def recordOf (self : PortfolioLedger) (a : UpdateArgs) : BarExecutionRecordFields :=
  let s := self.settlement a
  { stepIndex := a.stepIndex.toInt
    timestamp := a.timestamp.toInt
    grossPnl := s.grossPnl
    netPnl := s.netPnl
    frictionCost := a.frictionCost.toRat
    portfolioEquity := s.equity
    cashBalance := (self.posted a).cash
    effectiveLeverage := if 0 < s.equity then (a.newPositions.values.map (|·|)).sum / s.equity else 0
    drawdown := (self.posted a).drawdown
    circuitBreakerTier := a.circuitBreakerTier.toText
    circuitBreakerHaircut := a.circuitBreakerHaircut.toRat
    targetAllocations := a.targetAllocations.values
    discretizedAllocations := a.newPositions.values }

/-- Steps 8 to 15 of `update`. The record is built after the state was written. -/
def settle (self : PortfolioLedger) (a : UpdateArgs) : Except SimulationError BarExecutionRecord × PortfolioLedger :=
  let equity := (self.settlement a).equity
  if equity ≤ 0 then
    (.error ⟨.degenerate, .capitalRuin, "Total capital ruin detected at step %: equity=% <= 0.0 (INV-SIM-002)",
      [.num a.stepIndex.toInt, .num equity]⟩, self)
  else
    let posSum := a.newPositions.values.sum
    let cash := equity - posSum
    let discrepancy := |equity - (cash + posSum)|
    if 1 / 10 ^ 5 ≤ discrepancy then
      (.error ⟨.degenerate, .capitalRuin, "Capital conservation identity violated (INV-SIM-002): |% - (% + %)| = % >= 1e-5",
        [.num equity, .num cash, .num posSum, .num discrepancy]⟩, self)
    else
      match (self.recordOf a).create with
      | .error exc => (.error exc, self.posted a)
      | .ok r => (.ok r, { self.posted a with history := self.history ++ [r] })

/-- `update`. -/
def update (self : PortfolioLedger) (a : UpdateArgs) : Except SimulationError BarExecutionRecord × PortfolioLedger :=
  match self.validate a with
  | .error exc => (.error exc, self)
  | .ok _ => self.settle a

end PortfolioLedger
end Quant
