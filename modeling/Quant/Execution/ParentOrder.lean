import Mathlib.Algebra.Order.Field.Basic
import Mathlib.Data.Rat.Floor
import Quant.Execution.Venues
import Quant.Pylib.Text

/-!
# Parent orders

`ChildFillRecord`, `ImplementationShortfallReport` and `ParentOrder` of `execution/parent_order.py`, with exact numbers.
-/

namespace Quant

open Pylib

/-- `MASS_CONSERVATION_TOLERANCE`. -/
def massConservationTolerance : ℚ := 1 / 10 ^ 7

theorem massConservationTolerance_pos : 0 < massConservationTolerance := by decide +kernel

/-- The exception of a breached mass or sum. -/
def massConservation (text : String) (args : List ExcArg) : Exc := ⟨.massConservation, text, args⟩

/-! ## Child fills -/

/-- The fields of a child fill, with the defaults of its constructor. -/
structure ChildFillFields where
  childId : String
  quantity : ℚ
  price : ℚ
  fee : ℚ := 0
  timestampNs : ℤ := 0
  spreadSlippage : ℚ := 0
  deriving DecidableEq

/-- A child fill its constructor accepted. -/
structure ChildFillRecord extends ChildFillFields where
  childId_nonblank : strip childId ≠ ""
  quantity_pos : 0 < quantity
  price_pos : 0 < price
  fee_nonneg : 0 ≤ fee
  timestampNs_nonneg : 0 ≤ timestampNs
  deriving DecidableEq

/-- `ChildFillRecord.__post_init__`. -/
def ChildFillFields.create (f : ChildFillFields) : Except Exc ChildFillRecord :=
  if h1 : strip f.childId = "" then
    .error (invalidSORInput "ChildFillRecord child_id must be non-empty string, got %" [.str f.childId])
  else if h2 : f.quantity ≤ 0 then
    .error (invalidSORInput "ChildFillRecord quantity must be finite positive float, got %" [.num f.quantity])
  else if h3 : f.price ≤ 0 then
    .error (invalidSORInput "ChildFillRecord price must be finite positive float, got %" [.num f.price])
  else if h4 : f.fee < 0 then
    .error (invalidSORInput "ChildFillRecord fee must be finite non-negative float, got %" [.num f.fee])
  else if h5 : f.timestampNs < 0 then
    .error (invalidSORInput "ChildFillRecord timestamp_ns must be non-negative int, got %" [.num f.timestampNs])
  else .ok
    { f with
      childId_nonblank := h1
      quantity_pos := not_le.1 h2
      price_pos := not_le.1 h3
      fee_nonneg := not_lt.1 h4
      timestampNs_nonneg := not_lt.1 h5 }

/-! ## The shortfall report -/

/-- The fields of a report. -/
structure ShortfallFields where
  delayCost : ℚ
  priceImpact : ℚ
  spreadSlippage : ℚ
  feesPaid : ℚ
  opportunityCost : ℚ
  totalShortfall : ℚ
  totalShortfallBps : ℚ
  delayCostBps : ℚ
  priceImpactBps : ℚ
  opportunityCostBps : ℚ
  feesBps : ℚ
  filledQuantity : ℚ
  unfilledQuantity : ℚ
  averagePrice : ℚ
  arrivalPrice : ℚ
  decisionPrice : ℚ
  terminalPrice : ℚ
  deriving DecidableEq

/-- A report its constructor accepted. -/
structure ImplementationShortfallReport extends ShortfallFields where
  quantities_nonneg : 0 ≤ filledQuantity ∧ 0 ≤ unfilledQuantity
  prices_pos : 0 < arrivalPrice ∧ 0 < decisionPrice ∧ 0 < terminalPrice
  averagePrice_pos : massConservationTolerance < filledQuantity → 0 < averagePrice
  additive : |totalShortfall - (delayCost + priceImpact + feesPaid + opportunityCost)| ≤ massConservationTolerance
  deriving DecidableEq

/-- `ImplementationShortfallReport.__post_init__`. -/
def ShortfallFields.create (r : ShortfallFields) : Except Exc ImplementationShortfallReport :=
  if h1 : ¬ (0 ≤ r.filledQuantity ∧ 0 ≤ r.unfilledQuantity) then
    .error (invalidSORInput "Quantities must be non-negative, got filled=%, unfilled=%"
      [.num r.filledQuantity, .num r.unfilledQuantity])
  else if h2 : ¬ (0 < r.arrivalPrice ∧ 0 < r.decisionPrice ∧ 0 < r.terminalPrice) then
    .error (invalidSORInput "Benchmark prices must be strictly positive, got arrival=%, decision=%, terminal=%"
      [.num r.arrivalPrice, .num r.decisionPrice, .num r.terminalPrice])
  else if h3 : ¬ (massConservationTolerance < r.filledQuantity → 0 < r.averagePrice) then
    .error (invalidSORInput "Average execution price must be strictly positive when fills exist, got %" [.num r.averagePrice])
  else if h4 : massConservationTolerance < |r.totalShortfall -
    (r.delayCost + r.priceImpact + r.feesPaid + r.opportunityCost)| then
    .error (massConservation
      "Perold additive identity breached (INV-SOR-005): total_shortfall=% does not match sum of components=%"
      [.num r.totalShortfall, .num (r.delayCost + r.priceImpact + r.feesPaid + r.opportunityCost)])
  else .ok
    { r with
      quantities_nonneg := not_not.1 h1
      prices_pos := not_not.1 h2
      averagePrice_pos := not_not.1 h3
      additive := not_lt.1 h4 }

/-! ## The parent order -/

/-- The arguments of the constructor; a decision price that is left out is the arrival price. -/
structure ParentOrderFields where
  parentId : String
  symbol : String
  side : OrderSide
  totalQuantity : ℚ
  arrivalPrice : ℚ
  decisionPrice : Option ℚ := none
  maxDurationSeconds : ℚ := 300
  startTimeNs : ℤ := 0
  deriving DecidableEq

/-- The target of a parent order, which never changes. -/
structure ParentTarget where
  parentId : String
  symbol : String
  side : OrderSide
  totalQuantity : ℚ
  arrivalPrice : ℚ
  decisionPrice : ℚ
  maxDurationSeconds : ℚ
  startTimeNs : ℤ
  totalQuantity_pos : 0 < totalQuantity
  arrivalPrice_pos : 0 < arrivalPrice
  decisionPrice_pos : 0 < decisionPrice
  maxDurationSeconds_pos : 0 < maxDurationSeconds
  startTimeNs_nonneg : 0 ≤ startTimeNs
  deriving DecidableEq

/-- A parent order: its target and what was recorded for it. -/
structure ParentOrder extends ParentTarget where
  childFills : List ChildFillRecord
  filledQuantity : ℚ
  cumNotional : ℚ
  totalFees : ℚ
  cumSpreadSlippage : ℚ
  deriving DecidableEq

/-- A parent order without fills. -/
def ParentTarget.fresh (t : ParentTarget) : ParentOrder := { t with
  childFills := []
  filledQuantity := 0
  cumNotional := 0
  totalFees := 0
  cumSpreadSlippage := 0 }

/-- `ParentOrder.__init__`. -/
def ParentOrderFields.create (f : ParentOrderFields) : Except Exc ParentOrder :=
  let decisionPrice := f.decisionPrice.getD f.arrivalPrice
  if strip f.parentId = "" then
    .error (invalidSORInput "ParentOrder parent_id must be non-empty string, got %" [.str f.parentId])
  else if strip f.symbol = "" then
    .error (invalidSORInput "ParentOrder symbol must be non-empty string, got %" [.str f.symbol])
  else if h1 : f.totalQuantity ≤ 0 then
    .error (invalidSORInput "ParentOrder total_quantity must be finite positive float, got %" [.num f.totalQuantity])
  else if h2 : f.arrivalPrice ≤ 0 then
    .error (invalidSORInput "ParentOrder arrival_price must be finite positive float, got %" [.num f.arrivalPrice])
  else if h3 : decisionPrice ≤ 0 then
    .error (invalidSORInput "ParentOrder decision_price must be finite positive float, got %" [.num decisionPrice])
  else if h4 : f.maxDurationSeconds ≤ 0 then
    .error (invalidSORInput "ParentOrder max_duration_seconds must be finite positive float, got %" [.num f.maxDurationSeconds])
  else if h5 : f.startTimeNs < 0 then
    .error (invalidSORInput "ParentOrder start_time_ns must be non-negative int, got %" [.num f.startTimeNs])
  else .ok (ParentTarget.fresh
    { parentId := strip f.parentId
      symbol := strip f.symbol
      side := f.side
      totalQuantity := f.totalQuantity
      arrivalPrice := f.arrivalPrice
      decisionPrice := decisionPrice
      maxDurationSeconds := f.maxDurationSeconds
      startTimeNs := f.startTimeNs
      totalQuantity_pos := not_le.1 h1
      arrivalPrice_pos := not_le.1 h2
      decisionPrice_pos := not_le.1 h3
      maxDurationSeconds_pos := not_le.1 h4
      startTimeNs_nonneg := not_lt.1 h5 })

/-- A parent order that was made is fresh, with the values it was given. -/
theorem ParentOrderFields.create_fresh {f : ParentOrderFields} {p : ParentOrder} (h : f.create = .ok p) :
    ∃ t : ParentTarget, p = t.fresh ∧ t.symbol = strip f.symbol ∧ t.side = f.side ∧ t.totalQuantity = f.totalQuantity ∧
      t.arrivalPrice = f.arrivalPrice := by
  unfold ParentOrderFields.create at h
  iterate 7 obtain ⟨_, h⟩ := of_check_ok h
  exact ⟨_, (Except.ok.inj h).symm, rfl, rfl, rfl, rfl⟩

namespace ParentOrder

/-- `leaves_quantity`. -/
def leavesQuantity (self : ParentOrder) : ℚ :=
  let rem := self.totalQuantity - self.filledQuantity
  if rem ≤ massConservationTolerance then 0 else rem

/-- `is_completed`. -/
def isCompleted (self : ParentOrder) : Bool := self.leavesQuantity ≤ massConservationTolerance

/-- `average_execution_price`. -/
def averageExecutionPrice (self : ParentOrder) : ℚ :=
  if self.filledQuantity ≤ massConservationTolerance then 0 else self.cumNotional / self.filledQuantity

/-- Step 4 of `record_child_fill`. -/
def withFill (self : ParentOrder) (fill : ChildFillRecord) : ParentOrder :=
  { self with
    childFills := self.childFills ++ [fill]
    filledQuantity := self.filledQuantity + fill.quantity
    cumNotional := self.cumNotional + fill.quantity * fill.price
    totalFees := self.totalFees + fill.fee
    cumSpreadSlippage := self.cumSpreadSlippage + fill.spreadSlippage }

/-- `record_child_fill`: the result, and the order it leaves. -/
def recordChildFill (self : ParentOrder) (f : ChildFillFields) : Except Exc Unit × ParentOrder :=
  match f.create with
  | .error exc => (.error exc, self)
  | .ok fill =>
    if self.totalQuantity + massConservationTolerance < self.filledQuantity + fill.quantity then
      (.error (massConservation
        "Parent order % mass conservation breached: cumulative fills (%) exceed total target quantity (%) by more than % (INV-SOR-001)"
        [.str self.parentId, .num (self.filledQuantity + fill.quantity), .num self.totalQuantity,
          .num massConservationTolerance]), self)
    else if 0 < fill.timestampNs ∧ fill.timestampNs < self.startTimeNs then
      (.error (invalidSORInput "Child fill timestamp %ns precedes parent order start time %ns"
        [.num fill.timestampNs, .num self.startTimeNs]), self)
    else (.ok (), self.withFill fill)

/-- Step 1 of `compute_implementation_shortfall`: without a terminal price the realized average stands for it, or the arrival
price. -/
def resolvedTerminal (self : ParentOrder) (terminalPrice : Option ℚ) : ℚ :=
  terminalPrice.getD (if massConservationTolerance < self.filledQuantity then self.averageExecutionPrice else self.arrivalPrice)

/-- Steps 2 to 8 of `compute_implementation_shortfall`: the report as it is given to its constructor. -/
def shortfallFields (self : ParentOrder) (terminal : ℚ) : ShortfallFields :=
  let sideSign : ℚ := if self.side = .buy then 1 else -1
  let qFilled := self.filledQuantity
  let qUnfilled := self.leavesQuantity
  let delayCost := if massConservationTolerance < qFilled then sideSign * qFilled *
    (self.decisionPrice - self.arrivalPrice) else 0
  let priceImpact :=
    if massConservationTolerance < qFilled then sideSign * qFilled * (self.averageExecutionPrice - self.decisionPrice) else 0
  let feesPaid := self.totalFees
  let opportunityCost :=
    if massConservationTolerance < qUnfilled then sideSign * qUnfilled * (terminal - self.arrivalPrice) else 0
  let totalShortfall := delayCost + priceImpact + feesPaid + opportunityCost
  let bpsScale := 10000 / (self.totalQuantity * self.arrivalPrice)
  { delayCost := delayCost
    priceImpact := priceImpact
    spreadSlippage := self.cumSpreadSlippage
    feesPaid := feesPaid
    opportunityCost := opportunityCost
    totalShortfall := totalShortfall
    totalShortfallBps := totalShortfall * bpsScale
    delayCostBps := delayCost * bpsScale
    priceImpactBps := priceImpact * bpsScale
    opportunityCostBps := opportunityCost * bpsScale
    feesBps := feesPaid * bpsScale
    filledQuantity := qFilled
    unfilledQuantity := qUnfilled
    averagePrice := self.averageExecutionPrice
    arrivalPrice := self.arrivalPrice
    decisionPrice := self.decisionPrice
    terminalPrice := terminal }

/-- `compute_implementation_shortfall`. -/
def computeImplementationShortfall (self : ParentOrder) (terminalPrice : Option ℚ) : Except Exc ImplementationShortfallReport :=
  match terminalPrice with
  | some terminal =>
    if terminal ≤ 0 then
      .error (invalidSORInput
        "ParentOrder compute_implementation_shortfall terminal_price must be finite positive float, got %" [.num terminal])
    else (self.shortfallFields terminal).create
  | none => (self.shortfallFields (self.resolvedTerminal none)).create

end ParentOrder
end Quant
