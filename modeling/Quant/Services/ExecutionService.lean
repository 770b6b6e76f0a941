import Quant.Execution.Algorithms

/-!
# The slice loop of parent orders

`ExecutionService._execute_slices_async` of `services/execution_service.py`. What the loop meets at a slice (flags, clocks, the
outcomes of its awaits, and what the gateway does with the child) is a parameter of the slice.
-/

namespace Quant

open Pylib

/-- What the loop meets at a slice. The gateway executes `executedNow` of the child while it is routed and `executedLater`
afterwards. -/
structure SliceMeets where
  cancelledAtTop : Bool := false
  killedAtTop : Bool := false
  nowNs : ℤ := 0
  slept : Except Exc Unit := .ok ()
  horizonNs : ℤ := 0
  cancelled : Bool := false
  killed : Bool := false
  connected : Except Exc Unit := .ok ()
  routed : Except Exc (List ExecutionReport) := .ok []
  clockNs : ℕ → ℕ := fun _ => 0
  logFails : ℕ → Bool := fun _ => false
  executedNow : ℚ := 0
  executedLater : ℚ := 0

/-- The quantity the loop takes a report to have filled. -/
def fillQty (report : ExecutionReport) : ℚ :=
  if 0 < report.lastQuantity then report.lastQuantity
  else if report.execType = .filled then report.cumQuantity
  else 0

/-- The price it takes it to have filled at. -/
def fillPx (arrivalPrice : ℚ) (report : ExecutionReport) : ℚ :=
  if 0 < report.lastPrice then report.lastPrice
  else if report.averagePrice = 0 then arrivalPrice
  else report.averagePrice

/-- `report.timestamp_ns or time.time_ns()`. -/
def stampNs (clockNs : ℕ) (report : ExecutionReport) : ℕ := if report.timestampNs = 0 then clockNs else report.timestampNs

/-- The fill that is recorded for a report. -/
def childFill (arrivalPrice : ℚ) (clockNs : ℕ) (report : ExecutionReport) : ChildFillFields where
  childId := report.clOrdId
  quantity := fillQty report
  price := fillPx arrivalPrice report
  fee := report.fee
  timestampNs := stampNs clockNs report

/-- The loop over the reports of a child, from report number `k` on. -/
def recordReports (m : SliceMeets) : ℕ → ParentOrder → List ExecutionReport → Except Exc Unit × ParentOrder
  | _, p, [] => (.ok (), p)
  | k, p, report :: reports =>
    let recorded := if 0 < fillQty report then p.recordChildFill (childFill p.arrivalPrice (m.clockNs k) report) else (.ok (), p)
    match recorded with
    | (.error exc, p') => (.error exc, p')
    | (.ok (), p') => if m.logFails k then (.error ⟨.queueFull, "", []⟩, p') else recordReports m (k + 1) p' reports

/-- The seconds the loop sleeps before a slice. -/
def sliceDelay (maxSliceDelaySec : Option ℚ) (nowNs : ℤ) (s : ScheduledSlice) : ℚ :=
  if nowNs < s.scheduledTimeNs then
    let rawDelay : ℚ := (s.scheduledTimeNs - nowNs : ℤ) / 1000000000
    maxSliceDelaySec.elim rawDelay (min · rawDelay)
  else 0

/-- The child order of a slice. -/
def ParentOrder.childOrder (p : ParentOrder) (orderType : OrderType) (limitPrice : Option ℚ) (s : ScheduledSlice) :
    Except Exc Order :=
  OrderFields.create
    { clOrdId := p.parentId ++ "-slice-" ++ toString s.sliceIndex
      symbol := p.symbol
      side := p.side
      orderType := orderType
      quantity := s.quantity
      price := s.priceLimit.or limitPrice }

/-- Up to the dispatch of a slice: `.ok true` routes the child, `.ok false` ends the loop, and an exception ends the coroutine. -/
def prepareSlice (p : ParentOrder) (maxSliceDelaySec : Option ℚ) (orderType : OrderType) (limitPrice : Option ℚ)
    (s : ScheduledSlice)
    (m : SliceMeets) : Except Exc Bool := do
  if m.cancelledAtTop ∨ m.killedAtTop ∨ p.isCompleted then return false
  if 0 < sliceDelay maxSliceDelaySec m.nowNs s then m.slept
  if 0 < p.maxDurationSeconds ∧ p.maxDurationSeconds < (m.horizonNs - p.startTimeNs : ℤ) / 1000000000 then return false
  if m.cancelled ∨ m.killed then return false
  let _ ← p.childOrder orderType limitPrice s
  m.connected
  return true

/-- The dispatch of a child: what is raised, and the parent it leaves. -/
def dispatchSlice (p : ParentOrder) (m : SliceMeets) : Except Exc Unit × ParentOrder :=
  match m.routed with
  | .error exc => (.error exc, p)
  | .ok reports => recordReports m 0 p reports

/-- A finished loop: what it raised, the parent, and the slices whose child was routed, each with the parent before it. -/
structure SliceLoop where
  result : Except Exc Unit
  parent : ParentOrder
  routed : List (ParentOrder × SliceMeets)

/-- `_execute_slices_async`; an exception of a dispatch ends the slice, unless it is a cancellation. -/
def executeSlices (maxSliceDelaySec : Option ℚ) (orderType : OrderType) (limitPrice : Option ℚ) :
    ParentOrder → List (ScheduledSlice × SliceMeets) → SliceLoop
  | p, [] => ⟨.ok (), p, []⟩
  | p, (s, m) :: rest =>
    match prepareSlice p maxSliceDelaySec orderType limitPrice s m with
    | .error exc => ⟨.error exc, p, []⟩
    | .ok false => ⟨.ok (), p, []⟩
    | .ok true =>
      match dispatchSlice p m with
      | (.error exc, p') =>
        if exc.isException then
          let next := executeSlices maxSliceDelaySec orderType limitPrice p' rest
          { next with routed := (p, m) :: next.routed }
        else ⟨.error exc, p', [(p, m)]⟩
      | (.ok (), p') =>
        let next := executeSlices maxSliceDelaySec orderType limitPrice p' rest
        { next with routed := (p, m) :: next.routed }

end Quant
