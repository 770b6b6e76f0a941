import Quant.Execution.Venues
import Quant.Services.ExecutionService

/-!
# Parent orders and their tasks

`ExecutionService` of `services/execution_service.py`: the schedules of a request, its submission, its cancellation, and the task
that works off its slices. A task stands at one of its awaits and goes on from there to the next one, whatever other tasks and
calls did in between; the children it dispatched are kept in order.
-/

namespace Quant

open Pylib

/-! ## Requests -/

inductive Algorithm where
  | poissonTwap
  | volumeAdaptiveVwap
  | arrivalPrice
  | directMarket
  deriving DecidableEq, Repr

/-- `algo_params`, as far as the schedulers read them. -/
structure AlgoParams where
  timingJitterPct : Option ℚ := none
  volumeJitterPct : Option ℚ := none
  rngSeed : Option ℤ := none
  historicalVolumeProfile : Option (List ℚ) := none
  realtimeVolumeProfile : Option (List ℚ) := none
  blendingWeight : Option ℚ := none
  maxParticipationRate : Option ℚ := none
  volatility : Option ℚ := none
  urgencyParameter : Option ℚ := none
  impactCoefficient : Option ℚ := none

/-- A request that was validated. -/
structure ParentOrderCreateRequest where
  symbol : String
  side : OrderSide
  orderType : OrderType := .limit
  quantity : ℚ
  price : Option ℚ := none
  algorithm : Algorithm := .poissonTwap
  horizonSeconds : ℚ := 60
  numSlices : ℤ := 5
  algoParams : AlgoParams := {}
  quantity_pos : 0 < quantity
  price_pos : ∀ p ∈ price, 0 < p
  horizonSeconds_mem : 0 < horizonSeconds ∧ horizonSeconds ≤ 86400
  numSlices_mem : 1 ≤ numSlices ∧ numSlices ≤ 100

/-! ## Schedules -/

/-- What the schedulers take from outside: the generators of the random module, and the functions of the closed form. -/
structure ScheduleMath where
  random : Option ℤ → PoissonTWAPScheduler.Draws
  impact : ImpactMath

/-- `POISSON_TWAP`. -/
def twapSlices (M : ScheduleMath) (r : ParentOrderCreateRequest) (start : ℤ) : Except Exc (List ScheduledSlice) :=
  let numSlices := max 1 r.numSlices
  (PoissonTWAPFields.create
    { totalQuantity := r.quantity
      numSlices := numSlices
      meanIntervalSec := max (1 / 10) (r.horizonSeconds / numSlices)
      jitterRatio := r.algoParams.volumeJitterPct.getD (15 / 100)
      timeJitterRatio := r.algoParams.timingJitterPct.getD (20 / 100)
      seed := r.algoParams.rngSeed }).bind fun twap => twap.generateSchedule M.random start

/-- `hist_vol`: an empty profile is none. -/
def histVol (r : ParentOrderCreateRequest) : List ℚ :=
  (r.algoParams.historicalVolumeProfile.filter (· ≠ [])).getD (List.replicate (max 1 r.numSlices).toNat 1000)

/-- `VOLUME_ADAPTIVE_VWAP`; without expected volumes the estimates are not read. -/
def vwapSlices (r : ParentOrderCreateRequest) (start : ℤ) : Except Exc (List ScheduledSlice) :=
  (VolumeAdaptiveVWAPFields.create
    { totalQuantity := r.quantity
      historicalVolumeCurve := histVol r
      maxParticipationRate := r.algoParams.maxParticipationRate.getD (15 / 100)
      smoothingWeight := r.algoParams.blendingWeight.getD (70 / 100)
      intervalSec := max (1 / 10) (r.horizonSeconds / (histVol r).length) }).bind fun vwap =>
  vwap.generateSchedule start none r.algoParams.realtimeVolumeProfile

/-- `ARRIVAL_PRICE`. -/
def arrivalSlices (M : ScheduleMath) (r : ParentOrderCreateRequest) (start : ℤ) : Except Exc (List ScheduledSlice) :=
  (NonlinearArrivalPriceFields.create
    { totalQuantity := r.quantity
      horizonSeconds := r.horizonSeconds
      volatility := r.algoParams.volatility.getD (2 / 100)
      riskAversion := r.algoParams.urgencyParameter.getD 1
      impactCoefficient := r.algoParams.impactCoefficient.getD (1 / 10)
      numIntervals := max 1 r.numSlices }).bind fun ac => ac.generateSchedule M.impact start

/-- `DIRECT_MARKET`. -/
def directSlices (r : ParentOrderCreateRequest) (start : ℤ) : Except Exc (List ScheduledSlice) :=
  (ScheduledSliceFields.create ⟨0, r.quantity, start, r.price⟩).bind fun slice => .ok [slice]

/-- `_generate_slices`. -/
def generateSlices (M : ScheduleMath) (r : ParentOrderCreateRequest) (start : ℤ) : Except Exc (List ScheduledSlice) :=
  match r.algorithm with
  | .poissonTwap => twapSlices M r start
  | .volumeAdaptiveVwap => vwapSlices r start
  | .arrivalPrice => arrivalSlices M r start
  | .directMarket => directSlices r start

/-! ## Tasks -/

/-- Where a task awaits: it has not run yet or has come back to the head of its loop, it sleeps or connects before a slice, or its
child is being routed. -/
inductive SliceAwait where
  | atTop
  | sleeping (s : ScheduledSlice)
  | connecting (child : Order)
  | routing (child : Order)
  | done (result : Except Exc Unit)

/-- A task of `_execute_slices_async`: its arguments, how many slices its loop has taken, and where it awaits. -/
structure ParentTask where
  slices : List ScheduledSlice
  orderType : OrderType
  limitPrice : Option ℚ
  taken : ℕ := 0
  await : SliceAwait := .atTop

/-- The service, as far as its orders go. The children that were dispatched are kept with their parents. -/
structure ExecutionDesk where
  maxSliceDelaySec : Option ℚ := none
  killSwitchActive : Bool := false
  orders : Dict String ParentOrder := ∅
  cancelledOrders : List String := []
  tasks : Dict String ParentTask := ∅
  dispatched : List (String × Order) := []

/-- A call that submits an order, with the identifier it makes, the clock, and the price the orchestrator or the gateway has for
the symbol. -/
structure SubmitCall where
  request : ParentOrderCreateRequest
  quote : Option ConsolidatedQuote := none
  orderId : String
  t0Ns : ℤ
  prevailingPx : Option ℚ := none
  running : Bool := true
  orderId_strip : strip orderId = orderId

/-- What a task goes on with. -/
inductive TaskEvent where
  | run (nowNs horizonNs : ℤ) (connected : Bool)
  | slept (result : Except Exc Unit) (horizonNs : ℤ) (connected : Bool)
  | connected (result : Except Exc Unit)
  | routed (m : SliceMeets)

namespace ExecutionDesk

variable (M : ScheduleMath) (w : ExecutionDesk)

/-- `arrival_price`. -/
def arrivalPrice (c : SubmitCall) : ℚ :=
  match c.quote, c.request.price with
  | some quote, _ => quote.midpoint
  | none, some price => price
  | none, none => (c.prevailingPx.filter (0 < ·)).getD 100

/-- The schedule and the parent order of a call. -/
def plan (c : SubmitCall) : Except Exc (List ScheduledSlice × ParentOrder) :=
  (generateSlices M c.request c.t0Ns).bind fun slices =>
  (ParentOrderFields.create
    { parentId := c.orderId
      symbol := c.request.symbol
      side := c.request.side
      totalQuantity := c.request.quantity
      arrivalPrice := arrivalPrice c
      decisionPrice := some (arrivalPrice c)
      maxDurationSeconds := c.request.horizonSeconds
      startTimeNs := c.t0Ns }).bind fun parent =>
  .ok (slices, parent)

/-- The order is kept, and its task is created where a loop runs. -/
def accept (c : SubmitCall) (slices : List ScheduledSlice) (parent : ParentOrder) : ExecutionDesk :=
  { w with
    orders := w.orders.set c.orderId parent
    tasks := if c.running then w.tasks.set c.orderId ⟨slices, c.request.orderType, c.request.price, 0, .atTop⟩ else w.tasks }

/-- `submit_parent_order_sync`, which does not ask the kill switch; its loop runs in the task of its caller. -/
def submitParentOrderSync (c : SubmitCall) : Except Exc ParentOrder × ExecutionDesk :=
  match plan M c with
  | .error exc => (.error exc, w)
  | .ok (slices, parent) => (.ok parent, w.accept { c with running := true } slices parent)

/-- `submit_parent_order`. -/
def submitParentOrder (c : SubmitCall) : Except Exc ParentOrder × ExecutionDesk :=
  if w.killSwitchActive then
    (.error (invalidSORInput "Cannot submit parent order: Emergency Kill Switch is ACTIVE (ERR-RSK-008)" []), w)
  else
    match plan M c with
    | .error exc => (.error exc, w)
    | .ok (slices, parent) => (.ok parent, w.accept c slices parent)

/-- `cancel_order`. -/
def cancelOrder (orderId : String) : Bool × ExecutionDesk :=
  match w.orders.get? orderId with
  | none => (false, w)
  | some order => if order.isCompleted then (false, w) else (true, { w with cancelledOrders := orderId :: w.cancelledOrders })

/-- The two flags that end a loop. -/
def stopped (p : ParentOrder) : Bool := w.cancelledOrders.contains p.parentId || w.killSwitchActive

/-- The loop from the end of its sleep to its next await. -/
def wake (p : ParentOrder) (t : ParentTask) (s : ScheduledSlice) (horizonNs : ℤ) (connected : Bool) : SliceAwait :=
  if 0 < p.maxDurationSeconds ∧ p.maxDurationSeconds < (horizonNs - p.startTimeNs : ℤ) / 1000000000 then .done (.ok ())
  else if w.stopped p then .done (.ok ())
  else
    match p.childOrder t.orderType t.limitPrice s with
    | .error exc => .done (.error exc)
    | .ok child => if connected then .routing child else .connecting child

/-- The loop from its head to its next await. -/
def head (p : ParentOrder) (t : ParentTask) (nowNs horizonNs : ℤ) (connected : Bool) : ParentTask :=
  match t.slices[t.taken]? with
  | none => { t with await := .done (.ok ()) }
  | some s =>
    if w.stopped p ∨ p.isCompleted then { t with await := .done (.ok ()) }
    else if 0 < sliceDelay w.maxSliceDelaySec nowNs s then { t with taken := t.taken + 1, await := .sleeping s }
    else { t with taken := t.taken + 1, await := w.wake p t s horizonNs connected }

/-- A task goes on; it dispatches a child where it comes to its routing. -/
def goOn (id : String) (t : ParentTask) : ExecutionDesk :=
  { w with
    tasks := w.tasks.set id t
    dispatched := match t.await with
      | .routing child => w.dispatched ++ [(id, child)]
      | _ => w.dispatched }

/-- The loop after a child: what the dispatch raised ends the slice, unless it is a cancellation. -/
def afterRoute (result : Except Exc Unit) : SliceAwait :=
  match result with
  | .error exc => if exc.isException then .atTop else .done (.error exc)
  | .ok () => .atTop

/-- One task goes on from its await with an event it waits for. -/
def resume (id : String) (p : ParentOrder) (t : ParentTask) (e : TaskEvent) : ExecutionDesk :=
  match t.await, e with
  | .atTop, .run nowNs horizonNs connected => w.goOn id (w.head p t nowNs horizonNs connected)
  | .sleeping _, .slept (.error exc) _ _ => w.goOn id { t with await := .done (.error exc) }
  | .sleeping s, .slept (.ok ()) horizonNs connected => w.goOn id { t with await := w.wake p t s horizonNs connected }
  | .connecting _, .connected (.error exc) => w.goOn id { t with await := .done (.error exc) }
  | .connecting child, .connected (.ok ()) => w.goOn id { t with await := .routing child }
  | .routing _, .routed m =>
    { w with
      orders := w.orders.set id (dispatchSlice p m).2
      tasks := w.tasks.set id { t with await := afterRoute (dispatchSlice p m).1 } }
  | _, _ => w

inductive Op where
  | submit (c : SubmitCall)
  | submitSync (c : SubmitCall)
  | cancel (orderId : String)
  | setKillSwitch (active : Bool)
  | task (orderId : String) (e : TaskEvent)

/-- What an operation leaves, whether it returns or raises. -/
def step : Op → ExecutionDesk
  | .submit c => (w.submitParentOrder M c).2
  | .submitSync c => (w.submitParentOrderSync M c).2
  | .cancel orderId => (w.cancelOrder orderId).2
  | .setKillSwitch active => { w with killSwitchActive := active }
  | .task orderId e =>
    match w.orders.get? orderId, w.tasks.get? orderId with
    | some p, some t => w.resume orderId p t e
    | _, _ => w

/-- `list_orders`. -/
def listOrders (symbol : Option String) (isClosed : Option Bool) (limit offset : ℤ) : List ParentOrder :=
  let boundedLimit := (max 1 (min 500 limit)).toNat
  let boundedOffset := (max 0 offset).toNat
  ((w.orders.values.reverse.filter fun order => symbol.all (· = order.symbol) ∧ isClosed.all (· = order.isCompleted)).drop
    boundedOffset).take boundedLimit

end ExecutionDesk

end Quant
