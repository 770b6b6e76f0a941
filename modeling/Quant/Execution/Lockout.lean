import Quant.Execution.PanicTasks
import Quant.Execution.RouteTrace

/-!
# Orders and panics side by side

The calls of `route_order` and of `trigger_panic` on one orchestrator, and the open orders of the gateways. A call of
`submit_order` is one event, the registration of its order at the gateway a later one, and its answer a third.
-/

namespace Quant

open Pylib

/-- An open order, and whether the switch submitted it. -/
structure OpenOrder where
  clOrdId : String
  own : Bool
  deriving DecidableEq

/-- The open orders of each gateway. -/
abbrev OpenOrders := GatewayRef → List OpenOrder

namespace OpenOrders

/-- An order is registered. -/
def add (b : OpenOrders) (gw : GatewayRef) (o : OpenOrder) : OpenOrders := Function.update b gw (b gw ++ [o])

/-- The orders under an identifier leave. -/
def remove (b : OpenOrders) (gw : GatewayRef) (clOrdId : String) : OpenOrders :=
  Function.update b gw ((b gw).filter fun o => o.clOrdId ≠ clOrdId)

/-- What a gateway answers to `get_open_orders`. -/
def ids (b : OpenOrders) (gw : GatewayRef) : List String := (b gw).map OpenOrder.clOrdId

end OpenOrders

/-- The gateway an order is routed to. -/
def RoutePhase.gateway : RoutePhase → Option GatewayRef
  | .direct gw => some gw
  | .slice gw _ _ => some gw
  | .done _ => none

/-- A call of `route_order`: whether the order it submits is registered, and whether a panic has begun since the call passed its
checks. -/
structure RouteTask where
  call : RouteCall
  phase : RoutePhase
  registered : Bool := false
  crossed : Bool := false

/-- The submission whose order is not registered yet. -/
def RouteTask.submitting (task : RouteTask) : Option (GatewayRef × Order) :=
  match task.phase.gateway, task.phase.call task.call.order, task.registered with
  | some gw, some (.submit o), false => some (gw, o)
  | _, _, _ => none

/-- The gateway whose call failed. -/
def PanicPhase.failure : PanicPhase → PanicAnswer → Option GatewayRef
  | .fetching tasks, .orders j (.error _) => (tasks[j]?).map FetchTask.gateway
  | .fetching tasks, .positions j (.error _) => (tasks[j]?).map FetchTask.gateway
  | .cancelling tasks _, .cancelOrder j (.error _) => (tasks[j]?).map CancelTask.gateway
  | .scanning scan _ _, .flatPositions (.error _) _ => some scan.gateway
  | .flattening tasks _ _, .flatOrder j (.error _) => (tasks[j]?).map FlattenTask.gateway
  | _, _ => none

/-- The order a gateway has cancelled. -/
def PanicPhase.cancellation : PanicPhase → PanicAnswer → Option CancelTask
  | .cancelling tasks _, .cancelOrder j (.ok ()) => tasks[j]?
  | _, _ => none

/-- A call that has returned an event. -/
def PanicPhase.returned : PanicPhase → Bool
  | .done (.ok _) => true
  | _ => false

/-- The orchestrator with its switch, the panics and the routed orders in the order they were started, and the gateways: their
open orders, and which of them failed a call of the last panic. A panic that returns locks the gateways until `reset`, `arm` or
`disarm`; what a routed order registers meanwhile is kept. -/
structure LockoutWorld where
  orchestrator : RiskOrchestrator
  panics : List PanicTask := []
  owner : Option ℕ := none
  routes : List RouteTask := []
  orders : OpenOrders := fun _ => []
  failed : GatewayRef → Bool := fun _ => false
  locked : Bool := false
  intruders : List String := []

/-- What may happen next: a call of `route_order`, the registration of an order, an answer to a call, an order that leaves its
gateway, a panic, an answer to one, the registration of an order of the switch, and the operations of an administrator. -/
inductive LockoutOp where
  | route (c : RouteCall) (isConnected : GatewayRef → Bool)
  | register (r : ℕ)
  | answer (r : ℕ) (ans : Except Exc ExecutionReport)
  | leave (gw : GatewayRef) (clOrdId : String)
  | trigger (c : PanicCall)
  | panic (t : ℕ) (a : PanicAnswer)
  | registerFlat (t j : ℕ)
  | reset (token : String)
  | arm (token : String)
  | disarm (token : String)

namespace LockoutWorld

/-- The switch and its panics. -/
def panicWorld (w : LockoutWorld) : PanicWorld where
  switch := w.orchestrator.killSwitch
  tasks := w.panics
  owner := w.owner

/-- The world after a step of the switch. -/
def withPanics (w : LockoutWorld) (p : PanicWorld) : LockoutWorld :=
  { w with orchestrator := { w.orchestrator with killSwitch := p.switch }, panics := p.tasks, owner := p.owner }

/-- An operation of an administrator: one that succeeds ends the lock. -/
def administered (w : LockoutWorld) (r : Except Exc EmergencyKillSwitch) : LockoutWorld :=
  match r with
  | .error _ => w
  | .ok ks =>
    { w with orchestrator := { w.orchestrator with killSwitch := ks }, locked := false, intruders := [] }

/-- The world after an answer to a panic: the orders that were cancelled, the gateways that failed, and a panic that has begun or
returned. -/
def resumed (w : LockoutWorld) (phase phase' : PanicPhase) (a : PanicAnswer) (p : PanicWorld) : LockoutWorld :=
  { w.withPanics p with
    orders := match phase.cancellation a with
      | some task => w.orders.remove task.gateway task.clOrdId
      | none => w.orders
    failed := if w.orchestrator.killSwitch.state ≠ .panicTriggered ∧ p.switch.state = .panicTriggered then fun _ => false
      else fun gw => w.failed gw || phase.failure a = some gw
    routes := if w.orchestrator.killSwitch.state ≠ .panicTriggered ∧ p.switch.state = .panicTriggered then
        w.routes.map fun task => { task with crossed := true }
      else w.routes
    locked := w.locked || phase'.returned }

/-- An order of a route is registered. -/
def registered (w : LockoutWorld) (r : ℕ) (task : RouteTask) (gw : GatewayRef) (o : Order) : LockoutWorld :=
  { w with
    routes := w.routes.set r { task with registered := true }
    orders := w.orders.add gw ⟨o.clOrdId, false⟩
    intruders := if w.locked then w.intruders ++ [o.clOrdId] else w.intruders }

/-- One step; nothing for one that cannot be. -/
def step (w : LockoutWorld) : LockoutOp → Option LockoutWorld
  | .route c isConnected =>
    some { w with
      orchestrator := (w.orchestrator.routeOrder c isConnected).2
      routes := w.routes ++ [{ call := c, phase := (w.orchestrator.routeOrder c isConnected).1 }] }
  | .register r =>
    match w.routes[r]? with
    | none => none
    | some task => task.submitting.map fun p => w.registered r task p.1 p.2
  | .answer r ans =>
    match w.routes[r]? with
    | none => none
    | some task =>
      if task.phase.isDone then none
      else some { w with
        orchestrator := (w.orchestrator.resumeOrder task.call task.phase ans).2
        routes := w.routes.set r
          { task with phase := (w.orchestrator.resumeOrder task.call task.phase ans).1, registered := false } }
  | .leave gw clOrdId => some { w with orders := w.orders.remove gw clOrdId }
  | .trigger c => (w.panicWorld.step (.trigger c)).map w.withPanics
  | .panic t a =>
    match w.panics[t]?, w.panicWorld.step (.answer t a) with
    | some task, some p =>
      match p.tasks[t]? with
      | some task' => some (w.resumed task.phase task'.phase a p)
      | none => none
    | _, _ => none
  | .registerFlat t j =>
    match (w.panics[t]?).map PanicTask.phase with
    | some (.flattening tasks _ _) =>
      (tasks[j]?).map fun task => { w with orders := w.orders.add task.gateway ⟨task.order.clOrdId, true⟩ }
    | _ => none
  | .reset token => some (w.administered (w.orchestrator.killSwitch.reset token))
  | .arm token => some (w.administered (w.orchestrator.killSwitch.arm token))
  | .disarm token => some (w.administered (w.orchestrator.killSwitch.disarm token))

/-- The gateway that a child task of a panic asks. -/
def asked (w : LockoutWorld) (t j : ℕ) : Option GatewayRef :=
  match (w.panics[t]?).map PanicTask.phase with
  | some (.fetching tasks) => (tasks[j]?).map FetchTask.gateway
  | _ => none

/-- A gateway that answers `get_open_orders` lists its open orders. -/
def Lists (w : LockoutWorld) : LockoutOp → Prop
  | .panic t (.orders j (.ok ids)) => ∀ gw ∈ w.asked t j, ids = w.orders.ids gw
  | _ => True

instance (w : LockoutWorld) (op : LockoutOp) : Decidable (w.Lists op) := by
  unfold Lists
  split <;> infer_instance

/-- Every registered gateway that answered all calls of the switch holds orders of the switch only, and no routed order was
registered since. -/
def LockedOut (w : LockoutWorld) : Prop :=
  (∀ id gw, w.orchestrator.killSwitch.gateways.get? id = some gw → w.failed gw = false → ∀ o ∈ w.orders gw, o.own = true) ∧
    w.intruders = []

end LockoutWorld

end Quant
