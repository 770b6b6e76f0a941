import Quant.Execution.Models
import Quant.Pylib.Dict
import Quant.Pylib.Text

/-!
# The emergency kill switch

`EmergencyKillSwitch` of `execution/kill_switch.py`. `trigger_panic` is a coroutine with many awaits, some of them over several
child tasks at once; here it is the machine of these awaits. A phase holds what is awaited and the local variables that are still
needed, an answer is one event a phase waits for, and `resume` runs the code from an answer to the next await. The hooks, the
listeners and the gateways are outside: their answers are part of the event.
-/

namespace Quant

open Pylib

/-- A gateway object, by identity. -/
abbrev GatewayRef := ℕ

inductive KillSwitchState where
  | armedStandby
  | panicTriggered
  | disarmed
  deriving DecidableEq, Repr

inductive PanicTriggerReason where
  | manualOperator
  | drawdownBreach
  | gatewayDisconnect
  | fatFingerBreach
  | rogueFills
  deriving DecidableEq, Repr

def PanicTriggerReason.value : PanicTriggerReason → String
  | .manualOperator => "MANUAL_OPERATOR"
  | .drawdownBreach => "DRAWDOWN_BREACH"
  | .gatewayDisconnect => "GATEWAY_DISCONNECT"
  | .fatFingerBreach => "FAT_FINGER_BREACH"
  | .rogueFills => "ROGUE_FILLS"

inductive PanicMode where
  | cancelOnly
  | cancelAndFlatten
  deriving DecidableEq, Repr

/-! ## Events and calls -/

/-- The record of a panic; its constructor checks the time and the source. -/
structure KillSwitchEvent where
  timestampNs : ℕ
  triggerReason : PanicTriggerReason
  triggerSource : String
  panicMode : PanicMode
  cancelledOrdersCount : ℕ
  positionsSnapshot : Dict String ℚ
  details : String
  timestampNs_pos : 0 < timestampNs
  triggerSource_ne : strip triggerSource ≠ ""
  deriving DecidableEq

/-- The arguments of `trigger_panic`, and the clock its flattening reads. -/
structure PanicFields where
  reason : PanicTriggerReason
  source : String
  panicMode : PanicMode := .cancelOnly
  details : String := ""
  timestampNs : ℕ
  nowNs : ℕ := 0
  deriving DecidableEq

/-- A call of `trigger_panic` with valid arguments. -/
structure PanicCall extends PanicFields where
  source_ne : strip source ≠ ""
  timestampNs_pos : 0 < timestampNs
  deriving DecidableEq

theorem Literal.desk_ne : strip "desk" ≠ "" := by decide

/-- The checks of `trigger_panic` on its arguments. -/
def PanicFields.create (c : PanicFields) : Except Exc PanicCall :=
  if h1 : strip c.source = "" then .error ⟨.valueError, "source must be non-empty string, got %", [.str c.source]⟩
  else if h2 : c.timestampNs = 0 then
    .error ⟨.nonFiniteRiskInput, "current_timestamp_ns must be positive integer, got %", [.num c.timestampNs]⟩
  else .ok { c with source_ne := h1, timestampNs_pos := Nat.pos_of_ne_zero h2 }

/-- The event a call records. -/
def PanicCall.event (c : PanicCall) (cancelled : ℕ) (snapshot : Dict String ℚ) : KillSwitchEvent :=
  { timestampNs := c.timestampNs
    triggerReason := c.reason
    triggerSource := strip c.source
    panicMode := c.panicMode
    cancelledOrdersCount := cancelled
    positionsSnapshot := snapshot
    details := strip c.details
    timestampNs_pos := c.timestampNs_pos
    triggerSource_ne := by
      rw [strip_strip]
      exact c.source_ne }

/-! ## The switch -/

/-- The switch. The registry counts the entries that were added and removed, which is what an iterator over it may notice, and the
lock names the task that holds it. -/
structure EmergencyKillSwitch where
  adminToken : String
  state : KillSwitchState := .armedStandby
  gateways : Dict String GatewayRef := ∅
  registryVersion : ℕ := 0
  schedulerHooks : ℕ := 0
  panicListeners : ℕ := 0
  lastEvent : Option KillSwitchEvent := none
  lock : Option ℕ := none

namespace EmergencyKillSwitch

/-- `EmergencyKillSwitch.__init__`. -/
def create (adminToken : String) (initialState : KillSwitchState) (gatewayTimeoutSeconds : ℚ) :
    Except Exc EmergencyKillSwitch :=
  if strip adminToken = "" then
    .error ⟨.nonFiniteRiskInput, "admin_token must be non-empty string, got %", [.str adminToken]⟩
  else if gatewayTimeoutSeconds ≤ 0 then
    .error ⟨.nonFiniteRiskInput, "gateway_timeout_seconds must be finite float > 0.0, got %", [.num gatewayTimeoutSeconds]⟩
  else .ok { adminToken := strip adminToken, state := initialState }

/-- `_verify_admin_token`. -/
def verifyAdminToken (ks : EmergencyKillSwitch) (token : String) : Bool := token ≠ "" ∧ token = ks.adminToken

/-- The exception of a wrong token. -/
def invalidToken (operation : String) : Exc :=
  ⟨.invalidAdminToken, "Invalid admin token provided for emergency kill switch " ++ operation ++ ".", []⟩

/-- `reset`. -/
def reset (ks : EmergencyKillSwitch) (token : String) : Except Exc EmergencyKillSwitch :=
  if ks.verifyAdminToken token then .ok { ks with state := .armedStandby } else .error (invalidToken "reset")

/-- `disarm`. -/
def disarm (ks : EmergencyKillSwitch) (token : String) : Except Exc EmergencyKillSwitch :=
  if ks.verifyAdminToken token then .ok { ks with state := .disarmed } else .error (invalidToken "disarm")

/-- `arm`. -/
def arm (ks : EmergencyKillSwitch) (token : String) : Except Exc EmergencyKillSwitch :=
  if ks.verifyAdminToken token then .ok { ks with state := .armedStandby } else .error (invalidToken "arm")

/-- `register_gateway`: under the identifier given, or under the one derived from the gateway. -/
def registerGateway (ks : EmergencyKillSwitch) (gw : GatewayRef) (gatewayId : Option String) (derived : String) :
    Except Exc EmergencyKillSwitch :=
  match gatewayId.filter (fun id => strip id = "") with
  | some id => .error ⟨.valueError, "gateway_id must be a non-empty string, got %", [.str id]⟩
  | none =>
    let gid := (gatewayId.map strip).getD derived
    .ok { ks with
      gateways := ks.gateways.set gid gw
      registryVersion := if ks.gateways.contains gid then ks.registryVersion else ks.registryVersion + 1 }

/-- `unregister_gateway`. -/
def unregisterGateway (ks : EmergencyKillSwitch) (gatewayId : String) : Except Exc EmergencyKillSwitch :=
  if strip gatewayId = "" then .error ⟨.valueError, "gateway_id must be a non-empty string, got %", [.str gatewayId]⟩
  else if ¬ ks.gateways.contains (strip gatewayId) then
    .error ⟨.keyError, "Gateway '%' is not registered.", [.str (strip gatewayId)]⟩
  else .ok { ks with gateways := ks.gateways.erase (strip gatewayId), registryVersion := ks.registryVersion + 1 }

/-- `validate_submission`: what it raises. -/
def submissionFault (ks : EmergencyKillSwitch) : Option Exc :=
  if ks.state = .panicTriggered then
    some ⟨.killSwitchActive, "Order submission blocked: Emergency Kill Switch is ACTIVE (reason=%, source=%)",
      [.str ((ks.lastEvent.map (fun e => e.triggerReason.value)).getD "UNKNOWN"),
        .str ((ks.lastEvent.map (fun e => e.triggerSource)).getD "UNKNOWN")]⟩
  else none

end EmergencyKillSwitch

/-! ## The awaits of a panic -/

/-- What a fetching child task of the sweep has come to: first the open orders, then the positions. An exception becomes the
result; a cancellation of the gateway's own making ends the child task. -/
inductive FetchStage where
  | orders
  | positions (orders : Except Exc (List String))
  | done (orders : Except Exc (List String)) (positions : Except Exc (Dict String ℚ))
  | broken (exc : Exc)

/-- A child task that fetches from one registered gateway. -/
structure FetchTask where
  gatewayId : String
  gateway : GatewayRef
  stage : FetchStage := .orders

/-- A child task that cancels one order. -/
structure CancelTask where
  gateway : GatewayRef
  clOrdId : String
  result : Option (Except Exc Unit) := none

/-- A child task that submits one flattening order. -/
structure FlattenTask where
  gateway : GatewayRef
  order : Order
  result : Option (Except Exc Unit) := none

/-- The iteration over the registry that flattens: the length and the version it began with, where it is, and the gateway whose
positions are awaited. -/
structure Scan where
  size : ℕ
  version : ℕ
  position : ℕ
  gatewayId : String
  gateway : GatewayRef
  tasks : List FlattenTask

/-- The awaits of `trigger_panic`. -/
inductive PanicPhase where
  | waiting
  | hook (i : ℕ)
  | fetching (tasks : List FetchTask)
  | cancelling (tasks : List CancelTask) (snapshot : Dict String ℚ)
  | scanning (scan : Scan) (count : ℕ) (snapshot : Dict String ℚ)
  | flattening (tasks : List FlattenTask) (count : ℕ) (snapshot : Dict String ℚ)
  | notifying (i : ℕ) (event : KillSwitchEvent)
  | done (result : Except Exc KillSwitchEvent)

/-- What an iterator does over entries that were added and removed in equal number: it fails, or goes on anywhere. -/
inductive ScanPick where
  | fail
  | goTo (position : ℕ)
  deriving DecidableEq

/-- An event a panic waits for. -/
inductive PanicAnswer where
  | acquired
  | hook (r : Except Exc Unit)
  | orders (j : ℕ) (r : Except Exc (List String))
  | positions (j : ℕ) (r : Except Exc (Dict String ℚ))
  | fetched
  | cancelOrder (j : ℕ) (r : Except Exc Unit)
  | cancelled
  | flatPositions (r : Except Exc (Dict String ℚ)) (pick : ScanPick)
  | flatOrder (j : ℕ) (r : Except Exc Unit)
  | flattened
  | listener (r : Except Exc Unit)
  | abort

/-- Whether a child task has ended. -/
def FetchTask.isDone (t : FetchTask) : Bool :=
  match t.stage with
  | .orders => false
  | .positions _ => false
  | .done _ _ => true
  | .broken _ => true

/-- The open orders are in. -/
def FetchTask.takeOrders (t : FetchTask) (r : Except Exc (List String)) : FetchTask :=
  match r with
  | .ok ids => { t with stage := .positions (.ok ids) }
  | .error exc => if exc.isException then { t with stage := .positions (.error exc) } else { t with stage := .broken exc }

/-- The positions are in, after the open orders. -/
def FetchTask.takePositions (t : FetchTask) (orders : Except Exc (List String)) (r : Except Exc (Dict String ℚ)) :
    FetchTask :=
  match r with
  | .ok ps => { t with stage := .done orders (.ok ps) }
  | .error exc => if exc.isException then { t with stage := .done orders (.error exc) } else { t with stage := .broken exc }

/-- A result `asyncio.gather` gives back that is not an `Exception` counts as a success. -/
def succeeded (r : Option (Except Exc Unit)) : Bool :=
  match r with
  | some (.error exc) => ¬ exc.isException
  | _ => true

/-- Add the positions of one gateway to a snapshot. -/
def addPositions (snapshot ps : Dict String ℚ) : Dict String ℚ :=
  ps.items.foldl (fun acc p => acc.set p.1 (acc.getD p.1 0 + p.2)) snapshot

/-- The snapshot of the positions that were fetched. -/
def snapshotOf (tasks : List FetchTask) : Dict String ℚ :=
  tasks.foldl (fun acc t =>
    match t.stage with
    | .done _ (.ok ps) => addPositions acc ps
    | _ => acc) ∅

/-- The cancelling child tasks: every order that was fetched, on the gateway its identifier is registered for by now. -/
def cancelTasks (gateways : Dict String GatewayRef) (tasks : List FetchTask) : List CancelTask :=
  tasks.flatMap fun t =>
    match t.stage, gateways.get? t.gatewayId with
    | .done (.ok ids) _, some gw => ids.map (fun id => { gateway := gw, clOrdId := id })
    | _, _ => []

/-- The order that offsets a position. -/
def flatOrder (c : PanicCall) (gatewayId sym : String) (qty : ℚ) (counter : ℕ) : OrderFields :=
  { clOrdId := "panic-flat-" ++ gatewayId ++ "-" ++ sym ++ "-" ++ toString counter ++ "-" ++ toString c.nowNs
    symbol := sym
    side := if 0 < qty then .sell else .buy
    orderType := .market
    quantity := |qty|
    createdAtNs := c.nowNs
    updatedAtNs := c.nowNs }

/-- The loop over the positions of one gateway: an offsetting order for each that is not negligible. -/
def flatOrders (c : PanicCall) (gatewayId : String) (gw : GatewayRef) :
    List (String × ℚ) → List FlattenTask → Except Exc (List FlattenTask)
  | [], tasks => .ok tasks
  | (sym, qty) :: rest, tasks =>
    if |qty| ≤ 1 / 10 ^ 7 then flatOrders c gatewayId gw rest tasks
    else
      match (flatOrder c gatewayId sym qty (tasks.length + 1)).create with
      | .error exc => .error exc
      | .ok o => flatOrders c gatewayId gw rest (tasks ++ [{ gateway := gw, order := o }])

/-- The exception of an iterator over a registry that changed. -/
def changedDuringIteration (what : String) : Exc := ⟨.runtimeError, "dictionary " ++ what ++ " during iteration", []⟩

/-- The exception of a panic that finds the switch disarmed. -/
def disarmedFault : Exc := ⟨.killSwitchDisarmed, "Cannot trigger panic: Emergency kill switch is currently DISARMED.", []⟩

namespace EmergencyKillSwitch

variable (ks : EmergencyKillSwitch) (c : PanicCall)

/-! ## The stretches of a panic, the last one first -/

/-- Leave the lock with a result. -/
def leave (result : Except Exc KillSwitchEvent) : PanicPhase × EmergencyKillSwitch :=
  (.done result, { ks with lock := none })

/-- The head of the loop over the listeners. -/
def notifyFrom (i : ℕ) (event : KillSwitchEvent) : PanicPhase × EmergencyKillSwitch :=
  if i < ks.panicListeners then (.notifying i event, ks) else ks.leave (.ok event)

/-- Record the event and notify. -/
def finish (count : ℕ) (snapshot : Dict String ℚ) : PanicPhase × EmergencyKillSwitch :=
  { ks with lastEvent := some (c.event count snapshot) }.notifyFrom 0 (c.event count snapshot)

/-- Submit the flattening orders. -/
def flattenFrom (tasks : List FlattenTask) (count : ℕ) (snapshot : Dict String ℚ) : PanicPhase × EmergencyKillSwitch :=
  if tasks = [] then ks.finish c count snapshot else (.flattening tasks count snapshot, ks)

/-- The head of the loop over the registry. -/
def scanFrom (size version position : ℕ) (tasks : List FlattenTask) (count : ℕ) (snapshot : Dict String ℚ) :
    PanicPhase × EmergencyKillSwitch :=
  match ks.gateways.items[position]? with
  | none => ks.flattenFrom c tasks count snapshot
  | some (gid, gw) => (.scanning ⟨size, version, position, gid, gw, tasks⟩ count snapshot, ks)

/-- The advance of the iterator after one gateway. -/
def scanNext (scan : Scan) (tasks : List FlattenTask) (pick : ScanPick) (count : ℕ) (snapshot : Dict String ℚ) :
    PanicPhase × EmergencyKillSwitch :=
  if ks.gateways.items.length ≠ scan.size then ks.leave (.error (changedDuringIteration "changed size"))
  else if ks.registryVersion = scan.version then
    ks.scanFrom c scan.size scan.version (scan.position + 1) tasks count snapshot
  else
    match pick with
    | .fail => ks.leave (.error (changedDuringIteration "keys changed"))
    | .goTo position => ks.scanFrom c scan.size scan.version position tasks count snapshot

/-- After the cancellations: flatten if the mode says so. -/
def afterCancel (count : ℕ) (snapshot : Dict String ℚ) : PanicPhase × EmergencyKillSwitch :=
  match c.panicMode with
  | .cancelOnly => ks.finish c count snapshot
  | .cancelAndFlatten => ks.scanFrom c ks.gateways.items.length ks.registryVersion 0 [] count snapshot

/-- Cancel what was fetched. -/
def cancelFrom (tasks : List FetchTask) : PanicPhase × EmergencyKillSwitch :=
  if cancelTasks ks.gateways tasks = [] then ks.afterCancel c 0 (snapshotOf tasks)
  else (.cancelling (cancelTasks ks.gateways tasks) (snapshotOf tasks), ks)

/-- Fetch from every registered gateway. -/
def fetchFrom : PanicPhase × EmergencyKillSwitch :=
  if ks.gateways.items = [] then ks.afterCancel c 0 ∅
  else (.fetching (ks.gateways.items.map (fun p => { gatewayId := p.1, gateway := p.2 })), ks)

/-- The head of the loop over the hooks. -/
def hooksFrom (i : ℕ) : PanicPhase × EmergencyKillSwitch := if i < ks.schedulerHooks then (.hook i, ks) else ks.fetchFrom c

/-- `trigger_panic` from the lock on: the state decides, and an armed switch is triggered at once. -/
def enter (t : ℕ) : PanicPhase × EmergencyKillSwitch :=
  match ks.state with
  | .disarmed => (.done (.error disarmedFault), ks)
  | .panicTriggered =>
    match ks.lastEvent with
    | none => (.done (.error ⟨.assertionError, "", []⟩), ks)
    | some event => (.done (.ok event), ks)
  | .armedStandby => { ks with state := .panicTriggered, lock := some t }.hooksFrom c 0

/-- After the positions of one gateway of the flattening. -/
def afterFlatPositions (scan : Scan) (r : Except Exc (Dict String ℚ)) (pick : ScanPick) (count : ℕ)
    (snapshot : Dict String ℚ) : PanicPhase × EmergencyKillSwitch :=
  match r with
  | .error exc => if exc.isException then ks.scanNext c scan scan.tasks pick count snapshot else ks.leave (.error exc)
  | .ok ps =>
    match flatOrders c scan.gatewayId scan.gateway ps.items scan.tasks with
    | .error exc => ks.leave (.error exc)
    | .ok tasks => ks.scanNext c scan tasks pick count snapshot

/-- The exception of a task that is cancelled. -/
def cancelledError : Exc := ⟨.cancelledError, "", []⟩

/-- `trigger_panic` of a task from an answer to the next await; nothing for an answer it does not wait for. -/
def resumePanic (t : ℕ) : PanicPhase → PanicAnswer → Option (PanicPhase × EmergencyKillSwitch)
  | .waiting, .acquired => if ks.lock = none then some (ks.enter c t) else none
  | .hook i, .hook (.ok ()) => some (ks.hooksFrom c (i + 1))
  | .hook i, .hook (.error exc) => some (if exc.isException then ks.hooksFrom c (i + 1) else ks.leave (.error exc))
  | .fetching tasks, .orders j r =>
    match tasks[j]? with
    | some ⟨gid, gw, .orders⟩ => some (.fetching (tasks.set j (FetchTask.takeOrders ⟨gid, gw, .orders⟩ r)), ks)
    | _ => none
  | .fetching tasks, .positions j r =>
    match tasks[j]? with
    | some ⟨gid, gw, .positions os⟩ =>
      some (.fetching (tasks.set j (FetchTask.takePositions ⟨gid, gw, .positions os⟩ os r)), ks)
    | _ => none
  | .fetching tasks, .fetched => if tasks.all FetchTask.isDone then some (ks.cancelFrom c tasks) else none
  | .cancelling tasks snapshot, .cancelOrder j r =>
    match tasks[j]? with
    | some ⟨gw, id, none⟩ => some (.cancelling (tasks.set j ⟨gw, id, some r⟩) snapshot, ks)
    | _ => none
  | .cancelling tasks snapshot, .cancelled =>
    if tasks.all (fun t => t.result.isSome) then
      some (ks.afterCancel c (tasks.countP (fun t => succeeded t.result)) snapshot)
    else none
  | .scanning scan count snapshot, .flatPositions r pick => some (ks.afterFlatPositions c scan r pick count snapshot)
  | .flattening tasks count snapshot, .flatOrder j r =>
    match tasks[j]? with
    | some ⟨gw, o, none⟩ => some (.flattening (tasks.set j ⟨gw, o, some r⟩) count snapshot, ks)
    | _ => none
  | .flattening tasks count snapshot, .flattened =>
    if tasks.all (fun t => t.result.isSome) then some (ks.finish c count snapshot) else none
  | .notifying i event, .listener (.ok ()) => some (ks.notifyFrom (i + 1) event)
  | .notifying i event, .listener (.error exc) =>
    some (if exc.isException then ks.notifyFrom (i + 1) event else ks.leave (.error exc))
  | .done _, .abort => none
  | .waiting, .abort => some (.done (.error cancelledError), ks)
  | _, .abort => some (ks.leave (.error cancelledError))
  | _, _ => none

end EmergencyKillSwitch

end Quant
