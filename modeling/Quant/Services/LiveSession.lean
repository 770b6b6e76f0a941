import Quant.Execution.Risk

/-!
# Live sessions

The parts of `LiveTradingSession` of `services/live_session.py` that change state: the booking of fills of resting orders in
`step_cycle`, and the lifecycle operations with their steps between two awaits.
-/

namespace Quant

open Pylib

/-- What `step_cycle` does with a report that the gateway matched at the new price of a symbol: the fills counted and the state of
the portfolio. -/
def bookMatchedReport (sym : String) (rep : ExecutionReport) (fillsCount : ℕ) (portState : PortfolioRiskState) :
    ℕ × PortfolioRiskState :=
  if rep.execType = .filled ∨ rep.execType = .partiallyFilled ∨ 0 < rep.lastQuantity then
    let signedQty := if rep.side = .buy then rep.lastQuantity else -rep.lastQuantity
    let currLeaves := portState.pendingLeaves.getD sym 0
    (fillsCount + 1,
      { portState with
        positions := portState.positions.set sym (portState.positions.getD sym 0 + signedQty)
        pendingLeaves := portState.pendingLeaves.set sym
          (if rep.side = .buy then max 0 (currLeaves - rep.lastQuantity) else min 0 (currLeaves + rep.lastQuantity)) })
  else (fillsCount, portState)

/-! ## The lifecycle -/

inductive LiveSessionStatus where
  | initializing
  | running
  | paused
  | stopping
  | stopped
  | panicKilled
  | error
  deriving DecidableEq, Repr

/-- A task of `_run_event_loop`. -/
structure LoopTask where
  alive : Bool
  cancelled : Bool
  deriving DecidableEq

/-- Where a lifecycle operation is suspended: `start` in the connect, `panic_kill` in the panic of the switch, `stop` at the loop
task it cancelled, at the open orders, or in the disconnect. -/
inductive SessionCall where
  | connecting
  | panicking
  | awaitingLoop (task : ℕ)
  | cancellingOrders
  | disconnecting
  | done
  deriving DecidableEq

/-- A `stop` that has not ended. -/
def SessionCall.isStop : SessionCall → Bool
  | .awaitingLoop _ | .cancellingOrders | .disconnecting => true
  | _ => false

/-- A session with the tasks it created, its gateway and kill switch, and its lifecycle operations. -/
structure LiveTradingSession where
  sessionId : String
  status : LiveSessionStatus := .initializing
  isLoopRunning : Bool := false
  loopTask : Option ℕ := none
  tasks : List LoopTask := []
  gatewayConnected : Bool := false
  killSwitchActive : Bool := false
  calls : List SessionCall := []
  deriving DecidableEq

namespace LiveTradingSession

/-- The end of `start`. -/
def launch (l : LiveTradingSession) : LiveTradingSession :=
  { l with
    status := .running
    isLoopRunning := true
    loopTask := some l.tasks.length
    tasks := l.tasks ++ [⟨true, false⟩] }

/-- An operation that is suspended. -/
def suspend (l : LiveTradingSession) (call : SessionCall) : LiveTradingSession := { l with calls := l.calls ++ [call] }

/-- `start`, up to the connect. -/
def start (l : LiveTradingSession) : Except Exc Unit × LiveTradingSession :=
  if l.status = .running ∨ l.isLoopRunning then
    (.error ⟨.liveSessionState, "Session '%' is already running", [.str l.sessionId]⟩, l)
  else if l.gatewayConnected then (.ok (), l.launch)
  else (.ok (), l.suspend .connecting)

/-- `pause`. -/
def pause (l : LiveTradingSession) : LiveTradingSession := if l.status = .running then { l with status := .paused } else l

/-- `resume`. -/
def resume (l : LiveTradingSession) : Except Exc Unit × LiveTradingSession :=
  if l.killSwitchActive then
    (.error ⟨.liveSessionRisk, "Cannot resume session while Emergency Kill Switch is active", []⟩, l)
  else if l.status = .paused then (.ok (), { l with status := .running })
  else (.ok (), l)

/-- `panic_kill`, up to the panic of the switch. -/
def panicKill (l : LiveTradingSession) : LiveTradingSession := { l with status := .panicKilled }.suspend .panicking

/-- `disarm`, where the switch takes the token. -/
def disarm (l : LiveTradingSession) : LiveTradingSession :=
  { l with
    killSwitchActive := false
    status := .paused }

/-- The loop task of the session, while it is alive. -/
def aliveLoopTask (l : LiveTradingSession) : Option ℕ :=
  l.loopTask.filter fun t => l.tasks[t]?.any (·.alive)

/-- `stop`, up to its first await. -/
def stop (l : LiveTradingSession) : LiveTradingSession :=
  if l.status = .stopping ∨ l.status = .stopped then l
  else
    let l' := { l with
      status := .stopping
      isLoopRunning := false }
    match l.aliveLoopTask with
    | some t => { l' with tasks := l.tasks.modify t fun task => { task with cancelled := true } }.suspend (.awaitingLoop t)
    | none => l'.suspend .cancellingOrders

/-- A call reaches its next await, or its end. -/
def advance (l : LiveTradingSession) (i : ℕ) (call : SessionCall) : LiveTradingSession := { l with calls := l.calls.set i call }

/-- The end of `stop`. -/
def finishStop (l : LiveTradingSession) (i : ℕ) : LiveTradingSession := { l with status := .stopped }.advance i .done

end LiveTradingSession

/-- What happens between two awaits. A connect or disconnect that ends leaves the gateway connected or not; a disconnect may drop
the connection before it ends, and what it raises is suppressed. `cycleTrips` is a cycle of an event loop that finds the kill
switch or the drawdown limit tripped, `killSwitchTrips` a panic of somebody else. -/
inductive SessionOp where
  | start
  | connectEnds (i : ℕ) (raised connected : Bool)
  | pause
  | resume
  | panicKill
  | panicEnds (i : ℕ) (active : Bool)
  | disarm (accepted : Bool)
  | stop
  | loopEnded (i : ℕ)
  | ordersCancelled (i : ℕ)
  | connectionDropped (i : ℕ)
  | disconnectEnds (i : ℕ) (connected : Bool)
  | taskEnds (t : ℕ)
  | cycleTrips (t : ℕ)
  | killSwitchTrips

namespace LiveTradingSession

/-- One step, where it can happen. A loop task ends once it is cancelled or the loop is not to run. -/
def step (l : LiveTradingSession) : SessionOp → Option LiveTradingSession
  | .start => some l.start.2
  | .connectEnds i raised connected =>
    if l.calls[i]? = some .connecting then
      let l' := { l with gatewayConnected := connected }.advance i .done
      some (if raised then l' else l'.launch)
    else none
  | .pause => some l.pause
  | .resume => some l.resume.2
  | .panicKill => some l.panicKill
  | .panicEnds i active =>
    if l.calls[i]? = some .panicking then some ({ l with killSwitchActive := active }.advance i .done) else none
  | .disarm accepted => some (if accepted then l.disarm else l)
  | .stop => some l.stop
  | .loopEnded i =>
    match l.calls[i]? with
    | some (.awaitingLoop t) => if l.tasks[t]?.any (·.alive) then none else some (l.advance i .cancellingOrders)
    | _ => none
  | .ordersCancelled i =>
    if l.calls[i]? = some .cancellingOrders then
      some (if l.gatewayConnected then l.advance i .disconnecting else l.finishStop i)
    else none
  | .connectionDropped i =>
    if l.calls[i]? = some .disconnecting then some { l with gatewayConnected := false } else none
  | .disconnectEnds i connected =>
    if l.calls[i]? = some .disconnecting then some ({ l with gatewayConnected := connected }.finishStop i) else none
  | .taskEnds t =>
    match l.tasks[t]? with
    | some task =>
      if task.alive ∧ (task.cancelled ∨ ¬ l.isLoopRunning) then
        some { l with tasks := l.tasks.modify t fun task => { task with alive := false } }
      else none
    | none => none
  | .cycleTrips t => if l.tasks[t]?.any (·.alive) then some { l with status := .panicKilled } else none
  | .killSwitchTrips => some { l with killSwitchActive := true }

end LiveTradingSession
end Quant
