import Quant.Pylib.Lists
import Quant.Pylib.Runs
import Quant.Services.LiveSession

namespace Quant

open Pylib

/-! ## The lifecycle of live sessions

Six operations write the status, the loop task and the connection, with awaits in between and no lock. What they keep while no
second task is launched, no session without a loop is resumed, and the gateway connects and disconnects as asked, is an invariant
of all overlaps.
-/

namespace LiveTradingSession

/-- Event-loop task number `t` is alive. -/
def aliveAt (l : LiveTradingSession) (t : ℕ) : Bool := l.tasks[t]?.any (·.alive)

/-- A `stop` is in progress. -/
def Stopping (l : LiveTradingSession) : Prop := ∃ c ∈ l.calls, c.isStop = true

/-- The condition on a step: a loop task is launched where no loop is to run and no `stop` is in progress, a paused session is
resumed where its loop runs or a `stop` is in progress, a connect that raises leaves a running session connected and a stopped one
not, and a disconnect disconnects. -/
def Admits (l : LiveTradingSession) : SessionOp → Prop
  | .start => l.status ≠ .running → l.isLoopRunning = false → l.gatewayConnected = true → ¬ l.Stopping
  | .connectEnds _ raised connected =>
    if raised then (l.isLoopRunning = true → connected = true) ∧ (l.status = .stopped → connected = false)
    else connected = true ∧ l.isLoopRunning = false ∧ ¬ l.Stopping
  | .resume => l.killSwitchActive = false → l.status = .paused → l.isLoopRunning = true ∨ l.Stopping
  | .disconnectEnds _ connected => connected = false
  | _ => True

/-- What holds of a session in every overlap of its operations. -/
structure Sound (l : LiveTradingSession) : Prop where
  alive_loopTask : ∀ t, l.aliveAt t = true → l.loopTask = some t
  running : l.isLoopRunning = true → ¬ l.Stopping ∧ l.gatewayConnected = true ∧
    ∃ t, l.loopTask = some t ∧ l.tasks[t]? = some ⟨true, false⟩
  awaited : ∀ t, .awaitingLoop t ∈ l.calls → l.loopTask = some t
  ended : ∀ c ∈ l.calls, c = .cancellingOrders ∨ c = .disconnecting → ∀ t, l.aliveAt t = false
  idle : l.isLoopRunning = false → ∀ t, l.aliveAt t = true → .awaitingLoop t ∈ l.calls
  status_running : l.status = .running → l.isLoopRunning = true ∨ l.Stopping
  status_stopped : l.status = .stopped → (∀ t, l.aliveAt t = false) ∧ l.gatewayConnected = false

variable {l : LiveTradingSession}

theorem sound_fresh (sessionId : String) (connected active : Bool) :
    Sound { sessionId := sessionId, gatewayConnected := connected, killSwitchActive := active } where
  alive_loopTask _ h := nomatch h
  running h := nomatch h
  awaited _ h := nomatch h
  ended _ h := nomatch h
  idle _ _ h := nomatch h
  status_running h := nomatch h
  status_stopped h := nomatch h

/-- A `stop` in progress has told the loop not to run. -/
theorem Sound.not_running (h : l.Sound) (hstop : l.Stopping) : l.isLoopRunning = false := by
  by_contra hne
  exact (h.running (Bool.not_eq_false _ ▸ hne)).1 hstop

/-- Where no loop is to run and no `stop` is in progress, no task is alive. -/
theorem Sound.dead (h : l.Sound) (hloop : l.isLoopRunning = false) (hstop : ¬ l.Stopping) (t : ℕ) : l.aliveAt t = false := by
  by_contra hne
  exact hstop ⟨_, h.idle hloop t (Bool.not_eq_false _ ▸ hne), rfl⟩

/-- No task is alive where each is dead. -/
theorem not_alive (hdead : ∀ t, l.aliveAt t = false) (t : ℕ) : ¬ l.aliveAt t = true := by
  rw [hdead t]
  exact Bool.false_ne_true

/-! ### The steps -/

/-- Every status but two is free. -/
theorem Sound.setStatus (h : l.Sound) {status : LiveSessionStatus} (hrunning : status ≠ .running) (hstopped : status ≠ .stopped) :
    Sound { l with status := status } :=
  ⟨h.alive_loopTask, h.running, h.awaited, h.ended, h.idle, fun heq => absurd heq hrunning, fun heq => absurd heq hstopped⟩

theorem Sound.setKillSwitch (h : l.Sound) (active : Bool) : Sound { l with killSwitchActive := active } :=
  ⟨h.alive_loopTask, h.running, h.awaited, h.ended, h.idle, h.status_running, h.status_stopped⟩

theorem Sound.disconnected (h : l.Sound) (hloop : l.isLoopRunning = false) : Sound { l with gatewayConnected := false } := by
  refine ⟨h.alive_loopTask, fun hrun => ?_, h.awaited, h.ended, h.idle, h.status_running,
    fun hst => ⟨(h.status_stopped hst).1, rfl⟩⟩
  exact absurd hrun (Bool.eq_false_iff.1 hloop)

/-- A connect that raises. -/
theorem Sound.setConnected (h : l.Sound) {connected : Bool} (hloop : l.isLoopRunning = true → connected = true)
    (hstopped : l.status = .stopped → connected = false) : Sound { l with gatewayConnected := connected } := by
  refine ⟨h.alive_loopTask, fun hrun => ?_, h.awaited, h.ended, h.idle, h.status_running, fun hst => ?_⟩
  · obtain ⟨hnostop, -, htask⟩ := h.running hrun
    exact ⟨hnostop, hloop hrun, htask⟩
  · exact ⟨(h.status_stopped hst).1, hstopped hst⟩

/-- The operations that are no `stop` do not matter. -/
theorem Sound.setCalls (h : l.Sound) {calls : List SessionCall} (hmem : ∀ c, c.isStop = true → (c ∈ calls ↔ c ∈ l.calls)) :
    Sound { l with calls := calls } := by
  have hstop : Stopping { l with calls := calls } ↔ l.Stopping := by
    constructor
    · rintro ⟨c, hc, hs⟩
      exact ⟨c, (hmem c hs).1 hc, hs⟩
    · rintro ⟨c, hc, hs⟩
      exact ⟨c, (hmem c hs).2 hc, hs⟩
  refine ⟨h.alive_loopTask, fun hrun => ?_, fun t ht => h.awaited t ((hmem _ rfl).1 ht), fun c hc hended => ?_,
    fun hloop t ht => (hmem _ rfl).2 (h.idle hloop t ht), fun hst => ?_, h.status_stopped⟩
  · rw [hstop]
    exact h.running hrun
  · refine h.ended c ((hmem c ?_).1 hc) hended
    rcases hended with rfl | rfl <;> rfl
  · rw [hstop]
    exact h.status_running hst

/-- An operation that is no `stop` is suspended. -/
theorem Sound.suspend (h : l.Sound) {call : SessionCall} (hcall : call.isStop = false) : (l.suspend call).Sound := by
  refine h.setCalls fun c hc => ?_
  rw [List.mem_append, List.mem_singleton, or_iff_left_iff_imp]
  rintro rfl
  rw [hcall] at hc
  cases hc

/-- An operation that is no `stop` ends. -/
theorem Sound.advance_done (h : l.Sound) {i : ℕ} {call : SessionCall} (hi : l.calls[i]? = some call)
    (hcall : call.isStop = false) :
    (l.advance i .done).Sound := by
  refine h.setCalls fun c hc => ⟨fun hset => ?_, fun hmem => ?_⟩
  · rcases List.mem_or_eq_of_mem_set hset with hmem | rfl
    · exact hmem
    · cases hc
  · refine mem_set_of_ne hi hmem ?_
    rintro rfl
    rw [hcall] at hc
    cases hc

/-- What the task at a place is, where it is alive. -/
theorem aliveAt_iff {t : ℕ} : l.aliveAt t = true ↔ ∃ task, l.tasks[t]? = some task ∧ task.alive = true := by
  rw [aliveAt]
  cases l.tasks[t]? <;> simp

/-- A loop task is launched where none is alive, no `stop` is in progress, and the gateway is connected. -/
theorem sound_launch (hdead : ∀ t, l.aliveAt t = false) (hstop : ¬ l.Stopping) (hconn : l.gatewayConnected = true) :
    l.launch.Sound := by
  have hcalls : ∀ c ∈ l.calls, c.isStop = false := fun c hc => Bool.eq_false_iff.2 fun hs => hstop ⟨c, hc, hs⟩
  have hnew : l.launch.tasks[l.tasks.length]? = some ⟨true, false⟩ := List.getElem?_concat_length
  constructor
  case alive_loopTask =>
    intro t ht
    obtain ⟨task, hget, halive⟩ := aliveAt_iff.1 ht
    rcases concat_cases hget with hold | ⟨rfl, -⟩
    · exact absurd (aliveAt_iff.2 ⟨task, hold, halive⟩) (not_alive hdead t)
    · rfl
  case running => exact fun _ => ⟨hstop, hconn, _, rfl, hnew⟩
  case awaited =>
    intro t ht
    cases hcalls _ ht
  case ended =>
    intro c hc hended
    have hnostop := hcalls c hc
    rcases hended with rfl | rfl <;> cases hnostop
  case idle =>
    intro hloop
    cases hloop
  case status_running => exact fun _ => .inl rfl
  case status_stopped =>
    intro hst
    cases hst

/-- The end of a `stop`, where its loop task has ended and the gateway is not connected. -/
theorem Sound.finishStop (h : l.Sound) (hdead : ∀ t, l.aliveAt t = false) (hconn : l.gatewayConnected = false)
    (hloop : l.isLoopRunning = false) (i : ℕ) : (l.finishStop i).Sound := by
  have hmem : ∀ c, c ≠ .done → c ∈ (l.finishStop i).calls → c ∈ l.calls := by
    intro c hne hset
    exact (List.mem_or_eq_of_mem_set hset).resolve_right hne
  constructor
  case alive_loopTask => exact h.alive_loopTask
  case running => exact fun hrun => absurd hrun (Bool.eq_false_iff.1 hloop)
  case awaited => exact fun t ht => h.awaited t (hmem _ nofun ht)
  case ended => exact fun _ _ _ => hdead
  case idle => exact fun _ t ht => absurd ht (not_alive hdead t)
  case status_running =>
    intro hst
    cases hst
  case status_stopped => exact fun _ => ⟨hdead, hconn⟩

theorem aliveLoopTask_eq_some {t : ℕ} : l.aliveLoopTask = some t ↔ l.loopTask = some t ∧ l.aliveAt t = true := by
  rw [aliveLoopTask, Option.filter_eq_some_iff, aliveAt]

/-- What a change of one task that it survives, or not, leaves alive. -/
theorem aliveAt_modify {t : ℕ} {f : LoopTask → LoopTask} (u : ℕ) :
    aliveAt { l with tasks := l.tasks.modify t f } u = true ↔
      ∃ task, l.tasks[u]? = some task ∧ (if t = u then f task else task).alive = true := by
  rw [aliveAt_iff]
  by_cases htu : t = u
  · subst htu
    rw [List.getElem?_modify_eq]
    cases l.tasks[t]? <;> simp
  · rw [List.getElem?_modify_ne _ _ htu]
    simp [htu]

/-- A `stop` cancels a loop task that is alive and awaits it. -/
theorem Sound.stopLoop (h : l.Sound) {t : ℕ} (htask : l.loopTask = some t) (halive : l.aliveAt t = true) :
    Sound { l with
      status := .stopping
      isLoopRunning := false
      tasks := l.tasks.modify t fun task => { task with cancelled := true }
      calls := l.calls ++ [.awaitingLoop t] } := by
  have hsame : ∀ u, aliveAt { l with tasks := l.tasks.modify t fun task => { task with cancelled := true } } u = true ↔
      l.aliveAt u = true := by
    intro u
    rw [aliveAt_modify, aliveAt_iff]
    refine exists_congr fun task => and_congr_right fun _ => ?_
    split <;> rfl
  constructor
  case alive_loopTask => exact fun u hu => h.alive_loopTask u ((hsame u).1 hu)
  case running =>
    intro hrun
    cases hrun
  case awaited =>
    intro u hu
    rcases List.mem_append.1 hu with hold | hnew
    · exact h.awaited u hold
    · cases List.mem_singleton.1 hnew
      exact htask
  case ended =>
    intro c hc hended
    rcases List.mem_append.1 hc with hold | hnew
    · exact absurd halive (not_alive (h.ended c hold hended) t)
    · rw [List.mem_singleton.1 hnew] at hended
      rcases hended with heq | heq <;> cases heq
  case idle =>
    intro _ u hu
    have hu' := h.alive_loopTask u ((hsame u).1 hu)
    rw [htask, Option.some.injEq] at hu'
    subst hu'
    exact List.mem_append_right _ (List.mem_singleton.2 rfl)
  case status_running =>
    intro hst
    cases hst
  case status_stopped =>
    intro hst
    cases hst

/-- A `stop` that finds no loop task alive cancels the orders. -/
theorem Sound.stopOrders (h : l.Sound) (hdead : ∀ t, l.aliveAt t = false) :
    Sound { l with
      status := .stopping
      isLoopRunning := false
      calls := l.calls ++ [.cancellingOrders] } := by
  constructor
  case alive_loopTask => exact h.alive_loopTask
  case running =>
    intro hrun
    cases hrun
  case awaited =>
    intro t ht
    rcases List.mem_append.1 ht with hold | hnew
    · exact h.awaited t hold
    · cases List.mem_singleton.1 hnew
  case ended => exact fun _ _ _ => hdead
  case idle => exact fun _ t ht => absurd ht (not_alive hdead t)
  case status_running =>
    intro hst
    cases hst
  case status_stopped =>
    intro hst
    cases hst

/-- The first stretch of a `stop`. -/
theorem Sound.stop (h : l.Sound) : l.stop.Sound := by
  unfold LiveTradingSession.stop
  split
  · exact h
  · dsimp only
    split
    · rename_i t ht
      obtain ⟨htask, halive⟩ := aliveLoopTask_eq_some.1 ht
      exact h.stopLoop htask halive
    · rename_i hnone
      refine h.stopOrders fun t => ?_
      by_contra hne
      rw [Bool.not_eq_false] at hne
      rw [aliveLoopTask_eq_some.2 ⟨h.alive_loopTask t hne, hne⟩] at hnone
      cases hnone

/-- A `stop` goes on to its next await, where its loop task has ended. -/
theorem Sound.advanceStop (h : l.Sound) {i : ℕ} {call next : SessionCall} (hi : l.calls[i]? = some call)
    (hcall : call.isStop = true)
    (hnext : next.isStop = true) (hdead : ∀ t, l.aliveAt t = false)
    (hne : ∀ t, next ≠ .awaitingLoop t) : (l.advance i next).Sound := by
  have hlt : i < l.calls.length := (List.getElem?_eq_some_iff.1 hi).1
  have hloop := h.not_running ⟨call, List.mem_of_getElem? hi, hcall⟩
  constructor
  case alive_loopTask => exact h.alive_loopTask
  case running => exact fun hrun => absurd hrun (Bool.eq_false_iff.1 hloop)
  case awaited =>
    intro t ht
    exact h.awaited t ((List.mem_or_eq_of_mem_set ht).resolve_right fun heq => hne t heq.symm)
  case ended => exact fun _ _ _ => hdead
  case idle => exact fun _ t ht => absurd ht (not_alive hdead t)
  case status_running => exact fun _ => .inr ⟨next, List.mem_set hlt next, hnext⟩
  case status_stopped => exact h.status_stopped

/-- A task ends that was cancelled, or whose loop is not to run. -/
theorem Sound.taskEnds (h : l.Sound) {t : ℕ} {task : LoopTask} (ht : l.tasks[t]? = some task) (halive : task.alive = true)
    (hends : task.cancelled = true ∨ ¬ l.isLoopRunning = true) :
    Sound { l with tasks := l.tasks.modify t fun task => { task with alive := false } } := by
  have hloop : l.isLoopRunning = false := by
    rcases hends with hcancelled | hloop
    · by_contra hne
      rw [Bool.not_eq_false] at hne
      obtain ⟨-, -, u, hu, htask⟩ := h.running hne
      -- the only task that is alive is the one the session holds, which was not cancelled
      have htu := h.alive_loopTask t (aliveAt_iff.2 ⟨task, ht, halive⟩)
      rw [hu, Option.some.injEq] at htu
      subst htu
      rw [htask, Option.some.injEq] at ht
      rw [← ht] at hcancelled
      cases hcancelled
    · exact Bool.not_eq_true _ ▸ hloop
  have hsub : ∀ u, aliveAt { l with tasks := l.tasks.modify t fun task => { task with alive := false } } u = true →
      l.aliveAt u = true := by
    intro u hu
    obtain ⟨task', hget, halive'⟩ := (aliveAt_modify u).1 hu
    by_cases htu : t = u
    · rw [if_pos htu] at halive'
      cases halive'
    · rw [if_neg htu] at halive'
      exact aliveAt_iff.2 ⟨task', hget, halive'⟩
  have hdead : (∀ u, l.aliveAt u = false) →
      ∀ u, aliveAt { l with tasks := l.tasks.modify t fun task => { task with alive := false } } u = false := by
    intro hall u
    by_contra hne
    exact not_alive hall u (hsub u (Bool.not_eq_false _ ▸ hne))
  constructor
  case alive_loopTask => exact fun u hu => h.alive_loopTask u (hsub u hu)
  case running => exact fun hrun => absurd hrun (Bool.eq_false_iff.1 hloop)
  case awaited => exact h.awaited
  case ended => exact fun c hc hended => hdead (h.ended c hc hended)
  case idle => exact fun _ u hu => h.idle hloop u (hsub u hu)
  case status_running => exact h.status_running
  case status_stopped =>
    intro hst
    obtain ⟨hall, hconn⟩ := h.status_stopped hst
    exact ⟨hdead hall, hconn⟩

/-- A `start` launches a task only where that is admitted. -/
theorem Sound.start (h : l.Sound) (hadmits : l.Admits .start) : l.start.2.Sound := by
  unfold LiveTradingSession.start
  split
  · exact h
  · rename_i hnot
    rw [not_or, Bool.not_eq_true] at hnot
    split
    · rename_i hconn
      have hstop := hadmits hnot.1 hnot.2 hconn
      exact sound_launch (h.dead hnot.2 hstop) hstop hconn
    · exact h.suspend rfl

/-- A connect that does not raise launches a task. -/
theorem Sound.connected (h : l.Sound) {i : ℕ} {connected : Bool} (hadmits : l.Admits (.connectEnds i false connected)) :
    ({ l with gatewayConnected := connected }.advance i .done).launch.Sound := by
  obtain ⟨hconn, hloop, hstop⟩ := hadmits
  refine sound_launch (h.dead hloop hstop) ?_ hconn
  rintro ⟨c, hc, hs⟩
  rcases List.mem_or_eq_of_mem_set hc with hmem | rfl
  · exact hstop ⟨c, hmem, hs⟩
  · cases hs

theorem Sound.resume (h : l.Sound) (hadmits : l.Admits .resume) : l.resume.2.Sound := by
  unfold LiveTradingSession.resume
  split
  · exact h
  · rename_i hactive
    split
    · rename_i hpaused
      have hloop := hadmits (Bool.not_eq_true _ ▸ hactive) hpaused
      exact ⟨h.alive_loopTask, h.running, h.awaited, h.ended, h.idle, fun _ => hloop, fun hst => nomatch hst⟩
    · exact h

/-- Once the task a `stop` awaits has ended, none is alive. -/
theorem Sound.dead_of_awaited (h : l.Sound) {t : ℕ} (hmem : .awaitingLoop t ∈ l.calls) (hended : ¬ l.aliveAt t = true) (u : ℕ) :
    l.aliveAt u = false := by
  by_contra hne
  rw [Bool.not_eq_false] at hne
  have hu := h.alive_loopTask u hne
  rw [h.awaited t hmem, Option.some.injEq] at hu
  subst hu
  exact hended hne

/-- The orders are cancelled: the gateway is disconnected if it is connected, and else the `stop` ends. -/
theorem Sound.ordersCancelled (h : l.Sound) {i : ℕ} (hi : l.calls[i]? = some .cancellingOrders) :
    Sound (if l.gatewayConnected then l.advance i .disconnecting else l.finishStop i) := by
  have hmem := List.mem_of_getElem? hi
  have hdead := h.ended _ hmem (.inl rfl)
  split
  · exact h.advanceStop hi rfl rfl hdead nofun
  · rename_i hconn
    exact h.finishStop hdead (Bool.not_eq_true _ ▸ hconn) (h.not_running ⟨_, hmem, rfl⟩) i

/-- A disconnect that disconnects ends the `stop`. -/
theorem Sound.disconnectEnds (h : l.Sound) {i : ℕ} (hi : l.calls[i]? = some .disconnecting) :
    ({ l with gatewayConnected := false }.finishStop i).Sound := by
  have hmem := List.mem_of_getElem? hi
  have hloop := h.not_running ⟨_, hmem, rfl⟩
  exact (h.disconnected hloop).finishStop (h.ended _ hmem (.inr rfl)) rfl hloop i

/-- An admitted step keeps the invariant. -/
theorem Sound.step {l' : LiveTradingSession} {op : SessionOp} (h : l.Sound) (hadmits : l.Admits op)
    (hstep : l.step op = some l') :
    l'.Sound := by
  cases op with
  | start =>
    cases hstep
    exact h.start hadmits
  | connectEnds i raised connected =>
    rw [LiveTradingSession.step] at hstep
    split at hstep
    · rename_i hi
      cases hstep
      cases raised with
      | true =>
        obtain ⟨hloop, hstopped⟩ := hadmits
        exact (h.setConnected hloop hstopped).advance_done hi rfl
      | false => exact h.connected hadmits
    · cases hstep
  | pause =>
    cases hstep
    unfold LiveTradingSession.pause
    split
    · exact h.setStatus nofun nofun
    · exact h
  | resume =>
    cases hstep
    exact h.resume hadmits
  | panicKill =>
    cases hstep
    have hset : Sound { l with status := .panicKilled } := h.setStatus nofun nofun
    exact hset.suspend rfl
  | panicEnds i active =>
    rw [LiveTradingSession.step] at hstep
    split at hstep
    · rename_i hi
      cases hstep
      exact (h.setKillSwitch active).advance_done hi rfl
    · cases hstep
  | disarm accepted =>
    cases hstep
    cases accepted with
    | true => exact (h.setKillSwitch false).setStatus nofun nofun
    | false => exact h
  | stop =>
    cases hstep
    exact h.stop
  | loopEnded i =>
    rw [LiveTradingSession.step] at hstep
    split at hstep
    · rename_i t hi
      split at hstep
      · cases hstep
      · rename_i hended
        cases hstep
        exact h.advanceStop hi rfl rfl (h.dead_of_awaited (List.mem_of_getElem? hi) hended) nofun
    · cases hstep
  | ordersCancelled i =>
    rw [LiveTradingSession.step] at hstep
    split at hstep
    · rename_i hi
      cases hstep
      exact h.ordersCancelled hi
    · cases hstep
  | connectionDropped i =>
    rw [LiveTradingSession.step] at hstep
    split at hstep
    · rename_i hi
      cases hstep
      exact h.disconnected (h.not_running ⟨_, List.mem_of_getElem? hi, rfl⟩)
    · cases hstep
  | disconnectEnds i connected =>
    rw [LiveTradingSession.step] at hstep
    split at hstep
    · rename_i hi
      cases hstep
      rw [Admits] at hadmits
      subst hadmits
      exact h.disconnectEnds hi
    · cases hstep
  | taskEnds t =>
    rw [LiveTradingSession.step] at hstep
    split at hstep
    · rename_i task ht
      split at hstep
      · rename_i hends
        cases hstep
        exact h.taskEnds ht hends.1 hends.2
      · cases hstep
    · cases hstep
  | cycleTrips t =>
    rw [LiveTradingSession.step] at hstep
    split at hstep
    · cases hstep
      exact h.setStatus nofun nofun
    · cases hstep
  | killSwitchTrips =>
    cases hstep
    exact h.setKillSwitch true

/-! ### Runs -/

theorem sound_run {sessionId : String} {connected active : Bool}
    (hrun : Run (fun l op l' => l.step op = some l') Admits
      { sessionId := sessionId, gatewayConnected := connected, killSwitchActive := active } l) : l.Sound :=
  hrun.invariant (fun _ _ _ h hadmits hstep => h.step hadmits hstep) (sound_fresh sessionId connected active)

/-- In every state of an admitted run in which no lifecycle operation is in progress: a session that is running has one event-loop
task alive and its gateway connected, and one that is stopped has none and its gateway disconnected. -/
theorem lifecycle_of_run {sessionId : String} {connected active : Bool}
    (hrun : Run (fun l op l' => l.step op = some l') Admits
      { sessionId := sessionId, gatewayConnected := connected, killSwitchActive := active } l)
    (hdone : ∀ c ∈ l.calls, c = .done) :
    (l.status = .running → (∃! t, l.aliveAt t = true) ∧ l.gatewayConnected = true) ∧
    (l.status = .stopped → (∀ t, l.aliveAt t = false) ∧ l.gatewayConnected = false) := by
  have hsound := sound_run hrun
  refine ⟨fun hst => ?_, hsound.status_stopped⟩
  have hnostop : ¬ l.Stopping := by
    rintro ⟨c, hc, hs⟩
    rw [hdone c hc] at hs
    cases hs
  obtain ⟨-, hconn, t, htask, hget⟩ := hsound.running ((hsound.status_running hst).resolve_right hnostop)
  refine ⟨⟨t, aliveAt_iff.2 ⟨_, hget, rfl⟩, fun u hu => ?_⟩, hconn⟩
  have hu' := hsound.alive_loopTask u hu
  rw [htask, Option.some.injEq] at hu'
  exact hu'.symm

/-! A session that is started, killed, stopped and then disarmed and resumed, and one that is started twice. -/

/-- A session before its start. -/
def desk : LiveTradingSession := { sessionId := "desk" }

/-- The end of a run that resumes after a `stop`. -/
def resumedDesk : LiveTradingSession where
  sessionId := "desk"
  status := .running
  loopTask := some 0
  tasks := [⟨false, true⟩]
  calls := [.done, .done, .done]

/-- The end of a run with two starts at a time. -/
def doubleDesk : LiveTradingSession where
  sessionId := "desk"
  status := .running
  isLoopRunning := true
  loopTask := some 1
  tasks := [⟨true, false⟩, ⟨true, false⟩]
  gatewayConnected := true
  calls := [.done, .done]

theorem run_resumedDesk : Run (fun l op l' => l.step op = some l') (fun _ _ => True) desk resumedDesk :=
  Run.of_foldlM [.start, .connectEnds 0 false true, .panicKill, .panicEnds 1 true, .stop, .taskEnds 0, .loopEnded 2,
    .ordersCancelled 2, .disconnectEnds 2 false, .disarm true, .resume] (by decide)

theorem run_doubleDesk : Run (fun l op l' => l.step op = some l') (fun _ _ => True) desk doubleDesk :=
  Run.of_foldlM [.start, .start, .connectEnds 0 false true, .connectEnds 1 false true] (by decide)

instance (l : LiveTradingSession) : Decidable l.Stopping :=
  inferInstanceAs (Decidable (∃ c ∈ l.calls, c.isStop = true))

instance (l : LiveTradingSession) : DecidablePred l.Admits
  | .start =>
    inferInstanceAs (Decidable (l.status ≠ .running → l.isLoopRunning = false → l.gatewayConnected = true → ¬ l.Stopping))
  | .connectEnds _ true connected =>
    inferInstanceAs (Decidable ((l.isLoopRunning = true → connected = true) ∧ (l.status = .stopped → connected = false)))
  | .connectEnds _ false connected => inferInstanceAs (Decidable (connected = true ∧ l.isLoopRunning = false ∧ ¬ l.Stopping))
  | .resume => inferInstanceAs (Decidable (l.killSwitchActive = false → l.status = .paused → l.isLoopRunning = true ∨ l.Stopping))
  | .disconnectEnds _ connected => inferInstanceAs (Decidable (connected = false))
  | .pause | .panicKill | .panicEnds _ _ | .disarm _ | .stop | .loopEnded _ | .ordersCancelled _ | .connectionDropped _
  | .taskEnds _ | .cycleTrips _ | .killSwitchTrips => isTrue trivial

/-- A session is started, paused, resumed and stopped. -/
def dayOps : List SessionOp :=
  [.start, .connectEnds 0 false true, .pause, .resume, .stop, .taskEnds 0, .loopEnded 1, .ordersCancelled 1, .connectionDropped 1,
    .disconnectEnds 1 false]

/-- The session at the end of the day. -/
def closedDesk : LiveTradingSession := (dayOps.foldlM step desk).getD desk

/-- The next day it is started again, killed, and resumed once the switch is disarmed. -/
def nextDayOps : List SessionOp :=
  [.start, .connectEnds 2 false true, .panicKill, .panicEnds 3 true, .resume, .disarm true, .resume]

/-- The session where it runs again. -/
def reopenedDesk : LiveTradingSession := ((dayOps ++ nextDayOps).foldlM step desk).getD desk

theorem lifecycle_reopenedDesk :
    (closedDesk.status = .stopped ∧ (∀ t, closedDesk.aliveAt t = false) ∧ closedDesk.gatewayConnected = false) ∧
    (reopenedDesk.status = .running ∧ (∃! t, reopenedDesk.aliveAt t = true) ∧ reopenedDesk.gatewayConnected = true) := by
  have hclosed : Run (fun l op l' => l.step op = some l') Admits desk closedDesk := Run.of_guarded dayOps (by decide)
  have hreopened : Run (fun l op l' => l.step op = some l') Admits desk reopenedDesk := Run.of_guarded _ (by decide)
  have hstopped : closedDesk.status = .stopped := by decide
  have hrunning : reopenedDesk.status = .running := by decide
  exact ⟨⟨hstopped, (lifecycle_of_run hclosed (by decide)).2 hstopped⟩,
    hrunning, (lifecycle_of_run hreopened (by decide)).1 hrunning⟩

theorem not_lifecycle_of_run :
    (Run (fun l op l' => l.step op = some l') (fun _ _ => True) desk resumedDesk ∧ (∀ c ∈ resumedDesk.calls, c = .done) ∧
      resumedDesk.status = .running ∧ ¬ ((∃! t, resumedDesk.aliveAt t = true) ∧ resumedDesk.gatewayConnected = true)) ∧
    Run (fun l op l' => l.step op = some l') (fun _ _ => True) desk doubleDesk ∧ (∀ c ∈ doubleDesk.calls, c = .done) ∧
      doubleDesk.status = .running ∧ ¬ ((∃! t, doubleDesk.aliveAt t = true) ∧ doubleDesk.gatewayConnected = true) := by
  refine ⟨⟨run_resumedDesk, by decide, rfl, fun h => ?_⟩, run_doubleDesk, by decide, rfl, fun h => ?_⟩
  · cases h.2
  · cases h.1.unique (show doubleDesk.aliveAt 0 = true from rfl) (show doubleDesk.aliveAt 1 = true from rfl)

end LiveTradingSession
end Quant
