import Quant.Lemmas.Sweep
import Quant.Pylib.Lists
import Quant.Pylib.Runs
import Quant.Theorems.LeavesAccounting

/-!
# Locked out by a panic

What a panic that has returned leaves open at the gateways, whatever routes and panics interleave. The check of the switch comes
once, at the start of `route_order`, so an order that is on its way when the panic begins is caught by the sweep only if it is
registered before the gateway lists its open orders.
-/

namespace Quant

open Pylib EmergencyKillSwitch

/-! ## The switch after an answer -/

/-- What an answer makes of the switch and of the panic of a task. -/
inductive Resumed (ks : EmergencyKillSwitch) (c : PanicCall) (t : ℕ) (phase : PanicPhase) (a : PanicAnswer)
    (r : PanicPhase × EmergencyKillSwitch) : Prop
  | enters (hp : phase = .waiting) (hlock : ks.lock = none) (hstate : ks.state = .armedStandby)
      (hr : r = { ks with state := .panicTriggered, lock := some t }.hooksFrom c 0)
  | finds (hp : phase = .waiting) (hlock : ks.lock = none) (res : Except Exc KillSwitchEvent) (hr : r = (.done res, ks))
      (hres : ∀ e, res = .ok e → ks.state = .panicTriggered ∧ ks.lastEvent ≠ none)
  | givesUp (hp : phase = .waiting) (exc : Exc) (hr : r = (.done (.error exc), ks))
  | proceeds (hp : phase.works = true) (hr : Proceeds ks c r)
  | notifies (i j : ℕ) (e : KillSwitchEvent) (hp : phase = .notifying i e) (hr : r = (.notifying j e, ks))
  | leaves (hp : phase.holds = true) (res : Except Exc KillSwitchEvent) (hr : r = ks.leave res)
      (hres : ∀ e, res = .ok e → ∃ i, phase = .notifying i e)

theorem resumed_of_resumePanic {ks : EmergencyKillSwitch} {c : PanicCall} {t : ℕ} {phase : PanicPhase} {a : PanicAnswer}
    {r : PanicPhase × EmergencyKillSwitch} (h : ks.resumePanic c t phase a = some r) : Resumed ks c t phase a r := by
  by_cases hworks : phase.works = true
  · have hholds := PanicPhase.holds_of_works hworks
    rcases works_step ks c hworks h with hr | ⟨-, hr⟩ | ⟨-, exc, hr⟩
    · exact .proceeds hworks hr
    · exact .leaves hholds _ hr nofun
    · exact .leaves hholds _ hr nofun
  cases phase with
  | waiting =>
    rcases waiting_step ks c h with ⟨-, hlock, hr⟩ | ⟨-, hr⟩
    · cases hstate : ks.state with
      | armedStandby =>
        refine .enters rfl hlock hstate ?_
        rw [hr, enter, hstate]
      | disarmed =>
        refine .finds rfl hlock (.error disarmedFault) ?_ nofun
        rw [hr, enter, hstate]
      | panicTriggered =>
        cases hlast : ks.lastEvent with
        | none =>
          refine .finds rfl hlock (.error ⟨.assertionError, "", []⟩) ?_ nofun
          rw [hr, enter, hstate]
          dsimp only
          rw [hlast]
        | some e =>
          refine .finds rfl hlock (.ok e) ?_ fun _ _ => ⟨hstate, by rw [hlast]; exact Option.some_ne_none _⟩
          rw [hr, enter, hstate]
          dsimp only
          rw [hlast]
    · exact .givesUp rfl _ hr
  | notifying i e =>
    rcases notifying_step ks c h with ⟨j, hr⟩ | hr | ⟨-, hr⟩ | ⟨-, exc, hr⟩
    · exact .notifies i j e rfl hr
    · exact .leaves rfl _ hr fun e' he => ⟨i, by rw [Except.ok.inj he]⟩
    · exact .leaves rfl _ hr nofun
    · exact .leaves rfl _ hr nofun
  | done res => cases a <;> cases h
  | _ => exact absurd rfl hworks

theorem PanicPhase.holds_of_isDone {phase : PanicPhase} (h : phase.isDone = true) : phase.holds = false := by
  cases phase <;> first | rfl | cases h

theorem PanicPhase.afterSweep_of_isDone {phase : PanicPhase} (h : phase.isDone = true) : phase.afterSweep = true := by
  cases phase <;> first | rfl | cases h

theorem EmergencyKillSwitch.Proceeds.lock_eq {ks : EmergencyKillSwitch} {c : PanicCall} {r : PanicPhase × EmergencyKillSwitch}
    {t : ℕ} (h : Proceeds ks c r) (hl : ks.lock = some t) :
    (r.1.holds = true ∧ r.2.lock = some t) ∨ (r.1.isDone = true ∧ r.2.lock = none) := by
  cases h with
  | works hw => exact .inl ⟨PanicPhase.holds_of_works hw, hl⟩
  | notifies i count snapshot => exact .inl ⟨rfl, hl⟩
  | returns count snapshot => exact .inr ⟨rfl, rfl⟩

theorem EmergencyKillSwitch.Proceeds.frame {ks : EmergencyKillSwitch} {c : PanicCall} {r : PanicPhase × EmergencyKillSwitch}
    (h : Proceeds ks c r) : r.2.state = ks.state ∧ r.2.gateways = ks.gateways ∧ (ks.lastEvent ≠ none → r.2.lastEvent ≠ none) := by
  cases h with
  | works hw => exact ⟨rfl, rfl, id⟩
  | notifies i count snapshot => exact ⟨rfl, rfl, fun _ => Option.some_ne_none _⟩
  | returns count snapshot => exact ⟨rfl, rfl, fun _ => Option.some_ne_none _⟩

/-- A panic that notifies or returns has recorded an event. -/
theorem EmergencyKillSwitch.Proceeds.recorded {ks : EmergencyKillSwitch} {c : PanicCall} {r : PanicPhase × EmergencyKillSwitch}
    (h : Proceeds ks c r) (hr : (∃ i e, r.1 = .notifying i e) ∨ r.1.returned = true) : r.2.lastEvent ≠ none := by
  cases h with
  | @works phase hw =>
    rcases hr with ⟨i, e, rfl⟩ | hr
    · cases hw
    · cases phase with
      | done res => cases hw
      | _ => cases hr
  | notifies i count snapshot => exact Option.some_ne_none _
  | returns count snapshot => exact Option.some_ne_none _

namespace Resumed

variable {ks : EmergencyKillSwitch} {c : PanicCall} {t : ℕ} {phase : PanicPhase} {a : PanicAnswer}
  {r : PanicPhase × EmergencyKillSwitch}

/-- The lock is with the task, or free after it, or the task did not touch the switch. -/
theorem lock_cases (h : Resumed ks c t phase a r) (hheld : phase.holds = true ↔ ks.lock = some t) :
    ((ks.lock = none ∨ ks.lock = some t) ∧
        ((r.1.holds = true ∧ r.2.lock = some t) ∨ (r.1.isDone = true ∧ r.2.lock = none))) ∨
      (r.1.isDone = true ∧ ks.lock ≠ some t ∧ r.2 = ks) := by
  cases h with
  | enters hp hlock hstate hr =>
    subst hr
    exact .inl ⟨.inl hlock, (hooksFrom_proceeds _ c 0).lock_eq rfl⟩
  | finds hp hlock res hr hres =>
    subst hr
    exact .inr ⟨rfl, by rw [hlock]; exact nofun, rfl⟩
  | givesUp hp exc hr =>
    subst hp hr
    exact .inr ⟨rfl, fun hl => (by cases hheld.2 hl), rfl⟩
  | proceeds hp hr =>
    have hl := hheld.1 (PanicPhase.holds_of_works hp)
    exact .inl ⟨.inr hl, hr.lock_eq hl⟩
  | notifies i j e hp hr =>
    subst hp hr
    exact .inl ⟨.inr (hheld.1 rfl), .inl ⟨rfl, hheld.1 rfl⟩⟩
  | leaves hp res hr hres =>
    subst hr
    exact .inl ⟨.inr (hheld.1 hp), .inr ⟨rfl, rfl⟩⟩

/-- The task holds the lock afterwards exactly when its phase says so, and no other task gets or loses it. -/
theorem lock_iff (h : Resumed ks c t phase a r) (hheld : phase.holds = true ↔ ks.lock = some t) :
    (r.1.holds = true ↔ r.2.lock = some t) ∧ ∀ t' ≠ t, (ks.lock = some t' ↔ r.2.lock = some t') := by
  rcases h.lock_cases hheld with ⟨hbefore, hafter⟩ | ⟨hdone, hne, heq⟩
  · constructor
    · rcases hafter with ⟨hholds, hl⟩ | ⟨hdone, hl⟩
      · exact iff_of_true hholds hl
      · rw [hl, PanicPhase.holds_of_isDone hdone]
        exact iff_of_false nofun nofun
    · intro t' ht'
      have hnot : ∀ l : Option ℕ, l = none ∨ l = some t → l ≠ some t' := by
        rintro l (rfl | rfl) heq
        · cases heq
        · exact ht' (Option.some.inj heq).symm
      exact iff_of_false (hnot _ hbefore) (hnot _ (hafter.elim (fun h => .inr h.2) fun h => .inl h.2))
  · rw [heq, PanicPhase.holds_of_isDone hdone]
    exact ⟨iff_of_false nofun hne, fun t' _ => Iff.rfl⟩

/-- A task without the lock that does not begin a panic leaves the switch alone. -/
theorem eq_of_not_holds (h : Resumed ks c t phase a r) (hp : phase.holds = false) (hstate : r.2.state = ks.state) :
    r.2 = ks := by
  cases h with
  | enters hwait hlock harmed hr =>
    subst hr
    rw [harmed, (hooksFrom_proceeds _ c 0).frame.1] at hstate
    cases hstate
  | finds hwait hlock res hr hres => rw [hr]
  | givesUp hwait exc hr => rw [hr]
  | proceeds hworks hr =>
    rw [PanicPhase.holds_of_works hworks] at hp
    cases hp
  | notifies i j e hphase hr => rw [hr]
  | leaves hholds res hr hres =>
    rw [hholds] at hp
    cases hp

theorem gateways_eq (h : Resumed ks c t phase a r) : r.2.gateways = ks.gateways := by
  cases h with
  | enters hp hlock hstate hr =>
    subst hr
    exact (hooksFrom_proceeds _ c 0).frame.2.1
  | finds hp hlock res hr hres => rw [hr]
  | givesUp hp exc hr => rw [hr]
  | proceeds hp hr => exact hr.frame.2.1
  | notifies i j e hp hr => rw [hr]
  | leaves hp res hr hres => rw [hr]; rfl

/-- An event that is recorded stays, and a panic that notifies or returns has one. -/
theorem lastEvent_ne (h : Resumed ks c t phase a r)
    (hrec : ks.lastEvent ≠ none ∨ (∃ i e, r.1 = .notifying i e) ∨ r.1.returned = true)
    (hnotifying : ∀ i e, phase = .notifying i e → ks.lastEvent ≠ none) : r.2.lastEvent ≠ none := by
  cases h with
  | enters hp hlock hstate hr =>
    subst hr
    have hproc := hooksFrom_proceeds { ks with state := .panicTriggered, lock := some t } c 0
    exact hrec.elim hproc.frame.2.2 hproc.recorded
  | finds hp hlock res hr hres =>
    subst hr
    rcases hrec with hrec | ⟨i, e, ⟨⟩⟩ | hrec
    · exact hrec
    · cases res with
      | ok e => exact (hres e rfl).2
      | error exc => cases hrec
  | givesUp hp exc hr =>
    subst hr
    rcases hrec with hrec | ⟨i, e, ⟨⟩⟩ | ⟨⟨⟩⟩
    exact hrec
  | proceeds hp hr => exact hrec.elim hr.frame.2.2 hr.recorded
  | notifies i j e hp hr =>
    subst hr
    exact hnotifying i e hp
  | leaves hp res hr hres =>
    subst hr
    rcases hrec with hrec | ⟨i, e, ⟨⟩⟩ | hrec
    · exact hrec
    · cases res with
      | ok e =>
        obtain ⟨i, hi⟩ := hres e rfl
        exact hnotifying i e hi
      | error exc => cases hrec

/-- Only a panic that finds the switch armed changes its state. -/
theorem state_cases (h : Resumed ks c t phase a r) :
    r.2.state = ks.state ∨ (phase = .waiting ∧ ks.lock = none ∧ ks.state = .armedStandby ∧ r.2.state = .panicTriggered ∧
      r = { ks with state := .panicTriggered, lock := some t }.hooksFrom c 0) := by
  cases h with
  | enters hp hlock hstate hr =>
    refine .inr ⟨hp, hlock, hstate, ?_, hr⟩
    subst hr
    exact (hooksFrom_proceeds _ c 0).frame.1
  | finds hp hlock res hr hres => exact .inl (by rw [hr])
  | givesUp hp exc hr => exact .inl (by rw [hr])
  | proceeds hp hr => exact .inl hr.frame.1
  | notifies i j e hp hr => exact .inl (by rw [hr])
  | leaves hp res hr hres => exact .inl (by rw [hr]; rfl)

/-- While a panic holds the lock the switch is in its panic. -/
theorem panicking (h : Resumed ks c t phase a r) (hheld : phase.holds = true ↔ ks.lock = some t)
    (hpanicking : ks.lock ≠ none → ks.state = .panicTriggered) (hlock : r.2.lock ≠ none) : r.2.state = .panicTriggered := by
  rcases h.state_cases with hstate | ⟨-, -, -, hstate, -⟩
  · rw [hstate]
    refine hpanicking fun hnone => hlock ?_
    have hp : phase.holds = false := by
      by_contra hholds
      rw [hheld.1 (by simpa using hholds)] at hnone
      cases hnone
    rw [h.eq_of_not_holds hp hstate]
    exact hnone
  · exact hstate

/-- A panic that returns leaves the switch in its panic, the lock free and an event. -/
theorem of_returned (h : Resumed ks c t phase a r) (hheld : phase.holds = true ↔ ks.lock = some t)
    (hpanicking : ks.lock ≠ none → ks.state = .panicTriggered)
    (hnotifying : ∀ i e, phase = .notifying i e → ks.lastEvent ≠ none) (hreturned : r.1.returned = true) :
    r.2.state = .panicTriggered ∧ r.2.lock = none ∧ r.2.lastEvent ≠ none := by
  have hdone : r.1.isDone = true := by
    revert hreturned
    cases r.1 <;> first | exact fun _ => rfl | exact fun h => by cases h
  refine ⟨?_, ?_, h.lastEvent_ne (.inr (.inr hreturned)) hnotifying⟩
  · rcases h.state_cases with hstate | ⟨-, -, -, hstate, -⟩
    · rw [hstate]
      cases h with
      | enters hp hlock harmed hr =>
        subst hr
        rw [harmed, (hooksFrom_proceeds _ c 0).frame.1] at hstate
        cases hstate
      | finds hp hlock res hr hres =>
        subst hr
        cases res with
        | ok e => exact (hres e rfl).1
        | error exc => cases hreturned
      | givesUp hp exc hr =>
        subst hr
        cases hreturned
      | proceeds hp hr => exact hpanicking (by rw [hheld.1 (PanicPhase.holds_of_works hp)]; nofun)
      | notifies i j e hp hr =>
        subst hr
        cases hreturned
      | leaves hp res hr hres => exact hpanicking (by rw [hheld.1 hp]; nofun)
    · exact hstate
  · cases h with
    | finds hp hlock res hr hres =>
      subst hr
      exact hlock
    | givesUp hp exc hr =>
      subst hr
      cases hreturned
    | enters hp hlock harmed hr =>
      subst hr
      rcases (hooksFrom_proceeds { ks with state := .panicTriggered, lock := some t } c 0).lock_eq rfl with ⟨hholds, -⟩ | ⟨-, hl⟩
      · rw [PanicPhase.holds_of_isDone hdone] at hholds
        cases hholds
      · exact hl
    | proceeds hp hr =>
      rcases hr.lock_eq (hheld.1 (PanicPhase.holds_of_works hp)) with ⟨hholds, -⟩ | ⟨-, hl⟩
      · rw [PanicPhase.holds_of_isDone hdone] at hholds
        cases hholds
      · exact hl
    | notifies i j e hp hr =>
      subst hr
      cases hreturned
    | leaves hp res hr hres => rw [hr]; rfl

end Resumed

/-- A panic that is cut short ends with nothing recorded. -/
theorem cuts_resume {ks : EmergencyKillSwitch} {c : PanicCall} {t : ℕ} {phase : PanicPhase} {a : PanicAnswer}
    {r : PanicPhase × EmergencyKillSwitch} (hcut : Sweep.Cuts phase a) (h : ks.resumePanic c t phase a = some r) :
    r.2.lock = none ∧ r.2.lastEvent = ks.lastEvent := by
  cases continues_of_resumePanic h with
  | hookBreaks => exact ⟨rfl, rfl⟩
  | abort => exact ⟨rfl, rfl⟩
  | hook i res hexc =>
    cases res with
    | ok u => cases hcut
    | error exc => exact absurd (hexc exc rfl) (Bool.eq_false_iff.1 hcut)
  | _ => cases hcut

/-! ## Open orders and routes -/

theorem RouteTask.submitting_of_isDone {task : RouteTask} (h : task.phase.isDone = true) : task.submitting = none := by
  unfold RouteTask.submitting
  cases hp : task.phase with
  | done res => rfl
  | direct gw => rw [hp] at h; cases h
  | slice gw call phase => rw [hp] at h; cases h

theorem OpenOrders.mem_add {b : OpenOrders} {gw gw' : GatewayRef} {o o' : OpenOrder} (h : o' ∈ b.add gw o gw') :
    (gw' = gw ∧ o' = o) ∨ o' ∈ b gw' := by
  unfold add at h
  by_cases hgw : gw' = gw
  · subst hgw
    rw [Function.update_self, List.mem_append, List.mem_singleton] at h
    exact h.symm.imp_left fun heq => ⟨rfl, heq⟩
  · rw [Function.update_of_ne hgw] at h
    exact .inr h

theorem OpenOrders.mem_remove {b : OpenOrders} {gw gw' : GatewayRef} {id : String} {o : OpenOrder} (h : o ∈ b.remove gw id gw') :
    o ∈ b gw' ∧ (gw' = gw → o.clOrdId ≠ id) := by
  unfold remove at h
  by_cases hgw : gw' = gw
  · subst hgw
    rw [Function.update_self, List.mem_filter] at h
    exact ⟨h.1, fun _ => of_decide_eq_true h.2⟩
  · rw [Function.update_of_ne hgw] at h
    exact ⟨h, fun heq => absurd heq hgw⟩

namespace LockoutWorld

/-! ## The condition and the invariant -/

/-- The switch. -/
abbrev killSwitch (w : LockoutWorld) : EmergencyKillSwitch := w.orchestrator.killSwitch

/-- What the sweep is about. -/
def sweep (w : LockoutWorld) : Sweep where
  gateways := w.killSwitch.gateways
  orders := w.orders
  failed := w.failed

/-- A panic that has yet to hear the open orders of a gateway. -/
def Asks (gw : GatewayRef) : PanicPhase → Prop
  | .hook _ => True
  | .fetching tasks => ∃ fetch ∈ tasks, fetch.gateway = gw ∧ fetch.stage = .orders
  | _ => False

/-- The panic that holds the lock has yet to hear the open orders of a gateway, if it is registered. -/
def Unread (w : LockoutWorld) (gw : GatewayRef) : Prop :=
  ∃ (t : ℕ) (task : PanicTask), w.killSwitch.lock = some t ∧ w.panics[t]? = some task ∧
    ∀ id, w.killSwitch.gateways.get? id = some gw → Asks gw task.phase

/-- The condition on a step: an order that was on its way when the panic began is registered before the gateway lists its open
orders, a panic is cut short in its sweep only while the switch holds no event, and an administrator does not change the switch
while a panic holds the lock. -/
def Admits (w : LockoutWorld) : LockoutOp → Prop
  | .register r => ∀ (task : RouteTask) (gw : GatewayRef) (o : Order), w.routes[r]? = some task →
      task.submitting = some (gw, o) → task.crossed = true → w.killSwitch.state = .panicTriggered → w.Unread gw
  | .panic t a => ∀ task, w.panics[t]? = some task → Sweep.Cuts task.phase a → w.killSwitch.lastEvent = none
  | .reset token => ∀ ks, w.killSwitch.reset token = .ok ks → w.killSwitch.lock = none
  | .arm token => ∀ ks, w.killSwitch.arm token = .ok ks → w.killSwitch.lock = none
  | .disarm token => ∀ ks, w.killSwitch.disarm token = .ok ks → w.killSwitch.lock = none
  | _ => True

/-- Why the gateways are locked out: while the switch is in its panic no route submits but those that were on their way, and the
panic that holds the lock knows what its sweep has left. -/
structure Sealed (w : LockoutWorld) : Prop where
  held : ∀ (t : ℕ) (task : PanicTask), w.panics[t]? = some task → (task.phase.holds = true ↔ w.killSwitch.lock = some t)
  holder : ∀ t, w.killSwitch.lock = some t → t < w.panics.length
  panicking : w.killSwitch.lock ≠ none → w.killSwitch.state = .panicTriggered
  recorded : ∀ (t : ℕ) (task : PanicTask) (i : ℕ) (e : KillSwitchEvent), w.panics[t]? = some task →
    task.phase = .notifying i e → w.killSwitch.lastEvent ≠ none
  gate : w.killSwitch.state = .panicTriggered → ∀ task ∈ w.routes, task.crossed = false → task.phase.isDone = true
  progress : ∀ (t : ℕ) (task : PanicTask), w.panics[t]? = some task → w.killSwitch.lock = some t →
    w.sweep.Progress task.phase
  clean : w.killSwitch.state = .panicTriggered → w.killSwitch.lock = none → w.killSwitch.lastEvent ≠ none → w.sweep.Clean
  returned : w.locked = true →
    w.killSwitch.state = .panicTriggered ∧ w.killSwitch.lock = none ∧ w.killSwitch.lastEvent ≠ none
  intruders : w.intruders = []

theorem Sealed.lockedOut {w : LockoutWorld} (h : w.Sealed) (hl : w.locked = true) : w.LockedOut := by
  obtain ⟨hstate, hlock, hlast⟩ := h.returned hl
  exact ⟨h.clean hstate hlock hlast, h.intruders⟩

/-! ## Steps of the gateways and of the routes -/

/-- A step that leaves the switch and its panics alone, and opens nothing but orders of the switch. -/
theorem Sealed.of_keeps {w w' : LockoutWorld} (h : w.Sealed) (hks : w'.killSwitch = w.killSwitch) (hpanics : w'.panics = w.panics)
    (hlocked : w'.locked = w.locked) (hintruders : w'.intruders = w.intruders) (hkeeps : w.sweep.Keeps w'.sweep)
    (hgate : w.killSwitch.state = .panicTriggered → ∀ task ∈ w'.routes, task.crossed = false → task.phase.isDone = true) :
    w'.Sealed where
  held := by rw [hks, hpanics]; exact h.held
  holder := by rw [hks, hpanics]; exact h.holder
  panicking := by rw [hks]; exact h.panicking
  recorded := by rw [hks, hpanics]; exact h.recorded
  gate := by rw [hks]; exact hgate
  progress := by
    rw [hks, hpanics]
    exact fun t task ht hl => hkeeps.progress (h.progress t task ht hl)
  clean := by
    rw [hks]
    exact fun hs hl he => hkeeps.clean (h.clean hs hl he)
  returned := by rw [hks, hlocked]; exact h.returned
  intruders := hintruders.trans h.intruders

theorem Sealed.route {w : LockoutWorld} (h : w.Sealed) (c : RouteCall) (isConnected : GatewayRef → Bool) :
    LockoutWorld.Sealed { w with
      orchestrator := (w.orchestrator.routeOrder c isConnected).2
      routes := w.routes ++ [{ call := c, phase := (w.orchestrator.routeOrder c isConnected).1 }] } := by
  have hks := w.orchestrator.routeOrder_killSwitch c isConnected
  refine h.of_keeps hks rfl rfl rfl ⟨congrArg EmergencyKillSwitch.gateways hks, fun _ _ _ _ ho => .inr ho, fun _ hf => hf⟩ ?_
  intro hstate task hm hcrossed
  rcases List.mem_append.1 hm with hm | hm
  · exact h.gate hstate task hm hcrossed
  · obtain ⟨exc, hdone⟩ := RiskOrchestrator.routeOrder_panicTriggered hstate c isConnected
    rw [List.mem_singleton.1 hm]
    dsimp only
    rw [hdone]
    rfl

theorem Sealed.answer {w : LockoutWorld} (h : w.Sealed) {r : ℕ} {task : RouteTask} (hr : w.routes[r]? = some task)
    (hdone : ¬ task.phase.isDone = true) (ans : Except Exc ExecutionReport) :
    LockoutWorld.Sealed { w with
      orchestrator := (w.orchestrator.resumeOrder task.call task.phase ans).2
      routes := w.routes.set r
        { task with phase := (w.orchestrator.resumeOrder task.call task.phase ans).1, registered := false } } := by
  have hks := w.orchestrator.resumeOrder_killSwitch task.call task.phase ans
  refine h.of_keeps hks rfl rfl rfl ⟨congrArg EmergencyKillSwitch.gateways hks, fun _ _ _ _ ho => .inr ho, fun _ hf => hf⟩ ?_
  intro hstate task' hm hcrossed
  rcases List.mem_or_eq_of_mem_set hm with hm | rfl
  · exact h.gate hstate task' hm hcrossed
  · exact absurd (h.gate hstate task (List.mem_of_getElem? hr) hcrossed) hdone

theorem Sealed.leave {w : LockoutWorld} (h : w.Sealed) (gw : GatewayRef) (id : String) :
    LockoutWorld.Sealed { w with orders := w.orders.remove gw id } :=
  h.of_keeps rfl rfl rfl rfl ⟨rfl, fun _ _ _ _ ho => .inr (OpenOrders.mem_remove ho).1, fun _ hf => hf⟩ h.gate

theorem Sealed.registerFlat {w : LockoutWorld} (h : w.Sealed) (gw : GatewayRef) (id : String) :
    LockoutWorld.Sealed { w with orders := w.orders.add gw ⟨id, true⟩ } := by
  refine h.of_keeps rfl rfl rfl rfl ⟨rfl, fun _ gw' _ o ho => ?_, fun _ hf => hf⟩ h.gate
  rcases OpenOrders.mem_add ho with ⟨-, rfl⟩ | ho
  · exact .inl rfl
  · exact .inr ho

/-- An order that is registered during a panic was on its way, and the gateway has not listed its orders yet. -/
theorem Sealed.register {w : LockoutWorld} (h : w.Sealed) {r : ℕ} {task : RouteTask} (hr : w.routes[r]? = some task)
    {gw : GatewayRef} {o : Order} (hsub : task.submitting = some (gw, o)) (hadm : w.Admits (.register r)) :
    (w.registered r task gw o).Sealed := by
  have hunread : w.killSwitch.state = .panicTriggered → w.Unread gw := by
    intro hstate
    refine hadm task gw o hr hsub ?_ hstate
    by_contra hcrossed
    have hdone := h.gate hstate task (List.mem_of_getElem? hr) (Bool.eq_false_iff.2 hcrossed)
    rw [RouteTask.submitting_of_isDone hdone] at hsub
    cases hsub
  have hlock : w.killSwitch.state = .panicTriggered → w.killSwitch.lock ≠ none := by
    intro hstate hnone
    obtain ⟨t, -, hl, -⟩ := hunread hstate
    rw [hnone] at hl
    cases hl
  have hopen : w.locked = false := by
    by_contra hlocked
    obtain ⟨hstate, hnone, -⟩ := h.returned (by simpa using hlocked)
    exact hlock hstate hnone
  refine ⟨h.held, h.holder, h.panicking, h.recorded, ?_, ?_, fun hs hn => absurd hn (hlock hs), ?_, ?_⟩
  · intro hstate task' hm hcrossed
    rcases List.mem_or_eq_of_mem_set hm with hm | rfl
    · exact h.gate hstate task' hm hcrossed
    · exact h.gate hstate task (List.mem_of_getElem? hr) hcrossed
  · intro t panic ht hl
    obtain ⟨t', panic', hl', ht', hasks⟩ := hunread (h.panicking (by rw [show w.killSwitch.lock = some t from hl]; nofun))
    obtain rfl : t = t' := Option.some.inj (hl.symm.trans hl')
    obtain rfl : panic = panic' := Option.some.inj (ht.symm.trans ht')
    have hold := h.progress t panic ht hl
    have helsewhere : ∀ {gw' : GatewayRef}, gw' ≠ gw → ∀ o' ∈ (w.orders.add gw ⟨o.clOrdId, false⟩) gw',
        o'.own = true ∨ o' ∈ w.orders gw' := by
      intro gw' hne o' ho
      rcases OpenOrders.mem_add ho with ⟨rfl, -⟩ | ho
      · exact absurd rfl hne
      · exact .inr ho
    by_cases hregistered : ∃ id, w.killSwitch.gateways.get? id = some gw
    · obtain ⟨id, hid⟩ := hregistered
      have hask := hasks id hid
      cases hp : panic.phase with
      | hook i => trivial
      | fetching tasks =>
        rw [hp] at hold hask
        refine ⟨hold.1, fun id' gw' hget hok => ?_⟩
        by_cases hgw : gw' = gw
        · rw [hgw]
          exact .inl hask
        · exact (hold.2 id' gw' hget hok).mono (helsewhere hgw)
      | _ => rw [hp] at hask; cases hask
    · have hkeeps : w.sweep.Keeps (w.registered r task gw o).sweep := by
        refine ⟨rfl, fun id gw' hget => helsewhere ?_, fun _ hf => hf⟩
        rintro rfl
        exact hregistered ⟨id, hget⟩
      exact hkeeps.progress hold
  · intro hl
    rw [show w.locked = true from hl] at hopen
    cases hopen
  · show (if w.locked = true then w.intruders ++ [o.clOrdId] else w.intruders) = []
    rw [hopen]
    exact h.intruders

/-! ## Steps of the switch -/

theorem Sealed.trigger {w : LockoutWorld} (h : w.Sealed) (c : PanicCall) :
    (w.withPanics { w.panicWorld with tasks := w.panics ++ [{ call := c }] }).Sealed := by
  refine ⟨?_, ?_, h.panicking, ?_, h.gate, ?_, h.clean, h.returned, h.intruders⟩
  · intro t task ht
    rcases concat_cases ht with ht | ⟨rfl, rfl⟩
    · exact h.held t task ht
    · exact iff_of_false nofun fun hl => absurd (h.holder _ hl) (lt_irrefl _)
  · intro t hl
    have hlt := h.holder t hl
    refine lt_of_lt_of_eq (Nat.lt_succ_of_lt hlt) (List.length_append.trans ?_).symm
    rfl
  · intro t task i e ht hp
    rcases concat_cases ht with ht | ⟨-, rfl⟩
    · exact h.recorded t task i e ht hp
    · cases hp
  · intro t task ht hl
    rcases concat_cases ht with ht | ⟨-, rfl⟩
    · exact h.progress t task ht hl
    · trivial

/-- An administrator who changes the switch finds no panic at work, and leaves none behind. -/
theorem Sealed.administered {w : LockoutWorld} (h : w.Sealed) {r : Except Exc EmergencyKillSwitch}
    (hfree : ∀ ks, r = .ok ks → w.killSwitch.lock = none)
    (hr : ∀ ks, r = .ok ks → ks.lock = w.killSwitch.lock ∧ ks.lastEvent = w.killSwitch.lastEvent ∧ ks.state ≠ .panicTriggered) :
    (w.administered r).Sealed := by
  cases r with
  | error exc => exact h
  | ok ks =>
    have hnone := hfree ks rfl
    obtain ⟨hlock, hlast, hstate⟩ := hr ks rfl
    have hnone' : ks.lock = none := hlock.trans hnone
    refine ⟨fun t task ht => ?_, fun t hl => ?_, fun hl => absurd hnone' hl, fun t task i e ht hp => ?_,
      fun hs => absurd hs hstate,
      fun t task ht hl => ?_, fun hs => absurd hs hstate, nofun, rfl⟩
    · rw [h.held t task ht]
      show w.killSwitch.lock = some t ↔ ks.lock = some t
      rw [hlock]
    · exact h.holder t (hlock.symm.trans hl)
    · show ks.lastEvent ≠ none
      rw [hlast]
      exact h.recorded t task i e ht hp
    · have hsome : ks.lock = some t := hl
      rw [hnone'] at hsome
      cases hsome

/-- The sweep hears an answer. -/
theorem heard_resumed {w : LockoutWorld} {t : ℕ} {task : PanicTask} {a : PanicAnswer} {r : PanicPhase × EmergencyKillSwitch}
    (ht : w.panics[t]? = some task) (hgateways : r.2.gateways = w.killSwitch.gateways)
    (hbegan : ¬ (w.killSwitch.state ≠ .panicTriggered ∧ r.2.state = .panicTriggered)) (hlists : w.Lists (.panic t a)) :
    w.sweep.Heard (w.resumed task.phase r.1 a (w.panicWorld.resumed t task a r)).sweep task.phase a := by
  have hfailed : (w.resumed task.phase r.1 a (w.panicWorld.resumed t task a r)).failed =
      fun gw => w.failed gw || task.phase.failure a = some gw := if_neg hbegan
  refine ⟨⟨hgateways, ?_, ?_⟩, ?_, ?_, ?_⟩
  · intro _ gw _ o ho
    right
    cases hcancel : task.phase.cancellation a with
    | none =>
      simp only [sweep, resumed, hcancel] at ho
      exact ho
    | some cancel =>
      simp only [sweep, resumed, hcancel] at ho
      exact (OpenOrders.mem_remove ho).1
  · intro gw hok
    simp only [sweep, hfailed, Bool.or_eq_false_iff] at hok
    exact hok.1
  · intro gw hgw
    simp only [sweep, hfailed, hgw, decide_true, Bool.or_true]
  · intro cancel hcancel o ho
    simp only [sweep, resumed, hcancel] at ho
    exact (OpenOrders.mem_remove ho).2 rfl
  · intro tasks j ids fetch hphase ha hfetch
    subst ha
    refine hlists fetch.gateway ?_
    rw [Option.mem_def, asked, ht, Option.map_some, hphase]
    dsimp only
    rw [hfetch]
    rfl

/-- An answer keeps the invariant when the sweep does, and the lock of the gateways. -/
theorem Sealed.resumed {w : LockoutWorld} (h : w.Sealed) {t : ℕ} {task : PanicTask} (ht : w.panics[t]? = some task)
    {a : PanicAnswer} {r : PanicPhase × EmergencyKillSwitch} (hres : Resumed w.killSwitch task.call t task.phase a r)
    {w' : LockoutWorld} (hw : w' = w.resumed task.phase r.1 a (w.panicWorld.resumed t task a r))
    (hgate : r.2.state = .panicTriggered → ∀ task ∈ w'.routes, task.crossed = false → task.phase.isDone = true)
    (hprogress : r.2.lock = some t → w'.sweep.Progress r.1)
    (hothers : ∀ (t' : ℕ) (task' : PanicTask), t ≠ t' → w.panics[t']? = some task' → w.killSwitch.lock = some t' →
      w'.sweep.Progress task'.phase)
    (hclean : r.2.state = .panicTriggered → r.2.lock = none → r.2.lastEvent ≠ none → w'.sweep.Clean)
    (hlocked : w.locked = true → r.2.state = .panicTriggered ∧ r.2.lock = none ∧ r.2.lastEvent ≠ none) : w'.Sealed := by
  have hheld := h.held t task ht
  have hnotifying : ∀ i e, task.phase = .notifying i e → w.killSwitch.lastEvent ≠ none := fun i e => h.recorded t task i e ht
  obtain ⟨hmine, hlock⟩ := hres.lock_iff hheld
  have hlt : t < w.panics.length := (List.getElem?_eq_some_iff.1 ht).1
  subst hw
  refine ⟨?_, ?_, hres.panicking hheld h.panicking, ?_, hgate, ?_, hclean, ?_, h.intruders⟩
  · intro t' task' ht'
    rcases set_cases ht' with ⟨rfl, rfl⟩ | ⟨hne, ht'⟩
    · exact hmine
    · exact (h.held t' task' ht').trans (hlock t' (Ne.symm hne))
  · intro t' hl
    have hlength : (w.panics.set t (task.answered w.killSwitch a r.1)).length = w.panics.length := List.length_set
    refine lt_of_lt_of_eq ?_ hlength.symm
    by_cases hne : t = t'
    · exact hne ▸ hlt
    · exact h.holder t' ((hlock t' (Ne.symm hne)).2 hl)
  · intro t' task' i e ht' hp
    rcases set_cases ht' with ⟨rfl, rfl⟩ | ⟨hne, ht'⟩
    · exact hres.lastEvent_ne (.inr (.inl ⟨i, e, hp⟩)) hnotifying
    · exact hres.lastEvent_ne (.inl (h.recorded t' task' i e ht' hp)) hnotifying
  · intro t' task' ht' hl
    rcases set_cases ht' with ⟨rfl, rfl⟩ | ⟨hne, ht'⟩
    · exact hprogress hl
    · exact hothers t' task' hne ht' ((hlock t' (Ne.symm hne)).2 hl)
  · intro hl
    rcases Bool.or_eq_true_iff.1 hl with hl | hl
    · exact hlocked hl
    · exact hres.of_returned hheld h.panicking hnotifying hl

/-- A panic that begins has swept nothing, and every route is on its way. -/
theorem Sealed.begins {w : LockoutWorld} (h : w.Sealed) {t : ℕ} {task : PanicTask} (ht : w.panics[t]? = some task)
    {a : PanicAnswer} {r : PanicPhase × EmergencyKillSwitch} (hres : Resumed w.killSwitch task.call t task.phase a r)
    (hbegan : w.killSwitch.state ≠ .panicTriggered ∧ r.2.state = .panicTriggered) :
    (w.resumed task.phase r.1 a (w.panicWorld.resumed t task a r)).Sealed := by
  obtain ⟨hlock, hr⟩ : w.killSwitch.lock = none ∧
      r = { w.killSwitch with state := .panicTriggered, lock := some t }.hooksFrom task.call 0 := by
    rcases hres.state_cases with hstate | ⟨-, hlock, -, -, hr⟩
    · rw [hstate] at hbegan
      exact absurd hbegan.2 hbegan.1
    · exact ⟨hlock, hr⟩
  have hprogress : (w.resumed task.phase r.1 a (w.panicWorld.resumed t task a r)).sweep.Progress r.1 := by
    have hgateways : r.2.gateways = w.killSwitch.gateways := hres.gateways_eq
    rw [hr] at hgateways ⊢
    exact Sweep.progress_hooksFrom hgateways task.call 0
  refine h.resumed ht hres rfl ?_ (fun _ => hprogress) ?_ ?_ ?_
  · intro _ route hm hcrossed
    have hroutes : (w.resumed task.phase r.1 a (w.panicWorld.resumed t task a r)).routes =
        w.routes.map fun route => { route with crossed := true } := if_pos hbegan
    rw [hroutes] at hm
    obtain ⟨route', -, rfl⟩ := List.mem_map.1 hm
    cases hcrossed
  · intro t' task' _ _ hl
    rw [hlock] at hl
    cases hl
  · intro _ hnone _
    rcases hres.lock_cases (h.held t task ht) with ⟨-, ⟨-, hl⟩ | ⟨hdone, -⟩⟩ | ⟨hdone, -⟩
    · rw [hnone] at hl
      cases hl
    · exact Sweep.clean_of_progress hprogress (PanicPhase.afterSweep_of_isDone hdone)
    · exact Sweep.clean_of_progress hprogress (PanicPhase.afterSweep_of_isDone hdone)
  · intro hl
    exact absurd (h.returned hl).1 hbegan.1

/-- A panic that does not begin goes on with its sweep, or finds the switch as it is. -/
theorem Sealed.goesOn {w : LockoutWorld} (h : w.Sealed) {t : ℕ} {task : PanicTask} (ht : w.panics[t]? = some task)
    {a : PanicAnswer} {r : PanicPhase × EmergencyKillSwitch}
    (hr : w.killSwitch.resumePanic task.call t task.phase a = some r) (hadm : w.Admits (.panic t a))
    (hlists : w.Lists (.panic t a))
    (hbegan : ¬ (w.killSwitch.state ≠ .panicTriggered ∧ r.2.state = .panicTriggered)) :
    (w.resumed task.phase r.1 a (w.panicWorld.resumed t task a r)).Sealed := by
  have hres := resumed_of_resumePanic hr
  have hheld := h.held t task ht
  have hheard := heard_resumed ht hres.gateways_eq hbegan hlists
  have hstate : r.2.state = w.killSwitch.state := by
    rcases hres.state_cases with hstate | ⟨-, -, harmed, hpanic, -⟩
    · exact hstate
    · exact absurd ⟨by rw [harmed]; nofun, hpanic⟩ hbegan
  have hprogress : task.phase.holds = true → ¬ Sweep.Cuts task.phase a →
      (w.resumed task.phase r.1 a (w.panicWorld.resumed t task a r)).sweep.Progress r.1 := by
    intro hholds hcut
    exact Sweep.progress_resume rfl (h.progress t task ht (hheld.1 hholds)) hholds hheard hcut hr
  refine h.resumed ht hres rfl ?_ ?_ ?_ ?_ ?_
  · intro hpanic
    have hroutes : (w.resumed task.phase r.1 a (w.panicWorld.resumed t task a r)).routes = w.routes := if_neg hbegan
    rw [hroutes]
    exact h.gate (hstate.symm.trans hpanic)
  · intro hl
    by_cases hholds : task.phase.holds = true
    · refine hprogress hholds fun hcut => ?_
      rw [(cuts_resume hcut hr).1] at hl
      cases hl
    · rw [hres.eq_of_not_holds (by simpa using hholds) hstate] at hl
      exact absurd (hheld.2 hl) hholds
  · intro t' task' _ ht' hl
    exact hheard.keeps.progress (h.progress t' task' ht' hl)
  · intro hpanic hnone hlast
    by_cases hholds : task.phase.holds = true
    · have hcut : ¬ Sweep.Cuts task.phase a := by
        intro hcut
        rw [(cuts_resume hcut hr).2] at hlast
        exact hlast (hadm task ht hcut)
      rcases hres.lock_cases hheld with ⟨-, ⟨-, hl⟩ | ⟨hdone, -⟩⟩ | ⟨hdone, -⟩
      · rw [hnone] at hl
        cases hl
      · exact Sweep.clean_of_progress (hprogress hholds hcut) (PanicPhase.afterSweep_of_isDone hdone)
      · exact Sweep.clean_of_progress (hprogress hholds hcut) (PanicPhase.afterSweep_of_isDone hdone)
    · rw [hres.eq_of_not_holds (by simpa using hholds) hstate] at hpanic hnone hlast
      exact hheard.keeps.clean (h.clean hpanic hnone hlast)
  · intro hl
    obtain ⟨hpanic, hnone, hlast⟩ := h.returned hl
    have hholds : task.phase.holds = false := by
      by_contra hnot
      rw [hheld.1 (by simpa using hnot)] at hnone
      cases hnone
    rw [hres.eq_of_not_holds hholds hstate]
    exact ⟨hpanic, hnone, hlast⟩

/-! ## Runs -/

/-- What an answer to a panic does: the switch goes on with the call that awaits it. -/
theorem step_panic {w w' : LockoutWorld} {t : ℕ} {a : PanicAnswer} (hs : w.step (.panic t a) = some w') :
    ∃ task r, w.panics[t]? = some task ∧ w.killSwitch.resumePanic task.call t task.phase a = some r ∧
      w' = w.resumed task.phase r.1 a (w.panicWorld.resumed t task a r) := by
  unfold LockoutWorld.step at hs
  dsimp only at hs
  split at hs
  · rename_i task p ht hstep
    obtain ⟨r, hr, rfl⟩ : ∃ r, w.killSwitch.resumePanic task.call t task.phase a = some r ∧
        w.panicWorld.resumed t task a r = p := by
      have hanswer : ((w.killSwitch.resumePanic task.call t task.phase a).map (w.panicWorld.resumed t task a)) = some p := by
        rw [← hstep]
        unfold PanicWorld.step
        dsimp only [panicWorld]
        rw [ht]
      exact Option.map_eq_some_iff.1 hanswer
    have htask : (w.panicWorld.resumed t task a r).tasks[t]? = some (task.answered w.killSwitch a r.1) :=
      List.getElem?_set_self (List.getElem?_eq_some_iff.1 ht).1
    rw [htask] at hs
    cases hs
    exact ⟨task, r, ht, hr, rfl⟩
  · cases hs

theorem Sealed.step {w w' : LockoutWorld} (h : w.Sealed) {op : LockoutOp} (hadm : w.Admits op) (hlists : w.Lists op)
    (hs : w.step op = some w') : w'.Sealed := by
  unfold LockoutWorld.step at hs
  cases op with
  | route c isConnected =>
    cases hs
    exact h.route c isConnected
  | register r =>
    dsimp only at hs
    split at hs
    · cases hs
    · rename_i task hr
      obtain ⟨⟨gw, o⟩, hsub, rfl⟩ := Option.map_eq_some_iff.1 hs
      exact h.register hr hsub hadm
  | answer r ans =>
    dsimp only at hs
    split at hs
    · cases hs
    · rename_i task hr
      split at hs
      · cases hs
      · cases hs
        exact h.answer hr (by assumption) ans
  | leave gw id =>
    cases hs
    exact h.leave gw id
  | trigger c =>
    cases hs
    exact h.trigger c
  | panic t a =>
    obtain ⟨task, r, ht, hr, rfl⟩ := step_panic hs
    by_cases hbegan : w.killSwitch.state ≠ .panicTriggered ∧ r.2.state = .panicTriggered
    · exact h.begins ht (resumed_of_resumePanic hr) hbegan
    · exact h.goesOn ht hr hadm hlists hbegan
  | registerFlat t j =>
    dsimp only at hs
    split at hs
    · obtain ⟨task, -, rfl⟩ := Option.map_eq_some_iff.1 hs
      exact h.registerFlat _ _
    · cases hs
  | reset token =>
    cases hs
    refine h.administered hadm fun ks hks => ?_
    unfold EmergencyKillSwitch.reset at hks
    split at hks <;> cases hks
    exact ⟨rfl, rfl, nofun⟩
  | arm token =>
    cases hs
    refine h.administered hadm fun ks hks => ?_
    unfold EmergencyKillSwitch.arm at hks
    split at hks <;> cases hks
    exact ⟨rfl, rfl, nofun⟩
  | disarm token =>
    cases hs
    refine h.administered hadm fun ks hks => ?_
    unfold EmergencyKillSwitch.disarm at hks
    split at hks <;> cases hks
    exact ⟨rfl, rfl, nofun⟩

/-- An orchestrator before its first order, with what is open at the gateways. -/
def start (o : RiskOrchestrator) (orders : OpenOrders) : LockoutWorld := { orchestrator := o, orders := orders }

theorem Sealed.start {o : RiskOrchestrator} (hlock : o.killSwitch.lock = none) (hlast : o.killSwitch.lastEvent = none)
    (orders : OpenOrders) : (LockoutWorld.start o orders).Sealed := by
  have hnone : ∀ {t : ℕ} {task : PanicTask}, ([] : List PanicTask)[t]? = some task → False := by
    intro t task ht
    rw [List.getElem?_nil] at ht
    cases ht
  refine ⟨fun t task ht => (hnone ht).elim, fun t hl => ?_, fun hl => absurd hlock hl, fun t task i e ht => (hnone ht).elim,
    fun _ task hm => absurd hm List.not_mem_nil, fun t task ht => (hnone ht).elim, fun _ _ hl => absurd hlast hl, ?_, rfl⟩
  · exact absurd (hlock.symm.trans hl) nofun
  · intro hl
    cases hl

end LockoutWorld

/-- In every run of admitted steps the gateways are locked out once a panic has returned, until an administrator changes the
switch. -/
theorem lockedOut_of_run {o : RiskOrchestrator} (hlock : o.killSwitch.lock = none) (hlast : o.killSwitch.lastEvent = none)
    {orders : OpenOrders} {w : LockoutWorld}
    (hrun : Run (fun w op w' => w.step op = some w') (fun w op => w.Lists op ∧ w.Admits op) (LockoutWorld.start o orders) w)
    (hlocked : w.locked = true) : w.LockedOut := by
  have hsealed : w.Sealed :=
    hrun.invariant (fun w op w' h hcond hs => h.step hcond.2 hcond.1 hs) (LockoutWorld.Sealed.start hlock hlast orders)
  exact hsealed.lockedOut hlocked

/-! ## An order that is on its way during a panic, and one that has arrived -/

namespace LockoutWorld

/-- The world after a step that can be. -/
def next (w : LockoutWorld) (op : LockoutOp) : LockoutWorld := (w.step op).getD w

theorem run_next {cond : LockoutWorld → LockoutOp → Prop} {w₀ w : LockoutWorld}
    (hrun : Run (fun w op w' => w.step op = some w') cond w₀ w) (op : LockoutOp) (hcond : cond w op)
    (h : (w.step op).isSome = true) : Run (fun w op w' => w.step op = some w') cond w₀ (w.next op) := by
  obtain ⟨w', hs⟩ := Option.isSome_iff_exists.1 h
  refine hrun.tail hcond ?_
  rw [next, hs]
  rfl

end LockoutWorld

open LockoutWorld

/-- An operator's panic that cancels. -/
def cancelPanic : PanicCall where
  reason := .manualOperator
  source := "desk"
  timestampNs := 1
  source_ne := Literal.desk_ne
  timestampNs_pos := Nat.one_pos

/-- The wide orchestrator, its gateway registered with the switch. -/
def guardedOrchestrator : RiskOrchestrator :=
  { wideOrchestrator with killSwitch := { adminToken := "T", gateways := Dict.set ∅ "gw" 0 } }

/-- A purchase passes its checks and is submitted. -/
def purchase : LockoutOp := .route { order := atHundred .buy 100 Literal.hundred_pos } fun _ => true

/-- A purchase that is on its way while a panic sweeps an empty gateway. -/
def slipped : LockoutWorld :=
  [.trigger cancelPanic, .panic 0 .acquired, .panic 0 (.orders 0 (.ok [])), .panic 0 (.positions 0 (.ok ∅)),
    .panic 0 .fetched].foldl
    LockoutWorld.next ((start guardedOrchestrator fun _ => []).next purchase)

theorem slipped_run : Run (fun w op w' => w.step op = some w') LockoutWorld.Lists
    (start guardedOrchestrator fun _ => []) slipped := by
  have hrouted : Run (fun w op w' => w.step op = some w') LockoutWorld.Lists (start guardedOrchestrator fun _ => []) _ :=
    run_next Run.refl purchase trivial (by decide)
  have htriggered := run_next hrouted (.trigger cancelPanic) trivial (by decide)
  have hbegun := run_next htriggered (.panic 0 .acquired) trivial (by decide +kernel)
  have hlisted := run_next hbegun (.panic 0 (.orders 0 (.ok []))) (by decide +kernel) (by decide +kernel)
  have hknown := run_next hlisted (.panic 0 (.positions 0 (.ok ∅))) trivial (by decide +kernel)
  exact run_next hknown (.panic 0 .fetched) trivial (by decide +kernel)

/-- The purchase is registered after the panic has returned. -/
theorem not_lockedOut_of_run : ¬ ∀ (o : RiskOrchestrator) (orders : OpenOrders) (w : LockoutWorld),
    o.killSwitch.lock = none → o.killSwitch.lastEvent = none →
    Run (fun w op w' => w.step op = some w') LockoutWorld.Lists (start o orders) w → w.locked = true → w.LockedOut := by
  intro h
  have hentered := run_next slipped_run (.register 0) trivial (by decide +kernel)
  obtain ⟨hclean, -⟩ := h _ _ _ rfl rfl hentered (by decide +kernel)
  cases hclean "gw" 0 (by decide +kernel) (by decide +kernel) ⟨"order", false⟩ (by decide +kernel)

/-- Neither a cancelled task nor a hook that raises. -/
theorem not_cuts {phase : PanicPhase} {a : PanicAnswer} (habort : a ≠ .abort) (hhook : ∀ exc, a ≠ .hook (.error exc)) :
    ¬ Sweep.Cuts phase a := by
  unfold Sweep.Cuts
  split
  · exact absurd rfl (hhook _)
  · exact absurd rfl habort
  · exact absurd rfl habort
  · exact absurd rfl habort
  · exact id

/-- A purchase that is registered before a panic, which cancels it. -/
def caught : LockoutWorld :=
  [purchase, .register 0, .trigger cancelPanic, .panic 0 .acquired, .panic 0 (.orders 0 (.ok ["order"])),
    .panic 0 (.positions 0 (.ok ∅)), .panic 0 .fetched, .panic 0 (.cancelOrder 0 (.ok ())), .panic 0 .cancelled].foldl
    LockoutWorld.next (start guardedOrchestrator fun _ => [])

/-- The panic that has cancelled the purchase locks the gateway out. -/
theorem lockedOut_caught : caught.LockedOut ∧ caught.panics.length = 1 := by
  have hrouted : Run (fun w op w' => w.step op = some w') (fun w op => w.Lists op ∧ w.Admits op)
      (start guardedOrchestrator fun _ => []) _ := run_next Run.refl purchase ⟨trivial, trivial⟩ (by decide)
  have hregistered := run_next hrouted (.register 0)
    ⟨trivial, fun _ _ _ _ _ _ hs => absurd hs (by decide +kernel)⟩ (by decide +kernel)
  have htriggered := run_next hregistered (.trigger cancelPanic) ⟨trivial, trivial⟩ (by decide)
  have hbegun := run_next htriggered (.panic 0 .acquired)
    ⟨trivial, fun _ _ hcut => absurd hcut (not_cuts nofun nofun)⟩ (by decide +kernel)
  have hlisted := run_next hbegun (.panic 0 (.orders 0 (.ok ["order"])))
    ⟨by decide +kernel, fun _ _ hcut => absurd hcut (not_cuts nofun nofun)⟩ (by decide +kernel)
  have hknown := run_next hlisted (.panic 0 (.positions 0 (.ok ∅)))
    ⟨trivial, fun _ _ hcut => absurd hcut (not_cuts nofun nofun)⟩ (by decide +kernel)
  have hfetched := run_next hknown (.panic 0 .fetched)
    ⟨trivial, fun _ _ hcut => absurd hcut (not_cuts nofun nofun)⟩ (by decide +kernel)
  have hcancelled := run_next hfetched (.panic 0 (.cancelOrder 0 (.ok ())))
    ⟨trivial, fun _ _ hcut => absurd hcut (not_cuts nofun nofun)⟩ (by decide +kernel)
  have hended : Run (fun w op w' => w.step op = some w') (fun w op => w.Lists op ∧ w.Admits op)
      (start guardedOrchestrator fun _ => []) caught := run_next hcancelled (.panic 0 .cancelled)
    ⟨trivial, fun _ _ hcut => absurd hcut (not_cuts nofun nofun)⟩ (by decide +kernel)
  exact ⟨lockedOut_of_run rfl rfl hended (by decide +kernel), by decide +kernel⟩

end Quant
