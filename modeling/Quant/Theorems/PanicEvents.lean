import Quant.Lemmas.KillSwitch
import Quant.Pylib.Runs

/-!
# The event of a panic

The law of the switch over the interleavings of its panics with the operations on it: a call that ends has returned an event,
unless it was cancelled or found the switch disarmed, and a switch in panic whose lock is free holds the event of the panic that
put it there.
-/

namespace Quant

open Pylib EmergencyKillSwitch

/-! ## The law -/

/-- A call that has ended was cancelled, or found the switch disarmed, or returns an event. -/
def PanicTask.Returned (task : PanicTask) : Prop :=
  ∀ res, task.phase = .done res → task.aborted = true ∨ task.found = some .disarmed ∨ ∃ e, res = .ok e

/-- The event a task has recorded or returned, with what its own call says in it. -/
def PanicTask.Recorded (task : PanicTask) (e : KillSwitchEvent) : Prop :=
  task.event = some e ∧ ∃ count snapshot, e = task.call.event count snapshot

/-- A task that waits for the lock counts one. -/
def PanicTask.waits (task : PanicTask) : ℕ :=
  match task.phase with
  | .waiting => 1
  | _ => 0

theorem waits_of_ne {task : PanicTask} (h : task.phase ≠ .waiting) : task.waits = 0 := by
  unfold PanicTask.waits
  split
  · exact absurd (by assumption) h
  · rfl

namespace PanicWorld

/-- The last event is the one recorded by the panic that put the switch into its state. -/
def Agrees (w : PanicWorld) : Prop :=
  ∃ t task e, w.owner = some t ∧ w.tasks[t]? = some task ∧ task.Recorded e ∧ w.switch.lastEvent = some e

/-- The condition on a step: no answer that a panic does not survive, and no cancellation of a panic that has not recorded its
event while the switch is in the state it put it into. -/
def Admits (w : PanicWorld) : PanicOp → Prop
  | .answer t a => ∀ task, w.tasks[t]? = some task → ¬ w.switch.Breaks task.phase a ∧
      (a = .abort → task.phase.works = true → w.switch.state ≠ .panicTriggered)
  | _ => True

instance (w : PanicWorld) : DecidablePred w.Admits
  | .answer t a =>
    haveI : Decidable (a = .abort) :=
      match a with
      | .abort => isTrue rfl
      | .acquired | .hook _ | .orders _ _ | .positions _ _ | .fetched | .cancelOrder _ _ | .cancelled | .flatPositions _ _
      | .flatOrder _ _ | .flattened | .listener _ => isFalse nofun
    match h : w.tasks[t]? with
    | none => isTrue fun _ ht => nomatch h.symm.trans ht
    | some task =>
      decidable_of_iff (¬ w.switch.Breaks task.phase a ∧
        (a = .abort → task.phase.works = true → w.switch.state ≠ .panicTriggered))
        ⟨fun hadm _ ht => Option.some.inj (h.symm.trans ht) ▸ hadm, fun hadm => hadm task h⟩
  | .trigger _ | .registerGateway _ _ _ | .unregisterGateway _ | .reset _ | .arm _ | .disarm _ => isTrue trivial

/-- An admitted answer, with the registry as it was when the task began to iterate over it. -/
def Answers (w w' : PanicWorld) : Prop :=
  ∃ t a, w.Admits (.answer t a) ∧ (∀ task, w.tasks[t]? = some task → w.switch.Steady task.phase) ∧
    w.step (.answer t a) = some w'

/-- What holds of the switch and its panics. A call that has not ended waits for an answer or for the lock of another one, and no
sequence of answers goes on for ever. -/
structure Lawful (w : PanicWorld) : Prop where
  returned : ∀ (task : PanicTask), task ∈ w.tasks → task.Returned
  agrees : w.switch.state = .panicTriggered → w.switch.lock = none → w.Agrees
  awaits : ∀ (t : ℕ) (task : PanicTask), w.tasks[t]? = some task → task.phase.isDone = false →
    (∃ a, (w.step (.answer t a)).isSome = true) ∨
      ∃ t' task', t' ≠ t ∧ w.switch.lock = some t' ∧ w.tasks[t']? = some task' ∧ task'.phase.holds = true
  ends : Acc (fun w' w => w.Answers w') w

/-! ## The invariant -/

/-- Why the law holds: the lock is held by the task inside it, this task put the switch into its panic, and a task that notifies
has recorded the last event. -/
structure Coherent (w : PanicWorld) : Prop where
  returned : ∀ (t : ℕ) (task : PanicTask), w.tasks[t]? = some task → task.Returned
  held : ∀ (t : ℕ) (task : PanicTask), w.tasks[t]? = some task → (task.phase.holds = true ↔ w.switch.lock = some t)
  holder : ∀ t, w.switch.lock = some t → t < w.tasks.length
  owned : ∀ t, w.switch.lock = some t → w.switch.state = .panicTriggered → w.owner = some t
  recorded : ∀ (t : ℕ) (task : PanicTask) (i : ℕ) (e : KillSwitchEvent), w.tasks[t]? = some task → task.phase = .notifying i e →
    task.Recorded e ∧ w.switch.lastEvent = some e
  fresh : ∀ (t : ℕ) (task : PanicTask), w.tasks[t]? = some task → task.phase = .waiting → task.event = none
  agrees : w.switch.state = .panicTriggered → w.switch.lock = none → w.Agrees

/-- Only the lock, the state and the event of a switch matter. -/
theorem Coherent.congr {w : PanicWorld} (h : w.Coherent) {ks : EmergencyKillSwitch} (hl : ks.lock = w.switch.lock)
    (he : ks.lastEvent = w.switch.lastEvent) (hs : ks.state = .panicTriggered → w.switch.state = .panicTriggered) :
    Coherent { w with switch := ks } where
  returned := h.returned
  held := by simpa [hl] using h.held
  holder := by simpa [hl] using h.holder
  owned t ht hp := h.owned t (hl ▸ ht) (hs hp)
  recorded := by simpa [he] using h.recorded
  fresh := h.fresh
  agrees hp hn := by simpa [Agrees, he] using h.agrees (hs hp) (hl ▸ hn)

theorem Coherent.attempt {w : PanicWorld} (h : w.Coherent) {r : Except Exc EmergencyKillSwitch}
    (hr : ∀ ks, r = .ok ks → ks.lock = w.switch.lock ∧ ks.lastEvent = w.switch.lastEvent ∧
      (ks.state = .panicTriggered → w.switch.state = .panicTriggered)) : (w.attempt r).Coherent := by
  cases r with
  | error exc => exact h
  | ok ks =>
    obtain ⟨hl, he, hs⟩ := hr ks rfl
    exact h.congr hl he hs

/-! ## One answer -/

theorem getElem?_resumed {w : PanicWorld} {t : ℕ} {task : PanicTask} (ht : w.tasks[t]? = some task) (a : PanicAnswer)
    (r : PanicPhase × EmergencyKillSwitch) (t' : ℕ) :
    (w.resumed t task a r).tasks[t']? = if t = t' then some (task.answered w.switch a r.1) else w.tasks[t']? := by
  have hlt : t < w.tasks.length := (List.getElem?_eq_some_iff.1 ht).1
  simp [resumed, List.getElem?_set, hlt]

/-- An answer keeps the invariant when the task it leads on does, and when the switch is as it was or the lock was at most with
this task. -/
theorem Coherent.resumed {w : PanicWorld} (h : w.Coherent) {t : ℕ} {task : PanicTask} (ht : w.tasks[t]? = some task)
    {a : PanicAnswer} {r : PanicPhase × EmergencyKillSwitch} (hret : (task.answered w.switch a r.1).Returned)
    (hheld : r.1.holds = true ↔ r.2.lock = some t)
    (hframe : r.2 = w.switch ∨ ((∀ t' ≠ t, w.switch.lock ≠ some t') ∧ (r.2.lock = some t ∨ r.2.lock = none)))
    (hown : r.2.lock = some t → r.2.state = .panicTriggered → (w.resumed t task a r).owner = some t)
    (hrec : ∀ i e, r.1 = .notifying i e → (task.answered w.switch a r.1).Recorded e ∧ r.2.lastEvent = some e)
    (hfresh : r.1 ≠ .waiting)
    (hagr : r.2.state = .panicTriggered → r.2.lock = none → (w.resumed t task a r).Agrees) :
    (w.resumed t task a r).Coherent where
  returned t' task' ht' := by
    rw [getElem?_resumed ht] at ht'
    split at ht'
    · cases ht'
      exact hret
    · exact h.returned t' task' ht'
  held t' task' ht' := by
    rw [getElem?_resumed ht] at ht'
    split at ht'
    · rename_i heq
      subst heq
      cases ht'
      exact hheld
    · rename_i hne
      rw [h.held t' task' ht']
      rcases hframe with hsame | ⟨hfree, hlock | hlock⟩
      · simp [PanicWorld.resumed, hsame]
      · simp [PanicWorld.resumed, hlock, hne, hfree t' (Ne.symm hne)]
      · simp [PanicWorld.resumed, hlock, hfree t' (Ne.symm hne)]
  holder t' ht' := by
    have hlt : t < w.tasks.length := (List.getElem?_eq_some_iff.1 ht).1
    have hlen : (w.resumed t task a r).tasks.length = w.tasks.length := by simp [PanicWorld.resumed]
    rw [hlen]
    change r.2.lock = some t' at ht'
    rcases hframe with hsame | ⟨-, hlock | hlock⟩
    · exact h.holder t' (hsame ▸ ht')
    · obtain rfl : t = t' := by simpa using hlock.symm.trans ht'
      exact hlt
    · cases hlock.symm.trans ht'
  owned t' ht' hp := by
    change r.2.lock = some t' at ht'
    change r.2.state = .panicTriggered at hp
    by_cases heq : t' = t
    · subst heq
      exact hown ht' hp
    · rcases hframe with hsame | ⟨-, hlock | hlock⟩
      · rw [hsame] at ht' hp
        simpa [PanicWorld.resumed, hp] using h.owned t' ht' hp
      · exact absurd (by simpa using ht'.symm.trans hlock) heq
      · cases hlock.symm.trans ht'
  recorded t' task' i e ht' hp := by
    rw [getElem?_resumed ht] at ht'
    split at ht'
    · cases ht'
      exact hrec i e hp
    · rename_i hne
      have hold := h.recorded t' task' i e ht' hp
      rcases hframe with hsame | ⟨hfree, -⟩
      · exact ⟨hold.1, (congrArg EmergencyKillSwitch.lastEvent hsame).trans hold.2⟩
      · exact absurd ((h.held t' task' ht').1 (by rw [hp]; rfl)) (hfree t' (Ne.symm hne))
  fresh t' task' ht' hp := by
    rw [getElem?_resumed ht] at ht'
    split at ht'
    · cases ht'
      exact absurd hp hfresh
    · exact h.fresh t' task' ht' hp
  agrees := hagr

/-- A task under the lock that goes on, or comes to its event. -/
theorem Coherent.proceeds {w : PanicWorld} (h : w.Coherent) {t : ℕ} {task : PanicTask} (ht : w.tasks[t]? = some task)
    (a : PanicAnswer) {ks : EmergencyKillSwitch} (hks : ks.lock = some t) (hfree : ∀ t' ≠ t, w.switch.lock ≠ some t')
    (hown : w.switch.state = .panicTriggered → w.owner = some t) {r : PanicPhase × EmergencyKillSwitch}
    (hr : Proceeds ks task.call r) : (w.resumed t task a r).Coherent := by
  have hpanic : r.2.state = .panicTriggered → (w.resumed t task a r).owner = some t := by
    intro hp
    by_cases hw : w.switch.state = .panicTriggered
    · simpa [PanicWorld.resumed, hw] using hown hw
    · simp [PanicWorld.resumed, hw, hp]
  cases hr with
  | @works phase hphase =>
    refine h.resumed ht ?_ ?_ (.inr ⟨hfree, .inl hks⟩) (fun _ => hpanic) ?_ ?_ ?_
    · rintro res rfl
      cases hphase
    · simp [PanicPhase.holds_of_works hphase, hks]
    · rintro i e rfl
      cases hphase
    · rintro rfl
      cases hphase
    · intro _ hn
      cases hks.symm.trans hn
  | notifies i count snapshot =>
    refine h.resumed ht ?_ ?_ (.inr ⟨hfree, .inl hks⟩) (fun _ => hpanic) ?_ (by rintro ⟨⟩) ?_
    · rintro res ⟨⟩
    · simp [PanicPhase.holds, hks]
    · rintro i e ⟨⟩
      exact ⟨⟨rfl, count, snapshot, rfl⟩, rfl⟩
    · intro _ hn
      cases hks.symm.trans hn
  | returns count snapshot =>
    refine h.resumed ht ?_ ?_ (.inr ⟨hfree, .inr rfl⟩) (fun _ => hpanic) ?_ (by rintro ⟨⟩) ?_
    · rintro res ⟨⟩
      exact .inr (.inr ⟨_, rfl⟩)
    · simp [PanicPhase.holds]
    · rintro i e ⟨⟩
    · intro hp _
      exact ⟨t, _, _, hpanic hp, (getElem?_resumed ht _ _ _).trans (if_pos rfl), ⟨rfl, count, snapshot, rfl⟩, rfl⟩

/-- A task that ends while the lock is elsewhere, or free. -/
theorem Coherent.ends {w : PanicWorld} (h : w.Coherent) {t : ℕ} {task : PanicTask} (ht : w.tasks[t]? = some task)
    {a : PanicAnswer} {res : Except Exc KillSwitchEvent} (hret : (task.answered w.switch a (.done res)).Returned)
    (hwait : task.phase = .waiting) : (w.resumed t task a (.done res, w.switch)).Coherent := by
  have hnot : w.switch.lock ≠ some t := by
    intro hl
    have := (h.held t task ht).2 hl
    rw [hwait] at this
    cases this
  refine h.resumed ht hret (by simp [PanicPhase.holds, hnot]) (.inl rfl) (fun hl => absurd hl hnot) ?_ nofun ?_
  · rintro i e ⟨⟩
  · intro hp hn
    obtain ⟨t', task', e, howner, ht', hrec, hlast⟩ := h.agrees hp hn
    have hp' : w.switch.state = .panicTriggered := hp
    by_cases heq : t = t'
    · subst heq
      obtain rfl : task = task' := by simpa using ht.symm.trans ht'
      cases (h.fresh t task ht hwait).symm.trans hrec.1
    · exact ⟨t', task', e, by simpa [PanicWorld.resumed, hp'] using howner, by rw [getElem?_resumed ht, if_neg heq]; exact ht',
        hrec, hlast⟩

/-- A task that leaves the lock with an exception or with the event it has recorded. -/
theorem Coherent.leaves {w : PanicWorld} (h : w.Coherent) {t : ℕ} {task : PanicTask} (ht : w.tasks[t]? = some task)
    {a : PanicAnswer} {res : Except Exc KillSwitchEvent} (hret : (task.answered w.switch a (.done res)).Returned)
    (hl : w.switch.lock = some t) (hagr : w.switch.state = .panicTriggered →
      ∃ e, (task.answered w.switch a (.done res)).Recorded e ∧ w.switch.lastEvent = some e) :
    (w.resumed t task a (w.switch.leave res)).Coherent := by
  have hfree : ∀ t' ≠ t, w.switch.lock ≠ some t' := by
    rintro t' hne heq
    exact hne (by simpa using heq.symm.trans hl)
  refine h.resumed ht hret (by simp [PanicPhase.holds, leave]) (.inr ⟨hfree, .inr rfl⟩) nofun nofun nofun ?_
  intro hp _
  have hp' : w.switch.state = .panicTriggered := hp
  obtain ⟨e, hrec, hlast⟩ := hagr hp'
  exact ⟨t, _, e, by simpa [PanicWorld.resumed, hp'] using h.owned t hl hp',
    (getElem?_resumed ht _ _ _).trans (if_pos rfl), hrec, hlast⟩

/-- A task that takes the lock. -/
theorem Coherent.enters {w : PanicWorld} (h : w.Coherent) {t : ℕ} {task : PanicTask} (ht : w.tasks[t]? = some task)
    (hwait : task.phase = .waiting) (hnone : w.switch.lock = none) :
    (w.resumed t task .acquired (w.switch.enter task.call t)).Coherent := by
  cases hstate : w.switch.state with
  | armedStandby =>
    have henter : w.switch.enter task.call t =
        { w.switch with state := .panicTriggered, lock := some t }.hooksFrom task.call 0 := by
      simp only [enter, hstate]
    rw [henter]
    exact h.proceeds ht .acquired rfl (by simp [hnone]) (by simp [hstate]) (hooksFrom_proceeds _ _ 0)
  | panicTriggered =>
    obtain ⟨-, -, e, -, -, -, hlast⟩ := h.agrees hstate hnone
    have henter : w.switch.enter task.call t = (.done (.ok e), w.switch) := by simp only [enter, hstate, hlast]
    rw [henter]
    refine h.ends ht ?_ hwait
    rintro res ⟨⟩
    exact .inr (.inr ⟨e, rfl⟩)
  | disarmed =>
    have henter : w.switch.enter task.call t = (.done (.error disarmedFault), w.switch) := by simp only [enter, hstate]
    rw [henter]
    exact h.ends ht (fun _ _ => .inr (.inl (congrArg some hstate))) hwait

/-- A task that notifies the next listener. -/
theorem Coherent.notifies {w : PanicWorld} (h : w.Coherent) {t : ℕ} {task : PanicTask} (ht : w.tasks[t]? = some task) {i : ℕ}
    {e : KillSwitchEvent} (hphase : task.phase = .notifying i e) (a : PanicAnswer) (j : ℕ) :
    (w.resumed t task a (.notifying j e, w.switch)).Coherent := by
  have hl : w.switch.lock = some t := (h.held t task ht).1 (by rw [hphase]; rfl)
  obtain ⟨hrec, hlast⟩ := h.recorded t task i e ht hphase
  refine h.resumed ht nofun (by simp [PanicPhase.holds, hl]) (.inl rfl) ?_ ?_ nofun ?_
  · intro _ hp
    have hp' : w.switch.state = .panicTriggered := hp
    simpa [PanicWorld.resumed, hp'] using h.owned t hl hp'
  · rintro i e ⟨⟩
    exact ⟨⟨rfl, hrec.2⟩, hlast⟩
  · intro _ hn
    cases hl.symm.trans hn

/-- One admitted answer keeps the invariant. -/
theorem Coherent.answer {w w' : PanicWorld} (h : w.Coherent) {t : ℕ} {a : PanicAnswer} (hadm : w.Admits (.answer t a))
    (hs : w.step (.answer t a) = some w') : w'.Coherent := by
  simp only [PanicWorld.step] at hs
  cases ht : w.tasks[t]? with
  | none =>
    rw [ht] at hs
    cases hs
  | some task =>
    rw [ht] at hs
    obtain ⟨r, hr, rfl⟩ := Option.map_eq_some_iff.1 hs
    obtain ⟨hsurv, habort⟩ := hadm task ht
    have hheld := h.held t task ht
    by_cases hworks : task.phase.works = true
    · have hl : w.switch.lock = some t :=
        hheld.1 (by revert hworks; cases task.phase <;> simp [PanicPhase.works, PanicPhase.holds])
      have hfree : ∀ t' ≠ t, w.switch.lock ≠ some t' := by
        rintro t' hne heq
        exact hne (by simpa using heq.symm.trans hl)
      rcases works_step _ _ hworks hr with hproc | ⟨rfl, rfl⟩ | ⟨hbreak, -⟩
      · exact h.proceeds ht a hl hfree (h.owned t hl) hproc
      · exact h.leaves ht (fun _ _ => .inl rfl) hl fun hp => absurd hp (habort rfl hworks)
      · exact absurd hbreak hsurv
    · cases hphase : task.phase with
      | waiting =>
        rw [hphase] at hr
        rcases waiting_step _ _ hr with ⟨rfl, hnone, rfl⟩ | ⟨rfl, rfl⟩
        · exact h.enters ht hphase hnone
        · exact h.ends ht (fun _ _ => .inl rfl) hphase
      | notifying i e =>
        have hl : w.switch.lock = some t := hheld.1 (by rw [hphase]; rfl)
        obtain ⟨hrec, hlast⟩ := h.recorded t task i e ht hphase
        rw [hphase] at hr hsurv
        rcases notifying_step _ _ hr with ⟨j, rfl⟩ | rfl | ⟨rfl, rfl⟩ | ⟨hbreak, -⟩
        · exact h.notifies ht hphase a j
        · exact h.leaves ht (by rintro res ⟨⟩; exact .inr (.inr ⟨e, rfl⟩)) hl fun _ => ⟨e, ⟨rfl, hrec.2⟩, hlast⟩
        · exact h.leaves ht (fun _ _ => .inl rfl) hl fun _ => ⟨e, ⟨hrec.1, hrec.2⟩, hlast⟩
        · exact absurd hbreak hsurv
      | done res =>
        rw [hphase] at hr
        cases a <;> cases hr
      | _ => exact absurd (by rw [hphase]; rfl) hworks

/-! ## Runs -/

/-- A call that is started waits for the lock. -/
theorem Coherent.trigger {w : PanicWorld} (h : w.Coherent) (c : PanicCall) :
    Coherent { w with tasks := w.tasks ++ [{ call := c }] } := by
  have hold : ∀ {t : ℕ} {task : PanicTask}, (w.tasks ++ [{ call := c }])[t]? = some task →
      w.tasks[t]? = some task ∨ (t = w.tasks.length ∧ task = { call := c }) := by
    intro t task ht
    rw [List.getElem?_append] at ht
    split at ht
    · exact .inl ht
    · rename_i hge
      have h0 : t - w.tasks.length = 0 := by
        have := (List.getElem?_eq_some_iff.1 ht).1
        simp at this
        omega
      rw [h0] at ht
      exact .inr ⟨by omega, by simpa using ht.symm⟩
  refine ⟨?_, ?_, ?_, h.owned, ?_, ?_, ?_⟩
  · intro t task ht
    rcases hold ht with ht | ⟨-, rfl⟩
    · exact h.returned t task ht
    · rintro res ⟨⟩
  · intro t task ht
    rcases hold ht with ht | ⟨rfl, rfl⟩
    · exact h.held t task ht
    · have hnot : w.switch.lock ≠ some w.tasks.length := fun hl => absurd (h.holder _ hl) (lt_irrefl _)
      simp [PanicPhase.holds, hnot]
  · intro t ht
    have := h.holder t ht
    simp only [List.length_append]
    omega
  · intro t task i e ht hp
    rcases hold ht with ht | ⟨-, rfl⟩
    · exact h.recorded t task i e ht hp
    · cases hp
  · intro t task ht hp
    rcases hold ht with ht | ⟨-, rfl⟩
    · exact h.fresh t task ht hp
    · rfl
  · intro hp hn
    obtain ⟨t, task, e, howner, ht, hrec, hlast⟩ := h.agrees hp hn
    have hlt := (List.getElem?_eq_some_iff.1 ht).1
    exact ⟨t, task, e, howner, (List.getElem?_append_left hlt).trans ht, hrec, hlast⟩

/-- Every admitted step keeps the invariant. -/
theorem Coherent.step {w w' : PanicWorld} (h : w.Coherent) {op : PanicOp} (hadm : w.Admits op) (hs : w.step op = some w') :
    w'.Coherent := by
  cases op with
  | trigger c =>
    cases hs
    exact h.trigger c
  | answer t a => exact h.answer hadm hs
  | registerGateway gw gatewayId derived =>
    cases hs
    refine h.attempt fun ks hks => ?_
    unfold EmergencyKillSwitch.registerGateway at hks
    split at hks <;> cases hks
    exact ⟨rfl, rfl, id⟩
  | unregisterGateway gatewayId =>
    cases hs
    refine h.attempt fun ks hks => ?_
    unfold EmergencyKillSwitch.unregisterGateway at hks
    repeat' split at hks
    all_goals cases hks
    exact ⟨rfl, rfl, id⟩
  | reset token =>
    cases hs
    refine h.attempt fun ks hks => ?_
    unfold EmergencyKillSwitch.reset at hks
    split at hks <;> cases hks
    exact ⟨rfl, rfl, nofun⟩
  | arm token =>
    cases hs
    refine h.attempt fun ks hks => ?_
    unfold EmergencyKillSwitch.arm at hks
    split at hks <;> cases hks
    exact ⟨rfl, rfl, nofun⟩
  | disarm token =>
    cases hs
    refine h.attempt fun ks hks => ?_
    unfold EmergencyKillSwitch.disarm at hks
    split at hks <;> cases hks
    exact ⟨rfl, rfl, nofun⟩

/-! ## The end of every call -/

/-- What is left to do: the tasks that wait for the lock, and the way of the one that holds it to its end. -/
def remaining (w : PanicWorld) : ℕ × ℕ × ℕ :=
  ((w.tasks.map PanicTask.waits).sum,
    match w.switch.lock.bind (fun t => w.tasks[t]?) with
    | none => (0, 0)
    | some task => w.switch.remaining task.phase)

/-- One answer leaves less to do. -/
theorem Coherent.answers_nearer {w w' : PanicWorld} (h : w.Coherent) (hans : w.Answers w') :
    Prod.Lex (· < ·) Nearer w'.remaining w.remaining := by
  obtain ⟨t, a, -, hsteady, hs⟩ := hans
  simp only [PanicWorld.step] at hs
  cases ht : w.tasks[t]? with
  | none =>
    rw [ht] at hs
    cases hs
  | some task =>
    rw [ht] at hs
    obtain ⟨r, hr, rfl⟩ := Option.map_eq_some_iff.1 hs
    by_cases hholds : task.phase.holds = true
    · have hl : w.switch.lock = some t := (h.held t task ht).1 hholds
      obtain ⟨hwait, hcounts, hlock⟩ := holds_step _ _ hholds hr
      have hne : task.phase ≠ .waiting := by
        intro heq
        rw [heq] at hholds
        cases hholds
      have hnear := resumePanic_nearer _ _ hne (hsteady task ht) hr
      have hsum : ((w.resumed t task a r).tasks.map PanicTask.waits).sum = (w.tasks.map PanicTask.waits).sum :=
        sum_set_eq PanicTask.waits ht (by rw [waits_of_ne hwait, waits_of_ne hne])
      refine Prod.lex_def.2 (.inr ⟨hsum, ?_⟩)
      simp only [PanicWorld.remaining, hl, Option.bind_some, ht]
      rcases hlock with hlock | hlock
      · have hkeep : (w.resumed t task a r).switch.lock = some t := hlock.trans hl
        simp only [hkeep, Option.bind_some, getElem?_resumed ht, if_true]
        exact (hcounts.remaining_eq r.1).symm ▸ hnear
      · have hfree : (w.resumed t task a r).switch.lock = none := hlock
        simp only [hfree, Option.bind_none]
        exact zero_nearer w.switch hholds
    · cases hphase : task.phase with
      | waiting =>
        refine Prod.lex_def.2 (.inl (sum_set_lt PanicTask.waits ht ?_))
        have hone : task.waits = 1 := by simp [PanicTask.waits, hphase]
        rw [hone, waits_of_ne]
        · exact Nat.one_pos
        rw [hphase] at hr
        rcases waiting_step _ _ hr with ⟨rfl, -, rfl⟩ | ⟨rfl, rfl⟩
        · exact enter_ne_waiting _ _ _
        · rintro ⟨⟩
      | done res =>
        rw [hphase] at hr
        cases a <;> cases hr
      | _ => exact absurd (by rw [hphase]; rfl) hholds

/-- No sequence of admitted answers goes on for ever. -/
theorem Coherent.ends_of_answers {w : PanicWorld} (h : w.Coherent) : Acc (fun w' w => w.Answers w') w := by
  have hwf : WellFounded (InvImage (Prod.Lex (· < ·) Nearer) PanicWorld.remaining) :=
    InvImage.wf _ (WellFounded.prod_lex Nat.lt_wfRel.wf (WellFounded.prod_lex Nat.lt_wfRel.wf Nat.lt_wfRel.wf))
  induction w using hwf.induction with
  | _ w ih =>
    refine Acc.intro w fun w' hans => ih w' (h.answers_nearer hans) ?_
    obtain ⟨t, a, hadm, -, hs⟩ := hans
    exact h.answer hadm hs

/-- The invariant gives the law. -/
theorem Coherent.lawful {w : PanicWorld} (h : w.Coherent) : w.Lawful where
  returned task hm := by
    obtain ⟨t, ht⟩ := List.mem_iff_getElem?.1 hm
    exact h.returned t task ht
  agrees := h.agrees
  awaits t task ht hp := by
    by_cases hl : task.phase = .waiting → w.switch.lock = none
    · obtain ⟨a, ha⟩ := exists_answer w.switch task.call t hp hl
      exact .inl ⟨a, by simpa [PanicWorld.step, ht] using ha⟩
    · obtain ⟨hwait, hne⟩ := Classical.not_imp.1 hl
      obtain ⟨t', ht'⟩ := Option.ne_none_iff_exists'.1 hne
      have hlt := h.holder t' ht'
      have hholds := (h.held t' _ (List.getElem?_eq_getElem hlt)).2 ht'
      refine .inr ⟨t', _, ?_, ht', List.getElem?_eq_getElem hlt, hholds⟩
      rintro rfl
      have hnot := (h.held t' task ht).2 ht'
      rw [hwait] at hnot
      cases hnot
  ends := h.ends_of_answers

/-- A fresh switch that was not created in a panic, with its hooks and listeners. -/
def start (ks : EmergencyKillSwitch) (hooks listeners : ℕ) : PanicWorld :=
  { switch := { ks with schedulerHooks := hooks, panicListeners := listeners } }

theorem Coherent.start {adminToken : String} {initialState : KillSwitchState} {timeout : ℚ} {ks : EmergencyKillSwitch}
    (hks : EmergencyKillSwitch.create adminToken initialState timeout = .ok ks) (hinit : initialState ≠ .panicTriggered)
    (hooks listeners : ℕ) : (PanicWorld.start ks hooks listeners).Coherent := by
  unfold EmergencyKillSwitch.create at hks
  split at hks
  · cases hks
  split at hks
  · cases hks
  cases hks
  have hempty : ∀ {t : ℕ} {task : PanicTask}, ([] : List PanicTask)[t]? = some task → False := by simp
  exact ⟨fun _ _ h => (hempty h).elim, fun _ _ h => (hempty h).elim, nofun, nofun, fun _ _ _ _ h => (hempty h).elim,
    fun _ _ h => (hempty h).elim, fun hp => absurd hp hinit⟩

end PanicWorld

/-- The law holds of every run of admitted steps of a switch that was not created in a panic. -/
theorem panicLawful_of_run {adminToken : String} {initialState : KillSwitchState} {timeout : ℚ} {ks : EmergencyKillSwitch}
    (hks : EmergencyKillSwitch.create adminToken initialState timeout = .ok ks) (hinit : initialState ≠ .panicTriggered)
    {hooks listeners : ℕ} {w : PanicWorld}
    (hrun : Run (fun w op w' => w.step op = some w') PanicWorld.Admits (PanicWorld.start ks hooks listeners) w) :
    w.Lawful :=
  (hrun.invariant (fun _ _ _ h hadm hs => PanicWorld.Coherent.step h hadm hs)
    (PanicWorld.Coherent.start hks hinit hooks listeners)).lawful

/-! ## A switch created in a panic, and one that is not -/

/-- An operator's panic. -/
def operatorPanic : PanicCall where
  reason := .manualOperator
  source := "desk"
  timestampNs := 1
  source_ne := Literal.desk_ne
  timestampNs_pos := Nat.one_pos

/-- A switch without gateways. -/
def bareSwitch (initialState : KillSwitchState) : EmergencyKillSwitch := { adminToken := "T", state := initialState }

theorem bareSwitch_create (initialState : KillSwitchState) :
    EmergencyKillSwitch.create "T" initialState 2 = .ok (bareSwitch initialState) := by
  have htoken : strip "T" = "T" := by decide
  simp [EmergencyKillSwitch.create, htoken, bareSwitch]

/-- The operator's panic waits for the lock. -/
def operatorWorld (initialState : KillSwitchState) : PanicWorld :=
  { PanicWorld.start (bareSwitch initialState) 0 0 with tasks := [{ call := operatorPanic }] }

/-- It takes the lock. -/
theorem operator_run (initialState : KillSwitchState) {cond : PanicWorld → PanicOp → Prop}
    (h1 : cond (PanicWorld.start (bareSwitch initialState) 0 0) (.trigger operatorPanic))
    (h2 : cond (operatorWorld initialState) (.answer 0 .acquired)) :
    Run (fun w op w' => w.step op = some w') cond (PanicWorld.start (bareSwitch initialState) 0 0)
      ((operatorWorld initialState).resumed 0 { call := operatorPanic } .acquired
        ((bareSwitch initialState).enter operatorPanic 0)) :=
  (Run.refl.tail h1 rfl).tail h2 rfl

/-- A panic of a switch that was created in a panic fails with the assertion. -/
theorem not_returned_of_run :
    ¬ ∀ (adminToken : String) (initialState : KillSwitchState) (timeout : ℚ) (ks : EmergencyKillSwitch),
      EmergencyKillSwitch.create adminToken initialState timeout = .ok ks → ∀ (hooks listeners : ℕ) (w : PanicWorld),
      Run (fun w op w' => w.step op = some w') (fun _ _ => True) (PanicWorld.start ks hooks listeners) w →
      ∀ task ∈ w.tasks, task.Returned := by
  intro h
  have hret := h "T" _ 2 _ (bareSwitch_create .panicTriggered) 0 0 _ (operator_run .panicTriggered trivial trivial) _
    List.mem_cons_self
  rcases hret _ rfl with h | h | ⟨e, h⟩ <;> cases h

/-- An operator's panic that flattens. -/
def operatorFlatten : PanicCall := { operatorPanic with panicMode := .cancelAndFlatten }

/-- The panic of a switch with a hook, a listener and a gateway that has an open order and a position: the hook fails, the order
is cancelled, the position flattened. A second panic waits for the lock meanwhile and finds the switch in its panic. -/
def sweepOps : List PanicOp :=
  [.registerGateway 0 (some "alpaca") "", .trigger operatorFlatten, .trigger operatorPanic, .answer 0 .acquired,
    .answer 0 (.hook (.error ⟨.runtimeError, "", []⟩)), .answer 0 (.orders 0 (.ok ["order"])),
    .answer 0 (.positions 0 (.ok (Dict.set ∅ "AAPL" 100))), .answer 0 .fetched, .answer 0 (.cancelOrder 0 (.ok ())),
    .answer 0 .cancelled, .answer 0 (.flatPositions (.ok (Dict.set ∅ "AAPL" 100)) .fail), .answer 0 (.flatOrder 0 (.ok ())),
    .answer 0 .flattened, .answer 0 (.listener (.ok ())), .answer 1 .acquired]

/-- A panic of an armed switch sweeps its gateway, and the law holds: both panics end with the event of the first. -/
theorem panicLawful_operator : ∃ w : PanicWorld, w.Lawful ∧ w.switch.state = .panicTriggered ∧ w.switch.lock = none ∧
    (w.switch.lastEvent.map fun e => (e.cancelledOrdersCount, e.positionsSnapshot.items)) = some (1, [("AAPL", 100)]) ∧
    w.tasks.length = 2 ∧ ∀ task ∈ w.tasks, task.phase.event = w.switch.lastEvent := by
  have hrun : Run (fun w op w' => w.step op = some w') PanicWorld.Admits (PanicWorld.start (bareSwitch .armedStandby) 1 1) _ :=
    Run.of_guarded sweepOps (by decide +kernel)
  exact ⟨_, panicLawful_of_run (bareSwitch_create .armedStandby) nofun hrun,
    by decide +kernel, by decide +kernel, by decide +kernel,
    by decide +kernel, by decide +kernel⟩

end Quant
