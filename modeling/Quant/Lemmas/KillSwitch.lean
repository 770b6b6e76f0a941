import Mathlib.Tactic.Linarith
import Quant.Execution.PanicTasks
import Quant.Pylib.Lists

/-!
# The steps of a panic

What each answer makes of a panic, once for all phases: it goes on working, it records its event, or it leaves with an exception,
and then the answer was one that no panic survives.
-/

namespace Quant

open Pylib

theorem PanicPhase.holds_of_works {phase : PanicPhase} (h : phase.works = true) : phase.holds = true := by
  cases phase <;> first | rfl | cases h

namespace EmergencyKillSwitch

/-- What an answer makes of a panic, one way for each answer it may wait for. -/
inductive Continues (ks : EmergencyKillSwitch) (c : PanicCall) (t : ℕ) :
    PanicPhase → PanicAnswer → PanicPhase × EmergencyKillSwitch → Prop
  | acquired (hlock : ks.lock = none) : Continues ks c t .waiting .acquired (ks.enter c t)
  | gaveUp : Continues ks c t .waiting .abort (.done (.error cancelledError), ks)
  | hook (i : ℕ) (res : Except Exc Unit) (hexc : ∀ exc, res = .error exc → exc.isException = true) :
      Continues ks c t (.hook i) (.hook res) (ks.hooksFrom c (i + 1))
  | hookBreaks (i : ℕ) (exc : Exc) (hexc : ¬ exc.isException = true) :
      Continues ks c t (.hook i) (.hook (.error exc)) (ks.leave (.error exc))
  | orders {tasks : List FetchTask} {j : ℕ} {gid : String} {gw : GatewayRef} (res : Except Exc (List String))
      (hj : tasks[j]? = some ⟨gid, gw, .orders⟩) :
      Continues ks c t (.fetching tasks) (.orders j res)
        (.fetching (tasks.set j (FetchTask.takeOrders ⟨gid, gw, .orders⟩ res)), ks)
  | positions {tasks : List FetchTask} {j : ℕ} {gid : String} {gw : GatewayRef} {os : Except Exc (List String)}
      (res : Except Exc (Dict String ℚ)) (hj : tasks[j]? = some ⟨gid, gw, .positions os⟩) :
      Continues ks c t (.fetching tasks) (.positions j res)
        (.fetching (tasks.set j (FetchTask.takePositions ⟨gid, gw, .positions os⟩ os res)), ks)
  | fetched {tasks : List FetchTask} (hall : tasks.all FetchTask.isDone = true) :
      Continues ks c t (.fetching tasks) .fetched (ks.cancelFrom c tasks)
  | cancelOrder {tasks : List CancelTask} {snapshot : Dict String ℚ} {j : ℕ} {gw : GatewayRef} {id : String}
      (res : Except Exc Unit) (hj : tasks[j]? = some ⟨gw, id, none⟩) :
      Continues ks c t (.cancelling tasks snapshot) (.cancelOrder j res)
      (.cancelling (tasks.set j ⟨gw, id, some res⟩) snapshot, ks)
  | cancelled {tasks : List CancelTask} (snapshot : Dict String ℚ) (hall : tasks.all (fun t => t.result.isSome) = true) :
      Continues ks c t (.cancelling tasks snapshot) .cancelled
        (ks.afterCancel c (tasks.countP (fun t => succeeded t.result)) snapshot)
  | flatPositions (scan : Scan) (count : ℕ) (snapshot : Dict String ℚ) (res : Except Exc (Dict String ℚ)) (pick : ScanPick) :
      Continues ks c t (.scanning scan count snapshot) (.flatPositions res pick)
      (ks.afterFlatPositions c scan res pick count snapshot)
  | flatOrder {tasks : List FlattenTask} {j : ℕ} {gw : GatewayRef} {o : Order} (count : ℕ) (snapshot : Dict String ℚ)
      (res : Except Exc Unit) (hj : tasks[j]? = some ⟨gw, o, none⟩) :
      Continues ks c t (.flattening tasks count snapshot) (.flatOrder j res)
        (.flattening (tasks.set j ⟨gw, o, some res⟩) count snapshot, ks)
  | flattened {tasks : List FlattenTask} (count : ℕ) (snapshot : Dict String ℚ)
      (hall : tasks.all (fun t => t.result.isSome) = true) :
      Continues ks c t (.flattening tasks count snapshot) .flattened (ks.finish c count snapshot)
  | listener (i : ℕ) (event : KillSwitchEvent) (res : Except Exc Unit)
      (hexc : ∀ exc, res = .error exc → exc.isException = true) :
      Continues ks c t (.notifying i event) (.listener res) (ks.notifyFrom (i + 1) event)
  | listenerBreaks (i : ℕ) (event : KillSwitchEvent) (exc : Exc) (hexc : ¬ exc.isException = true) :
      Continues ks c t (.notifying i event) (.listener (.error exc)) (ks.leave (.error exc))
  | abort {phase : PanicPhase} (hholds : phase.holds = true) :
      Continues ks c t phase .abort (ks.leave (.error cancelledError))

theorem continues_of_resumePanic {ks : EmergencyKillSwitch} {c : PanicCall} {t : ℕ} {phase : PanicPhase} {a : PanicAnswer}
    {r : PanicPhase × EmergencyKillSwitch} (h : ks.resumePanic c t phase a = some r) : ks.Continues c t phase a r := by
  unfold resumePanic at h
  split at h
  · split at h <;> cases h
    exact .acquired (by assumption)
  · cases h
    exact .hook _ _ nofun
  · rename_i i exc
    obtain rfl := Option.some.inj h
    split
    · rename_i hexc
      exact .hook _ _ (by rintro exc' ⟨⟩; exact hexc)
    · rename_i hexc
      exact .hookBreaks i exc hexc
  · split at h <;> cases h
    exact .orders _ (by assumption)
  · split at h <;> cases h
    exact .positions _ (by assumption)
  · split at h <;> cases h
    exact .fetched (by assumption)
  · split at h <;> cases h
    exact .cancelOrder _ (by assumption)
  · split at h <;> cases h
    exact .cancelled _ (by assumption)
  · cases h
    exact .flatPositions _ _ _ _ _
  · split at h <;> cases h
    exact .flatOrder _ _ _ (by assumption)
  · split at h <;> cases h
    exact .flattened _ _ (by assumption)
  · cases h
    exact .listener _ _ _ nofun
  · rename_i i event exc
    obtain rfl := Option.some.inj h
    split
    · rename_i hexc
      exact .listener _ _ _ (by rintro exc' ⟨⟩; exact hexc)
    · rename_i hexc
      exact .listenerBreaks i event exc hexc
  · cases h
  · cases h
    exact .gaveUp
  · rename_i hdone hwaiting
    cases h
    refine .abort ?_
    cases phase with
    | waiting => exact absurd rfl hwaiting
    | done result => exact absurd rfl (hdone result)
    | _ => rfl
  · cases h

/-- The ways on from a phase that works: to another one, with nothing changed, or to the event. -/
inductive Proceeds (ks : EmergencyKillSwitch) (c : PanicCall) : PanicPhase × EmergencyKillSwitch → Prop
  | works {phase : PanicPhase} (h : phase.works = true) : Proceeds ks c (phase, ks)
  | notifies (i count : ℕ) (snapshot : Dict String ℚ) :
      Proceeds ks c (.notifying i (c.event count snapshot), { ks with lastEvent := some (c.event count snapshot) })
  | returns (count : ℕ) (snapshot : Dict String ℚ) :
      Proceeds ks c (.done (.ok (c.event count snapshot)),
        { ks with lastEvent := some (c.event count snapshot), lock := none })

variable (ks : EmergencyKillSwitch) (c : PanicCall)

theorem finish_proceeds (count : ℕ) (snapshot : Dict String ℚ) : Proceeds ks c (ks.finish c count snapshot) := by
  unfold finish notifyFrom
  split
  · exact .notifies _ _ _
  · exact .returns _ _

theorem flattenFrom_proceeds (tasks : List FlattenTask) (count : ℕ) (snapshot : Dict String ℚ) :
    Proceeds ks c (ks.flattenFrom c tasks count snapshot) := by
  unfold flattenFrom
  split
  · exact finish_proceeds ks c count snapshot
  · exact .works rfl

theorem scanFrom_proceeds (size version position : ℕ) (tasks : List FlattenTask) (count : ℕ) (snapshot : Dict String ℚ) :
    Proceeds ks c (ks.scanFrom c size version position tasks count snapshot) := by
  unfold scanFrom
  split
  · exact flattenFrom_proceeds ks c tasks count snapshot
  · exact .works rfl

theorem afterCancel_proceeds (count : ℕ) (snapshot : Dict String ℚ) : Proceeds ks c (ks.afterCancel c count snapshot) := by
  unfold afterCancel
  split
  · exact finish_proceeds ks c count snapshot
  · exact scanFrom_proceeds ks c _ _ _ _ _ _

theorem cancelFrom_proceeds (tasks : List FetchTask) : Proceeds ks c (ks.cancelFrom c tasks) := by
  unfold cancelFrom
  split
  · exact afterCancel_proceeds ks c _ _
  · exact .works rfl

theorem hooksFrom_proceeds (i : ℕ) : Proceeds ks c (ks.hooksFrom c i) := by
  unfold hooksFrom fetchFrom
  split
  · exact .works rfl
  · split
    · exact afterCancel_proceeds ks c _ _
    · exact .works rfl

/-! ## The answers no panic survives -/

/-- The iterator over the registry notices that the registry has changed. -/
def Noticed (scan : Scan) (pick : ScanPick) : Prop :=
  ks.gateways.items.length ≠ scan.size ∨ (ks.registryVersion ≠ scan.version ∧ pick = .fail)

/-- The answers that make a panic fail: a callback or a gateway that raises the exception of a cancellation, positions under a
blank symbol, and a registry that changed under the iteration of the flattening. -/
def Breaks : PanicPhase → PanicAnswer → Prop
  | .hook _, .hook (.error exc) => ¬ exc.isException
  | .notifying _ _, .listener (.error exc) => ¬ exc.isException
  | .scanning scan _ _, .flatPositions r pick =>
    ks.Noticed scan pick ∨
      match r with
      | .error exc => ¬ exc.isException
      | .ok ps => ∃ q, ("", q) ∈ ps.items ∧ 1 / 10 ^ 7 < |q|
  | _, _ => False

instance (scan : Scan) (pick : ScanPick) : Decidable (ks.Noticed scan pick) := inferInstanceAs (Decidable (_ ∨ _ ∧ _))

/-- `Breaks`, as a test. -/
def breaks : PanicPhase → PanicAnswer → Bool
  | .hook _, .hook (.error exc) => !exc.isException
  | .notifying _ _, .listener (.error exc) => !exc.isException
  | .scanning scan _ _, .flatPositions (.error exc) pick => decide (ks.Noticed scan pick) || !exc.isException
  | .scanning scan _ _, .flatPositions (.ok ps) pick =>
    decide (ks.Noticed scan pick) || ps.items.any fun p => p.1 = "" ∧ 1 / 10 ^ 7 < |p.2|
  | _, _ => false

theorem breaks_iff (phase : PanicPhase) (a : PanicAnswer) : ks.breaks phase a = true ↔ ks.Breaks phase a := by
  unfold breaks
  split
  · simp [Breaks]
  · simp [Breaks]
  · simp [Breaks]
  · simp [Breaks]
  · rename_i hhook hnotifying hraised hheld
    refine iff_of_false nofun fun h => ?_
    unfold Breaks at h
    split at h
    · exact hhook _ _ rfl rfl
    · exact hnotifying _ _ _ rfl rfl
    · rename_i r _
      cases r with
      | error exc => exact hraised _ _ _ _ _ rfl rfl
      | ok ps => exact hheld _ _ _ _ _ rfl rfl
    · exact h

instance (phase : PanicPhase) (a : PanicAnswer) : Decidable (ks.Breaks phase a) := decidable_of_iff _ (ks.breaks_iff phase a)

theorem flatOrder_clOrdId_ne (gatewayId sym : String) (qty : ℚ) (counter : ℕ) :
    (flatOrder c gatewayId sym qty counter).clOrdId ≠ "" := by
  unfold flatOrder
  dsimp only
  repeat refine append_ne_empty ?_
  decide

/-- Flattening orders are refused for a blank symbol only. -/
theorem flatOrders_ok (gatewayId : String) (gw : GatewayRef) {l : List (String × ℚ)}
    (h : ¬ ∃ q, ("", q) ∈ l ∧ 1 / 10 ^ 7 < |q|) (tasks : List FlattenTask) :
    ∃ tasks', flatOrders c gatewayId gw l tasks = .ok tasks' := by
  induction l generalizing tasks with
  | nil => exact ⟨tasks, rfl⟩
  | cons p l ih =>
    obtain ⟨sym, qty⟩ := p
    have hrest : ¬ ∃ q, ("", q) ∈ l ∧ 1 / 10 ^ 7 < |q| := fun ⟨q, hq, hlt⟩ => h ⟨q, List.mem_cons_of_mem _ hq, hlt⟩
    unfold flatOrders
    by_cases hq : |qty| ≤ 1 / 10 ^ 7
    · rw [if_pos hq]
      exact ih hrest tasks
    · rw [if_neg hq]
      have hsym : sym ≠ "" := by
        rintro rfl
        exact h ⟨qty, List.mem_cons_self, not_le.1 hq⟩
      have hpos : 0 < |qty| := lt_trans (by norm_num) (not_le.1 hq)
      obtain ⟨o, ho⟩ := OrderFields.exists_create (flatOrder c gatewayId sym qty (tasks.length + 1))
        (flatOrder_clOrdId_ne c _ _ _ _) hsym hpos (fun p hp => by cases hp) rfl rfl rfl rfl rfl
      rw [ho]
      exact ih hrest _

theorem scanNext_proceeds {scan : Scan} {pick : ScanPick} (h : ¬ ks.Noticed scan pick) (tasks : List FlattenTask) (count : ℕ)
    (snapshot : Dict String ℚ) : Proceeds ks c (ks.scanNext c scan tasks pick count snapshot) := by
  unfold Noticed at h
  unfold scanNext
  rw [if_neg fun hne => h (.inl hne)]
  split
  · exact scanFrom_proceeds ks c _ _ _ _ _ _
  · rename_i hv
    cases pick with
    | fail => exact absurd (.inr ⟨hv, rfl⟩) h
    | goTo position => exact scanFrom_proceeds ks c _ _ _ _ _ _

/-- The registry under an iteration decides between going on and leaving. -/
theorem scanNext_cases (scan : Scan) (tasks : List FlattenTask) (pick : ScanPick) (count : ℕ) (snapshot : Dict String ℚ) :
    Proceeds ks c (ks.scanNext c scan tasks pick count snapshot) ∨
      (ks.Noticed scan pick ∧ ∃ exc, ks.scanNext c scan tasks pick count snapshot = ks.leave (.error exc)) := by
  by_cases h : ks.Noticed scan pick
  · refine .inr ⟨h, ?_⟩
    unfold scanNext
    rcases h with h | ⟨hv, rfl⟩
    · exact ⟨_, if_pos h⟩
    · by_cases hs : ks.gateways.items.length ≠ scan.size
      · exact ⟨_, if_pos hs⟩
      · exact ⟨_, by rw [if_neg hs, if_neg hv]⟩
  · exact .inl (scanNext_proceeds ks c h tasks count snapshot)

/-- The answers to the positions of one gateway. -/
theorem afterFlatPositions_cases (scan : Scan) (r : Except Exc (Dict String ℚ)) (pick : ScanPick) (count : ℕ)
    (snapshot : Dict String ℚ) :
    Proceeds ks c (ks.afterFlatPositions c scan r pick count snapshot) ∨
      (ks.Breaks (.scanning scan count snapshot) (.flatPositions r pick) ∧
        ∃ exc, ks.afterFlatPositions c scan r pick count snapshot = ks.leave (.error exc)) := by
  unfold afterFlatPositions Breaks
  cases r with
  | error exc =>
    by_cases hexc : exc.isException = true
    · simp only [hexc, if_true]
      exact (scanNext_cases ks c scan scan.tasks pick count snapshot).imp_right fun h => ⟨.inl h.1, h.2⟩
    · simp only [hexc]
      exact .inr ⟨.inr (by simp), _, rfl⟩
  | ok ps =>
    by_cases hblank : ∃ q, ("", q) ∈ ps.items ∧ 1 / 10 ^ 7 < |q|
    · cases hfl : flatOrders c scan.gatewayId scan.gateway ps.items scan.tasks with
      | error exc => exact .inr ⟨.inr hblank, exc, by simp only [hfl]⟩
      | ok tasks =>
        simp only [hfl]
        exact (scanNext_cases ks c scan tasks pick count snapshot).imp_right fun h => ⟨.inl h.1, h.2⟩
    · obtain ⟨tasks, hfl⟩ := flatOrders_ok c scan.gatewayId scan.gateway hblank scan.tasks
      simp only [hfl]
      exact (scanNext_cases ks c scan tasks pick count snapshot).imp_right fun h => ⟨.inl h.1, h.2⟩

/-- A step of a phase that works. -/
theorem works_step {t : ℕ} {phase : PanicPhase} {a : PanicAnswer} {r : PanicPhase × EmergencyKillSwitch}
    (hp : phase.works = true) (h : ks.resumePanic c t phase a = some r) :
    Proceeds ks c r ∨ (a = .abort ∧ r = ks.leave (.error cancelledError)) ∨
      (ks.Breaks phase a ∧ ∃ exc, r = ks.leave (.error exc)) := by
  cases continues_of_resumePanic h with
  | acquired => cases hp
  | gaveUp => cases hp
  | listener => cases hp
  | listenerBreaks => cases hp
  | hook i res hexc => exact .inl (hooksFrom_proceeds ks c _)
  | hookBreaks i exc hexc => exact .inr (.inr ⟨hexc, exc, rfl⟩)
  | orders => exact .inl (.works rfl)
  | positions => exact .inl (.works rfl)
  | fetched => exact .inl (cancelFrom_proceeds ks c _)
  | cancelOrder => exact .inl (.works rfl)
  | cancelled => exact .inl (afterCancel_proceeds ks c _ _)
  | flatPositions scan count snapshot res pick =>
    exact (afterFlatPositions_cases ks c scan res pick count snapshot).imp_right .inr
  | flatOrder => exact .inl (.works rfl)
  | flattened => exact .inl (finish_proceeds ks c _ _)
  | abort => exact .inr (.inl ⟨rfl, rfl⟩)

/-- A step of the notification. -/
theorem notifying_step {t i : ℕ} {event : KillSwitchEvent} {a : PanicAnswer} {r : PanicPhase × EmergencyKillSwitch}
    (h : ks.resumePanic c t (.notifying i event) a = some r) :
    (∃ j, r = (.notifying j event, ks)) ∨ r = ks.leave (.ok event) ∨
      (a = .abort ∧ r = ks.leave (.error cancelledError)) ∨
      (ks.Breaks (.notifying i event) a ∧ ∃ exc, r = ks.leave (.error exc)) := by
  cases continues_of_resumePanic h with
  | listener i event res hexc =>
    unfold notifyFrom
    split
    · exact .inl ⟨_, rfl⟩
    · exact .inr (.inl rfl)
  | listenerBreaks i event exc hexc => exact .inr (.inr (.inr ⟨hexc, exc, rfl⟩))
  | abort => exact .inr (.inr (.inl ⟨rfl, rfl⟩))

/-- A step of a task that waits for the lock. -/
theorem waiting_step {t : ℕ} {a : PanicAnswer} {r : PanicPhase × EmergencyKillSwitch}
    (h : ks.resumePanic c t .waiting a = some r) :
    (a = .acquired ∧ ks.lock = none ∧ r = ks.enter c t) ∨ (a = .abort ∧ r = (.done (.error cancelledError), ks)) := by
  cases continues_of_resumePanic h with
  | acquired hlock => exact .inl ⟨rfl, hlock, rfl⟩
  | gaveUp => exact .inr ⟨rfl, rfl⟩
  | abort hholds => cases hholds

/-! ## The way to the end -/

/-- The answers a fetching child task still waits for. -/
def fetchSteps (t : FetchTask) : ℕ :=
  match t.stage with
  | .orders => 2
  | .positions _ => 1
  | .done _ _ => 0
  | .broken _ => 0

theorem takeOrders_steps (gid : String) (gw : GatewayRef) (r : Except Exc (List String)) :
    fetchSteps (FetchTask.takeOrders ⟨gid, gw, .orders⟩ r) < fetchSteps ⟨gid, gw, .orders⟩ := by
  cases r with
  | ok ids => exact Nat.one_lt_two
  | error exc => by_cases hexc : exc.isException = true <;> simp [FetchTask.takeOrders, fetchSteps, hexc]

theorem takePositions_steps (gid : String) (gw : GatewayRef) (os : Except Exc (List String))
    (r : Except Exc (Dict String ℚ)) :
    fetchSteps (FetchTask.takePositions ⟨gid, gw, .positions os⟩ os r) < fetchSteps ⟨gid, gw, .positions os⟩ := by
  cases r with
  | ok ps => exact Nat.one_pos
  | error exc => by_cases hexc : exc.isException = true <;> simp [FetchTask.takePositions, fetchSteps, hexc]

/-- The answer a child task with a result no longer waits for. -/
def resultSteps (r : Option (Except Exc Unit)) : ℕ := if r.isSome then 0 else 1

/-- How far a phase is from the end: its stage, and the answers it may still take in it. -/
def remaining : PanicPhase → ℕ × ℕ
  | .waiting => (7, 0)
  | .hook i => (6, ks.schedulerHooks - i)
  | .fetching tasks => (5, (tasks.map fetchSteps).sum)
  | .cancelling tasks _ => (4, (tasks.map fun t => resultSteps t.result).sum)
  | .scanning scan _ _ => (3, ks.gateways.items.length - scan.position)
  | .flattening tasks _ _ => (2, (tasks.map fun t => resultSteps t.result).sum)
  | .notifying i _ => (1, ks.panicListeners - i)
  | .done _ => (0, 0)

theorem sum_set_lt {α : Type*} (f : α → ℕ) {l : List α} {j : ℕ} {x y : α} (h : l[j]? = some y) (hlt : f x < f y) :
    ((l.set j x).map f).sum < (l.map f).sum := by
  have := sum_set f x h
  omega

theorem sum_set_eq {α : Type*} (f : α → ℕ) {l : List α} {j : ℕ} {x y : α} (h : l[j]? = some y) (heq : f x = f y) :
    ((l.set j x).map f).sum = (l.map f).sum := by
  have := sum_set f x h
  omega

/-- One phase is nearer to the end than another. -/
def Nearer (p q : ℕ × ℕ) : Prop := Prod.Lex (· < ·) (· < ·) p q

theorem nearer_of_stage {p q : ℕ × ℕ} (h : p.1 < q.1) : Nearer p q := Prod.lex_def.2 (.inl h)

theorem nearer_of_steps {s m n : ℕ} (h : m < n) : Nearer (s, m) (s, n) := Prod.lex_def.2 (.inr ⟨rfl, h⟩)

theorem notifyFrom_remaining (i : ℕ) (event : KillSwitchEvent) :
    (ks.remaining (ks.notifyFrom i event).1).1 = 0 ∨
      (i < ks.panicListeners ∧ (ks.notifyFrom i event).1 = .notifying i event) := by
  unfold notifyFrom
  split
  · exact .inr ⟨by assumption, rfl⟩
  · exact .inl rfl

theorem finish_stage (count : ℕ) (snapshot : Dict String ℚ) : (ks.remaining (ks.finish c count snapshot).1).1 ≤ 1 := by
  unfold finish notifyFrom
  split
  · exact le_rfl
  · exact Nat.zero_le 1

theorem flattenFrom_stage (tasks : List FlattenTask) (count : ℕ) (snapshot : Dict String ℚ) :
    (ks.remaining (ks.flattenFrom c tasks count snapshot).1).1 ≤ 2 := by
  unfold flattenFrom
  split
  · exact (finish_stage ks c count snapshot).trans (by decide)
  · exact le_rfl

theorem scanFrom_remaining (size version position : ℕ) (tasks : List FlattenTask) (count : ℕ) (snapshot : Dict String ℚ) :
    (ks.remaining (ks.scanFrom c size version position tasks count snapshot).1).1 ≤ 2 ∨
      (position < ks.gateways.items.length ∧ ks.remaining (ks.scanFrom c size version position tasks count snapshot).1 =
        (3, ks.gateways.items.length - position)) := by
  unfold scanFrom
  split
  · exact .inl (flattenFrom_stage ks c tasks count snapshot)
  · rename_i hget
    exact .inr ⟨(List.getElem?_eq_some_iff.1 hget).1, rfl⟩

theorem afterCancel_stage (count : ℕ) (snapshot : Dict String ℚ) :
    (ks.remaining (ks.afterCancel c count snapshot).1).1 ≤ 3 := by
  unfold afterCancel
  split
  · exact (finish_stage ks c count snapshot).trans (by decide)
  · rcases scanFrom_remaining ks c ks.gateways.items.length ks.registryVersion 0 [] count snapshot with h | ⟨-, h⟩
    · omega
    · rw [h]

theorem cancelFrom_stage (tasks : List FetchTask) : (ks.remaining (ks.cancelFrom c tasks).1).1 ≤ 4 := by
  unfold cancelFrom
  split
  · exact (afterCancel_stage ks c _ _).trans (by decide)
  · exact le_rfl

theorem hooksFrom_remaining (i : ℕ) : (ks.remaining (ks.hooksFrom c i).1).1 ≤ 5 ∨
    (i < ks.schedulerHooks ∧ (ks.hooksFrom c i).1 = .hook i) := by
  unfold hooksFrom fetchFrom
  split
  · exact .inr ⟨by assumption, rfl⟩
  · left
    split
    · exact (afterCancel_stage ks c _ _).trans (by decide)
    · exact le_rfl

theorem hooksFrom_nearer (i : ℕ) : Nearer (ks.remaining (ks.hooksFrom c (i + 1)).1) (ks.remaining (.hook i)) := by
  rcases hooksFrom_remaining ks c (i + 1) with h | ⟨hlt, heq⟩
  · exact nearer_of_stage (Nat.lt_succ_of_le h)
  · rw [heq]
    exact nearer_of_steps (by omega)

theorem zero_nearer {phase : PanicPhase} (h : phase.holds = true) : Nearer (0, 0) (ks.remaining phase) := by
  refine nearer_of_stage ?_
  cases phase <;> simp [remaining, PanicPhase.holds] at h ⊢

theorem notifyFrom_nearer (i : ℕ) (event : KillSwitchEvent) :
    Nearer (ks.remaining (ks.notifyFrom (i + 1) event).1) (ks.remaining (.notifying i event)) := by
  rcases notifyFrom_remaining ks (i + 1) event with h | ⟨hlt, heq⟩
  · exact nearer_of_stage (by rw [h]; exact Nat.one_pos)
  · rw [heq]
    exact nearer_of_steps (by omega)

/-- The iteration over a registry that has not changed. -/
theorem scanNext_nearer {scan : Scan} (hv : ks.registryVersion = scan.version) (tasks : List FlattenTask) (pick : ScanPick)
    (count count' : ℕ) (snapshot snapshot' : Dict String ℚ) :
    Nearer (ks.remaining (ks.scanNext c scan tasks pick count snapshot).1)
      (ks.remaining (.scanning scan count' snapshot')) := by
  unfold scanNext
  split
  · exact nearer_of_stage (by simp [leave, remaining])
  · rcases scanFrom_remaining ks c scan.size scan.version (scan.position + 1) tasks count snapshot with h | ⟨hlt, heq⟩
    · exact nearer_of_stage (Nat.lt_succ_of_le h)
    · rw [heq]
      exact nearer_of_steps (by omega)

/-- The registry is as it was when the phase began to iterate over it. -/
def Steady : PanicPhase → Prop
  | .scanning scan _ _ => ks.registryVersion = scan.version
  | _ => True

/-- Whoever leaves is at the end. -/
theorem leave_nearer {phase : PanicPhase} (hp : phase.holds = true) (res : Except Exc KillSwitchEvent) :
    Nearer (ks.remaining (ks.leave res).1) (ks.remaining phase) := by
  cases phase with
  | waiting => cases hp
  | done res => cases hp
  | _ => exact nearer_of_stage (by simp [leave, remaining])

/-- Every answer to a task under the lock brings it nearer to its end. -/
theorem resumePanic_nearer {t : ℕ} {phase : PanicPhase} {a : PanicAnswer} {r : PanicPhase × EmergencyKillSwitch}
    (hp : phase ≠ .waiting) (hs : ks.Steady phase) (h : ks.resumePanic c t phase a = some r) :
    Nearer (ks.remaining r.1) (ks.remaining phase) := by
  cases continues_of_resumePanic h with
  | acquired => exact absurd rfl hp
  | gaveUp => exact absurd rfl hp
  | hook i res hexc => exact hooksFrom_nearer ks c i
  | hookBreaks i exc hexc => exact ks.leave_nearer rfl _
  | orders res hj => exact nearer_of_steps (sum_set_lt fetchSteps hj (takeOrders_steps _ _ res))
  | positions res hj => exact nearer_of_steps (sum_set_lt fetchSteps hj (takePositions_steps _ _ _ res))
  | fetched => exact nearer_of_stage (Nat.lt_succ_of_le (cancelFrom_stage ks c _))
  | cancelOrder res hj =>
    exact nearer_of_steps (sum_set_lt (fun t : CancelTask => resultSteps t.result) hj Nat.one_pos)
  | cancelled => exact nearer_of_stage (Nat.lt_succ_of_le (afterCancel_stage ks c _ _))
  | flatPositions scan count snapshot res pick =>
    unfold afterFlatPositions
    cases res with
    | error exc =>
      dsimp only
      split
      · exact scanNext_nearer ks c hs _ _ _ _ _ _
      · exact ks.leave_nearer rfl _
    | ok ps =>
      dsimp only
      split
      · exact ks.leave_nearer rfl _
      · exact scanNext_nearer ks c hs _ _ _ _ _ _
  | flatOrder count snapshot res hj =>
    exact nearer_of_steps (sum_set_lt (fun t : FlattenTask => resultSteps t.result) hj Nat.one_pos)
  | flattened => exact nearer_of_stage (Nat.lt_succ_of_le (finish_stage ks c _ _))
  | listener i event res hexc => exact notifyFrom_nearer ks i event
  | listenerBreaks i event exc hexc => exact ks.leave_nearer rfl _
  | abort hholds => exact ks.leave_nearer hholds _

/-- Nothing a phase counts its answers by has changed. -/
def SameCounts (ks' : EmergencyKillSwitch) : Prop :=
  ks'.gateways = ks.gateways ∧ ks'.schedulerHooks = ks.schedulerHooks ∧ ks'.panicListeners = ks.panicListeners

theorem SameCounts.remaining_eq {ks ks' : EmergencyKillSwitch} (h : ks.SameCounts ks') (phase : PanicPhase) :
    ks'.remaining phase = ks.remaining phase := by
  obtain ⟨hg, hh, hl⟩ := h
  cases phase <;> simp [remaining, hg, hh, hl]

/-- A task under the lock keeps the counts, keeps the lock or leaves it, and never waits for it again. -/
theorem holds_step {t : ℕ} {phase : PanicPhase} {a : PanicAnswer} {r : PanicPhase × EmergencyKillSwitch}
    (hp : phase.holds = true) (h : ks.resumePanic c t phase a = some r) :
    r.1 ≠ .waiting ∧ ks.SameCounts r.2 ∧ (r.2.lock = ks.lock ∨ r.2.lock = none) := by
  have hleave : ∀ res, r = ks.leave res → r.1 ≠ .waiting ∧ ks.SameCounts r.2 ∧ (r.2.lock = ks.lock ∨ r.2.lock = none) := by
    rintro res rfl
    exact ⟨nofun, ⟨rfl, rfl, rfl⟩, .inr rfl⟩
  by_cases hworks : phase.works = true
  · rcases works_step ks c hworks h with hproc | ⟨-, heq⟩ | ⟨-, exc, heq⟩
    · cases hproc with
      | works hw =>
        refine ⟨?_, ⟨rfl, rfl, rfl⟩, .inl rfl⟩
        rintro rfl
        cases hw
      | notifies i count snapshot => exact ⟨nofun, ⟨rfl, rfl, rfl⟩, .inl rfl⟩
      | returns count snapshot => exact ⟨nofun, ⟨rfl, rfl, rfl⟩, .inr rfl⟩
    · exact hleave _ heq
    · exact hleave _ heq
  · cases phase with
    | notifying i event =>
      rcases notifying_step ks c h with ⟨j, rfl⟩ | heq | ⟨-, heq⟩ | ⟨-, exc, heq⟩
      · exact ⟨nofun, ⟨rfl, rfl, rfl⟩, .inl rfl⟩
      · exact hleave _ heq
      · exact hleave _ heq
      · exact hleave _ heq
    | waiting => cases hp
    | done res => cases hp
    | _ => exact absurd rfl hworks

theorem enter_ne_waiting (t : ℕ) : (ks.enter c t).1 ≠ .waiting := by
  unfold enter
  split
  · nofun
  · split <;> nofun
  · have hproc := hooksFrom_proceeds { ks with state := .panicTriggered, lock := some t } c 0
    intro heq
    revert hproc
    generalize EmergencyKillSwitch.hooksFrom { ks with state := .panicTriggered, lock := some t } c 0 = r at heq
    rintro (@⟨phase, hw⟩ | _ | _)
    · cases heq.symm
      cases hw
    · cases heq
    · cases heq

/-- A task that has not ended waits for some answer, the one that waits for the lock when the lock is free. -/
theorem exists_answer (t : ℕ) {phase : PanicPhase} (hp : phase.isDone = false) (hl : phase = .waiting → ks.lock = none) :
    ∃ a, (ks.resumePanic c t phase a).isSome = true := by
  cases phase with
  | waiting =>
    refine ⟨.acquired, ?_⟩
    have := hl rfl
    simp [resumePanic, this]
  | hook i => exact ⟨.hook (.ok ()), rfl⟩
  | fetching tasks =>
    by_cases hall : tasks.all FetchTask.isDone = true
    · exact ⟨.fetched, by unfold resumePanic; simp [hall]⟩
    · obtain ⟨task, hm, hnot⟩ : ∃ task ∈ tasks, task.isDone = false := by simpa using hall
      obtain ⟨j, hget⟩ := List.mem_iff_getElem?.1 hm
      obtain ⟨gid, gw, stage⟩ := task
      cases stage with
      | orders => exact ⟨.orders j (.ok []), by unfold resumePanic; simp [hget]⟩
      | positions os => exact ⟨.positions j (.ok ∅), by unfold resumePanic; simp [hget]⟩
      | done os ps => cases hnot
      | broken exc => cases hnot
  | cancelling tasks snapshot =>
    by_cases hall : tasks.all (fun t => t.result.isSome) = true
    · exact ⟨.cancelled, by unfold resumePanic; simp [hall]⟩
    · obtain ⟨task, hm, hnot⟩ : ∃ task ∈ tasks, task.result = none := by simpa using hall
      obtain ⟨j, hget⟩ := List.mem_iff_getElem?.1 hm
      obtain ⟨gw, id, result⟩ := task
      obtain rfl : result = none := hnot
      exact ⟨.cancelOrder j (.ok ()), by unfold resumePanic; simp [hget]⟩
  | scanning scan count snapshot => exact ⟨.flatPositions (.ok ∅) .fail, rfl⟩
  | flattening tasks count snapshot =>
    by_cases hall : tasks.all (fun t => t.result.isSome) = true
    · exact ⟨.flattened, by unfold resumePanic; simp [hall]⟩
    · obtain ⟨task, hm, hnot⟩ : ∃ task ∈ tasks, task.result = none := by simpa using hall
      obtain ⟨j, hget⟩ := List.mem_iff_getElem?.1 hm
      obtain ⟨gw, o, result⟩ := task
      obtain rfl : result = none := hnot
      exact ⟨.flatOrder j (.ok ()), by unfold resumePanic; simp [hget]⟩
  | notifying i event => exact ⟨.listener (.ok ()), rfl⟩
  | done res => cases hp

end EmergencyKillSwitch

end Quant
