import Quant.Execution.RouteTrace
import Quant.Lemmas.RiskOrchestrator
import Quant.Theorems.SliceMass

/-!
# The fills of a slice

A slice that raises drops the reports it has collected, and one that returns has left out the report of the cancellation and some
reports of the dark order. What the orchestrator books is compared here with what the gateway reported, along every trace.
-/

namespace Quant

open Pylib SmartOrderRouter RiskOrchestrator PortfolioRiskState

/-! ## The lit legs of a trace -/

/-- The report on a submission. -/
def reportOf : RouteEvent → Option ExecutionReport
  | (.submit _, .ok rep) => some rep
  | (.submit _, .error _) => none
  | (.cancel _, _) => none

/-- The reports on the submissions. -/
def reportsOf (evs : List RouteEvent) : List ExecutionReport := evs.filterMap reportOf

@[simp]
theorem reportsOf_nil : reportsOf [] = [] := rfl

@[simp]
theorem reportsOf_submit (o : Order) (rep : ExecutionReport) (evs : List RouteEvent) :
    reportsOf ((.submit o, .ok rep) :: evs) = rep :: reportsOf evs := rfl

@[simp]
theorem reportsOf_failed (o : Order) (exc : Exc) (evs : List RouteEvent) :
    reportsOf ((.submit o, .error exc) :: evs) = reportsOf evs := rfl

@[simp]
theorem reportsOf_cancel (id : String) (ans : Except Exc ExecutionReport) (evs : List RouteEvent) :
    reportsOf ((.cancel id, ans) :: evs) = reportsOf evs := rfl

/-- A call that was answered with a report, and not with a rejection. -/
def accepted : RouteEvent → Bool
  | (.submit _, .ok rep) => rep.execType ≠ .rejected
  | (.cancel _, .ok _) => true
  | (_, .error _) => false

/-- The end of a lit phase: every leg is accepted and the reports are collected, or the slice raises. -/
structure LitOutcome (covered : Prop) (reports : List ExecutionReport) (evs : List RouteEvent)
    (res : Except Exc (List ExecutionReport)) : Prop where
  submits : ∀ e ∈ evs, ∃ o, e.1 = .submit o
  uncovered : ¬ covered → evs = []
  result : (covered ∧ evs.all accepted = true ∧ res = .ok (reports ++ reportsOf evs)) ∨
    (¬ (covered ∧ evs.all accepted = true) ∧ ∃ exc, res = .error exc)

theorem LitOutcome.congr {p q : Prop} (hpq : p ↔ q) {reports : List ExecutionReport} {evs : List RouteEvent}
    {res : Except Exc (List ExecutionReport)} (h : LitOutcome p reports evs res) : LitOutcome q reports evs res := by
  rwa [propext hpq] at h

theorem LitOutcome.returned (reports : List ExecutionReport) : LitOutcome True reports [] (.ok reports) :=
  ⟨by simp, fun _ => rfl, .inl ⟨trivial, rfl, by simp ⟩⟩

theorem LitOutcome.failed (reports : List ExecutionReport) (o : Order) {ans : Except Exc ExecutionReport}
    (h : accepted (.submit o, ans) = false) (exc : Exc) : LitOutcome True reports [(.submit o, ans)] (.error exc) :=
  ⟨by simp, fun hn => absurd trivial hn, .inr ⟨by simp [h], exc, rfl⟩⟩

theorem LitOutcome.cons {reports : List ExecutionReport} {rep : ExecutionReport} {evs : List RouteEvent}
    {res : Except Exc (List ExecutionReport)} (h : LitOutcome True (reports ++ [rep]) evs res)
    (hrej : rep.execType ≠ .rejected) (o : Order) : LitOutcome True reports ((.submit o, .ok rep) :: evs) res := by
  refine ⟨?_, fun hn => absurd trivial hn, ?_⟩
  · intro e he
    rcases List.mem_cons.1 he with rfl | he
    · exact ⟨o, rfl⟩
    · exact h.submits e he
  · rcases h.result with ⟨-, hall, hres⟩ | ⟨hno, hres⟩
    · exact .inl ⟨trivial, by simp [accepted, hrej, hall], by simp [hres]⟩
    · exact .inr ⟨by simpa [accepted, hrej] using hno, hres⟩

theorem SliceTrace.eq_of_done {a : SliceCall} {r : SmartOrderRouter} {res res' : Except Exc (List ExecutionReport)}
    {evs : List RouteEvent} (h : SliceTrace a r (.done res) evs res') : evs = [] ∧ res' = res := by
  cases h with
  | done => exact ⟨rfl, rfl⟩
  | answer hcall => cases hcall

/-- The trace of the legs from the head of their loop. -/
theorem litOutcome_nextLeg {a : SliceCall} (ha : strip a.symbol ≠ "") {r : SmartOrderRouter} {rest : List RoutedVenueOrder}
    {sent : ℕ} {reports : List ExecutionReport} {evs : List RouteEvent} {res : Except Exc (List ExecutionReport)}
    (h : SliceTrace a r (nextLeg a reports sent rest) evs res) : LitOutcome True reports evs res := by
  induction rest generalizing sent reports evs r with
  | nil =>
    obtain ⟨rfl, rfl⟩ := SliceTrace.eq_of_done h
    exact .returned reports
  | cons o rest ih =>
    obtain ⟨child, hleg, -⟩ := nextLeg_cons ha reports sent o rest
    rw [hleg] at h
    cases h with
    | @answer _ _ _ ans evs _ hcall h =>
      cases hcall
      cases ans with
      | error exc =>
        obtain ⟨rfl, rfl⟩ := SliceTrace.eq_of_done h
        exact .failed reports child rfl _
      | ok rep =>
        simp only [resumeSlice] at h
        by_cases hrej : rep.execType = .rejected
        · rw [if_pos hrej] at h
          obtain ⟨rfl, rfl⟩ := SliceTrace.eq_of_done h
          exact .failed reports child (by simp [accepted, hrej]) _
        · rw [if_neg hrej] at h
          exact (ih h).cons hrej child

/-- The residual needs no lit venue, or the lit venues cover it. -/
def Covered (r : SmartOrderRouter) (a : Slice) (unfilled : ℚ) : Prop := unfilled ≤ routingEpsilon ∨ LitCovers r a unfilled

/-- The trace of a lit phase. -/
theorem litOutcome_litPhase {a : SliceCall} {r : SmartOrderRouter} {unfilled : ℚ}
    {reports : List ExecutionReport} {evs : List RouteEvent} {res : Except Exc (List ExecutionReport)}
    (h : SliceTrace a (r.litPhase a unfilled reports).2 (r.litPhase a unfilled reports).1 evs res) :
    LitOutcome (Covered r a.toSlice unfilled) reports evs res := by
  unfold Covered
  unfold litPhase at h
  by_cases hu : unfilled ≤ routingEpsilon
  · rw [if_pos hu] at h
    obtain ⟨rfl, rfl⟩ := SliceTrace.eq_of_done h
    exact (LitOutcome.returned reports).congr (by simp [hu])
  · rw [if_neg hu] at h
    unfold LitCovers
    cases hal : r.computeRoutingAllocation (a.toSlice.withQuantity unfilled) false false with
    | mk al r' =>
      rw [hal] at h
      cases al with
      | error exc =>
        obtain ⟨rfl, rfl⟩ := SliceTrace.eq_of_done h
        exact ⟨by simp, fun _ => rfl, .inr ⟨by simp [hu, Except.isOk, Except.toBool], exc, rfl⟩⟩
      | ok orders =>
        have hsf := sliceFault_of_allocation hal
        exact (litOutcome_nextLeg (symbol_of_sliceFault (a := a.toSlice.withQuantity unfilled) hsf) h).congr
          (by simp [Except.isOk, Except.toBool])

/-! ## What is booked and what was executed -/

/-- The quantity a list of reports shows. -/
def totalOf (reps : List ExecutionReport) : ℚ := (reps.map (fun rep => rep.cumQuantity)).sum

/-- The quantity the orchestrator books from a list of reports: that of the fills. -/
def bookedOf (reps : List ExecutionReport) : ℚ := totalOf (reps.filter isFill)

@[simp]
theorem totalOf_nil : totalOf [] = 0 := rfl

@[simp]
theorem totalOf_cons (rep : ExecutionReport) (reps : List ExecutionReport) :
    totalOf (rep :: reps) = rep.cumQuantity + totalOf reps := by
  simp [totalOf]

@[simp]
theorem bookedOf_nil : bookedOf [] = 0 := rfl

theorem bookedOf_cons (rep : ExecutionReport) (reps : List ExecutionReport) :
    bookedOf (rep :: reps) = (if isFill rep then rep.cumQuantity else 0) + bookedOf reps := by
  by_cases h : isFill rep = true <;> simp [bookedOf, h]

theorem bookedOf_append (reps reps' : List ExecutionReport) : bookedOf (reps ++ reps') = bookedOf reps + bookedOf reps' := by
  simp [bookedOf, totalOf]

theorem bookedOf_nonneg (reps : List ExecutionReport) : 0 ≤ bookedOf reps := by
  induction reps with
  | nil => exact le_rfl
  | cons rep reps ih =>
    have := rep.cumQuantity_nonneg
    rw [bookedOf_cons]
    split <;> linarith

/-- A report shows what it executed in a way the orchestrator books. -/
def shown (rep : ExecutionReport) : Prop := isFill rep = true ∨ rep.cumQuantity = 0

theorem bookedOf_le_totalOf (reps : List ExecutionReport) : bookedOf reps ≤ totalOf reps := by
  induction reps with
  | nil => exact le_rfl
  | cons rep reps ih =>
    have := rep.cumQuantity_nonneg
    rw [bookedOf_cons, totalOf_cons]
    split <;> linarith

theorem bookedOf_eq_totalOf_iff (reps : List ExecutionReport) : bookedOf reps = totalOf reps ↔ ∀ rep ∈ reps, shown rep := by
  induction reps with
  | nil => simp
  | cons rep reps ih =>
    have hnn := rep.cumQuantity_nonneg
    have hle := bookedOf_le_totalOf reps
    rw [bookedOf_cons, totalOf_cons, List.forall_mem_cons, ← ih, shown]
    by_cases hf : isFill rep = true
    · simp [hf]
    · simp only [hf, Bool.false_eq_true, if_false, zero_add, false_or]
      constructor
      · intro h
        exact ⟨by linarith, by linarith⟩
      · rintro ⟨h1, h2⟩
        rw [h1, h2, zero_add]

/-- When every call is a submission, the reports on the submissions show all that was executed. -/
theorem executed_of_submits {evs : List RouteEvent} (h : ∀ e ∈ evs, ∃ o, e.1 = .submit o) :
    executed evs = totalOf (reportsOf evs) := by
  induction evs with
  | nil => rfl
  | cons e evs ih =>
    obtain ⟨call, ans⟩ := e
    obtain ⟨o, rfl⟩ := h _ List.mem_cons_self
    have hrec := ih (fun e he => h e (List.mem_cons_of_mem _ he))
    cases ans with
    | error exc => simpa [executed] using hrec
    | ok rep =>
      have hne : executed ((.submit o, .ok rep) :: evs) = rep.cumQuantity + executed evs := by
        cases evs with
        | nil => rfl
        | cons e evs =>
          obtain ⟨call, ans⟩ := e
          obtain ⟨o', rfl⟩ := h (call, ans) (by simp)
          rfl
      rw [hne, hrec]
      simp

/-- The reports a slice hands on: none when it raises. -/
def collected : Except Exc (List ExecutionReport) → List ExecutionReport
  | .ok reps => reps
  | .error _ => []

/-! ## The dark order of a trace -/

/-- The ends of a slice whose dark order is submitted, by the report on it. -/
inductive DarkOutcome (r : SmartOrderRouter) (a : SliceCall) (o : Order) :
    List RouteEvent → Except Exc (List ExecutionReport) → Prop
  | failed (exc exc' : Exc) : DarkOutcome r a o [(.submit o, .error exc)] (.error exc')
  | rejected {rep : ExecutionReport} (h : rep.execType = .rejected) (exc : Exc) :
      DarkOutcome r a o [(.submit o, .ok rep)] (.error exc)
  | filled {rep : ExecutionReport} (h : rep.execType = .filled) : DarkOutcome r a o [(.submit o, .ok rep)] (.ok [rep])
  | cancelFailed {rep : ExecutionReport} (h : cancels rep) (id : String) (exc exc' : Exc) :
      DarkOutcome r a o [(.submit o, .ok rep), (.cancel id, .error exc)] (.error exc')
  | cancelled {rep : ExecutionReport} (h : cancels rep) (id : String) (rep' : ExecutionReport) {evs : List RouteEvent}
      {res : Except Exc (List ExecutionReport)}
      (hlit : LitOutcome (Covered r a.toSlice (residual a.toSlice rep)) (kept rep) evs res) :
      DarkOutcome r a o ((.submit o, .ok rep) :: (.cancel id, .ok rep') :: evs) res
  | left {rep : ExecutionReport} (h1 : rep.execType ≠ .rejected) (h2 : rep.execType ≠ .filled) {evs : List RouteEvent}
      {res : Except Exc (List ExecutionReport)}
      (hlit : LitOutcome (Covered r a.toSlice (residual a.toSlice rep)) (kept rep) evs res) :
      DarkOutcome r a o ((.submit o, .ok rep) :: evs) res

theorem darkOutcome_of_trace {a : SliceCall} {r : SmartOrderRouter} {vid : String} {o : Order} {evs : List RouteEvent}
    {res : Except Exc (List ExecutionReport)} (h : SliceTrace a r (.darkSubmit vid o) evs res) :
    DarkOutcome r a o evs res := by
  cases h with
  | @answer _ _ _ ans evs _ hcall h =>
    cases hcall
    cases ans with
    | error exc =>
      obtain ⟨rfl, rfl⟩ := SliceTrace.eq_of_done h
      exact .failed exc _
    | ok rep =>
      simp only [resumeSlice] at h
      by_cases h1 : rep.execType = .rejected
      · simp only [afterDark, if_pos h1] at h
        obtain ⟨rfl, rfl⟩ := SliceTrace.eq_of_done h
        exact .rejected h1 _
      by_cases h2 : rep.execType = .filled
      · simp only [afterDark, if_neg h1, if_pos h2] at h
        obtain ⟨rfl, rfl⟩ := SliceTrace.eq_of_done h
        exact .filled h2
      rw [afterDark_eq h1 h2] at h
      by_cases hc : cancels rep
      · rw [if_pos hc] at h
        cases h with
        | @answer _ _ _ ans evs _ hcall h =>
          cases hcall
          cases ans with
          | error exc =>
            obtain ⟨rfl, rfl⟩ := SliceTrace.eq_of_done h
            exact .cancelFailed hc _ exc _
          | ok rep' => exact .cancelled hc _ rep' (litOutcome_litPhase h)
      · rw [if_neg hc] at h
        exact .left h1 h2 (litOutcome_litPhase h)

/-! ## The fills that are lost -/

/-- The dark order executed nothing, or its report is kept. -/
def KeptOrNone (rep : ExecutionReport) : Prop :=
  rep.execType = .filled ∨ routingEpsilon < rep.cumQuantity ∨ rep.cumQuantity = 0

/-- All that the dark order executed is in a report that is kept: the report of its cancellation adds nothing. -/
def DarkShown : List RouteEvent → Prop
  | (.submit _, .ok rep) :: (.cancel _, .ok rep') :: _ => KeptOrNone rep ∧ rep'.cumQuantity = rep.cumQuantity
  | (.submit _, .ok rep) :: _ => KeptOrNone rep
  | _ => True

/-- The lit venues cover what the dark order leaves. -/
def DarkCovered (r : SmartOrderRouter) (a : Slice) : List RouteEvent → Prop
  | (.submit _, .ok rep) :: _ => rep.execType = .filled ∨ Covered r a (residual a rep)
  | _ => True

instance (r : SmartOrderRouter) (a : Slice) (unfilled : ℚ) : Decidable (Covered r a unfilled) :=
  inferInstanceAs (Decidable (_ ∨ _ = true))

instance (r : SmartOrderRouter) (a : Slice) : (evs : List RouteEvent) → Decidable (DarkCovered r a evs)
  | (.submit _, .ok _) :: _ => inferInstanceAs (Decidable (_ ∨ _))
  | (.submit _, .error _) :: _ => isTrue trivial
  | (.cancel _, _) :: _ => isTrue trivial
  | [] => isTrue trivial

/-- Every call was answered with a report and none with a rejection, and the lit venues cover what the dark order leaves. -/
def Returns (r : SmartOrderRouter) (a : Slice) (evs : List RouteEvent) : Prop :=
  evs.all accepted = true ∧ ∀ p ∈ darkChoice r a, DarkCovered p.2 a evs

instance (r : SmartOrderRouter) (a : Slice) (evs : List RouteEvent) : Decidable (Returns r a evs) :=
  inferInstanceAs (Decidable (_ ∧ _))

/-- No branch that loses a fill is taken: nothing was executed, or the slice returns, every child order that executed anything was
reported as filled or partially filled, and the report of a dark order is kept and complete. -/
def NothingLost (r : SmartOrderRouter) (a : Slice) (evs : List RouteEvent) : Prop :=
  executed evs = 0 ∨ (Returns r a evs ∧ (∀ rep ∈ reportsOf evs, shown rep) ∧
    ((darkChoice r a).isSome = true → DarkShown evs))

instance : DecidablePred shown := fun _ => inferInstanceAs (Decidable (_ ∨ _))

instance : DecidablePred KeptOrNone := fun _ => inferInstanceAs (Decidable (_ ∨ _ ∨ _))

instance : (evs : List RouteEvent) → Decidable (DarkShown evs)
  | (.submit _, .ok _) :: (.cancel _, .ok _) :: _ => inferInstanceAs (Decidable (_ ∧ _))
  | (.submit _, .ok _) :: (.cancel _, .error _) :: _ => inferInstanceAs (Decidable (KeptOrNone _))
  | (.submit _, .ok _) :: (.submit _, _) :: _ => inferInstanceAs (Decidable (KeptOrNone _))
  | [(.submit _, .ok _)] => inferInstanceAs (Decidable (KeptOrNone _))
  | (.submit _, .error _) :: _ => isTrue trivial
  | (.cancel _, _) :: _ => isTrue trivial
  | [] => isTrue trivial

instance (r : SmartOrderRouter) (a : Slice) (evs : List RouteEvent) : Decidable (NothingLost r a evs) :=
  inferInstanceAs (Decidable (_ ∨ _ ∧ _ ∧ _))

/-- The reports kept of a slice whose first order is a dark one. -/
def keptReports : List RouteEvent → List ExecutionReport
  | (.submit _, .ok rep) :: evs => (if rep.execType = .filled then [rep] else kept rep) ++ reportsOf evs
  | _ => []

/-- The reports that reach the orchestrator. -/
def handedOn (r : SmartOrderRouter) (a : Slice) (evs : List RouteEvent) : List ExecutionReport :=
  if Returns r a evs then (if (darkChoice r a).isSome then keptReports evs else reportsOf evs) else []

/-- What is booked of a returned slice is between nothing and all that was executed. -/
theorem eq_iff_or {b e : ℚ} {p : Prop} (h0 : 0 ≤ b) (hle : b ≤ e) (h : b = e ↔ p) : b = e ↔ e = 0 ∨ p := by
  rw [← h]
  constructor
  · exact .inr
  · rintro (h | h)
    · linarith
    · exact h

theorem bookedOf_kept_le (rep : ExecutionReport) : bookedOf (kept rep) ≤ rep.cumQuantity := by
  have := rep.cumQuantity_nonneg
  unfold kept
  split
  · rw [bookedOf_cons]
    split <;> simp [this]
  · simpa using this

/-- A report that is kept of the dark order books all it shows exactly when it shows a fill or nothing. -/
theorem bookedOf_kept_iff {rep : ExecutionReport} (h : rep.execType ≠ .filled) :
    bookedOf (kept rep) = rep.cumQuantity ↔ KeptOrNone rep ∧ shown rep := by
  have hnn := rep.cumQuantity_nonneg
  unfold kept KeptOrNone shown
  by_cases hbig : routingEpsilon < rep.cumQuantity
  · have hne : rep.cumQuantity ≠ 0 := fun h0 => by
      have := epsilon_pos
      linarith
    by_cases hf : isFill rep = true <;> simp [hbig, bookedOf_cons, hf, hne, eq_comm]
  · simp only [hbig, if_false, bookedOf_nil, h, false_or]
    constructor
    · intro h0
      exact ⟨h0.symm, .inr h0.symm⟩
    · rintro ⟨h0, -⟩
      exact h0.symm

/-- A lit phase after an execution of `k`, of which no more than that is kept: all is booked exactly when nothing was executed at
all, or the phase returns and everything is shown. -/
theorem LitOutcome.booked_iff {covered : Prop} {reports : List ExecutionReport} {evs : List RouteEvent}
    {res : Except Exc (List ExecutionReport)} (h : LitOutcome covered reports evs res) {k : ℚ} (hk : bookedOf reports ≤ k) :
    bookedOf (collected res) = k + totalOf (reportsOf evs) ↔
      k + totalOf (reportsOf evs) = 0 ∨
        (covered ∧ evs.all accepted = true ∧ bookedOf reports = k ∧ ∀ rep ∈ reportsOf evs, shown rep) := by
  have hle := bookedOf_le_totalOf (reportsOf evs)
  rcases h.result with ⟨hcov, hall, rfl⟩ | ⟨hno, exc, rfl⟩
  · have heq : bookedOf reports + bookedOf (reportsOf evs) = k + totalOf (reportsOf evs) ↔
        bookedOf reports = k ∧ ∀ rep ∈ reportsOf evs, shown rep := by
      rw [← bookedOf_eq_totalOf_iff]
      constructor
      · intro h
        exact ⟨by linarith, by linarith⟩
      · rintro ⟨h1, h2⟩
        rw [h1, h2]
    have hnn := bookedOf_nonneg (reports ++ reportsOf evs)
    simp only [collected, bookedOf_append, hcov, hall, true_and] at hnn ⊢
    exact eq_iff_or hnn (by linarith) heq
  · have hf : ¬ (covered ∧ evs.all accepted = true ∧ bookedOf reports = k ∧ ∀ rep ∈ reportsOf evs, shown rep) :=
      fun h => hno ⟨h.1, h.2.1⟩
    simp only [collected, bookedOf_nil, hf, or_false]
    exact eq_comm

theorem darkShown_of_submits {o : Order} {rep : ExecutionReport} {evs : List RouteEvent}
    (h : ∀ e ∈ evs, ∃ o, e.1 = .submit o) : DarkShown ((.submit o, .ok rep) :: evs) ↔ KeptOrNone rep := by
  cases evs with
  | nil => rfl
  | cons e evs =>
    obtain ⟨call, ans⟩ := e
    obtain ⟨o', rfl⟩ := h _ List.mem_cons_self
    rfl

theorem isResting_ne {rep : ExecutionReport} (h : cancels rep) : rep.execType ≠ .rejected ∧ rep.execType ≠ .filled := by
  have hrest := isResting_of_cancels h
  constructor <;> intro he <;> simp [he, OrderState.isResting] at hrest

theorem returns_of_dark {r r' : SmartOrderRouter} {a : Slice} {v : VenueProfile} (hc : darkChoice r a = some (v, r'))
    (evs : List RouteEvent) : Returns r a evs ↔ evs.all accepted = true ∧ DarkCovered r' a evs := by
  simp [Returns, hc]

/-- A slice with a dark order books all that was executed exactly when nothing is lost. -/
theorem DarkOutcome.booked_iff {r r' : SmartOrderRouter} {a : SliceCall} {v : VenueProfile} {o : Order}
    {evs : List RouteEvent} {res : Except Exc (List ExecutionReport)} (hc : darkChoice r a.toSlice = some (v, r'))
    (h : DarkOutcome r' a o evs res) (hwr : WellReported evs) :
    bookedOf (collected res) = executed evs ↔ NothingLost r a.toSlice evs := by
  unfold NothingLost
  rw [returns_of_dark hc, hc]
  simp only [Option.isSome_some, forall_const]
  cases h with
  | failed exc exc' => simp [collected, executed]
  | rejected h exc => simp [collected, executed, accepted, h, eq_comm]
  | filled h =>
    simp [collected, executed, accepted, h, bookedOf_cons, isFill, shown, DarkShown, KeptOrNone, DarkCovered]
  | cancelFailed h id exc exc' => simp [collected, executed, accepted, eq_comm]
  | @cancelled rep h id rep' evs res hlit =>
    obtain ⟨h1, h2⟩ := isResting_ne h
    have hle : rep.cumQuantity ≤ rep'.cumQuantity := hwr.2.1
    have hkept := bookedOf_kept_le rep
    have hk : bookedOf (kept rep) = rep'.cumQuantity ↔
        (KeptOrNone rep ∧ shown rep) ∧ rep'.cumQuantity = rep.cumQuantity := by
      rw [← bookedOf_kept_iff h2]
      constructor
      · intro hb
        exact ⟨by linarith, by linarith⟩
      · rintro ⟨hb, hr⟩
        rw [hb, hr]
    have hex : executed ((.submit o, .ok rep) :: (.cancel id, .ok rep') :: evs) =
        rep'.cumQuantity + totalOf (reportsOf evs) := by
      rw [executed, executed_of_submits hlit.submits]
    rw [hex, hlit.booked_iff (hkept.trans hle), hk, reportsOf_submit, reportsOf_cancel, List.forall_mem_cons]
    refine or_congr_right ?_
    constructor
    · rintro ⟨hcov, hall, ⟨⟨hkn, hsh⟩, hcum⟩, hshown⟩
      exact ⟨⟨by simpa [accepted, h1] using hall, .inr hcov⟩, ⟨hsh, hshown⟩, hkn, hcum⟩
    · rintro ⟨⟨hall, hcov⟩, ⟨hsh, hshown⟩, hkn, hcum⟩
      exact ⟨hcov.resolve_left h2, by simpa [accepted, h1] using hall, ⟨⟨hkn, hsh⟩, hcum⟩, hshown⟩
  | @left rep h1 h2 evs res hlit =>
    have hall : ∀ e ∈ ((.submit o, .ok rep) :: evs : List RouteEvent), ∃ o, e.1 = .submit o := by
      intro e he
      rcases List.mem_cons.1 he with rfl | he
      · exact ⟨o, rfl⟩
      · exact hlit.submits e he
    rw [executed_of_submits hall, reportsOf_submit, totalOf_cons, hlit.booked_iff (bookedOf_kept_le rep), bookedOf_kept_iff h2,
      List.forall_mem_cons, darkShown_of_submits hlit.submits]
    refine or_congr_right ?_
    constructor
    · rintro ⟨hcov, hall, ⟨hkn, hsh⟩, hshown⟩
      exact ⟨⟨by simpa [accepted, h1] using hall, .inr hcov⟩, ⟨hsh, hshown⟩, hkn⟩
    · rintro ⟨⟨hall, hcov⟩, ⟨hsh, hshown⟩, hkn⟩
      exact ⟨hcov.resolve_left h2, by simpa [accepted, h1] using hall, ⟨hkn, hsh⟩, hshown⟩

theorem returns_of_lit {r : SmartOrderRouter} {a : Slice} (hc : darkChoice r a = none) (evs : List RouteEvent) :
    Returns r a evs ↔ evs.all accepted = true := by
  simp [Returns, hc]

/-- A slice books all that was executed exactly when nothing is lost. -/
theorem slice_booked_iff {r : SmartOrderRouter} {a : SliceCall} (hd : a.enableDark = true) {isConnected : Bool}
    {evs : List RouteEvent} {res : Except Exc (List ExecutionReport)}
    (h : SliceTrace a (r.routeSlice a isConnected).2 (r.routeSlice a isConnected).1 evs res) (hwr : WellReported evs) :
    bookedOf (collected res) = executed evs ↔ NothingLost r a.toSlice evs := by
  cases isConnected with
  | false =>
    obtain ⟨rfl, rfl⟩ := SliceTrace.eq_of_done h
    simp [collected, executed, NothingLost]
  | true =>
    cases hc : darkChoice r a.toSlice with
    | some p =>
      obtain ⟨v, r'⟩ := p
      obtain ⟨child, heq, -⟩ := routeSlice_dark hd hc
      rw [heq] at h
      exact (darkOutcome_of_trace h).booked_iff hc hwr
    | none =>
      have hno : ¬ (true = true ∧ a.enableDark = true ∧ (darkChoice r a.toSlice).isSome = true) := by simp [hc]
      rcases routeSlice_lit hno with ⟨exc, r', heq⟩ | ⟨r', heq⟩
      · rw [heq] at h
        obtain ⟨rfl, rfl⟩ := SliceTrace.eq_of_done h
        simp [collected, executed, NothingLost]
      · rw [heq] at h
        have hlit := litOutcome_litPhase h
        have hiff := hlit.booked_iff (k := 0) le_rfl
        rw [zero_add, ← executed_of_submits hlit.submits] at hiff
        rw [hiff, NothingLost, returns_of_lit hc, hc]
        refine or_congr_right' fun hne => ?_
        have hcov : Covered r' a.toSlice a.quantity := by
          by_contra hno
          exact hne (by rw [hlit.uncovered hno]; rfl)
        simp [hcov]

/-! ## The reports that are handed on -/

theorem LitOutcome.collected_eq {covered : Prop} [Decidable covered] {reports : List ExecutionReport} {evs : List RouteEvent}
    {res : Except Exc (List ExecutionReport)} (h : LitOutcome covered reports evs res) :
    collected res = if covered ∧ evs.all accepted = true then reports ++ reportsOf evs else [] := by
  rcases h.result with ⟨hcov, hall, rfl⟩ | ⟨hno, exc, rfl⟩
  · rw [if_pos ⟨hcov, hall⟩]
    rfl
  · rw [if_neg hno]
    rfl

theorem DarkOutcome.collected_eq {r : SmartOrderRouter} {a : SliceCall} {o : Order} {evs : List RouteEvent}
    {res : Except Exc (List ExecutionReport)} (h : DarkOutcome r a o evs res) :
    collected res = if evs.all accepted = true ∧ DarkCovered r a.toSlice evs then keptReports evs else [] := by
  cases h with
  | failed exc exc' => simp [collected, accepted]
  | rejected h exc => simp [collected, accepted, h]
  | filled h => simp [collected, accepted, h, DarkCovered, keptReports]
  | cancelFailed h id exc exc' => simp [collected, accepted]
  | @cancelled rep h id rep' evs res hlit =>
    obtain ⟨h1, h2⟩ := isResting_ne h
    rw [hlit.collected_eq]
    refine if_congr ?_ (by simp [keptReports, h2]) rfl
    rw [DarkCovered, or_iff_right h2, and_comm]
    simp [accepted, h1]
  | @left rep h1 h2 evs res hlit =>
    rw [hlit.collected_eq]
    refine if_congr ?_ (by simp [keptReports, h2]) rfl
    rw [DarkCovered, or_iff_right h2, and_comm]
    simp [accepted, h1]

/-- The reports a slice hands on, from the answers of the gateway. -/
theorem slice_collected {r : SmartOrderRouter} {a : SliceCall} (hd : a.enableDark = true) {isConnected : Bool}
    {evs : List RouteEvent} {res : Except Exc (List ExecutionReport)}
    (h : SliceTrace a (r.routeSlice a isConnected).2 (r.routeSlice a isConnected).1 evs res) :
    collected res = handedOn r a.toSlice evs := by
  have hnil : handedOn r a.toSlice [] = [] := by simp [handedOn, keptReports]
  cases isConnected with
  | false =>
    obtain ⟨rfl, rfl⟩ := SliceTrace.eq_of_done h
    exact hnil.symm
  | true =>
    cases hc : darkChoice r a.toSlice with
    | some p =>
      obtain ⟨v, r'⟩ := p
      obtain ⟨child, heq, -⟩ := routeSlice_dark hd hc
      rw [heq] at h
      simp only [(darkOutcome_of_trace h).collected_eq, handedOn, returns_of_dark hc, hc, Option.isSome_some, if_true]
    | none =>
      have hno : ¬ (true = true ∧ a.enableDark = true ∧ (darkChoice r a.toSlice).isSome = true) := by simp [hc]
      rcases routeSlice_lit hno with ⟨exc, r', heq⟩ | ⟨r', heq⟩
      · rw [heq] at h
        obtain ⟨rfl, rfl⟩ := SliceTrace.eq_of_done h
        exact hnil.symm
      · rw [heq] at h
        have hlit := litOutcome_litPhase h
        by_cases hcov : Covered r' a.toSlice a.quantity
        · rw [hlit.collected_eq, handedOn]
          exact if_congr (by rw [returns_of_lit hc, and_iff_right hcov]) (by simp [hc]) rfl
        · rw [hlit.collected_eq, if_neg (fun h => hcov h.1), hlit.uncovered hcov, hnil]

end Quant
