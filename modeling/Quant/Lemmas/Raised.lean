import Quant.Execution.RouteTrace
import Quant.Lemmas.RiskOrchestrator
import Quant.Lemmas.Sor

/-!
# What the code raises by itself

Every exception that the routing code raises between two awaits is one that `except Exception` sees: a cancellation can only come
out of an await.
-/

namespace Quant

open Pylib

namespace SmartOrderRouter

theorem create_isException {o : RoutedFields} {exc : Exc} (h : o.create = .error exc) : exc.isException = true := by
  unfold RoutedFields.create at h
  iterate 4
    rcases of_check_error h with rfl | ⟨_, h⟩
    · rfl
  cases h

theorem orderCreate_isException {f : OrderFields} {exc : Exc} (h : f.create = .error exc) : exc.isException = true := by
  unfold OrderFields.create at h
  iterate 9
    rcases of_check_error h with rfl | ⟨_, h⟩
    · rfl
  cases h

theorem venueActive_isException {r : SmartOrderRouter} {vid : String} {now : ℕ} {exc : Exc}
    (h : (r.venueActive vid now).1 = .error exc) : exc.isException = true := by
  unfold venueActive at h
  split at h <;> cases h
  rfl

theorem sliceFault_isException {a : Slice} {exc : Exc} (h : sliceFault a = some exc) : exc.isException = true := by
  unfold sliceFault at h
  repeat' split at h
  all_goals cases h
  all_goals rfl

theorem eligibleDark_isException {q : ℚ} {now : ℕ} {vs : List VenueProfile} {r : SmartOrderRouter} {exc : Exc}
    (h : (eligibleDark q now vs r).1 = .error exc) : exc.isException = true := by
  induction vs generalizing r with
  | nil => cases h
  | cons v vs ih =>
    unfold eligibleDark at h
    split at h
    · rename_i heq
      cases h
      exact venueActive_isException (congrArg Prod.fst heq)
    · split at h
      · rename_i heq
        cases h
        exact ih (congrArg Prod.fst heq)
      · cases h

theorem litCandidates_isException {a : Slice} {vs : List VenueProfile} {r : SmartOrderRouter} {exc : Exc}
    (h : (litCandidates a vs r).1 = .error exc) : exc.isException = true := by
  induction vs generalizing r with
  | nil => cases h
  | cons v vs ih =>
    unfold litCandidates at h
    split at h
    · rename_i heq
      cases h
      exact venueActive_isException (congrArg Prod.fst heq)
    · split at h
      · rename_i heq
        cases h
        exact ih (congrArg Prod.fst heq)
      · split at h <;> cases h

theorem waterfill_isException {a : Slice} {cs : List (VenueProfile × ℚ)} {rem : ℚ} {orders : Dict String RoutedVenueOrder}
    {exc : Exc} (h : waterfill a cs rem orders = .error exc) : exc.isException = true := by
  induction cs generalizing rem orders with
  | nil => cases h
  | cons p cs ih =>
    unfold waterfill at h
    split at h
    · cases h
    · split at h
      · exact ih h
      · split at h
        · rename_i heq
          cases h
          exact create_isException heq
        · exact ih h

theorem litAllocation_isException {r : SmartOrderRouter} {a : Slice} {part : Bool} {exc : Exc}
    (h : (r.litAllocation a part).1 = .error exc) : exc.isException = true := by
  unfold litAllocation at h
  split at h
  · split at h <;> cases h
    rfl
  · split at h
    · rename_i heq
      cases h
      exact litCandidates_isException (congrArg Prod.fst heq)
    · split at h
      · split at h <;> cases h
        rfl
      · split at h
        · rename_i heq
          cases h
          exact waterfill_isException heq
        · split at h <;> cases h
          rfl

theorem allocation_isException {r : SmartOrderRouter} {a : Slice} {dark part : Bool} {exc : Exc}
    (h : (r.computeRoutingAllocation a dark part).1 = .error exc) : exc.isException = true := by
  unfold computeRoutingAllocation at h
  split at h
  · rename_i heq
    cases h
    exact sliceFault_isException heq
  · split at h
    · exact litAllocation_isException h
    · split at h
      · rename_i heq
        cases h
        exact eligibleDark_isException (congrArg Prod.fst heq)
      · split at h
        · exact litAllocation_isException h
        · split at h
          · rename_i heq
            cases h
            exact create_isException heq
          · cases h

/-! ## The awaits of a slice -/

/-- The reports a slice carries with it. -/
def SlicePhase.reports : SlicePhase → List ExecutionReport
  | .darkSubmit _ _ => []
  | .darkCancel _ reports _ => reports
  | .litSubmit _ _ _ _ reports => reports
  | .done (.ok reports) => reports
  | .done (.error _) => []

/-- A slice that goes on by itself: it carries none but given reports, and what it raises is an `Exception`. -/
structure SlicePhase.OnItsOwn (phase : SlicePhase) (given : List ExecutionReport) : Prop where
  reports : ∀ rep ∈ phase.reports, rep ∈ given
  raised : ∀ exc, phase = .done (.error exc) → exc.isException = true

theorem onItsOwn_error {exc : Exc} (h : exc.isException = true) (given : List ExecutionReport) :
    (SlicePhase.done (.error exc)).OnItsOwn given := by
  constructor
  · intro rep hrep
    cases hrep
  · rintro _ ⟨⟩
    exact h

theorem onItsOwn_nextLeg (a : SliceCall) (reports : List ExecutionReport) (sent : ℕ) (rest : List RoutedVenueOrder) :
    (nextLeg a reports sent rest).OnItsOwn reports := by
  cases rest with
  | nil => exact ⟨fun _ hrep => hrep, fun exc h => by cases h⟩
  | cons o rest =>
    unfold nextLeg
    dsimp only
    split
    · rename_i heq
      exact onItsOwn_error (orderCreate_isException heq) _
    · exact ⟨fun _ hrep => hrep, fun exc h => by cases h⟩

theorem onItsOwn_litPhase (r : SmartOrderRouter) (a : SliceCall) (unfilled : ℚ) (reports : List ExecutionReport) :
    (r.litPhase a unfilled reports).1.OnItsOwn reports := by
  unfold litPhase
  split
  · exact ⟨fun _ hrep => hrep, fun exc h => by cases h⟩
  · split
    · rename_i heq
      exact onItsOwn_error (allocation_isException (congrArg Prod.fst heq)) _
    · exact onItsOwn_nextLeg a reports 0 _

theorem SlicePhase.OnItsOwn.mono {phase : SlicePhase} {given given' : List ExecutionReport} (h : phase.OnItsOwn given)
    (hsub : ∀ rep ∈ given, rep ∈ given') : phase.OnItsOwn given' :=
  ⟨fun rep hrep => hsub rep (h.reports rep hrep), h.raised⟩

theorem onItsOwn_routeSlice (r : SmartOrderRouter) (a : SliceCall) (isConnected : Bool) :
    (r.routeSlice a isConnected).1.OnItsOwn [] := by
  unfold routeSlice
  split
  · exact onItsOwn_error rfl _
  · split
    · exact onItsOwn_litPhase r a _ []
    · split
      · rename_i heq
        exact onItsOwn_error (allocation_isException (congrArg Prod.fst heq)) _
      · split
        · exact onItsOwn_litPhase _ a _ []
        · split
          · rename_i heq
            exact onItsOwn_error (orderCreate_isException heq) _
          · exact ⟨fun _ hrep => hrep, fun exc h => by cases h⟩

theorem onItsOwn_afterDark (r : SmartOrderRouter) (a : SliceCall) (vid : String) (o : Order) (rep : ExecutionReport) :
    (r.afterDark a vid o rep).1.OnItsOwn [rep] := by
  have hnil : ∀ {phase : SlicePhase}, phase.OnItsOwn [] → phase.OnItsOwn [rep] := fun h => h.mono (by simp)
  unfold afterDark
  split
  · exact onItsOwn_error rfl _
  · split
    · exact ⟨fun _ hrep => hrep, fun exc h => by cases h⟩
    · split
      · split
        · exact ⟨fun _ hrep => hrep, fun exc h => by cases h⟩
        · exact onItsOwn_litPhase r a _ [rep]
      · split
        · exact ⟨fun _ hrep => absurd hrep List.not_mem_nil, fun exc h => by cases h⟩
        · exact hnil (onItsOwn_litPhase r a _ [])

/-- After a report a slice goes on by itself. -/
theorem onItsOwn_resumeSlice (r : SmartOrderRouter) (a : SliceCall) {phase : SlicePhase} {call : GatewayCall}
    (hcall : phase.call = some call) (rep : ExecutionReport) :
    (r.resumeSlice a phase (.ok rep)).1.OnItsOwn (rep :: phase.reports) := by
  cases phase with
  | done result => cases hcall
  | darkSubmit vid o => exact onItsOwn_afterDark r a vid o rep
  | darkCancel id reports unfilled => exact (onItsOwn_litPhase r a unfilled reports).mono fun _ => List.mem_cons_of_mem _
  | litSubmit vid o rest sent reports =>
    unfold resumeSlice
    dsimp only
    split
    · exact onItsOwn_error rfl _
    · refine (onItsOwn_nextLeg a (reports ++ [rep]) sent rest).mono fun rep' hrep' => ?_
      rcases List.mem_append.1 hrep' with h | h
      · exact List.mem_cons_of_mem _ h
      · rw [List.mem_singleton.1 h]
        exact List.mem_cons_self

theorem wrapFailure_isException (text vid : String) (exc : Exc) : (wrapFailure text vid exc).isException = exc.isException := by
  unfold wrapFailure
  split
  · rename_i h
    rw [h]
    rfl
  · rfl

/-- An await that raises ends the slice, with an exception of the same kind. -/
theorem resumeSlice_error (r : SmartOrderRouter) (a : SliceCall) {phase : SlicePhase} {call : GatewayCall}
    (hcall : phase.call = some call) (exc : Exc) :
    ∃ exc', (r.resumeSlice a phase (.error exc)).1 = .done (.error exc') ∧ exc'.isException = exc.isException := by
  cases phase with
  | done result => cases hcall
  | darkSubmit vid o => exact ⟨_, rfl, wrapFailure_isException _ _ _⟩
  | darkCancel id reports unfilled => exact ⟨_, rfl, rfl⟩
  | litSubmit vid o rest sent reports => exact ⟨_, rfl, wrapFailure_isException _ _ _⟩

end SmartOrderRouter

/-! ## Reconciliation with nothing executed -/

namespace RiskOrchestrator

open PortfolioRiskState

/-- A fill of nothing is not booked. -/
theorem updateFill_zero (s : PortfolioRiskState) {sym : String} (hsym : sym ≠ "") (price : ℚ) (side : OrderSide) :
    ∃ exc, s.updateFill sym 0 price side = (.error exc, s) ∧ exc.isException = true := by
  unfold updateFill
  rw [if_neg hsym]
  exact ⟨_, rfl, rfl⟩

theorem bookFills_unexecuted (c : RouteCall) {reps : List ExecutionReport} (h : ∀ rep ∈ reps, Unexecuted rep)
    (s : PortfolioRiskState) (total : ℚ) :
    bookFills c reps s total = (.ok total, s) ∨
      ∃ exc, bookFills c reps s total = (.error exc, s) ∧ exc.isException = true := by
  induction reps with
  | nil => exact Or.inl rfl
  | cons rep reps ih =>
    obtain ⟨hrep, hreps⟩ := List.forall_mem_cons.1 h
    unfold bookFills
    split
    · obtain ⟨exc, hexc, his⟩ := updateFill_zero s c.order.symbol_ne (bookedPrice s c rep) c.order.side
      rw [hrep.1, hexc]
      exact Or.inr ⟨exc, rfl, his⟩
    · exact ih hreps

/-- A call that ends with an exception of its own gives its reservation back. -/
def EndsRolledBack (s : PortfolioRiskState) (c : RouteCall) (r : Except Exc Routed × PortfolioRiskState) : Prop :=
  ∀ exc, r.1 = .error exc → r.2 = giveBack s c.order.symbol c.order.signedQuantity

theorem endsRolledBack_rollBack (s : PortfolioRiskState) (c : RouteCall) {exc : Exc} (h : exc.isException = true) :
    EndsRolledBack s c (rollBack s c exc) := by
  rintro _ ⟨⟩
  exact if_pos h

theorem endsRolledBack_reconcileReport (s : PortfolioRiskState) (c : RouteCall) {rep : ExecutionReport} (h : Unexecuted rep) :
    EndsRolledBack s c (reconcileReport s c rep) := by
  unfold reconcileReport
  split
  · rintro exc ⟨⟩
  · split
    · obtain ⟨exc, hexc, his⟩ := updateFill_zero s c.order.symbol_ne (bookedPrice s c rep) c.order.side
      have hqty : (if 0 < rep.lastQuantity then rep.lastQuantity else rep.cumQuantity) = 0 := by
        rw [h.1, h.2, ite_self]
      simp only [hqty, hexc]
      exact endsRolledBack_rollBack s c his
    · rintro exc ⟨⟩

theorem endsRolledBack_reconcileSlice (s : PortfolioRiskState) (c : RouteCall) {reps : List ExecutionReport}
    (h : ∀ rep ∈ reps, Unexecuted rep) : EndsRolledBack s c (reconcileSlice s c reps) := by
  unfold reconcileSlice
  rcases bookFills_unexecuted c h s 0 with heq | ⟨exc, heq, his⟩
  · rw [heq]
    rintro exc ⟨⟩
  · rw [heq]
    exact endsRolledBack_rollBack s c his

end RiskOrchestrator

end Quant
