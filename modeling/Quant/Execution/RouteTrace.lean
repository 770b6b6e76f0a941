import Quant.Execution.RiskOrchestrator

/-!
# Traces of a routed order

A call of `route_order` or of `route_slice` from an await to its end, as the calls it makes on the gateway with their answers. The
answers are arbitrary; what a gateway promises about them is stated where it is used.
-/

namespace Quant

open Pylib SmartOrderRouter
open SmartOrderRouter RiskOrchestrator

/-- A call on the gateway and its answer. -/
abbrev RouteEvent := GatewayCall × Except Exc ExecutionReport

/-- The traces of a slice. -/
inductive SliceTrace (a : SliceCall) :
    SmartOrderRouter → SlicePhase → List RouteEvent → Except Exc (List ExecutionReport) → Prop
  | done {r : SmartOrderRouter} {res : Except Exc (List ExecutionReport)} : SliceTrace a r (.done res) [] res
  | answer {r : SmartOrderRouter} {phase : SlicePhase} {call : GatewayCall} {ans : Except Exc ExecutionReport}
      {evs : List RouteEvent} {res : Except Exc (List ExecutionReport)} (hcall : phase.call = some call)
      (h : SliceTrace a (r.resumeSlice a phase ans).2 (r.resumeSlice a phase ans).1 evs res) :
      SliceTrace a r phase ((call, ans) :: evs) res

/-- The call an order awaits. -/
def RoutePhase.call (order : Order) : RoutePhase → Option GatewayCall
  | .direct _ => some (.submit order)
  | .slice _ _ phase => phase.call
  | .done _ => none

/-- The traces of an order, with the orchestrator at the end. -/
inductive RouteTrace (c : RouteCall) :
    RiskOrchestrator → RoutePhase → List RouteEvent → RiskOrchestrator → Except Exc Routed → Prop
  | done {o : RiskOrchestrator} {res : Except Exc Routed} : RouteTrace c o (.done res) [] o res
  | answer {o o' : RiskOrchestrator} {phase : RoutePhase} {call : GatewayCall} {ans : Except Exc ExecutionReport}
      {evs : List RouteEvent} {res : Except Exc Routed} (hcall : phase.call c.order = some call)
      (h : RouteTrace c (o.resumeOrder c phase ans).2 (o.resumeOrder c phase ans).1 evs o' res) :
      RouteTrace c o phase ((call, ans) :: evs) o' res

/-- A call that has ended. -/
def RoutePhase.isDone : RoutePhase → Bool
  | .done _ => true
  | _ => false

/-- Follow a call with given answers: the calls it makes, the orchestrator and the phase they lead to. -/
def follow (c : RouteCall) : RiskOrchestrator → RoutePhase → List (Except Exc ExecutionReport) →
    List RouteEvent × RiskOrchestrator × RoutePhase
  | o, phase, [] => ([], o, phase)
  | o, phase, ans :: answers =>
    match phase.call c.order with
    | none => ([], o, phase)
    | some call =>
      let after := follow c (o.resumeOrder c phase ans).2 (o.resumeOrder c phase ans).1 answers
      ((call, ans) :: after.1, after.2)

/-- Answers that lead a call to its end give a trace of it. -/
theorem routeTrace_follow {c : RouteCall} {o : RiskOrchestrator} {phase : RoutePhase}
    {answers : List (Except Exc ExecutionReport)} (h : (follow c o phase answers).2.2.isDone = true) :
    ∃ res, RouteTrace c o phase (follow c o phase answers).1 (follow c o phase answers).2.1 res := by
  have hdone : ∀ {o : RiskOrchestrator} {phase : RoutePhase}, phase.isDone = true → ∃ res, RouteTrace c o phase [] o res := by
    intro o phase h
    cases phase with
    | done res => exact ⟨res, .done⟩
    | direct gw => cases h
    | slice gw call phase => cases h
  induction answers generalizing o phase with
  | nil => exact hdone h
  | cons ans answers ih =>
    unfold follow at h ⊢
    cases hcall : phase.call c.order with
    | none =>
      rw [hcall] at h
      exact hdone h
    | some call =>
      rw [hcall] at h
      obtain ⟨res, htr⟩ := ih h
      exact ⟨res, .answer hcall htr⟩

/-! ## What the gateway reported -/

/-- The quantity the gateway's reports show as executed: the last report of each child order counts, and the report of a
cancellation, which follows the order it cancels, comes after that of its submission. -/
def executed : List RouteEvent → ℚ
  | [] => 0
  | (.submit _, .ok _) :: (.cancel _, .ok rep') :: evs => rep'.cumQuantity + executed evs
  | (.submit _, .ok rep) :: evs => rep.cumQuantity + executed evs
  | _ :: evs => executed evs

/-- Reports a gateway may give: one of a fill shows a quantity, and one of a cancellation no less than the one before it. -/
def WellReported : List RouteEvent → Prop
  | [] => True
  | (.submit _, .ok rep) :: (.cancel id, .ok rep') :: evs =>
    (isFill rep = true → 0 < rep.cumQuantity) ∧ rep.cumQuantity ≤ rep'.cumQuantity ∧
      WellReported ((.cancel id, .ok rep') :: evs)
  | (.submit _, .ok rep) :: evs => (isFill rep = true → 0 < rep.cumQuantity) ∧ WellReported evs
  | _ :: evs => WellReported evs

instance decidableWellReported : (evs : List RouteEvent) → Decidable (WellReported evs)
  | [] => isTrue trivial
  | (.submit _, .ok rep) :: (.cancel id, .ok rep') :: evs =>
    have := decidableWellReported ((.cancel id, .ok rep') :: evs)
    inferInstanceAs (Decidable ((isFill rep = true → 0 < rep.cumQuantity) ∧ _ ∧ _))
  | (.submit _, .ok rep) :: (.cancel id, .error exc) :: evs =>
    have := decidableWellReported ((.cancel id, .error exc) :: evs)
    inferInstanceAs (Decidable ((isFill rep = true → 0 < rep.cumQuantity) ∧ _))
  | (.submit _, .ok rep) :: (.submit o, ans) :: evs =>
    have := decidableWellReported ((.submit o, ans) :: evs)
    inferInstanceAs (Decidable ((isFill rep = true → 0 < rep.cumQuantity) ∧ _))
  | [(.submit _, .ok rep)] => inferInstanceAs (Decidable ((isFill rep = true → 0 < rep.cumQuantity) ∧ True))
  | (.submit _, .error _) :: evs => decidableWellReported evs
  | (.cancel _, _) :: evs => decidableWellReported evs

/-!
## A routed order among other changes of the portfolio

A call of `route_order` as the others on the event loop see it: while it waits, other tasks book fills, reserve leaves and move
prices. Beside the portfolio runs the one that would be there had the call not been made, under the same changes.
-/

/-- A change that another task makes to the portfolio. -/
inductive PortfolioChange where
  | cash (delta : ℚ)
  | position (sym : String) (qty : ℚ)
  | leaves (sym : String) (qty : Option ℚ)
  | price (sym : String) (value : ℚ)
  | peak (equity : ℚ)

namespace PortfolioChange

/-- The portfolio after a change. -/
def apply (s : PortfolioRiskState) : PortfolioChange → PortfolioRiskState
  | .cash delta => { s with cash := s.cash + delta }
  | .position sym qty => { s with positions := s.positions.set sym qty }
  | .leaves sym (some qty) => { s with pendingLeaves := s.pendingLeaves.set sym qty }
  | .leaves sym none => { s with pendingLeaves := s.pendingLeaves.erase sym }
  | .price sym value => { s with currentPrices := s.currentPrices.set sym value }
  | .peak equity => { s with peakEquity := equity }

/-- A change that leaves the position and the leaves of a symbol alone. -/
def Elsewhere (sym : String) : PortfolioChange → Prop
  | .position sym' _ => sym' ≠ sym
  | .leaves sym' _ => sym' ≠ sym
  | _ => True

end PortfolioChange

/-- The traces of an order among changes of other symbols and other uses of the router: the orchestrator and the portfolio without
the call, at the start and at the end. -/
inductive SharedTrace (c : RouteCall) : RiskOrchestrator → PortfolioRiskState → RoutePhase → List RouteEvent →
    RiskOrchestrator → PortfolioRiskState → Except Exc Routed → Prop
  | done {o : RiskOrchestrator} {without : PortfolioRiskState} {res : Except Exc Routed} :
      SharedTrace c o without (.done res) [] o without res
  | answer {o o' : RiskOrchestrator} {without without' : PortfolioRiskState} {phase : RoutePhase} {call : GatewayCall}
      {ans : Except Exc ExecutionReport} {evs : List RouteEvent} {res : Except Exc Routed}
      (hcall : phase.call c.order = some call)
      (h : SharedTrace c (o.resumeOrder c phase ans).2 without (o.resumeOrder c phase ans).1 evs o' without' res) :
      SharedTrace c o without phase ((call, ans) :: evs) o' without' res
  | change {o o' : RiskOrchestrator} {without without' : PortfolioRiskState} {phase : RoutePhase} {evs : List RouteEvent}
      {res : Except Exc Routed} (hcall : (phase.call c.order).isSome = true) (ch : PortfolioChange) (r : SmartOrderRouter)
      (hch : ch.Elsewhere c.order.symbol)
      (h : SharedTrace c { o with state := ch.apply o.state, router := o.router.map fun _ => r } (ch.apply without) phase evs
        o' without' res) :
      SharedTrace c o without phase evs o' without' res

/-- A trace of the order alone is one among no changes. -/
theorem RouteTrace.shared {c : RouteCall} {o o' : RiskOrchestrator} {phase : RoutePhase} {evs : List RouteEvent}
    {res : Except Exc Routed} (h : RouteTrace c o phase evs o' res) (without : PortfolioRiskState) :
    SharedTrace c o without phase evs o' without res := by
  induction h with
  | done => exact .done
  | answer hcall _ ih => exact .answer hcall ih

/-- The exception a call has ended with. -/
def RoutePhase.raised : RoutePhase → Option Exc
  | .done (.error exc) => some exc
  | _ => none

/-- Answers that lead a call to an exception give a trace of it. -/
theorem sharedTrace_follow {c : RouteCall} {o : RiskOrchestrator} {phase : RoutePhase}
    {answers : List (Except Exc ExecutionReport)} {exc : Exc} (h : (follow c o phase answers).2.2.raised = some exc)
    (without : PortfolioRiskState) :
    SharedTrace c o without phase (follow c o phase answers).1 (follow c o phase answers).2.1 without (.error exc) := by
  have hdone : ∀ {o : RiskOrchestrator} {phase : RoutePhase}, phase.raised = some exc →
      RouteTrace c o phase [] o (.error exc) := by
    intro o phase h
    cases phase with
    | done res =>
      cases res with
      | ok routed => cases h
      | error exc' =>
        obtain rfl := Option.some.inj h
        exact .done
    | direct gw => cases h
    | slice gw call phase => cases h
  refine RouteTrace.shared ?_ without
  induction answers generalizing o phase with
  | nil => exact hdone h
  | cons ans answers ih =>
    unfold follow at h ⊢
    cases hcall : phase.call c.order with
    | none =>
      rw [hcall] at h
      exact hdone h
    | some call =>
      rw [hcall] at h
      exact .answer hcall (ih h)

/-- The events of a call that is followed carry the given answers. -/
theorem mem_follow {c : RouteCall} {o : RiskOrchestrator} {phase : RoutePhase} {answers : List (Except Exc ExecutionReport)}
    {e : RouteEvent} (h : e ∈ (follow c o phase answers).1) : e.2 ∈ answers := by
  induction answers generalizing o phase with
  | nil => cases h
  | cons ans answers ih =>
    unfold follow at h
    split at h
    · cases h
    · rcases List.mem_cons.1 h with rfl | h
      · exact List.mem_cons_self
      · exact List.mem_cons_of_mem _ (ih h)

/-- A report that shows nothing executed. -/
def Unexecuted (rep : ExecutionReport) : Prop := rep.cumQuantity = 0 ∧ rep.lastQuantity = 0

/-- An await that ends with an exception the handlers for `Exception` do not see, such as a cancellation of the task. -/
def Cancels : Except Exc ExecutionReport → Prop
  | .ok _ => False
  | .error exc => exc.isException = false

end Quant
