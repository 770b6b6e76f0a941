import Quant.Lemmas.Raised
import Quant.Theorems.LeavesAccounting
import Quant.Theorems.SliceMass

/-!
# Reservations of calls that end abnormally

A call of `route_order` that ends with an exception, with nothing executed, against the portfolio as it would be without the call:
the reservation is gone unless an await was cancelled, since the handler that rolls it back catches `Exception` only.
-/

namespace Quant

open Pylib PortfolioRiskState SmartOrderRouter RiskOrchestrator

/-! ## Portfolios with and without a reservation -/

/-- A portfolio that holds nothing of a call: the same cash and positions as without the call, and the same leaves up to amounts
the program takes for nothing. -/
structure Restored (s without : PortfolioRiskState) : Prop where
  cash : s.cash = without.cash
  positions : s.positions = without.positions
  leaves : ∀ sym, s.pendingLeaves.getD sym 0 = without.pendingLeaves.getD sym 0 ∨
    (tiny (s.pendingLeaves.getD sym 0) = true ∧ tiny (without.pendingLeaves.getD sym 0) = true)

/-- A portfolio that differs by the reservation of an order. -/
structure Holds (order : Order) (s without : PortfolioRiskState) : Prop where
  cash : s.cash = without.cash
  positions : s.positions = without.positions
  own : s.pendingLeaves.getD order.symbol 0 = without.pendingLeaves.getD order.symbol 0 + order.signedQuantity
  others : ∀ sym, sym ≠ order.symbol → s.pendingLeaves.getD sym 0 = without.pendingLeaves.getD sym 0

theorem holds_reserve {s without : PortfolioRiskState} {order : Order} (hc : s.cash = without.cash)
    (hp : s.positions = without.positions) (hl : s.pendingLeaves = without.pendingLeaves) :
    Holds order (reserve s order) without where
  cash := hc
  positions := hp
  own := by rw [reserve_self, hl]
  others sym hsym := by rw [reserve_of_ne s hsym, hl]

/-- A change elsewhere keeps the difference, and the leaves of the symbol. -/
theorem Holds.change {order : Order} {s without : PortfolioRiskState} (h : Holds order s without) {ch : PortfolioChange}
    (hch : ch.Elsewhere order.symbol) :
    Holds order (ch.apply s) (ch.apply without) ∧
      (ch.apply without).pendingLeaves.getD order.symbol 0 = without.pendingLeaves.getD order.symbol 0 := by
  obtain ⟨hcash, hpos, hown, hothers⟩ := h
  cases ch with
  | cash delta => exact ⟨⟨congrArg (· + delta) hcash, hpos, hown, hothers⟩, rfl⟩
  | position sym qty => exact ⟨⟨hcash, congrArg (fun d => Dict.set d sym qty) hpos, hown, hothers⟩, rfl⟩
  | price sym value => exact ⟨⟨hcash, hpos, hown, hothers⟩, rfl⟩
  | peak equity => exact ⟨⟨hcash, hpos, hown, hothers⟩, rfl⟩
  | leaves sym qty =>
    have hne : order.symbol ≠ sym := Ne.symm hch
    cases qty with
    | some qty =>
      have hself : ∀ s : PortfolioRiskState,
          ((PortfolioChange.leaves sym (some qty)).apply s).pendingLeaves.getD order.symbol 0 =
            s.pendingLeaves.getD order.symbol 0 := fun s => Dict.getD_set_of_ne _ _ _ hne
      refine ⟨⟨hcash, hpos, by rw [hself, hself, hown], ?_⟩, hself without⟩
      intro sym' hsym'
      change (s.pendingLeaves.set sym qty).getD sym' 0 = (without.pendingLeaves.set sym qty).getD sym' 0
      by_cases hs : sym' = sym
      · rw [hs, Dict.getD_set_self, Dict.getD_set_self]
      · rw [Dict.getD_set_of_ne _ _ _ hs, Dict.getD_set_of_ne _ _ _ hs, hothers sym' hsym']
    | none =>
      have hself : ∀ s : PortfolioRiskState,
          ((PortfolioChange.leaves sym none).apply s).pendingLeaves.getD order.symbol 0 =
            s.pendingLeaves.getD order.symbol 0 := fun s => Dict.getD_erase_of_ne _ _ hne
      refine ⟨⟨hcash, hpos, by rw [hself, hself, hown], ?_⟩, hself without⟩
      intro sym' hsym'
      change (s.pendingLeaves.erase sym).getD sym' 0 = (without.pendingLeaves.erase sym).getD sym' 0
      by_cases hs : sym' = sym
      · rw [hs, Dict.getD_erase_self, Dict.getD_erase_self]
      · rw [Dict.getD_erase_of_ne _ _ hs, Dict.getD_erase_of_ne _ _ hs, hothers sym' hsym']

/-- Giving the reservation back restores the portfolio. -/
theorem Holds.giveBack {order : Order} {s without : PortfolioRiskState} (h : Holds order s without) :
    Restored (giveBack s order.symbol order.signedQuantity) without where
  cash := h.cash
  positions := h.positions
  leaves sym := by
    by_cases hsym : sym = order.symbol
    · subst hsym
      simp only [RiskOrchestrator.giveBack, h.own, add_sub_cancel_right, putLeaves_self]
      split
      · rename_i ht
        exact Or.inr ⟨tiny_zero, ht⟩
      · exact Or.inl rfl
    · rw [giveBack_of_ne _ _ hsym]
      exact Or.inl (h.others sym hsym)

/-- A reservation that stays is nothing when the leaves are negligible with it and without it. -/
theorem Holds.restored_iff_negligible {order : Order} {s without : PortfolioRiskState} (h : Holds order s without) :
    Restored s without ↔ tiny (without.pendingLeaves.getD order.symbol 0 + order.signedQuantity) = true ∧
      tiny (without.pendingLeaves.getD order.symbol 0) = true := by
  rw [← h.own]
  constructor
  · intro hr
    refine (hr.leaves order.symbol).resolve_left fun heq => ?_
    have hq := order.quantity_pos
    rw [h.own, add_eq_left, Order.signedQuantity] at heq
    cases hside : order.side <;> simp only [hside, OrderSide.signed] at heq <;> linarith
  · intro hnegligible
    refine ⟨h.cash, h.positions, fun sym => ?_⟩
    by_cases hsym : sym = order.symbol
    · rw [hsym]
      exact Or.inr hnegligible
    · exact Or.inl (h.others sym hsym)

/-! ## The awaits of a call -/

/-- The reports a call carries with it. -/
def RoutePhase.carried : RoutePhase → List ExecutionReport
  | .slice _ _ phase => phase.reports
  | _ => []

/-- A call that waits: its reservation stands, and it carries no report of anything executed. -/
structure Waits (c : RouteCall) (o : RiskOrchestrator) (without : PortfolioRiskState) (phase : RoutePhase) : Prop where
  holds : Holds c.order o.state without
  carried : ∀ rep ∈ phase.carried, Unexecuted rep
  router : ∀ gw call sphase, phase = .slice gw call sphase → o.router.isSome = true
  call : (phase.call c.order).isSome = true

/-- What becomes of a call at its next await: it waits, it returns, or it ends with an exception of its own and is rolled back. -/
inductive Next (c : RouteCall) (without : PortfolioRiskState) : RoutePhase × RiskOrchestrator → Prop
  | waits {phase : RoutePhase} {o : RiskOrchestrator} (h : Waits c o without phase) : Next c without (phase, o)
  | returns {o : RiskOrchestrator} {routed : Routed} : Next c without (.done (.ok routed), o)
  | raises {o : RiskOrchestrator} {exc : Exc} (h : Restored o.state without) : Next c without (.done (.error exc), o)

theorem next_settle {c : RouteCall} {o : RiskOrchestrator} {without : PortfolioRiskState} (h : Holds c.order o.state without)
    {r : Except Exc Routed × PortfolioRiskState} (hr : EndsRolledBack o.state c r) : Next c without (o.settle r) := by
  obtain ⟨res, s⟩ := r
  cases res with
  | ok routed => exact .returns
  | error exc =>
    refine .raises ?_
    change Restored s without
    rw [show s = RiskOrchestrator.giveBack o.state c.order.symbol c.order.signedQuantity from hr exc rfl]
    exact h.giveBack

/-- A slice that goes on by itself with nothing executed. -/
theorem next_afterSlice {c : RouteCall} {o : RiskOrchestrator} {without : PortfolioRiskState}
    (h : Holds c.order o.state without) (gw : GatewayRef) (call : SliceCall) {phase : SlicePhase} {given : List ExecutionReport}
    (hphase : phase.OnItsOwn given) (hgiven : ∀ rep ∈ given, Unexecuted rep) (hrouter : o.router.isSome = true) :
    Next c without (o.afterSlice c gw call phase) := by
  have hun : ∀ rep ∈ phase.reports, Unexecuted rep := fun rep hrep => hgiven rep (hphase.reports rep hrep)
  have hwaits : (phase.call).isSome = true → Next c without (.slice gw call phase, o) := by
    intro hcall
    exact .waits ⟨h, hun, fun _ _ _ _ => hrouter, hcall⟩
  cases phase with
  | darkSubmit vid child => exact hwaits rfl
  | darkCancel id reports unfilled => exact hwaits rfl
  | litSubmit vid child rest sent reports => exact hwaits rfl
  | done res =>
    cases res with
    | ok reps => exact next_settle h (endsRolledBack_reconcileSlice o.state c hun)
    | error exc => exact next_settle h (endsRolledBack_rollBack o.state c (hphase.raised exc rfl))

/-- A report of nothing executed leads to the next await. -/
theorem Waits.resume_ok {c : RouteCall} {o : RiskOrchestrator} {without : PortfolioRiskState} {phase : RoutePhase}
    (h : Waits c o without phase) {rep : ExecutionReport} (hrep : Unexecuted rep) :
    Next c without (o.resumeOrder c phase (.ok rep)) := by
  cases phase with
  | done result => cases h.call
  | direct gw => exact next_settle h.holds (endsRolledBack_reconcileReport o.state c hrep)
  | slice gw call sphase =>
    obtain ⟨r, hr⟩ := Option.isSome_iff_exists.1 (h.router gw call sphase rfl)
    obtain ⟨gcall, hgcall⟩ := Option.isSome_iff_exists.1 h.call
    have hholds : Holds c.order ({ o with router := some (r.resumeSlice call sphase (.ok rep)).2 } :
        RiskOrchestrator).state without := h.holds
    simp only [resumeOrder, hr]
    exact next_afterSlice hholds gw call (onItsOwn_resumeSlice r call hgcall rep)
      (List.forall_mem_cons.2 ⟨hrep, h.carried⟩) rfl

/-- An await that raises ends the call: it is rolled back for an `Exception`, and keeps its reservation otherwise. -/
theorem Waits.resume_error {c : RouteCall} {o : RiskOrchestrator} {without : PortfolioRiskState} {phase : RoutePhase}
    (h : Waits c o without phase) (exc : Exc) :
    ∃ exc' o', o.resumeOrder c phase (.error exc) = (.done (.error exc'), o') ∧
      (exc.isException = true → Restored o'.state without) ∧ (exc.isException = false → Holds c.order o'.state without) := by
  have hsettle : ∀ (o₁ : RiskOrchestrator) (exc' : Exc), o₁.state = o.state → exc'.isException = exc.isException →
      ∃ exc'' o', o₁.settle (rollBack o₁.state c exc') = (.done (.error exc''), o') ∧
        (exc.isException = true → Restored o'.state without) ∧ (exc.isException = false → Holds c.order o'.state without) := by
    intro o₁ exc' ho hexc
    refine ⟨exc', _, rfl, ?_, ?_⟩
    · intro his
      rw [← hexc] at his
      change Restored (if exc'.isException = true then _ else _) without
      rw [if_pos his, ho]
      exact h.holds.giveBack
    · intro his
      rw [← hexc] at his
      change Holds c.order (if exc'.isException = true then _ else _) without
      rw [if_neg (by rw [his]; decide), ho]
      exact h.holds
  cases phase with
  | done result => cases h.call
  | direct gw => exact hsettle o exc rfl rfl
  | slice gw call sphase =>
    obtain ⟨r, hr⟩ := Option.isSome_iff_exists.1 (h.router gw call sphase rfl)
    obtain ⟨gcall, hgcall⟩ := Option.isSome_iff_exists.1 h.call
    obtain ⟨exc', hslice, hexc⟩ := resumeSlice_error r call hgcall exc
    simp only [resumeOrder, hr, hslice]
    exact hsettle _ exc' rfl hexc

theorem Waits.change {c : RouteCall} {o : RiskOrchestrator} {without : PortfolioRiskState} {phase : RoutePhase}
    (h : Waits c o without phase) {ch : PortfolioChange} (r : SmartOrderRouter) (hch : ch.Elsewhere c.order.symbol) :
    Waits c { o with state := ch.apply o.state, router := o.router.map fun _ => r } (ch.apply without) phase where
  holds := (h.holds.change hch).1
  carried := h.carried
  router gw call sphase hphase := by
    rw [Option.isSome_map]
    exact h.router gw call sphase hphase
  call := h.call

/-- The checks, the reservation and the dispatch lead to the first await, or end the call. -/
theorem next_routeOrder (o : RiskOrchestrator) (c : RouteCall) (isConnected : GatewayRef → Bool) :
    Next c o.state (o.routeOrder c isConnected) := by
  have hsame : (o.clear c).2.cash = o.state.cash ∧ (o.clear c).2.positions = o.state.positions ∧
      (o.clear c).2.pendingLeaves = o.state.pendingLeaves := by
    unfold clear
    split
    · exact ⟨rfl, rfl, rfl⟩
    · rcases PreTradeRiskFirewall.validateOrder_snd o.limits o.state c.order c.currentPrice with h | ⟨eq, h⟩ <;> rw [h]
      · exact ⟨rfl, rfl, rfl⟩
      · exact ⟨raisePeak_cash _ _, raisePeak_positions _ _, raisePeak_pendingLeaves _ _⟩
  unfold routeOrder
  cases hclear : o.clear c with
  | mk res s =>
    rw [hclear] at hsame
    obtain ⟨hcash, hpos, hleaves⟩ := hsame
    cases res with
    | error exc =>
      refine .raises ⟨hcash, hpos, fun sym => Or.inl ?_⟩
      change s.pendingLeaves.getD sym 0 = _
      rw [hleaves]
    | ok u =>
      have hholds : Holds c.order ({ o with state := reserve s c.order } : RiskOrchestrator).state o.state :=
        holds_reserve hcash hpos hleaves
      simp only [dispatch]
      split
      · rename_i exc hgw
        refine next_settle hholds (endsRolledBack_rollBack _ c ?_)
        unfold resolveGateway at hgw
        repeat' split at hgw
        all_goals cases hgw
        all_goals rfl
      · rename_i gw hgw
        split
        · rename_i r quote hr hquote htarget
          have hholds' : Holds c.order ({ o with
              state := reserve s c.order
              router := some (r.routeSlice (sliceCall c quote) (isConnected gw)).2 } : RiskOrchestrator).state o.state :=
            hholds
          exact next_afterSlice hholds' gw _ (onItsOwn_routeSlice r _ _) (fun rep hrep => absurd hrep List.not_mem_nil) rfl
        · exact .waits ⟨hholds, fun rep hrep => absurd hrep List.not_mem_nil, (fun _ _ _ h => by cases h), rfl⟩

/-! ## Whole calls -/

/-- Some await of a call was cancelled. -/
def Cancelled (evs : List RouteEvent) : Prop := ∃ e ∈ evs, Cancels e.2

theorem SharedTrace.eq_of_done {c : RouteCall} {o o' : RiskOrchestrator} {without without' : PortfolioRiskState}
    {res res' : Except Exc Routed} {evs : List RouteEvent} (h : SharedTrace c o without (.done res) evs o' without' res') :
    evs = [] ∧ o' = o ∧ without' = without ∧ res' = res := by
  cases h with
  | done => exact ⟨rfl, rfl, rfl, rfl⟩
  | answer hcall => cases hcall
  | change hcall => cases hcall

/-- How a waiting call ends with an exception, with nothing executed. -/
theorem SharedTrace.ends {c : RouteCall} {o o' : RiskOrchestrator} {without without' : PortfolioRiskState} {phase : RoutePhase}
    {evs : List RouteEvent} {res : Except Exc Routed} (h : SharedTrace c o without phase evs o' without' res)
    (hw : Waits c o without phase) (hun : ∀ e ∈ evs, ∀ rep, e.2 = .ok rep → Unexecuted rep) {exc : Exc}
    (hres : res = .error exc) :
    without'.pendingLeaves.getD c.order.symbol 0 = without.pendingLeaves.getD c.order.symbol 0 ∧
      ((¬ Cancelled evs ∧ Restored o'.state without') ∨ (Cancelled evs ∧ Holds c.order o'.state without')) := by
  -- over the trace: a change keeps what waits, an answer either keeps it waiting or is the last
  induction h with
  | done => cases hw.call
  | change hcall ch r hch h ih =>
    obtain ⟨hleaves, hend⟩ := ih (hw.change r hch) hun hres
    exact ⟨hleaves.trans (hw.holds.change hch).2, hend⟩
  | @answer o o' without without' phase call ans evs res hcall h ih =>
    obtain ⟨hans, hevs⟩ := List.forall_mem_cons.1 hun
    cases ans with
    | error e =>
      obtain ⟨exc', o₁, heq, hback, hstay⟩ := hw.resume_error e
      rw [heq] at h
      obtain ⟨rfl, rfl, rfl, -⟩ := h.eq_of_done
      refine ⟨rfl, ?_⟩
      cases he : e.isException with
      | true =>
        refine Or.inl ⟨?_, hback he⟩
        rintro ⟨e', he', hcancel⟩
        rw [List.mem_singleton.1 he'] at hcancel
        rw [Cancels, he] at hcancel
        cases hcancel
      | false => exact Or.inr ⟨⟨_, List.mem_cons_self, he⟩, hstay he⟩
    | ok rep =>
      have hskip : Cancelled ((call, .ok rep) :: evs) ↔ Cancelled evs := by
        unfold Cancelled
        simp [Cancels]
      rw [hskip]
      have hnext := hw.resume_ok (hans rep rfl)
      generalize o.resumeOrder c phase (.ok rep) = next at hnext h ih
      cases hnext with
      | waits hw' => exact ih hw' hevs hres
      | returns =>
        obtain ⟨-, -, -, rfl⟩ := h.eq_of_done
        cases hres
      | raises hr =>
        obtain ⟨rfl, rfl, rfl, -⟩ := h.eq_of_done
        refine ⟨rfl, Or.inl ⟨?_, hr⟩⟩
        rintro ⟨e', he', -⟩
        cases he'

/-- The leaves of the symbol of an order are negligible both with its reservation and without it. -/
def NegligibleReservation (s : PortfolioRiskState) (order : Order) : Prop :=
  tiny (s.pendingLeaves.getD order.symbol 0 + order.signedQuantity) = true ∧ tiny (s.pendingLeaves.getD order.symbol 0) = true

/-- A call that ends with an exception and nothing executed leaves no reservation behind exactly when no await of it was
cancelled, or its reservation is negligible. -/
theorem restored_iff {o o' : RiskOrchestrator} {c : RouteCall} {isConnected : GatewayRef → Bool} {without' : PortfolioRiskState}
    {evs : List RouteEvent} {exc : Exc}
    (h : SharedTrace c (o.routeOrder c isConnected).2 o.state (o.routeOrder c isConnected).1 evs o' without' (.error exc))
    (hun : ∀ e ∈ evs, ∀ rep, e.2 = .ok rep → Unexecuted rep) :
    Restored o'.state without' ↔ ¬ Cancelled evs ∨ NegligibleReservation o.state c.order := by
  have hnext := next_routeOrder o c isConnected
  generalize o.routeOrder c isConnected = next at hnext h
  cases hnext with
  | returns =>
    obtain ⟨-, -, -, hres⟩ := h.eq_of_done
    cases hres
  | raises hr =>
    obtain ⟨rfl, rfl, rfl, -⟩ := h.eq_of_done
    refine iff_of_true hr (Or.inl ?_)
    rintro ⟨e, he, -⟩
    cases he
  | waits hw =>
    obtain ⟨hleaves, ⟨hno, hr⟩ | ⟨hyes, hstays⟩⟩ := h.ends hw hun rfl
    · exact iff_of_true hr (Or.inl hno)
    · rw [hstays.restored_iff_negligible, hleaves, NegligibleReservation]
      simp only [hyes, not_true_eq_false, false_or]

/-! ## A purchase whose task is cancelled -/

/-- One hundred to buy, straight at the gateway. -/
def directBuy : RouteCall := { order := atHundred .buy 100 Literal.hundred_pos }

/-- The purchase up to its submission. -/
def submitted : RoutePhase × RiskOrchestrator := wideOrchestrator.routeOrder directBuy fun _ => true

/-- The task that awaits the gateway is cancelled. -/
def taskCancelled : Except Exc ExecutionReport := .error ⟨.cancelledError, "", []⟩

/-- The gateway loses its connection. -/
def connectionLost : Except Exc ExecutionReport := .error ⟨.gatewayDisconnected, "Gateway is disconnected", []⟩

/-- Cancelled while the submission is pending, the call keeps its hundred. -/
theorem not_restored :
    ¬ ∀ (o o' : RiskOrchestrator) (c : RouteCall) (isConnected : GatewayRef → Bool) (without' : PortfolioRiskState)
      (evs : List RouteEvent) (exc : Exc),
      SharedTrace c (o.routeOrder c isConnected).2 o.state (o.routeOrder c isConnected).1 evs o' without' (.error exc) →
      (∀ e ∈ evs, ∀ rep, e.2 = .ok rep → Unexecuted rep) → Restored o'.state without' := by
  intro hall
  have hraised : (follow directBuy submitted.2 submitted.1 [taskCancelled]).2.2.raised = some ⟨.cancelledError, "", []⟩ := by
    decide +kernel
  have hr := hall wideOrchestrator _ directBuy (fun _ => true) _ _ _ (sharedTrace_follow hraised wideOrchestrator.state) ?_
  · have hleaves := hr.leaves "AAPL"
    revert hleaves
    decide +kernel
  · intro e he rep hrep
    have := List.mem_singleton.1 (mem_follow he)
    rw [hrep] at this
    cases this

/-- Five of another stock, reserved by another task. -/
def otherStock : PortfolioChange := .leaves "MSFT" (some 5)

/-- The orchestrator after another task has reserved its five. -/
def meanwhile : RiskOrchestrator :=
  { submitted.2 with state := otherStock.apply submitted.2.state, router := submitted.2.router.map fun _ => darkAndLit }

/-- A submission that fails gives the hundred back, and the five of the other task stay. -/
theorem restored_connectionLost :
    Restored (follow directBuy meanwhile submitted.1 [connectionLost]).2.1.state (otherStock.apply wideOrchestrator.state) := by
  have hraised : (follow directBuy meanwhile submitted.1 [connectionLost]).2.2.raised =
      some ⟨.gatewayDisconnected, "Gateway is disconnected", []⟩ := by decide +kernel
  have hwait : (submitted.1.call directBuy.order).isSome = true := by decide +kernel
  have htr : SharedTrace directBuy (wideOrchestrator.routeOrder directBuy fun _ => true).2 wideOrchestrator.state
      (wideOrchestrator.routeOrder directBuy fun _ => true).1 _ _ _ _ :=
    .change hwait otherStock darkAndLit (show "MSFT" ≠ "AAPL" by decide) (sharedTrace_follow hraised _)
  refine (restored_iff htr ?_).2 (Or.inl ?_)
  · intro e he rep hrep
    have := List.mem_singleton.1 (mem_follow he)
    rw [hrep] at this
    cases this
  · rintro ⟨e, he, hcancel⟩
    rw [List.mem_singleton.1 (mem_follow he)] at hcancel
    cases hcancel

end Quant
