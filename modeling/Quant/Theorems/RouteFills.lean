import Mathlib.Tactic.Ring
import Quant.Theorems.LeavesAccounting
import Quant.Theorems.SliceFills

/-!
# The fills of a routed order

`route_order` books the reports its slice hands on, each as a fill at its cumulative quantity, and the position of the symbol
moves by what is booked and by what the clean-up of negligible positions rounds off.
-/

namespace Quant

open Pylib SmartOrderRouter RiskOrchestrator PortfolioRiskState

/-! ## From an order to its slice -/

theorem RouteTrace.eq_of_done {c : RouteCall} {o o' : RiskOrchestrator} {res res' : Except Exc Routed} {evs : List RouteEvent}
    (h : RouteTrace c o (.done res) evs o' res') : evs = [] ∧ o' = o := by
  cases h with
  | done => exact ⟨rfl, rfl⟩
  | answer hcall => cases hcall

/-- What the orchestrator makes of the end of a slice. -/
def reconciled (s : PortfolioRiskState) (c : RouteCall) : Except Exc (List ExecutionReport) → PortfolioRiskState
  | .ok reps => (reconcileSlice s c reps).2
  | .error exc => (rollBack s c exc).2

/-- A trace of an order whose slice is under way is a trace of the slice, and ends in its reconciliation. -/
theorem sliceTrace_of_afterSlice {c : RouteCall} {gw : GatewayRef} {a : SliceCall} {evs : List RouteEvent}
    {o o' : RiskOrchestrator} {r : SmartOrderRouter} (hr : o.router = some r) {phase : SlicePhase} {res : Except Exc Routed}
    (h : RouteTrace c (o.afterSlice c gw a phase).2 (o.afterSlice c gw a phase).1 evs o' res) :
    ∃ sres, SliceTrace a r phase evs sres ∧ o'.state = reconciled o.state c sres := by
  -- over the calls that are still to come; between two of them only the router changes
  induction evs generalizing o r phase with
  | nil =>
    cases phase with
    | done sres =>
      refine ⟨sres, .done, ?_⟩
      cases sres <;> exact congrArg RiskOrchestrator.state (RouteTrace.eq_of_done h).2
    | darkSubmit vid child => cases h
    | darkCancel id reports unfilled => cases h
    | litSubmit vid child rest sent reports => cases h
  | cons e evs ih =>
    have hstep : ∀ phase, o.afterSlice c gw a phase = (.slice gw a phase, o) →
        RouteTrace c (o.afterSlice c gw a phase).2 (o.afterSlice c gw a phase).1 (e :: evs) o' res →
        ∃ sres, SliceTrace a r phase (e :: evs) sres ∧ o'.state = reconciled o.state c sres := by
      intro phase heq h
      rw [heq] at h
      cases h with
      | answer hcall h =>
        simp only [resumeOrder, hr] at h
        obtain ⟨sres, htr, hst⟩ := ih rfl h
        exact ⟨sres, .answer hcall htr, hst⟩
    cases phase with
    | done sres => cases sres <;> exact absurd (RouteTrace.eq_of_done h).1 (List.cons_ne_nil _ _)
    | darkSubmit vid child => exact hstep _ rfl h
    | darkCancel id reports unfilled => exact hstep _ rfl h
    | litSubmit vid child rest sent reports => exact hstep _ rfl h

/-! ## Booking -/

/-- What the clean-up of negligible positions adds to the fills of a list of reports, on the side of the order. -/
def roundedOff (side : OrderSide) : ℚ → List ExecutionReport → ℚ
  | _, [] => 0
  | pos, rep :: reps =>
    if isFill rep then
      let moved := pos + side.signed rep.cumQuantity
      side.signed (cleaned moved - moved) + roundedOff side (cleaned moved) reps
    else roundedOff side pos reps

theorem signed_add (side : OrderSide) (x y : ℚ) : side.signed (x + y) = side.signed x + side.signed y := by
  cases side with
  | buy => rfl
  | sell => exact neg_add x y

theorem signed_signed (side : OrderSide) (x : ℚ) : side.signed (side.signed x) = x := by
  cases side <;> simp [OrderSide.signed]

theorem signed_inj {side : OrderSide} {x y : ℚ} : side.signed x = side.signed y ↔ x = y := by
  constructor
  · intro h
    rw [← signed_signed side x, h, signed_signed]
  · exact congrArg _

/-- The loop over the reports of a slice books each fill of a cleared call. -/
theorem bookFills_positions {o : RiskOrchestrator} {c : RouteCall} {s : PortfolioRiskState} (h : o.clear c = (.ok (), s))
    {reps : List ExecutionReport} (hq : ∀ rep ∈ reps, isFill rep = true → 0 < rep.cumQuantity) {s' : PortfolioRiskState}
    (hv : s'.Valued) (hp : s'.currentPrices.get? c.order.symbol = s.currentPrices.get? c.order.symbol ∨
      0 < s'.currentPrices.getD c.order.symbol 1) (total : ℚ) :
    ∃ s'', bookFills c reps s' total = (.ok (total + bookedOf reps), s'') ∧
      s''.positions.getD c.order.symbol 0 = s'.positions.getD c.order.symbol 0 +
        c.order.side.signed (bookedOf reps + roundedOff c.order.side (s'.positions.getD c.order.symbol 0) reps) := by
  induction reps generalizing s' total with
  | nil =>
    refine ⟨s', by simp [bookFills], ?_⟩
    cases c.order.side <;> simp [roundedOff, OrderSide.signed]
  | cons rep reps ih =>
    have hrest := fun rep' hm => hq rep' (List.mem_cons_of_mem _ hm)
    by_cases hf : isFill rep = true
    · have hprice := bookedPrice_pos h hp rep
      obtain ⟨eq, hup⟩ := updateFill_ok hv c.order.symbol_ne (hq rep List.mem_cons_self hf) hprice c.order.side
      -- the booked price is the valuation of the symbol from now on
      have hv' : ((s'.book c.order.symbol rep.cumQuantity (bookedPrice s' c rep) c.order.side).raisePeak eq).Valued :=
        (hv.book _ _ hprice _).congr (raisePeak_positions _ _) (raisePeak_currentPrices _ _)
      have hp' : 0 < ((s'.book c.order.symbol rep.cumQuantity (bookedPrice s' c rep) c.order.side).raisePeak
          eq).currentPrices.getD c.order.symbol 1 := by
        simpa [PortfolioRiskState.book] using hprice
      obtain ⟨s'', hb, hpos⟩ := ih hrest hv' (.inr hp') (total + rep.cumQuantity)
      refine ⟨s'', ?_, ?_⟩
      · simp [bookFills, hf, hup, hb, bookedOf_cons, add_assoc]
      · rw [hpos]
        simp only [raisePeak_positions, PortfolioRiskState.book, Dict.getD_set_self, bookedOf_cons, hf, if_true, roundedOff,
          signed_add, signed_signed]
        ring
    · obtain ⟨s'', hb, hpos⟩ := ih hrest hv hp total
      exact ⟨s'', by simp [bookFills, hf, hb, bookedOf_cons], by simpa [bookedOf_cons, hf, roundedOff] using hpos⟩

theorem rollBack_positions (s : PortfolioRiskState) (c : RouteCall) (exc : Exc) :
    (rollBack s c exc).2.positions = s.positions := by
  unfold rollBack
  split <;> rfl

theorem reconcileSlice_positions {s s' : PortfolioRiskState} {c : RouteCall} {reps : List ExecutionReport} {total : ℚ}
    (h : bookFills c reps s 0 = (.ok total, s')) : (reconcileSlice s c reps).2.positions = s'.positions := by
  unfold reconcileSlice
  rw [h]
  simp only
  split <;> rfl

/-- What is booked of the end of a slice. -/
theorem reconciled_positions {o : RiskOrchestrator} {c : RouteCall} {s : PortfolioRiskState} (h : o.clear c = (.ok (), s))
    (res : Except Exc (List ExecutionReport)) (hq : ∀ rep ∈ collected res, isFill rep = true → 0 < rep.cumQuantity) :
    (reconciled (reserve s c.order) c res).positions.getD c.order.symbol 0 = o.state.positions.getD c.order.symbol 0 +
      c.order.side.signed (bookedOf (collected res) +
        roundedOff c.order.side (o.state.positions.getD c.order.symbol 0) (collected res)) := by
  have hc := clear_ok h
  obtain ⟨eq, hpeak⟩ := hc.peak
  have hpos0 : (reserve s c.order).positions = o.state.positions := by simp [reserve, hpeak]
  cases res with
  | error exc =>
    have h0 : c.order.side.signed 0 = 0 := by cases c.order.side <;> simp [OrderSide.signed]
    simp only [reconciled, rollBack_positions, hpos0, collected, bookedOf_nil, roundedOff, add_zero, h0]
  | ok reps =>
    simp only [collected] at hq ⊢
    have hval : (reserve s c.order).Valued := hc.valued.congr hpos0 (by simp [reserve, hpeak])
    obtain ⟨s'', hb, hpos⟩ := bookFills_positions h hq hval (.inl rfl) 0
    rw [hpos0] at hpos
    rw [reconciled, reconcileSlice_positions hb]
    exact hpos

theorem clear_positions (o : RiskOrchestrator) (c : RouteCall) : (o.clear c).2.positions = o.state.positions := by
  unfold clear
  split
  · rfl
  · rcases PreTradeRiskFirewall.validateOrder_snd o.limits o.state c.order c.currentPrice with h | ⟨eq, h⟩ <;> simp [h]

/-! ## The law -/

/-- A call that goes through the router. -/
def ThroughRouter (o : RiskOrchestrator) (c : RouteCall) (r : SmartOrderRouter) (quote : ConsolidatedQuote) : Prop :=
  o.router = some r ∧ c.quote = some quote ∧ c.targetGatewayId = none

/-- What the clean-up of negligible positions rounds off in a call. -/
def roundedOffBy (o : RiskOrchestrator) (c : RouteCall) (r : SmartOrderRouter) (a : Slice) (evs : List RouteEvent) : ℚ :=
  roundedOff c.order.side (o.state.positions.getD c.order.symbol 0) (handedOn r a evs)

/-- A call either ends without touching the gateway or hands the order to a slice. -/
theorem routeOrder_slice {o o' : RiskOrchestrator} {c : RouteCall} {r : SmartOrderRouter} {quote : ConsolidatedQuote}
    (ht : ThroughRouter o c r quote) {isConnected : GatewayRef → Bool} {evs : List RouteEvent} {res : Except Exc Routed}
    (h : RouteTrace c (o.routeOrder c isConnected).2 (o.routeOrder c isConnected).1 evs o' res) :
    (evs = [] ∧ o'.state.positions = o.state.positions) ∨
      ∃ s connected sres, o.clear c = (.ok (), s) ∧ o'.state = reconciled (reserve s c.order) c sres ∧
        SliceTrace (sliceCall c quote) (r.routeSlice (sliceCall c quote) connected).2
          (r.routeSlice (sliceCall c quote) connected).1 evs sres := by
  obtain ⟨hr, hquote, htarget⟩ := ht
  have hpos := clear_positions o c
  unfold routeOrder at h
  cases hc : o.clear c with
  | mk res s =>
    rw [hc] at h hpos
    cases res with
    | error exc =>
      obtain ⟨rfl, rfl⟩ := RouteTrace.eq_of_done h
      exact .inl ⟨rfl, hpos⟩
    | ok _ =>
      simp only [dispatch] at h
      cases hgw : resolveGateway { o with state := reserve s c.order } c.targetGatewayId with
      | error exc =>
        rw [hgw] at h
        obtain ⟨rfl, rfl⟩ := RouteTrace.eq_of_done h
        exact .inl ⟨rfl, (rollBack_positions _ _ _).trans hpos⟩
      | ok gw =>
        rw [hgw] at h
        simp only [hr, hquote, htarget] at h
        obtain ⟨sres, htr, hst⟩ := sliceTrace_of_afterSlice rfl h
        exact .inr ⟨s, isConnected gw, sres, rfl, hst, htr⟩

theorem WellReported.fill_pos {evs : List RouteEvent} (h : WellReported evs) :
    ∀ rep ∈ reportsOf evs, isFill rep = true → 0 < rep.cumQuantity := by
  fun_induction WellReported evs with
  | case1 => simp
  | case2 o rep id rep' evs ih => exact List.forall_mem_cons.2 ⟨h.1, ih h.2.2⟩
  | case3 o rep evs hne ih => exact List.forall_mem_cons.2 ⟨h.1, ih h.2⟩
  | case4 e evs hcancel hsubmit ih =>
    obtain ⟨call, ans⟩ := e
    cases call with
    | cancel id => exact ih h
    | submit o =>
      cases ans with
      | error exc => exact ih h
      | ok rep => exact absurd rfl (hsubmit o rep)

/-- What is handed on is among the reports on the submissions. -/
theorem handedOn_subset (r : SmartOrderRouter) (a : Slice) (evs : List RouteEvent) : handedOn r a evs ⊆ reportsOf evs := by
  have hkept : keptReports evs ⊆ reportsOf evs := by
    unfold keptReports
    split
    · rename_i o rep evs
      rw [reportsOf_submit]
      refine List.append_subset.2 ⟨?_, List.subset_cons_self _ _⟩
      unfold kept
      split
      · simp
      · split <;> simp
    · exact List.nil_subset _
  unfold handedOn
  split
  · split
    · exact hkept
    · exact List.Subset.refl _
  · exact List.nil_subset _

/-- Nothing is lost and the clean-up of negligible positions rounds nothing off. Where it does round, it makes up exactly for what
is not booked. -/
def FillsBooked (o : RiskOrchestrator) (c : RouteCall) (r : SmartOrderRouter) (a : Slice) (evs : List RouteEvent) : Prop :=
  if roundedOffBy o c r a evs = 0 then NothingLost r a evs
  else bookedOf (handedOn r a evs) + roundedOffBy o c r a evs = executed evs

instance (o : RiskOrchestrator) (c : RouteCall) (r : SmartOrderRouter) (a : Slice) (evs : List RouteEvent) :
    Decidable (FillsBooked o c r a evs) :=
  inferInstanceAs (Decidable (if roundedOffBy o c r a evs = 0 then _ else _ = _))

/-- The position of the symbol moves by what is executed exactly when no fill is lost. -/
theorem positions_iff {o o' : RiskOrchestrator} {c : RouteCall} {r : SmartOrderRouter} {quote : ConsolidatedQuote}
    (ht : ThroughRouter o c r quote) {isConnected : GatewayRef → Bool} {evs : List RouteEvent} {res : Except Exc Routed}
    (h : RouteTrace c (o.routeOrder c isConnected).2 (o.routeOrder c isConnected).1 evs o' res) (hwr : WellReported evs) :
    o'.state.positions.getD c.order.symbol 0 - o.state.positions.getD c.order.symbol 0 = c.order.side.signed (executed evs) ↔
      FillsBooked o c r (sliceCall c quote).toSlice evs := by
  rcases routeOrder_slice ht h with ⟨rfl, hpos⟩ | ⟨s, connected, sres, hc, hst, htr⟩
  · have h0 : c.order.side.signed 0 = 0 := by cases c.order.side <;> simp [OrderSide.signed]
    have hnil : handedOn r (sliceCall c quote).toSlice [] = [] := List.subset_nil.1 (handedOn_subset _ _ _)
    simp [hpos, executed, h0, FillsBooked, roundedOffBy, hnil, roundedOff, NothingLost]
  · have hcol := slice_collected rfl htr
    have hbook := slice_booked_iff rfl htr hwr
    have hmove := reconciled_positions hc sres fun rep hm => hwr.fill_pos rep (handedOn_subset _ _ _ (hcol ▸ hm))
    rw [hcol] at hbook hmove
    rw [hst, hmove, add_sub_cancel_left, signed_inj, FillsBooked]
    change _ + roundedOffBy o c r _ evs = _ ↔ _
    split
    · rename_i h0
      rw [h0, add_zero]
      exact hbook
    · rfl

/-! ## A purchase of one hundred through the router -/

/-- The orchestrator of one gateway, with a router of a dark pool and an exchange. -/
def routedOrchestrator : RiskOrchestrator := { wideOrchestrator with router := some darkAndLit }

/-- One hundred to buy, with a quote. -/
def routedBuy : RouteCall :=
  { order := atHundred .buy 100 Literal.hundred_pos, quote := some deepQuote, hex := fun n => toString n }

/-- The purchase under the answers of its gateway. -/
def followBuy (answers : List (Except Exc ExecutionReport)) : List RouteEvent × RiskOrchestrator × RoutePhase :=
  follow routedBuy (routedOrchestrator.routeOrder routedBuy fun _ => true).2
    (routedOrchestrator.routeOrder routedBuy fun _ => true).1 answers

/-- Sixty are filled in the dark pool, and the exchange turns the other forty down. -/
def darkFillThenRejection : List (Except Exc ExecutionReport) :=
  [.ok (darkReport .partiallyFilled 60 Literal.sixty_nonneg), .ok (darkReport .cancelled 60 Literal.sixty_nonneg),
    .ok (darkReport .rejected 0 Literal.zero_nonneg)]

/-- The fill in the dark pool is in no position after the rejection at the exchange. -/
theorem not_positions_executed :
    ¬ ∀ (o o' : RiskOrchestrator) (c : RouteCall) (r : SmartOrderRouter) (quote : ConsolidatedQuote), ThroughRouter o c r quote →
      ∀ (isConnected : GatewayRef → Bool) (evs : List RouteEvent) (res : Except Exc Routed),
      RouteTrace c (o.routeOrder c isConnected).2 (o.routeOrder c isConnected).1 evs o' res → WellReported evs →
      o'.state.positions.getD c.order.symbol 0 - o.state.positions.getD c.order.symbol 0 =
        c.order.side.signed (executed evs) := by
  intro h
  have hdone : (followBuy darkFillThenRejection).2.2.isDone = true := by decide +kernel
  obtain ⟨res, htr⟩ := routeTrace_follow hdone
  have hlaw := h routedOrchestrator _ routedBuy darkAndLit deepQuote ⟨rfl, rfl, rfl⟩ (fun _ => true) _ res htr
    (show WellReported (followBuy darkFillThenRejection).1 by decide +kernel)
  revert hlaw
  decide +kernel

/-- A purchase that is filled in the dark pool moves the position by all of it. -/
theorem positions_executed_darkFill :
    ∃ o' : RiskOrchestrator, o'.state.positions.getD "AAPL" 0 - routedOrchestrator.state.positions.getD "AAPL" 0 =
        OrderSide.buy.signed (executed (followBuy [.ok (darkReport .filled 100 Literal.hundred_nonneg)]).1) ∧
      o'.state.positions.getD "AAPL" 0 = 100 := by
  have hdone : (followBuy [.ok (darkReport .filled 100 Literal.hundred_nonneg)]).2.2.isDone = true := by decide +kernel
  obtain ⟨res, htr⟩ := routeTrace_follow hdone
  have hthrough : ThroughRouter routedOrchestrator routedBuy darkAndLit deepQuote := ⟨rfl, rfl, rfl⟩
  exact ⟨_, (positions_iff hthrough htr
    (show WellReported (followBuy [.ok (darkReport .filled 100 Literal.hundred_nonneg)]).1 by decide +kernel)).2
    (by decide +kernel), by decide +kernel⟩

end Quant
