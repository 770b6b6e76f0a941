import Mathlib.Algebra.BigOperators.Group.List.Basic
import Quant.Lemmas.RiskOrchestrator
import Quant.Pylib.Runs

/-!
# Pending leaves and resting orders

Orders routed to a gateway one after another. The leaves of a symbol are one signed number, in which resting orders of both sides
are netted; a reservation that ends takes its own part out of it only when the other leaves are none, or lie beyond a negligible
amount, and for a fill on the order's own side.
-/

namespace Quant

open Pylib PortfolioRiskState RiskOrchestrator

/-- What a gateway answers a submission with: a fill in full, an acknowledgement, a rejection or an exception. -/
def OneReport (order : Order) : Except Exc ExecutionReport → Prop
  | .error exc => exc.isException = true
  | .ok rep => rep.execType = .new ∨ rep.execType = .rejected ∨
      (rep.execType = .filled ∧ rep.cumQuantity = order.quantity ∧ rep.lastQuantity = order.quantity)

/-- A call on the direct path: not one that the router takes. -/
def Direct (o : RiskOrchestrator) (c : RouteCall) : Prop := o.router = none ∨ c.quote = none ∨ c.targetGatewayId ≠ none

/-- A whole call of `route_order` on the direct path, with the answer to its one await. -/
def callDirect (o : RiskOrchestrator) (c : RouteCall) (answer : Except Exc ExecutionReport) : RiskOrchestrator :=
  match o.routeOrder c (fun _ => true) with
  | (.direct gw, o) => (o.resumeOrder c (.direct gw) answer).2
  | (_, o) => o

/-- The order of a call comes to rest: it reached the gateway, which acknowledged it. -/
def comesToRest (o : RiskOrchestrator) (c : RouteCall) (answer : Except Exc ExecutionReport) : Bool :=
  (o.clear c).1.isOk && (o.resolveGateway c.targetGatewayId).isOk &&
    match answer with
    | .error _ => false
    | .ok rep => rep.execType = .new

/-- The orchestrator and the orders that rest on the gateway. -/
structure LeavesWorld where
  orchestrator : RiskOrchestrator
  resting : List Order := []

namespace LeavesWorld

/-- The leaves of a symbol. -/
def leaves (w : LeavesWorld) (sym : String) : ℚ := w.orchestrator.state.pendingLeaves.getD sym 0

/-- The signed quantity of the orders that rest on a symbol. -/
def restingQuantity (w : LeavesWorld) (sym : String) : ℚ :=
  ((w.resting.filter (fun o => o.symbol = sym)).map Order.signedQuantity).sum

/-- One call and its answer. -/
def step (w : LeavesWorld) (i : RouteCall × Except Exc ExecutionReport) : LeavesWorld :=
  { orchestrator := callDirect w.orchestrator i.1 i.2
    resting := if comesToRest w.orchestrator i.1 i.2 then i.1.order :: w.resting else w.resting }

/-- The law: the leaves of every symbol are those of the orders that rest on it. -/
def Accounted (w : LeavesWorld) : Prop := ∀ sym, w.leaves sym = w.restingQuantity sym

/-- A call whose reservation, when it ends, leaves the other leaves of the symbol alone. -/
def LeavesApart (w : LeavesWorld) (i : RouteCall × Except Exc ExecutionReport) : Prop :=
  (w.orchestrator.clear i.1).1.isOk = true →
    match w.orchestrator.resolveGateway i.1.targetGatewayId, i.2 with
    | .error _, _ => Survives (w.leaves i.1.order.symbol)
    | .ok _, .error _ => Survives (w.leaves i.1.order.symbol)
    | .ok _, .ok rep =>
      if rep.execType = .new then True
      else if rep.execType = .filled then OnSide i.1.order.side (w.leaves i.1.order.symbol)
      else Survives (w.leaves i.1.order.symbol)

end LeavesWorld

/-! ## One call -/

theorem dispatch_direct {o : RiskOrchestrator} {c : RouteCall} (hd : Direct o c) (isConnected : GatewayRef → Bool) :
    o.dispatch c isConnected =
      match o.resolveGateway c.targetGatewayId with
      | .error exc => o.settle (rollBack o.state c exc)
      | .ok gw => (.direct gw, o) := by
  unfold dispatch
  cases o.resolveGateway c.targetGatewayId with
  | error exc => rfl
  | ok gw =>
    simp only
    split
    · simp_all [Direct]
    · rfl

/-- The portfolio a direct call leaves. -/
theorem callDirect_state {o : RiskOrchestrator} {c : RouteCall} (hd : Direct o c) (answer : Except Exc ExecutionReport) :
    (callDirect o c answer).state =
      match o.clear c, o.resolveGateway c.targetGatewayId, answer with
      | (.error _, s), _, _ => s
      | (.ok (), s), .error exc, _ => (rollBack (reserve s c.order) c exc).2
      | (.ok (), s), .ok _, .error exc => (rollBack (reserve s c.order) c exc).2
      | (.ok (), s), .ok _, .ok rep => (reconcileReport (reserve s c.order) c rep).2 := by
  unfold callDirect routeOrder
  cases hcl : o.clear c with
  | mk res s =>
    cases res with
    | error exc => rfl
    | ok u =>
      have hd' : Direct { o with state := reserve s c.order } c := hd
      have hres : resolveGateway { o with state := reserve s c.order } c.targetGatewayId =
          o.resolveGateway c.targetGatewayId := rfl
      simp only [dispatch_direct hd', hres]
      cases o.resolveGateway c.targetGatewayId with
      | error exc => rfl
      | ok gw => cases answer <;> rfl

/-- The end of a cleared order, by the gateway and its answer. -/
theorem callDirect_ended {o : RiskOrchestrator} {c : RouteCall} (hd : Direct o c) {answer : Except Exc ExecutionReport}
    (hans : OneReport c.order answer) {s : PortfolioRiskState} (hcl : o.clear c = (.ok (), s)) :
    match o.resolveGateway c.targetGatewayId, answer with
    | .ok _, .ok rep =>
      if rep.execType = .new then (callDirect o c answer).state = reserve s c.order
      else if rep.execType = .filled then
        ∃ price eq, (callDirect o c answer).state =
          ((reserve s c.order).book c.order.symbol c.order.quantity price c.order.side).raisePeak eq
      else (callDirect o c answer).state = giveBack (reserve s c.order) c.order.symbol c.order.signedQuantity
    | _, _ => (callDirect o c answer).state = giveBack (reserve s c.order) c.order.symbol c.order.signedQuantity := by
  rw [callDirect_state hd, hcl]
  cases hres : o.resolveGateway c.targetGatewayId with
  | error exc =>
    have hexc : exc.isException = true := by
      unfold resolveGateway at hres
      repeat' split at hres
      all_goals cases hres
      all_goals rfl
    simp only [rollBack, hexc, if_true]
  | ok gw =>
    cases answer with
    | error exc =>
      have hexc : exc.isException = true := hans
      simp only [rollBack, hexc, if_true]
    | ok rep =>
      rcases hans with hnew | hrej | ⟨hfill, hcum, hlast⟩
      · simp [reconcileReport, isFill, hnew]
      · simp [reconcileReport, hrej]
      · obtain ⟨eq, heq⟩ := updateFill_reserve hcl rep
        have hq : (if 0 < rep.lastQuantity then rep.lastQuantity else rep.cumQuantity) = c.order.quantity := by
          rw [hcum, hlast, ite_self]
        simp only [reconcileReport, isFill, hfill, hq, heq]
        exact ⟨_, _, rfl⟩

/-- A call touches the leaves of its own symbol only. -/
theorem callDirect_leaves_of_ne {o : RiskOrchestrator} {c : RouteCall} (hd : Direct o c) (answer : Except Exc ExecutionReport)
    {sym : String} (hs : sym ≠ c.order.symbol) :
    (callDirect o c answer).state.pendingLeaves.getD sym 0 = o.state.pendingLeaves.getD sym 0 := by
  have hleaves := clear_pendingLeaves o c
  rw [callDirect_state hd]
  cases hcl : o.clear c with
  | mk res s =>
    rw [hcl] at hleaves
    cases res with
    | error exc => exact congrArg (fun d => d.getD sym 0) hleaves
    | ok u =>
      have hreserve : (reserve s c.order).pendingLeaves.getD sym 0 = o.state.pendingLeaves.getD sym 0 :=
        (reserve_of_ne s hs).trans (congrArg (fun d => d.getD sym 0) hleaves)
      cases o.resolveGateway c.targetGatewayId with
      | error exc => exact (rollBack_leaves_of_ne _ _ _ hs).trans hreserve
      | ok gw =>
        cases answer with
        | error exc => exact (rollBack_leaves_of_ne _ _ _ hs).trans hreserve
        | ok rep => exact (reconcileReport_leaves_of_ne _ _ _ hs).trans hreserve

/-- The leaves of the symbol of a call gain the order if it rests and are otherwise as they were, exactly when the call leaves the
other leaves of the symbol alone. -/
theorem callDirect_leaves_iff {w : LeavesWorld} {c : RouteCall} (hd : Direct w.orchestrator c)
    {answer : Except Exc ExecutionReport} (hans : OneReport c.order answer) :
    (callDirect w.orchestrator c answer).state.pendingLeaves.getD c.order.symbol 0 =
      w.leaves c.order.symbol + (if comesToRest w.orchestrator c answer then c.order.signedQuantity else 0) ↔
    w.LeavesApart (c, answer) := by
  have hleaves := clear_pendingLeaves w.orchestrator c
  unfold LeavesWorld.LeavesApart LeavesWorld.leaves comesToRest
  cases hcl : w.orchestrator.clear c with
  | mk res s =>
    have hleaves : s.pendingLeaves = w.orchestrator.state.pendingLeaves := by rw [← hleaves, hcl]
    cases res with
    | error exc => simp [callDirect_state hd, hcl, hleaves, Except.isOk, Except.toBool]
    | ok u =>
      have hend := callDirect_ended hd hans hcl
      have hback := giveBack_reserve_iff s c.order
      rw [hleaves] at hback
      cases hres : w.orchestrator.resolveGateway c.targetGatewayId with
      | error exc =>
        rw [hres] at hend
        simp only at hend
        simpa [hend, Except.isOk, Except.toBool] using hback
      | ok gw =>
        rw [hres] at hend
        cases answer with
        | error exc =>
          simp only at hend
          simpa [hend, Except.isOk, Except.toBool] using hback
        | ok rep =>
          simp only at hend
          by_cases hnew : rep.execType = .new
          · rw [if_pos hnew] at hend
            have hself := reserve_self s c.order
            rw [hleaves] at hself
            simp [hend, hnew, hself, Except.isOk, Except.toBool]
          · rw [if_neg hnew] at hend
            by_cases hfill : rep.execType = .filled
            · rw [if_pos hfill] at hend
              obtain ⟨price, eq, hend⟩ := hend
              have hbook := book_reserve_iff s c.order price
              rw [hleaves] at hbook
              simpa [hend, hnew, hfill, Except.isOk, Except.toBool] using hbook
            · rw [if_neg hfill] at hend
              simpa [hend, hnew, hfill, Except.isOk, Except.toBool] using hback

/-! ## Runs -/

namespace LeavesWorld

theorem leaves_step (w : LeavesWorld) (c : RouteCall) (answer : Except Exc ExecutionReport) (sym : String) :
    (w.step (c, answer)).leaves sym = (callDirect w.orchestrator c answer).state.pendingLeaves.getD sym 0 := rfl

theorem restingQuantity_step (w : LeavesWorld) (c : RouteCall) (answer : Except Exc ExecutionReport) (sym : String) :
    (w.step (c, answer)).restingQuantity sym =
      w.restingQuantity sym +
        (if comesToRest w.orchestrator c answer ∧ c.order.symbol = sym then c.order.signedQuantity else 0) := by
  unfold LeavesWorld.step restingQuantity
  by_cases hr : comesToRest w.orchestrator c answer = true
  · by_cases hs : c.order.symbol = sym
    · simp [hr, hs, add_comm]
    · simp [hr, hs]
  · simp [hr]

/-- A call keeps the law exactly when it leaves the other leaves of its symbol alone. -/
theorem accounted_step_iff {w : LeavesWorld} (hw : w.Accounted) {c : RouteCall} (hd : Direct w.orchestrator c)
    {answer : Except Exc ExecutionReport} (hans : OneReport c.order answer) :
    (w.step (c, answer)).Accounted ↔ w.LeavesApart (c, answer) := by
  rw [← callDirect_leaves_iff hd hans]
  constructor
  · intro h
    have hsym := h c.order.symbol
    rw [leaves_step, restingQuantity_step, ← hw c.order.symbol] at hsym
    simpa using hsym
  · intro h sym
    rw [leaves_step, restingQuantity_step, ← hw sym]
    by_cases hs : c.order.symbol = sym
    · subst hs
      simpa using h
    · simpa [hs, LeavesWorld.leaves] using callDirect_leaves_of_ne hd answer (Ne.symm hs)

/-- The steps of the law: a direct call, one report, and other leaves left alone. -/
def Admits (w : LeavesWorld) (i : RouteCall × Except Exc ExecutionReport) : Prop :=
  Direct w.orchestrator i.1 ∧ OneReport i.1.order i.2 ∧ w.LeavesApart i

end LeavesWorld

/-- In a run of such calls from empty leaves, the leaves of every symbol stay those of the orders that rest on it. -/
theorem leavesAccounted_of_run {o : RiskOrchestrator} (ho : o.state.pendingLeaves = ∅) {w : LeavesWorld}
    (h : Run (stepOf LeavesWorld.step) LeavesWorld.Admits { orchestrator := o } w) : w.Accounted := by
  refine h.invariant (I := LeavesWorld.Accounted) ?_ ?_
  · rintro w ⟨c, answer⟩ _ hw ⟨hd, hans, hapart⟩ rfl
    exact (LeavesWorld.accounted_step_iff hw hd hans).2 hapart
  · intro sym
    simp [LeavesWorld.leaves, LeavesWorld.restingQuantity, ho]

/-! ## A purchase that rests and a sale that fills -/

/-- An orchestrator with a million in cash, wide limits and one gateway. -/
def wideOrchestrator : RiskOrchestrator where
  killSwitch := { adminToken := "T" }
  limits :=
    { maxOrderNotional := 10 ^ 6
      maxOrderQty := 10 ^ 4
      maxGrossLeverage := 4
      maxNetLeverage := 4
      maxConcentrationNavPct := 1
      maxIntradayDrawdownPct := 1 / 2
      maxOrderNotional_pos := by norm_num
      maxOrderQty_pos := by norm_num
      maxGrossLeverage_pos := by norm_num
      maxNetLeverage_pos := by norm_num
      maxConcentrationNavPct_pos := Literal.one_pos
      maxIntradayDrawdownPct_pos := Literal.half_pos
      minFreeMargin_nonneg := Literal.zero_nonneg }
  state := { cash := 10 ^ 6, currentPrices := Dict.set ∅ "AAPL" 100, peakEquity := 10 ^ 6, initialEquity := 10 ^ 6 }
  gateways := Dict.set ∅ "gw" 0
  defaultGatewayId := some "gw"

/-- A limit order at one hundred. -/
def atHundred (side : OrderSide) (qty : ℚ) (h : 0 < qty) : Order where
  clOrdId := "order"
  symbol := "AAPL"
  side := side
  orderType := .limit
  quantity := qty
  price := some 100
  clOrdId_ne := Literal.order_ne
  symbol_ne := Literal.aapl_ne
  quantity_pos := h
  price_pos := Literal.some_hundred_pos
  stopPrice_pos := Literal.none_pos
  filledQuantity_nonneg := Literal.zero_nonneg
  filledQuoteAmount_nonneg := Literal.zero_nonneg
  averagePrice_nonneg := Literal.zero_nonneg
  feesPaid_nonneg := Literal.zero_nonneg

/-- A report at one hundred with a state and the quantity of its last and of all its fills. -/
def reportAtHundred (side : OrderSide) (st : OrderState) (qty : ℚ) (h : 0 ≤ qty) : ExecutionReport where
  reportId := "report"
  clOrdId := "order"
  exchangeOrderId := "exchange"
  symbol := "AAPL"
  side := side
  execType := st
  lastQuantity := qty
  lastPrice := 100
  cumQuantity := qty
  leavesQuantity := 0
  cumQuoteAmount := 100 * qty
  averagePrice := 100
  fee := 0
  timestampNs := 0
  reportId_ne := Literal.report_ne
  clOrdId_ne := Literal.order_ne
  symbol_ne := Literal.aapl_ne
  lastQuantity_nonneg := h
  lastPrice_nonneg := Literal.hundred_nonneg
  cumQuantity_nonneg := h
  leavesQuantity_nonneg := Literal.zero_nonneg
  cumQuoteAmount_nonneg := Literal.hundred_mul_nonneg h
  averagePrice_nonneg := Literal.hundred_nonneg
  fee_nonneg := Literal.zero_nonneg

/-- The purchase of one hundred, acknowledged. -/
def restingBuy : RouteCall × Except Exc ExecutionReport :=
  ({ order := atHundred .buy 100 Literal.hundred_pos }, .ok (reportAtHundred .buy .new 0 Literal.zero_nonneg))

/-- The sale of sixty, filled. -/
def filledSell : RouteCall × Except Exc ExecutionReport :=
  ({ order := atHundred .sell 60 (by norm_num) }, .ok (reportAtHundred .sell .filled 60 Literal.sixty_nonneg))

/-- A sale that fills beside a resting purchase erases the leaves of the purchase. -/
theorem not_leavesAccounted :
    ¬ ∀ (o : RiskOrchestrator), o.state.pendingLeaves = ∅ → ∀ w,
      Run (stepOf LeavesWorld.step) (fun w i => Direct w.orchestrator i.1 ∧ OneReport i.1.order i.2) { orchestrator := o } w →
      w.Accounted := by
  intro h
  have hrun : Run (stepOf LeavesWorld.step) (fun w i => Direct w.orchestrator i.1 ∧ OneReport i.1.order i.2)
      { orchestrator := wideOrchestrator }
      ((LeavesWorld.step { orchestrator := wideOrchestrator } restingBuy).step filledSell) :=
    (Run.refl.tail (i := restingBuy) ⟨.inr (.inl rfl), .inl rfl⟩ rfl).tail (i := filledSell)
      ⟨.inr (.inl rfl), .inr (.inr ⟨rfl, rfl, rfl⟩)⟩ rfl
  have hsym := h wideOrchestrator rfl _ hrun "AAPL"
  revert hsym
  decide +kernel

/-- A purchase of sixty, filled. -/
def filledBuy : RouteCall × Except Exc ExecutionReport :=
  ({ order := atHundred .buy 60 (by norm_num) }, .ok (reportAtHundred .buy .filled 60 Literal.sixty_nonneg))

/-- A purchase that fills beside a resting one leaves it its leaves. -/
theorem leavesAccounted_restingBuy :
    ∃ w : LeavesWorld, w.leaves "AAPL" = 100 ∧ w.orchestrator.state.positions.getD "AAPL" 0 = 60 ∧ w.Accounted := by
  have hrested : Run (stepOf LeavesWorld.step) LeavesWorld.Admits { orchestrator := wideOrchestrator }
      (LeavesWorld.step { orchestrator := wideOrchestrator } restingBuy) :=
    Run.refl.tail (i := restingBuy) ⟨.inr (.inl rfl), .inl rfl, fun _ => trivial⟩ rfl
  have hside : LeavesWorld.LeavesApart (LeavesWorld.step { orchestrator := wideOrchestrator } restingBuy) filledBuy := by
    have hsurvives : Survives ((LeavesWorld.step { orchestrator := wideOrchestrator } restingBuy).leaves "AAPL") :=
      .inr (by decide +kernel)
    intro _
    split
    · exact hsurvives
    · exact hsurvives
    · split_ifs
      · exact .inr (by decide +kernel)
      · exact hsurvives
  exact ⟨_, by decide +kernel, by decide +kernel, leavesAccounted_of_run (o := wideOrchestrator) rfl
    (hrested.tail (i := filledBuy) ⟨.inr (.inl rfl), .inr (.inr ⟨rfl, rfl, rfl⟩), hside⟩ rfl)⟩

end Quant
