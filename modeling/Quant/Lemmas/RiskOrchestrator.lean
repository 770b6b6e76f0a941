import Quant.Execution.RiskOrchestrator
import Quant.Lemmas.Risk

/-!
# The parts of routing an order

What a cleared call promises the rest of it, and the leaves the three ways of ending a reservation leave behind.
-/

namespace Quant

open Pylib PortfolioRiskState

namespace RiskOrchestrator

/-- A call that passed the switch and the firewall. -/
theorem clear_ok {o : RiskOrchestrator} {c : RouteCall} {s : PortfolioRiskState} (h : o.clear c = (.ok (), s)) :
    PreTradeRiskFirewall.Cleared o.state c.order c.currentPrice s := by
  unfold clear at h
  split at h
  · simp at h
  · exact PreTradeRiskFirewall.validateOrder_ok h

/-! ## The switch -/

/-- A call that finds the switch in its panic ends at once. -/
theorem routeOrder_panicTriggered {o : RiskOrchestrator} (h : o.killSwitch.state = .panicTriggered) (c : RouteCall)
    (isConnected : GatewayRef → Bool) : ∃ exc, (o.routeOrder c isConnected).1 = .done (.error exc) := by
  unfold routeOrder clear EmergencyKillSwitch.submissionFault
  rw [if_pos h]
  exact ⟨_, rfl⟩

theorem afterSlice_killSwitch (o : RiskOrchestrator) (c : RouteCall) (gw : GatewayRef)
    (call : SmartOrderRouter.SliceCall) (phase : SmartOrderRouter.SlicePhase) :
    (o.afterSlice c gw call phase).2.killSwitch = o.killSwitch := by
  unfold afterSlice
  split <;> rfl

theorem routeOrder_killSwitch (o : RiskOrchestrator) (c : RouteCall) (isConnected : GatewayRef → Bool) :
    (o.routeOrder c isConnected).2.killSwitch = o.killSwitch := by
  unfold routeOrder dispatch
  split
  · rfl
  · split
    · rfl
    · split
      · exact afterSlice_killSwitch _ _ _ _ _
      · rfl

theorem resumeOrder_killSwitch (o : RiskOrchestrator) (c : RouteCall) (phase : RoutePhase) (ans : Except Exc ExecutionReport) :
    (o.resumeOrder c phase ans).2.killSwitch = o.killSwitch := by
  unfold resumeOrder
  split
  · rfl
  · rfl
  · split
    · rfl
    · exact afterSlice_killSwitch _ _ _ _ _
  · rfl

/-! ## Leaves -/

theorem clear_pendingLeaves (o : RiskOrchestrator) (c : RouteCall) : (o.clear c).2.pendingLeaves = o.state.pendingLeaves := by
  unfold clear
  split
  · rfl
  · exact PreTradeRiskFirewall.validateOrder_pendingLeaves _ _ _ _

/-- After a cleared call every price a fill may be booked at is positive, as long as the price of the symbol is the same. -/
theorem bookedPrice_pos {o : RiskOrchestrator} {c : RouteCall} {s s' : PortfolioRiskState} (h : o.clear c = (.ok (), s))
    (hp : s'.currentPrices.get? c.order.symbol = s.currentPrices.get? c.order.symbol ∨
      0 < s'.currentPrices.getD c.order.symbol 1) (rep : ExecutionReport) : 0 < bookedPrice s' c rep := by
  have hc := clear_ok h
  unfold bookedPrice
  split
  · assumption
  · split
    · rename_i p _ hprice
      exact of_decide_eq_true (Option.filter_eq_some_iff.1 hprice).2
    · rename_i p _ hgiven
      exact hc.given_pos p (Option.filter_eq_some_iff.1 hgiven).1
    · rename_i hprice hgiven
      rcases hp with hp | hp
      · -- neither the order nor the call has a price, so the firewall took the last valuation
        have h1 : c.order.price = none := by
          cases hop : c.order.price with
          | none => rfl
          | some p =>
            rw [hop] at hprice
            exact absurd (c.order.price_pos p hop) (by simpa using hprice)
        have h2 : c.currentPrice = none := by
          cases hcp : c.currentPrice with
          | none => rfl
          | some p =>
            rw [hcp] at hgiven
            simp [(hc.given_pos p hcp).ne'] at hgiven
        obtain ⟨x, hx⟩ := Option.isSome_iff_exists.1 hc.ref_some
        have hpos := hc.ref_pos x hx
        simp only [PreTradeRiskFirewall.refPrice, h1, h2, Option.orElse_none] at hx
        rw [Dict.getD_of_get?_some 1 (hp.trans hx)]
        exact hpos
      · exact hp

/-! ## Leaves after a reservation -/

theorem reserve_self (s : PortfolioRiskState) (order : Order) :
    (reserve s order).pendingLeaves.getD order.symbol 0 = s.pendingLeaves.getD order.symbol 0 + order.signedQuantity :=
  Dict.getD_set_self _ _ _ _

theorem reserve_of_ne (s : PortfolioRiskState) {order : Order} {sym : String} (h : sym ≠ order.symbol) :
    (reserve s order).pendingLeaves.getD sym 0 = s.pendingLeaves.getD sym 0 :=
  Dict.getD_set_of_ne _ _ _ h

/-- Giving a reservation back restores the leaves of the symbol exactly when they survive being written back. -/
theorem giveBack_reserve_iff (s : PortfolioRiskState) (order : Order) :
    (giveBack (reserve s order) order.symbol order.signedQuantity).pendingLeaves.getD order.symbol 0 =
      s.pendingLeaves.getD order.symbol 0 ↔ Survives (s.pendingLeaves.getD order.symbol 0) := by
  simp only [giveBack, reserve_self, add_sub_cancel_right]
  exact putLeaves_eq_iff _ _ _

theorem giveBack_of_ne (s : PortfolioRiskState) {sym sym' : String} (signed : ℚ) (h : sym' ≠ sym) :
    (giveBack s sym signed).pendingLeaves.getD sym' 0 = s.pendingLeaves.getD sym' 0 :=
  putLeaves_of_ne _ _ h

theorem rollBack_leaves_of_ne (s : PortfolioRiskState) (c : RouteCall) (exc : Exc) {sym : String} (h : sym ≠ c.order.symbol) :
    (rollBack s c exc).2.pendingLeaves.getD sym 0 = s.pendingLeaves.getD sym 0 := by
  unfold rollBack
  simp only
  split
  · exact giveBack_of_ne _ _ h
  · rfl

theorem reconcileReport_leaves_of_ne (s : PortfolioRiskState) (c : RouteCall) (rep : ExecutionReport) {sym : String}
    (h : sym ≠ c.order.symbol) : (reconcileReport s c rep).2.pendingLeaves.getD sym 0 = s.pendingLeaves.getD sym 0 := by
  unfold reconcileReport
  split
  · exact giveBack_of_ne _ _ h
  · split
    · generalize (if 0 < rep.lastQuantity then rep.lastQuantity else rep.cumQuantity) = qty
      have hfill := updateFill_leaves_of_ne s qty (bookedPrice s c rep) c.order.side h
      simp only
      split
      · rename_i hupd
        rw [hupd] at hfill
        rw [rollBack_leaves_of_ne _ _ _ h, hfill]
      · rename_i hupd
        rw [hupd] at hfill
        exact hfill
    · rfl

/-- The answer of a gateway moves the leaves of the order's symbol only. -/
theorem resumeOrder_leaves_of_ne (o : RiskOrchestrator) (c : RouteCall) (gw : GatewayRef) (answer : Except Exc ExecutionReport)
    {sym : String} (h : sym ≠ c.order.symbol) :
    (o.resumeOrder c (.direct gw) answer).2.state.pendingLeaves.getD sym 0 = o.state.pendingLeaves.getD sym 0 := by
  cases answer with
  | error exc => exact rollBack_leaves_of_ne _ _ _ h
  | ok rep => exact reconcileReport_leaves_of_ne _ _ _ h

/-- A cleared order that is filled in full is booked. -/
theorem updateFill_reserve {o : RiskOrchestrator} {c : RouteCall} {s : PortfolioRiskState} (h : o.clear c = (.ok (), s))
    (rep : ExecutionReport) :
    ∃ eq, (reserve s c.order).updateFill c.order.symbol c.order.quantity (bookedPrice (reserve s c.order) c rep)
      c.order.side = (.ok (), ((reserve s c.order).book c.order.symbol c.order.quantity
        (bookedPrice (reserve s c.order) c rep) c.order.side).raisePeak eq) := by
  have hc := clear_ok h
  obtain ⟨eq, hpeak⟩ := hc.peak
  have hval : (reserve s c.order).Valued := hc.valued.congr (by simp [reserve, hpeak]) (by simp [reserve, hpeak])
  exact updateFill_ok hval c.order.symbol_ne c.order.quantity_pos (bookedPrice_pos h (.inl rfl) rep) c.order.side

/-- The fill takes the reservation back exactly when the other leaves of the symbol are on the order's side. -/
theorem book_reserve_iff (s : PortfolioRiskState) (order : Order) (price : ℚ) :
    ((reserve s order).book order.symbol order.quantity price order.side).pendingLeaves.getD order.symbol 0 =
      s.pendingLeaves.getD order.symbol 0 ↔ OnSide order.side (s.pendingLeaves.getD order.symbol 0) :=
  reconcileLeaves_eq_iff _ _ order.quantity_pos order.side

end RiskOrchestrator

end Quant
