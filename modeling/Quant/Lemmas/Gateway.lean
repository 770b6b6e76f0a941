import Quant.Execution.Gateway
import Quant.Lemmas.Fsm

/-!
# Helpers for the paper gateway: what each call does

One statement for each call says all it can do (`Executed`, `Submitted`, `Cancelled`, and `matchResting` by induction over the
book): which result it gives and which state it leaves behind. Everything about runs of the gateway is derived from them.
-/

namespace Quant

open Pylib

namespace PaperGateway

/-! ## Deregistering -/

/-- The router after deregistering an identifier: a blank one is refused. -/
@[irreducible]
def routerAfter (w : PaperGateway) (id : String) : IdempotencyRouter :=
  if strip id = "" then w.router else w.router.drop id

/-- The state after deregistering an identifier. -/
def dropped (w : PaperGateway) (id : String) : PaperGateway := { w with router := w.routerAfter id }

/-- The state after giving an order up. -/
def released (w : PaperGateway) (id : String) : PaperGateway :=
  { w with router := w.routerAfter id, orders := if strip id = "" then w.orders else w.orders.erase id }

theorem deregister_eq (w : PaperGateway) (id : String) :
    (strip id = "" ∧ ∃ exc, w.deregister id = (.error exc, w.dropped id)) ∨
      (strip id ≠ "" ∧ w.deregister id = (.ok (), w.dropped id)) := by
  by_cases h : strip id = ""
  · left
    simp [deregister, IdempotencyRouter.deregisterOrder, dropped, routerAfter, h]
  · right
    simp [deregister, IdempotencyRouter.deregisterOrder, dropped, routerAfter, h]

/-- Giving an order up raises, whatever its identifier. -/
theorem release_eq {α : Type} (w : PaperGateway) (id : String) (exc : Exc) :
    ∃ exc', (w.release id exc : Except Exc α × PaperGateway) = (.error exc', w.released id) := by
  by_cases h : strip id = ""
  · simp [release, deregister, IdempotencyRouter.deregisterOrder, released, routerAfter, h]
  · simp [release, deregister, IdempotencyRouter.deregisterOrder, released, routerAfter, h]

/-! ## Executing an order -/

/-- The state once a fill is settled and counted, before its report. -/
def paid (w : PaperGateway) (r : Ref) (price : ℚ) : PaperGateway :=
  { w.settle (w.heap r) price with reportCounter := w.reportCounter + 1 }

theorem feeOf_nonneg (w : PaperGateway) {notional : ℚ} (h : 0 ≤ notional) : 0 ≤ w.feeOf notional :=
  mul_nonneg h (mul_nonneg w.config.feeBps_nonneg (by norm_num))

/-- What executing an order does: its report is refused once the fill is settled, or the order is filled and deregistered. -/
inductive Executed (w : PaperGateway) (r : Ref) (price : ℚ) : Except Exc ExecutionReport → PaperGateway → Prop
  | refused (exc : Exc) (h : price < 0 ∨ (w.heap r).overfilled) : Executed w r price (.error exc) (w.paid r price)
  | blank (exc : Exc) (o : Order) (hprice : 0 ≤ price) (hover : ¬ (w.heap r).overfilled) (hterms : (w.heap r).SameTerms o)
      (hstate : o.state = .filled) (hid : strip (w.heap r).clOrdId = "") :
      Executed w r price (.error exc) (((w.paid r price).setOrder r o).dropped (w.heap r).clOrdId)
  | filled (rep : ExecutionReport) (o : Order) (hprice : 0 ≤ price) (hover : ¬ (w.heap r).overfilled)
      (hterms : (w.heap r).SameTerms o) (hstate : o.state = .filled) (hid : strip (w.heap r).clOrdId ≠ "")
      (exchangeOrderId : String) (t : Stamp) (text : String)
      (hrep : rep.toReportFields = (w.paid r price).fillReport (w.heap r) price exchangeOrderId t text) :
      Executed w r price (.ok rep) (((w.paid r price).setOrder r o).dropped (w.heap r).clOrdId)

/-- The report of a fill at a price that is not negative is well-formed. -/
theorem fillReport_create (w : PaperGateway) (o : Order) {price : ℚ} (hprice : 0 ≤ price) (exchangeOrderId : String)
    (t : Stamp) (text : String) : ∃ rep, (w.fillReport o price exchangeOrderId t text).create = .ok rep := by
  have hn : 0 ≤ price * o.quantity := mul_nonneg hprice o.quantity_pos.le
  have hid : (w.fillReport o price exchangeOrderId t text).reportId ≠ "" := by simp [fillReport]
  exact ReportFields.exists_create _ hid o.clOrdId_ne o.symbol_ne o.quantity_pos.le hprice o.quantity_pos.le (le_refl 0) hn
    hprice (w.feeOf_nonneg hn)

/-- The report of a fill at a negative price is refused. -/
theorem fillReport_create_neg (w : PaperGateway) (o : Order) {price : ℚ} (hprice : price < 0) (exchangeOrderId : String)
    (t : Stamp) (text : String) : ∃ exc, (w.fillReport o price exchangeOrderId t text).create = .error exc := by
  cases h : (w.fillReport o price exchangeOrderId t text).create with
  | error exc => exact ⟨exc, rfl⟩
  | ok rep =>
    have hl := rep.lastPrice_nonneg
    rw [ReportFields.create_ok h] at hl
    exact absurd hl (not_le.2 hprice)

/-- Applying the report of a fill in full to an order that is not terminal. -/
theorem applyReport_filled {w : PaperGateway} {r : Ref} {rep : ExecutionReport} (hid : (w.heap r).clOrdId = rep.clOrdId)
    (ht : (w.heap r).isTerminal = false) (hx : rep.execType = .filled) (hc : rep.cumQuantity = (w.heap r).quantity) :
    ((w.heap r).overfilled ∧ ∃ exc, w.applyReport r rep = (.error exc, w)) ∨
      (¬ (w.heap r).overfilled ∧ ∃ o, (w.heap r).SameTerms o ∧ o.state = .filled ∧
        ((strip (w.heap r).clOrdId = "" ∧
            ∃ exc, w.applyReport r rep = (.error exc, (w.setOrder r o).dropped (w.heap r).clOrdId)) ∨
          (strip (w.heap r).clOrdId ≠ "" ∧ w.applyReport r rep = (.ok rep, (w.setOrder r o).dropped (w.heap r).clOrdId)))) := by
  unfold applyReport
  rcases Order.applyExecutionReport_filled hid ht hx hc with ⟨hover, exc, h⟩ | ⟨hover, o, h, hterms, hstate⟩
  · left
    refine ⟨hover, exc, ?_⟩
    rw [h]
    simp only [setOrder, Function.update_eq_self]
  · right
    refine ⟨hover, o, hterms, hstate, ?_⟩
    rw [h]
    simp only
    rw [hterms.clOrdId]
    rcases (w.setOrder r o).deregister_eq (w.heap r).clOrdId with ⟨hb, exc, hd⟩ | ⟨hb, hd⟩
    · exact Or.inl ⟨hb, exc, by rw [hd]⟩
    · exact Or.inr ⟨hb, by rw [hd]⟩

theorem execute_eq (w : PaperGateway) (r : Ref) (price : ℚ) (exchangeOrderId : String) (t : Stamp) (text : String) :
    w.execute r price exchangeOrderId t text =
      match ((w.paid r price).fillReport (w.heap r) price exchangeOrderId t text).create with
      | .error exc => (.error exc, w.paid r price)
      | .ok rep => (w.paid r price).applyReport r rep := rfl

theorem executed {w : PaperGateway} {r : Ref} (ht : (w.heap r).isTerminal = false) (price : ℚ) (exchangeOrderId : String)
    (t : Stamp) (text : String) :
    Executed w r price (w.execute r price exchangeOrderId t text).1 (w.execute r price exchangeOrderId t text).2 := by
  rw [execute_eq]
  rcases lt_or_ge price 0 with hprice | hprice
  · obtain ⟨exc, hc⟩ := (w.paid r price).fillReport_create_neg (w.heap r) hprice exchangeOrderId t text
    rw [hc]
    exact Executed.refused exc (Or.inl hprice)
  · obtain ⟨rep, hc⟩ := (w.paid r price).fillReport_create (w.heap r) hprice exchangeOrderId t text
    rw [hc]
    have hrep := ReportFields.create_ok hc
    have hid : ((w.paid r price).heap r).clOrdId = rep.clOrdId := (congrArg ReportFields.clOrdId hrep).symm
    have hx : rep.execType = .filled := congrArg ReportFields.execType hrep
    have hq : rep.cumQuantity = ((w.paid r price).heap r).quantity := congrArg ReportFields.cumQuantity hrep
    rcases applyReport_filled hid ht hx hq with ⟨hover, exc, h⟩ | ⟨hover, o, hterms, hstate, ⟨hb, exc, h⟩ | ⟨hb, h⟩⟩
    · simp only [h]
      exact Executed.refused exc (Or.inr hover)
    · simp only [h]
      exact Executed.blank exc o hprice hover hterms hstate hb
    · simp only [h]
      exact Executed.filled rep o hprice hover hterms hstate hb exchangeOrderId t text hrep

/-! ## Submitting an order -/

/-- An order as `submit_order` accepts it: acknowledged, with an exchange identifier. -/
def acknowledged (o : Order) (t : Stamp) : Order := assignExchangeId (o.setState .new t.nowNs)

theorem sameTerms_acknowledged (o : Order) (t : Stamp) : o.SameTerms (acknowledged o t) := by
  unfold acknowledged assignExchangeId
  split
  · exact ⟨rfl, rfl, rfl, rfl, rfl, rfl⟩
  · exact o.sameTerms_setState _ _

theorem acknowledged_state (o : Order) (t : Stamp) : (acknowledged o t).state = .new := by
  unfold acknowledged assignExchangeId
  split <;> rfl

theorem acknowledged_filledQuantity (o : Order) (t : Stamp) : (acknowledged o t).filledQuantity = o.filledQuantity := by
  unfold acknowledged assignExchangeId
  split <;> rfl

theorem limitPrice_congr {o o' : Order} (h : o.SameTerms o') : limitPrice o' = limitPrice o := by
  rw [limitPrice, limitPrice, h.price]

theorem crosses_congr {o o' : Order} (h : o.SameTerms o') (price : ℚ) : crosses o' price = crosses o price := by
  unfold crosses
  rw [limitPrice_congr h, h.side]

/-- What an order trades at and whether it trades depends on its terms and the market prices alone. -/
theorem isMarketable_congr {w w' : PaperGateway} {o o' : Order} (hw : w'.marketPrices = w.marketPrices)
    (h : o.SameTerms o') : w'.isMarketable o' = w.isMarketable o := by
  simp only [isMarketable, h.orderType, h.symbol, hw, crosses_congr h]

theorem fillPrice_congr {w w' : PaperGateway} {o o' : Order} (hw : w'.config = w.config) (h : o.SameTerms o') (cur : ℚ) :
    w'.fillPrice o' cur = w.fillPrice o cur := by
  simp only [fillPrice, h.side, h.orderType, limitPrice_congr h, slippedBuy, slippedSell, hw]

/-- The state of an accepted order, before it trades or rests. -/
def accepted (w : PaperGateway) (rt : IdempotencyRouter) (r : Ref) (t : Stamp) : PaperGateway :=
  (w.enter rt (w.heap r).clOrdId r).setOrder r (acknowledged (w.heap r) t)

section Accepted

variable (w : PaperGateway) (rt : IdempotencyRouter) (r : Ref) (t : Stamp)

theorem accepted_heap (r' : Ref) :
    (w.accepted rt r t).heap r' = if r' = r then acknowledged (w.heap r) t else w.heap r' := by
  simp [accepted, setOrder, enter, Function.update_apply]

@[simp]
theorem accepted_heap_self : (w.accepted rt r t).heap r = acknowledged (w.heap r) t := by
  simp [accepted_heap]

@[simp]
theorem accepted_orders : (w.accepted rt r t).orders = w.orders.set (w.heap r).clOrdId r := rfl

@[simp]
theorem accepted_router : (w.accepted rt r t).router = rt := rfl

@[simp]
theorem accepted_cash : (w.accepted rt r t).cash = w.cash := rfl

@[simp]
theorem accepted_positions : (w.accepted rt r t).positions = w.positions := rfl

@[simp]
theorem accepted_config : (w.accepted rt r t).config = w.config := rfl

@[simp]
theorem accepted_marketPrices : (w.accepted rt r t).marketPrices = w.marketPrices := rfl

/-- An accepted order is open. -/
theorem accepted_isTerminal : ((w.accepted rt r t).heap r).isTerminal = false := by
  simp [Order.isTerminal, acknowledged_state]

/-- Accepting an order fills nothing of it. -/
theorem accepted_overfilled : ((w.accepted rt r t).heap r).overfilled ↔ (w.heap r).overfilled := by
  rw [accepted_heap_self, Order.overfilled, Order.overfilled, (sameTerms_acknowledged _ t).quantity,
    acknowledged_filledQuantity]

end Accepted

/-- What submitting an order does. -/
inductive Submitted (w : PaperGateway) (r : Ref) (t : Stamp) : Except Exc ExecutionReport → PaperGateway → Prop
  | refused (exc : Exc) (h : w.submitFault (w.heap r) = some exc ∨ w.router.registerOrder (w.heap r).clOrdId r = .error exc) :
      Submitted w r t (.error exc) w
  | declined (exc exc' : Exc) (rt : IdempotencyRouter) (hf : w.submitFault (w.heap r) = none)
      (hr : w.router.registerOrder (w.heap r).clOrdId r = .ok rt) (hp : w.powerFault (w.heap r) = some exc) :
      Submitted w r t (.error exc') ((w.enter rt (w.heap r).clOrdId r).released (w.heap r).clOrdId)
  | unpriced (exc : Exc) (rt : IdempotencyRouter) (hf : w.submitFault (w.heap r) = none)
      (hr : w.router.registerOrder (w.heap r).clOrdId r = .ok rt) (hp : w.powerFault (w.heap r) = none)
      (hm : (w.heap r).orderType = .market) (hn : w.marketPrices.get? (w.heap r).symbol = none) :
      Submitted w r t (.error exc) ((w.accepted rt r t).released (w.heap r).clOrdId)
  | executed (rt : IdempotencyRouter) (hf : w.submitFault (w.heap r) = none)
      (hr : w.router.registerOrder (w.heap r).clOrdId r = .ok rt) (hp : w.powerFault (w.heap r) = none) (cur : ℚ)
      (hm : w.isMarketable (w.heap r) = true) (hcur : w.marketPrices.get? (w.heap r).symbol = some cur)
      (res : Except Exc ExecutionReport) (w' : PaperGateway)
      (h : Executed (w.accepted rt r t) r (w.fillPrice (w.heap r) cur) res w') : Submitted w r t res w'
  | rested (rep : ExecutionReport) (rt : IdempotencyRouter) (hf : w.submitFault (w.heap r) = none)
      (hr : w.router.registerOrder (w.heap r).clOrdId r = .ok rt) (hp : w.powerFault (w.heap r) = none)
      (hm : w.isMarketable (w.heap r) = false) (hx : rep.execType = .new) :
      Submitted w r t (.ok rep) { w.accepted rt r t with reportCounter := w.reportCounter + 1 }

/-- What the checks before the registration establish. -/
theorem submitFault_eq_none {w : PaperGateway} {o : Order} (h : w.submitFault o = none) :
    w.isConnected = true ∧ o.state = .pendingNew ∧ (o.orderType = .market ∨ o.orderType = .limit ∧ 0 < limitPrice o) := by
  unfold submitFault at h
  split at h
  · cases h
  rename_i h1
  split at h
  · cases h
  split at h
  · cases h
  rename_i h3
  split at h
  · cases h
  rename_i h4
  split at h
  · cases h
  rename_i h5
  refine ⟨by simpa using h1, by simpa using h3, ?_⟩
  rw [not_and_or, not_not, not_not] at h4
  refine h4.imp_right fun hl => ⟨hl, ?_⟩
  simp only [hl, true_and, not_forall, not_le] at h5
  obtain ⟨p, hp, hpos⟩ := h5
  rw [limitPrice, Option.mem_def.1 hp]
  exact hpos

theorem powerFault_enter (w : PaperGateway) (rt : IdempotencyRouter) (id : String) (r : Ref) (o : Order) :
    (w.enter rt id r).powerFault o = w.powerFault o := rfl

/-- What accepting a fresh order that is in the book does. -/
theorem accept_enter {w : PaperGateway} {rt : IdempotencyRouter} {r : Ref} {t : Stamp}
    (hs : (w.heap r).state = .pendingNew) :
    (w.enter rt (w.heap r).clOrdId r).accept r t =
      if w.isMarketable (w.heap r) = true then
        match w.marketPrices.get? (w.heap r).symbol with
        | none => (w.accepted rt r t).release (w.heap r).clOrdId (noMarketPrice (w.heap r).symbol)
        | some cur => (w.accepted rt r t).execute r (w.fillPrice (w.heap r) cur)
            ((acknowledged (w.heap r) t).exchangeOrderId.getD "") t "Order filled immediately"
      else (w.accepted rt r t).rest r t := by
  have hterms := sameTerms_acknowledged (w.heap r) t
  have htr : ((w.enter rt (w.heap r).clOrdId r).heap r).transition .new t.nowNs =
      (.ok (), (w.heap r).setState .new t.nowNs) := Order.transition_new hs t.nowNs
  have hmk : (w.accepted rt r t).isMarketable (acknowledged (w.heap r) t) = w.isMarketable (w.heap r) :=
    isMarketable_congr rfl hterms
  have hfp : ∀ cur, (w.accepted rt r t).fillPrice (acknowledged (w.heap r) t) cur = w.fillPrice (w.heap r) cur :=
    fillPrice_congr rfl hterms
  rw [accept, htr]
  simp only
  rw [← acknowledged, ← accepted.eq_1, hmk, hterms.symbol, hterms.clOrdId]
  simp only [hfp]
  rfl

/-- The acknowledgement of a resting order is well-formed. -/
theorem ackReport_create (w : PaperGateway) (o : Order) (t : Stamp) :
    ∃ rep, (w.ackReport o t).create = .ok rep ∧ rep.execType = .new := by
  have hid : (w.ackReport o t).reportId ≠ "" := by simp [ackReport]
  obtain ⟨rep, h⟩ := ReportFields.exists_create (w.ackReport o t) hid o.clOrdId_ne o.symbol_ne (le_refl 0) (le_refl 0)
    (le_refl 0) o.quantity_pos.le (le_refl 0) (le_refl 0) (le_refl 0)
  exact ⟨rep, h, congrArg ReportFields.execType (ReportFields.create_ok h)⟩

theorem submitted (w : PaperGateway) (r : Ref) (t : Stamp) :
    Submitted w r t (w.submitOrder r t).1 (w.submitOrder r t).2 := by
  simp only [submitOrder, powerFault_enter]
  cases hf : w.submitFault (w.heap r) with
  | some exc => exact Submitted.refused exc (Or.inl hf)
  | none =>
    cases hr : w.router.registerOrder (w.heap r).clOrdId r with
    | error exc => exact Submitted.refused exc (Or.inr hr)
    | ok rt =>
      cases hp : w.powerFault (w.heap r) with
      | some exc =>
        obtain ⟨exc', h⟩ := release_eq (α := ExecutionReport) (w.enter rt (w.heap r).clOrdId r) (w.heap r).clOrdId exc
        simp only [h]
        exact Submitted.declined exc exc' rt hf hr hp
      | none =>
        obtain ⟨-, hs, htype⟩ := submitFault_eq_none hf
        simp only [accept_enter hs]
        cases hm : w.isMarketable (w.heap r) with
        | true =>
          rw [if_pos rfl]
          cases hcur : w.marketPrices.get? (w.heap r).symbol with
          | none =>
            have hmkt : (w.heap r).orderType = .market := by
              rcases htype with h | ⟨h, -⟩
              · exact h
              · simp [isMarketable, h, hcur] at hm
            obtain ⟨exc', h⟩ := release_eq (α := ExecutionReport) (w.accepted rt r t) (w.heap r).clOrdId
              (noMarketPrice (w.heap r).symbol)
            simp only [h]
            exact Submitted.unpriced exc' rt hf hr hp hmkt hcur
          | some cur =>
            have ht := w.accepted_isTerminal rt r t
            exact Submitted.executed rt hf hr hp cur hm hcur _ _ (PaperGateway.executed ht _ _ _ _)
        | false =>
          obtain ⟨rep, hc, hx⟩ := ackReport_create { w.accepted rt r t with reportCounter := w.reportCounter + 1 }
            ((w.accepted rt r t).heap r) t
          have hrest : (w.accepted rt r t).rest r t =
              (.ok rep, { w.accepted rt r t with reportCounter := w.reportCounter + 1 }) := by
            simp only [rest]
            have hcount : (w.accepted rt r t).reportCounter = w.reportCounter := rfl
            rw [hcount, hc]
          rw [if_neg Bool.false_ne_true, hrest]
          exact Submitted.rested rep rt hf hr hp hm hx

theorem submitOrder_cases (w : PaperGateway) (r : Ref) (t : Stamp) :
    ∃ res w', w.submitOrder r t = (res, w') ∧ Submitted w r t res w' :=
  ⟨_, _, rfl, w.submitted r t⟩

/-! ## Cancelling an order -/

/-- What a cancellation does. -/
inductive Cancelled (w : PaperGateway) (id : String) : Except Exc ExecutionReport → PaperGateway → Prop
  | refused (exc : Exc) (h : w.isConnected = false ∨ strip id = "" ∨ w.orders.get? (strip id) = none ∨
      ∃ r, w.orders.get? (strip id) = some r ∧ (w.heap r).isTerminal = true) : Cancelled w id (.error exc) w
  | unbooked (exc : Exc) (r : Ref) (hid : strip id ≠ "") (hr : w.orders.get? (strip id) = some r)
      (h : (w.heap r).overfilled ∨ (w.heap r).state = .pendingNew) :
      Cancelled w id (.error exc) { w with reportCounter := w.reportCounter + 1 }
  | cancelled (res : Except Exc ExecutionReport) (r : Ref) (o : Order) (hid : strip id ≠ "")
      (hr : w.orders.get? (strip id) = some r) (hact : (w.heap r).isTerminal = false) (hterms : (w.heap r).SameTerms o)
      (hstate : o.state = .cancelled)
      (hres : strip (w.heap r).clOrdId = "" ∧ (∃ exc, res = .error exc) ∨
        strip (w.heap r).clOrdId ≠ "" ∧ ∃ rep, res = .ok rep ∧ rep.execType = .cancelled) :
      Cancelled w id res
        (({ w with reportCounter := w.reportCounter + 1 }.setOrder r o).dropped (w.heap r).clOrdId)

theorem cancelReport_create (w : PaperGateway) (o : Order) (t : Stamp) :
    ∃ rep, (w.cancelReport o t).create = .ok rep ∧ rep.toReportFields = w.cancelReport o t := by
  have hid : (w.cancelReport o t).reportId ≠ "" := by simp [cancelReport]
  obtain ⟨rep, h⟩ := ReportFields.exists_create (w.cancelReport o t) hid o.clOrdId_ne o.symbol_ne (le_refl 0) (le_refl 0)
    o.filledQuantity_nonneg (le_refl 0) o.filledQuoteAmount_nonneg o.averagePrice_nonneg (le_refl 0)
  exact ⟨rep, h, ReportFields.create_ok h⟩

theorem cancelled (w : PaperGateway) (id : String) (t : Stamp) :
    Cancelled w id (w.cancelOrder id t).1 (w.cancelOrder id t).2 := by
  unfold cancelOrder
  by_cases hc : w.isConnected = true
  swap
  · rw [if_pos hc]
    exact Cancelled.refused _ (Or.inl (by simpa using hc))
  rw [if_neg (not_not.2 hc)]
  by_cases hid : strip id = ""
  · rw [if_pos hid]
    exact Cancelled.refused _ (Or.inr (Or.inl hid))
  rw [if_neg hid]
  cases hr : w.orders.get? (strip id) with
  | none => exact Cancelled.refused _ (Or.inr (Or.inr (Or.inl hr)))
  | some r =>
    simp only
    by_cases ht : (w.heap r).isTerminal = true
    · rw [if_pos ht]
      exact Cancelled.refused _ (Or.inr (Or.inr (Or.inr ⟨r, hr, ht⟩)))
    rw [if_neg ht]
    rw [Bool.not_eq_true] at ht
    obtain ⟨rep, hcr, hrep⟩ := cancelReport_create { w with reportCounter := w.reportCounter + 1 } (w.heap r) t
    rw [hcr]
    simp only [applyReport]
    have hrid : (w.heap r).clOrdId = rep.clOrdId := (congrArg ReportFields.clOrdId hrep).symm
    have hx : rep.execType = .cancelled := congrArg ReportFields.execType hrep
    have hq : rep.cumQuantity = (w.heap r).filledQuantity := congrArg ReportFields.cumQuantity hrep
    rcases Order.applyExecutionReport_cancelled hrid ht hx hq with ⟨h, exc, ha⟩ | ⟨h, o, ha, hterms, hstate⟩
    · simp only [ha, setOrder, Function.update_eq_self]
      exact Cancelled.unbooked exc r hid hr h
    · simp only [ha, hterms.clOrdId]
      rcases ({ w with reportCounter := w.reportCounter + 1 }.setOrder r o).deregister_eq (w.heap r).clOrdId with
        ⟨hb, exc, hd⟩ | ⟨hb, hd⟩
      · simp only [hd]
        exact Cancelled.cancelled _ r o hid hr ht hterms hstate (Or.inl ⟨hb, exc, rfl⟩)
      · simp only [hd]
        exact Cancelled.cancelled _ r o hid hr ht hterms hstate (Or.inr ⟨hb, rep, rfl, hx⟩)

theorem cancelOrder_cases (w : PaperGateway) (id : String) (t : Stamp) :
    ∃ res w', w.cancelOrder id t = (res, w') ∧ Cancelled w id res w' :=
  ⟨_, _, rfl, w.cancelled id t⟩

/-! ## Market data -/

/-- The state with a new market price, before the book is matched. -/
def priced (w : PaperGateway) (symbol : String) (price : ℚ) : PaperGateway :=
  { w with marketPrices := w.marketPrices.set (strip symbol) price }

/-- What setting a market price does: it refuses its arguments, or matches the book at the new price. -/
theorem setMarketPrice_cases (w : PaperGateway) (symbol : String) (price : ℚ) (t : ℕ → Stamp) :
    ((strip symbol = "" ∨ price ≤ 0) ∧ ∃ exc, w.setMarketPrice symbol price t = (.error exc, w)) ∨
      (strip symbol ≠ "" ∧ 0 < price ∧ w.setMarketPrice symbol price t =
        matchResting (strip symbol) price t w.orders.values [] (w.priced symbol price)) := by
  unfold setMarketPrice
  by_cases hs : strip symbol = ""
  · rw [if_pos hs]
    exact Or.inl ⟨Or.inl hs, _, rfl⟩
  rw [if_neg hs]
  by_cases hp : price ≤ 0
  · rw [if_pos hp]
    exact Or.inl ⟨Or.inr hp, _, rfl⟩
  · rw [if_neg hp]
    exact Or.inr ⟨hs, not_le.1 hp, rfl⟩

/-- A match is an active order. -/
theorem isTerminal_of_isMatch {o : Order} {symbol : String} {price : ℚ} (h : isMatch o symbol price = true) :
    o.isTerminal = false := by
  simp only [isMatch, decide_eq_true_eq] at h
  simpa [Order.isActive_eq_not_isTerminal] using h.2.1

/-- The rule for the loop over the book: what holds of the reports so far and the state is kept by each order filled, and the
first order that raises ends the loop. -/
theorem matchResting_rule {symbol : String} {price : ℚ} {t : ℕ → Stamp} {J : List ExecutionReport → PaperGateway → Prop}
    {E : PaperGateway → Prop} (rs : List Ref)
    (hok : ∀ r ∈ rs, ∀ reports w rep w', J reports w → isMatch (w.heap r) symbol price = true →
      Executed w r price (.ok rep) w' → J (reports ++ [rep]) w')
    (herr : ∀ r ∈ rs, ∀ reports w exc w', J reports w → isMatch (w.heap r) symbol price = true →
      Executed w r price (.error exc) w' → E w') {reports : List ExecutionReport} {w : PaperGateway} (h : J reports w) :
    (∃ reps, (matchResting symbol price t rs reports w).1 = .ok reps ∧ J reps (matchResting symbol price t rs reports w).2) ∨
      ∃ exc, (matchResting symbol price t rs reports w).1 = .error exc ∧ E (matchResting symbol price t rs reports w).2 := by
  induction rs generalizing reports w with
  | nil => exact Or.inl ⟨reports, rfl, h⟩
  | cons r rs ih =>
    have ih' := fun {reports w} => @ih (fun r hr => hok r (List.mem_cons_of_mem _ hr))
      (fun r hr => herr r (List.mem_cons_of_mem _ hr)) reports w
    rw [matchResting]
    by_cases hm : isMatch (w.heap r) symbol price = true
    · rw [if_pos hm]
      have hex := executed (isTerminal_of_isMatch hm) price (exchangeIdOr (w.heap r))
        (t reports.length) "Resting limit order matched"
      rcases hres : w.execute r price (exchangeIdOr (w.heap r)) (t reports.length) "Resting limit order matched" with
        ⟨exc | rep, w'⟩
      · rw [hres] at hex
        exact Or.inr ⟨exc, rfl, herr r List.mem_cons_self reports w exc w' h hm hex⟩
      · rw [hres] at hex
        exact ih' (hok r List.mem_cons_self reports w rep w' h hm hex)
    · rw [if_neg hm]
      exact ih' h

/-- What each order filled keeps, the loop keeps. -/
theorem matchResting_invariant {symbol : String} {price : ℚ} {t : ℕ → Stamp} {I : PaperGateway → Prop} (rs : List Ref)
    (hI : ∀ r ∈ rs, ∀ w res w', I w → isMatch (w.heap r) symbol price = true → Executed w r price res w' → I w')
    {reports : List ExecutionReport} {w : PaperGateway} (h : I w) : I (matchResting symbol price t rs reports w).2 := by
  have hr := @matchResting_rule symbol price t (fun _ w => I w) I rs
    (fun r hr _ w rep w' => hI r hr w (.ok rep) w') (fun r hr _ w exc w' => hI r hr w (.error exc) w') reports w h
  rcases hr with ⟨_, -, h⟩ | ⟨_, -, h⟩
  · exact h
  · exact h

/-! ## The book -/

theorem heap_setOrder (w : PaperGateway) (r : Ref) (o : Order) (r' : Ref) :
    (w.setOrder r o).heap r' = if r' = r then o else w.heap r' := by
  simp [setOrder, Function.update_apply]

/-- The orders keep their terms. -/
def SameOrders (w w' : PaperGateway) : Prop := ∀ r, (w.heap r).SameTerms (w'.heap r)

theorem SameOrders.setOrder {w w' : PaperGateway} (h : SameOrders w w') {r : Ref} {o : Order}
    (ho : (w'.heap r).SameTerms o) : SameOrders w (w'.setOrder r o) := by
  intro r'
  rw [heap_setOrder]
  split
  · rename_i hr
    subst hr
    exact (h r').trans ho
  · exact h r'

theorem SameOrders.dropped {w w' : PaperGateway} (h : SameOrders w w') (id : String) : SameOrders w (w'.dropped id) := by
  intro r
  simp only [PaperGateway.dropped]
  exact h r

theorem SameOrders.released {w w' : PaperGateway} (h : SameOrders w w') (id : String) : SameOrders w (w'.released id) := by
  intro r
  simp only [PaperGateway.released]
  exact h r

theorem SameOrders.refl (w : PaperGateway) : SameOrders w w := fun _ => Order.SameTerms.refl _

/-- The book is keyed by the identifiers of its orders. -/
def BookKeyed (w : PaperGateway) : Prop := ∀ id r, w.orders.get? id = some r → (w.heap r).clOrdId = id

theorem BookKeyed.values_nodup {w : PaperGateway} (h : w.BookKeyed) : w.orders.values.Nodup :=
  Dict.values_nodup (fun r => (w.heap r).clOrdId) h

theorem BookKeyed.of_sameOrders {w w' : PaperGateway} (h : w.BookKeyed) (ht : SameOrders w w')
    (ho : ∀ id r, w'.orders.get? id = some r → w.orders.get? id = some r ∨ (w.heap r).clOrdId = id) : w'.BookKeyed := by
  intro id r hr
  rw [(ht r).clOrdId]
  rcases ho id r hr with h' | h'
  · exact h id r h'
  · exact h'

attribute [local simp] dropped released setOrder paid settle accepted enter

section Frames

variable {w w' : PaperGateway} {r : Ref} {price : ℚ} {res : Except Exc ExecutionReport}

theorem Executed.orders (h : Executed w r price res w') : w'.orders = w.orders := by
  cases h <;> simp

theorem Executed.config (h : Executed w r price res w') : w'.config = w.config := by
  cases h <;> simp

theorem Executed.marketPrices (h : Executed w r price res w') : w'.marketPrices = w.marketPrices := by
  cases h <;> simp

/-- However it ends, an execution settles the fill. -/
theorem Executed.cash (h : Executed w r price res w') :
    w'.cash = w.cash + cashFlow (w.heap r).side (price * (w.heap r).quantity) (w.feeOf (price * (w.heap r).quantity)) := by
  cases h <;> simp

/-- An execution changes no order but the one it fills. -/
theorem Executed.heap_of_ne (h : Executed w r price res w') {r' : Ref} (hr : r' ≠ r) : w'.heap r' = w.heap r' := by
  cases h <;> simp [hr]

theorem Executed.sameOrders (h : Executed w r price res w') : SameOrders w w' := by
  have h0 : SameOrders w (w.paid r price) := fun r' => Order.SameTerms.refl _
  cases h with
  | refused => exact h0
  | blank exc o _ _ hterms => exact (h0.setOrder (o := o) hterms).dropped (w.heap r).clOrdId
  | filled rep o _ _ hterms => exact (h0.setOrder (o := o) hterms).dropped (w.heap r).clOrdId

end Frames

theorem sameOrders_accepted (w : PaperGateway) (rt : IdempotencyRouter) (r : Ref) (t : Stamp) :
    SameOrders w (w.accepted rt r t) := by
  have h0 : SameOrders w (w.enter rt (w.heap r).clOrdId r) := SameOrders.refl w
  exact h0.setOrder (sameTerms_acknowledged (w.heap r) t)

/-- The orders keep their terms through every call. -/
theorem sameOrders_step (w : PaperGateway) (op : Op) : SameOrders w (w.step op) := by
  cases op with
  | submit r t =>
    obtain ⟨res, w', hw, h⟩ := w.submitOrder_cases r t
    rw [step, hw]
    cases h with
    | refused => exact SameOrders.refl w
    | declined _ _ rt => exact fun r' => Order.SameTerms.refl (w.heap r')
    | unpriced _ rt => exact (sameOrders_accepted w rt r t).released (w.heap r).clOrdId
    | executed rt _ _ _ cur _ _ res w' h => exact fun r' => (sameOrders_accepted w rt r t r').trans (h.sameOrders r')
    | rested _ rt => exact fun r' => sameOrders_accepted w rt r t r'
  | cancel id t =>
    obtain ⟨res, w', hw, h⟩ := w.cancelOrder_cases id t
    rw [step, hw]
    cases h with
    | refused => exact SameOrders.refl w
    | unbooked => exact fun _ => Order.SameTerms.refl _
    | cancelled _ r o _ _ _ hterms =>
      have h0 : SameOrders w { w with reportCounter := w.reportCounter + 1 } := fun _ => Order.SameTerms.refl _
      exact (h0.setOrder hterms).dropped (w.heap r).clOrdId
  | setPrice symbol price t =>
    rcases w.setMarketPrice_cases symbol price t with ⟨-, exc, hw⟩ | ⟨-, -, hw⟩
    · rw [step, hw]
      exact SameOrders.refl w
    · rw [step, hw]
      refine matchResting_invariant (I := SameOrders w) _ ?_ (fun _ => Order.SameTerms.refl _)
      intro r _ w1 res w2 h _ hex r'
      exact (h r').trans (hex.sameOrders r')
  | connect => exact SameOrders.refl w
  | disconnect => exact SameOrders.refl w

/-- The loop over the book does not change what the book holds. -/
theorem matchResting_orders {symbol : String} {price : ℚ} {t : ℕ → Stamp} (rs : List Ref) (reports : List ExecutionReport)
    (w : PaperGateway) : (matchResting symbol price t rs reports w).2.orders = w.orders :=
  matchResting_invariant (I := fun w' => w'.orders = w.orders) rs (fun _ _ _ _ _ h _ hex => hex.orders.trans h) rfl

/-- What the book holds after an order was given up it held before. -/
theorem orders_of_released {w : PaperGateway} {id id' : String} {r : Ref} (h : (w.released id).orders.get? id' = some r) :
    w.orders.get? id' = some r := by
  unfold released at h
  dsimp only at h
  split at h
  · exact h
  · exact Dict.get?_of_get?_erase h

/-- What the book holds after a call it held before, or the call entered it under its own identifier. -/
theorem orders_step {w : PaperGateway} {op : Op} {id : String} {r : Ref} (h : (w.step op).orders.get? id = some r) :
    w.orders.get? id = some r ∨ (w.heap r).clOrdId = id ∧ ∃ t, op = .submit r t := by
  cases op with
  | submit r' t =>
    have hset : (w.orders.set (w.heap r').clOrdId r').get? id = some r →
        w.orders.get? id = some r ∨ (w.heap r).clOrdId = id ∧ ∃ t', Op.submit r' t = .submit r t' := by
      intro hd
      rcases Dict.get?_set_cases hd with hold | ⟨rfl, rfl⟩
      · exact Or.inl hold
      · exact Or.inr ⟨rfl, t, rfl⟩
    obtain ⟨res, w', hw, hs⟩ := w.submitOrder_cases r' t
    rw [step, hw] at h
    cases hs with
    | refused => exact Or.inl h
    | declined => exact hset (orders_of_released h)
    | unpriced => exact hset (orders_of_released h)
    | executed _ _ _ _ _ _ _ _ _ hex =>
      rw [hex.orders] at h
      exact hset h
    | rested => exact hset h
  | cancel id' t =>
    obtain ⟨res, w', hw, hs⟩ := w.cancelOrder_cases id' t
    rw [step, hw] at h
    cases hs <;> exact Or.inl (by simpa using h)
  | setPrice symbol price t =>
    rcases w.setMarketPrice_cases symbol price t with ⟨-, exc, hw⟩ | ⟨-, -, hw⟩
    · rw [step, hw] at h
      exact Or.inl h
    · rw [step, hw, matchResting_orders] at h
      exact Or.inl h
  | connect => exact Or.inl h
  | disconnect => exact Or.inl h

/-- Every call keeps the book keyed by the identifiers of its orders. -/
theorem BookKeyed.step {w : PaperGateway} (h : w.BookKeyed) (op : Op) : (w.step op).BookKeyed :=
  h.of_sameOrders (sameOrders_step w op) fun _ _ hr => (orders_step hr).imp_right And.left

/-- The known market prices are positive. -/
def PricesPos (w : PaperGateway) : Prop := ∀ symbol p, w.marketPrices.get? symbol = some p → 0 < p

theorem PricesPos.priced {w : PaperGateway} (h : w.PricesPos) (symbol : String) {price : ℚ} (hprice : 0 < price) :
    (w.priced symbol price).PricesPos := by
  intro symbol' p hget
  rw [PaperGateway.priced] at hget
  rcases Dict.get?_set_cases hget with hold | ⟨-, rfl⟩
  · exact h symbol' p hold
  · exact hprice

theorem config_step (w : PaperGateway) (op : Op) : (w.step op).config = w.config := by
  cases op with
  | submit r t =>
    obtain ⟨res, w', hw, hs⟩ := w.submitOrder_cases r t
    rw [PaperGateway.step, hw]
    cases hs with
    | executed _ _ _ _ _ _ _ _ _ hex => rw [hex.config]; simp
    | _ => simp
  | cancel id t =>
    obtain ⟨res, w', hw, hs⟩ := w.cancelOrder_cases id t
    rw [PaperGateway.step, hw]
    cases hs <;> simp
  | setPrice symbol price t =>
    rcases w.setMarketPrice_cases symbol price t with ⟨-, exc, hw⟩ | ⟨-, -, hw⟩
    · rw [PaperGateway.step, hw]
    · rw [PaperGateway.step, hw]
      exact matchResting_invariant (I := fun w' => w'.config = w.config) _ (fun _ _ _ _ _ h _ hex => hex.config.trans h) rfl
  | connect => rfl
  | disconnect => rfl

theorem PricesPos.step {w : PaperGateway} (h : w.PricesPos) (op : Op) : (w.step op).PricesPos := by
  cases op with
  | submit r t =>
    obtain ⟨res, w', hw, hs⟩ := w.submitOrder_cases r t
    rw [PaperGateway.step, hw]
    cases hs with
    | executed _ _ _ _ _ _ _ _ _ hex =>
      intro symbol p hp
      rw [hex.marketPrices] at hp
      exact h symbol p (by simpa using hp)
    | _ => exact fun symbol p hp => h symbol p (by simpa using hp)
  | cancel id t =>
    obtain ⟨res, w', hw, hs⟩ := w.cancelOrder_cases id t
    rw [PaperGateway.step, hw]
    cases hs <;> exact fun symbol p hp => h symbol p (by simpa using hp)
  | setPrice symbol price t =>
    rcases w.setMarketPrice_cases symbol price t with ⟨-, exc, hw⟩ | ⟨-, hp, hw⟩
    · rw [PaperGateway.step, hw]
      exact h
    · rw [PaperGateway.step, hw]
      refine matchResting_invariant (I := PricesPos) _ ?_ ?_
      · intro r _ w1 res w2 h1 _ hex symbol' p hget
        rw [hex.marketPrices] at hget
        exact h1 symbol' p hget
      · exact h.priced symbol hp
  | connect => exact h
  | disconnect => exact h

/-! ## Prices and cash -/

/-- With a slippage of at most ten thousand basis points an immediate fill has a price that is not negative. -/
theorem fillPrice_nonneg {w : PaperGateway} (hslip : w.config.slippageBps ≤ 10000) {o : Order} {cur : ℚ} (hcur : 0 < cur) :
    0 ≤ w.fillPrice o cur := by
  have hlimit : 0 ≤ limitPrice o := by
    unfold limitPrice
    cases hp : o.price with
    | none => exact le_refl 0
    | some p => exact (o.price_pos p hp).le
  have hbuy : 0 ≤ w.slippedBuy cur := mul_nonneg hcur.le (by linarith [w.config.slippageBps_nonneg])
  have hsell : 0 ≤ w.slippedSell cur := mul_nonneg hcur.le (by linarith)
  unfold fillPrice
  split
  · split
    · exact le_min hlimit hbuy
    · exact hbuy
  · split
    · exact hlimit.trans (le_max_left _ _)
    · exact hsell

/-- A purchase that trades at once costs what its purchasing-power check estimated. -/
theorem estFillPrice_eq_fillPrice {w : PaperGateway} {o : Order} (hside : o.side = .buy) (hm : w.isMarketable o = true)
    {cur : ℚ} (hcur : w.marketPrices.get? o.symbol = some cur) : w.estFillPrice o = some (w.fillPrice o cur) := by
  rw [estFillPrice, hcur, fillPrice, hside]
  unfold isMarketable at hm
  split at hm
  · rename_i ht
    simp [ht]
  · rename_i ht
    rw [hcur] at hm
    have hle : cur ≤ limitPrice o := by simpa [crosses, hside] using hm
    simp [ht, hle]
  · cases hm

/-- A purchase past its purchasing-power check that trades at once leaves no debt. -/
theorem cash_buy_nonneg {w : PaperGateway} {o : Order} (hside : o.side = .buy) (hp : w.powerFault o = none)
    (hm : w.isMarketable o = true) {cur : ℚ} (hcur : w.marketPrices.get? o.symbol = some cur) :
    0 ≤ w.cash + cashFlow o.side (w.fillPrice o cur * o.quantity) (w.feeOf (w.fillPrice o cur * o.quantity)) := by
  simp only [powerFault, hside, estFillPrice_eq_fillPrice hside hm hcur] at hp
  split at hp
  · cases hp
  · rename_i h
    rw [hside, cashFlow]
    linarith [not_lt.1 h]

/-- A sale brings cash: its fee is at most its notional. -/
theorem cashFlow_sell_nonneg {w : PaperGateway} (hfee : w.config.feeBps ≤ 10000) {notional : ℚ} (h : 0 ≤ notional) :
    0 ≤ cashFlow .sell notional (w.feeOf notional) := by
  have hle : w.feeOf notional ≤ notional := by
    calc w.feeOf notional = notional * (w.config.feeBps * (1 / 10 ^ 4)) := rfl
      _ ≤ notional * 1 := mul_le_mul_of_nonneg_left (by linarith) h
      _ = notional := mul_one notional
  rw [cashFlow]
  linarith

end PaperGateway

end Quant
