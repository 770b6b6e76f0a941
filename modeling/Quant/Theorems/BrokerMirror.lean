import Quant.Theorems.LeavesAccounting
import Quant.Theorems.PaperAccounting

/-!
# The portfolio of the orchestrator and the books of its broker

Orders routed one after another to a paper gateway, on the direct path. The gateway and the portfolio book the same fill each by
its own code: the gateway takes a fee and rounds its position to eight decimals, the portfolio does neither. Their books stay the
same as long as no fee is taken and the rounding changes nothing.
-/

namespace Quant

open Pylib PortfolioRiskState RiskOrchestrator

namespace PaperGateway

/-! ## What the gateway does with an order -/

/-- An order that trades as soon as the gateway gets it, at a price. -/
structure TradesAtOnce (w : PaperGateway) (r : Ref) (price : ℚ) : Prop where
  checked : w.submitFault (w.heap r) = none
  registered : (w.router.registerOrder (w.heap r).clOrdId r).isOk = true
  powered : w.powerFault (w.heap r) = none
  marketable : w.isMarketable (w.heap r) = true
  price_eq : ∃ cur, w.marketPrices.get? (w.heap r).symbol = some cur ∧ price = w.fillPrice (w.heap r) cur

/-- An order that does not trade moves no book of the gateway, and is answered with an exception or an acknowledgement. -/
theorem submitOrder_idle {w : PaperGateway} {r : Ref} (hn : ∀ price, ¬ w.TradesAtOnce r price) (t : Stamp) :
    (w.submitOrder r t).2.cash = w.cash ∧ (w.submitOrder r t).2.positions = w.positions ∧
      ∀ rep, (w.submitOrder r t).1 = .ok rep → rep.execType = .new := by
  obtain ⟨res, w', hw, hs⟩ := w.submitOrder_cases r t
  rw [hw]
  cases hs with
  | refused => simp
  | declined => simp [released, enter]
  | unpriced => simp [released]
  | executed rt hf hr hp cur hm hcur =>
    have ht : w.TradesAtOnce r (w.fillPrice (w.heap r) cur) := ⟨hf, by rw [hr]; rfl, hp, hm, cur, hcur, rfl⟩
    exact absurd ht (hn _)
  | rested rep rt _ _ _ _ hx => simp [hx]

/-- An order that trades at once is executed at its price. -/
theorem submitOrder_executes {w : PaperGateway} {r : Ref} {price : ℚ} (h : w.TradesAtOnce r price) (t : Stamp) :
    ∃ rt, (w.accepted rt r t).Executed r price (w.submitOrder r t).1 (w.submitOrder r t).2 := by
  obtain ⟨cur, hcur, hprice⟩ := h.price_eq
  obtain ⟨res, w', hw, hs⟩ := w.submitOrder_cases r t
  rw [hw]
  cases hs with
  | refused exc hbad =>
    have hreg := h.registered
    rcases hbad with hbad | hbad
    · rw [h.checked] at hbad
      cases hbad
    · rw [hbad] at hreg
      cases hreg
  | declined exc _ _ _ _ hp =>
    rw [h.powered] at hp
    cases hp
  | unpriced _ _ _ _ _ _ hnone =>
    rw [hcur] at hnone
    cases hnone
  | executed rt _ _ _ cur' _ hcur' _ _ hex =>
    rw [hcur, Option.some.injEq] at hcur'
    rw [hprice, hcur']
    exact ⟨rt, hex⟩
  | rested _ _ _ _ _ hm =>
    rw [h.marketable] at hm
    cases hm

/-- An execution at a price above zero, of an order that is not overfilled and has an id, is reported. -/
theorem executed_reported {w w' : PaperGateway} {r : Ref} {price : ℚ} {res : Except Exc ExecutionReport}
    (h : w.Executed r price res w') (hprice : 0 < price) (hover : ¬ (w.heap r).overfilled)
    (hid : strip (w.heap r).clOrdId ≠ "") :
    ∃ rep, res = .ok rep ∧ rep.execType = .filled ∧ rep.lastPrice = price ∧ rep.lastQuantity = (w.heap r).quantity := by
  cases h with
  | refused _ hbad => exact (hbad.elim (not_lt.2 hprice.le) hover).elim
  | blank _ _ _ _ _ _ hblank => exact absurd hblank hid
  | filled rep _ _ _ _ _ _ _ _ _ hrep =>
    exact ⟨rep, rfl, congrArg ReportFields.execType hrep, congrArg ReportFields.lastPrice hrep,
      congrArg ReportFields.lastQuantity hrep⟩

/-- Cash moved by the notional alone is cash less the fee exactly when there is no fee. -/
theorem cashFlow_eq_iff {w : PaperGateway} (side : OrderSide) {notional : ℚ} (hn : 0 < notional) (cash : ℚ) :
    cash - side.signed notional = cash + cashFlow side notional (w.feeOf notional) ↔ w.config.feeBps = 0 := by
  have hfee : w.feeOf notional = 0 ↔ w.config.feeBps = 0 := by
    unfold feeOf
    simp [hn.ne']
  rw [← hfee]
  cases side with
  | buy =>
    simp only [OrderSide.signed, cashFlow]
    constructor <;> intro h <;> linarith
  | sell =>
    simp only [OrderSide.signed, cashFlow]
    constructor <;> intro h <;> linarith

/-- Without an order at rest the loop over the book does nothing. -/
theorem matchResting_idle {symbol : String} {price : ℚ} {t : ℕ → Stamp} (rs : List Ref) (reports : List ExecutionReport)
    {w : PaperGateway} (h : ∀ r ∈ rs, (w.heap r).isActive = false) :
    (matchResting symbol price t rs reports w).2 = w := by
  induction rs with
  | nil => rfl
  | cons r rs ih =>
    rw [List.forall_mem_cons] at h
    have hm : isMatch (w.heap r) symbol price = false := by simp [isMatch, h.1]
    rw [matchResting, if_neg (by simp [hm])]
    exact ih h.2

end PaperGateway

/-- An orchestrator and the one gateway it routes to. -/
structure Desk where
  orchestrator : RiskOrchestrator
  gateway : PaperGateway

/-- A call of `route_order` with an order object, or a new market price at the gateway. -/
inductive DeskOp where
  | route (c : RouteCall) (r : Ref) (t : Stamp)
  | setPrice (symbol : String) (price : ℚ) (t : ℕ → Stamp)

namespace Desk

/-- The call with what the order object holds. -/
def callOf (d : Desk) (c : RouteCall) (r : Ref) : RouteCall := { c with order := d.gateway.heap r }

/-- A whole call of `route_order` on the direct path: the gateway answers its one await. -/
def route (d : Desk) (c : RouteCall) (r : Ref) (t : Stamp) : Desk :=
  match d.orchestrator.routeOrder (d.callOf c r) (fun _ => d.gateway.isConnected) with
  | (.direct gw, o) =>
    { orchestrator := (o.resumeOrder (d.callOf c r) (.direct gw) (d.gateway.submitOrder r t).1).2
      gateway := (d.gateway.submitOrder r t).2 }
  | (_, o) => { d with orchestrator := o }

/-- One step. -/
def step (d : Desk) : DeskOp → Desk
  | .route c r t => d.route c r t
  | .setPrice symbol price t => { d with gateway := (d.gateway.setMarketPrice symbol price t).2 }

/-- The law: the cash and the positions of the portfolio are those of the gateway. -/
def Mirrors (d : Desk) : Prop :=
  d.orchestrator.state.cash = d.gateway.cash ∧ d.orchestrator.state.positions = d.gateway.positions

/-- The order of a call reaches the gateway and trades there at once, at a price. -/
structure Trades (d : Desk) (c : RouteCall) (r : Ref) (price : ℚ) : Prop where
  cleared : (d.orchestrator.clear (d.callOf c r)).1.isOk = true
  resolved : (d.orchestrator.resolveGateway c.targetGatewayId).isOk = true
  trades : d.gateway.TradesAtOnce r price

/-- A trade the gateway reports: at a price above zero, of an order that is not overfilled and has an id. -/
structure Reported (d : Desk) (r : Ref) (price : ℚ) : Prop where
  price_pos : 0 < price
  not_overfilled : ¬ (d.gateway.heap r).overfilled
  id_ne : strip (d.gateway.heap r).clOrdId ≠ ""

/-- A trade both book alike: the gateway takes no fee, and rounds its position to what the portfolio has. -/
structure BookedAlike (d : Desk) (r : Ref) : Prop where
  fee : d.gateway.config.feeBps = 0
  position : PaperGateway.newPosition (d.gateway.positions.getD (d.gateway.heap r).symbol 0)
      ((d.gateway.heap r).side.signed (d.gateway.heap r).quantity) =
    cleaned (d.gateway.positions.getD (d.gateway.heap r).symbol 0 + (d.gateway.heap r).side.signed (d.gateway.heap r).quantity)

/-- What a step must meet: a routed order is on the direct path and, if it trades, reported and booked alike; a new price finds no
order at rest. -/
def Admits (d : Desk) : DeskOp → Prop
  | .route c r _ => Direct d.orchestrator c ∧ ∀ price, d.Trades c r price → d.Reported r price ∧ d.BookedAlike r
  | .setPrice _ _ _ => d.gateway.getOpenOrders = []

/-! ## What leaves the books alone -/

/-- The cash and the positions of a portfolio are as before. -/
def SameBooks (s s' : PortfolioRiskState) : Prop := s'.cash = s.cash ∧ s'.positions = s.positions

theorem sameBooks_raisePeak (s : PortfolioRiskState) (eq : ℚ) : SameBooks s (s.raisePeak eq) :=
  ⟨raisePeak_cash s eq, raisePeak_positions s eq⟩

theorem sameBooks_clear (o : RiskOrchestrator) (c : RouteCall) : SameBooks o.state (o.clear c).2 := by
  unfold clear
  split
  · exact ⟨rfl, rfl⟩
  · rcases PreTradeRiskFirewall.validateOrder_snd o.limits o.state c.order c.currentPrice with h | ⟨eq, h⟩
    · rw [h]
      exact ⟨rfl, rfl⟩
    · rw [h]
      exact sameBooks_raisePeak o.state eq

theorem SameBooks.trans {s s' s'' : PortfolioRiskState} (h : SameBooks s s') (h' : SameBooks s' s'') : SameBooks s s'' :=
  ⟨h'.1.trans h.1, h'.2.trans h.2⟩

theorem sameBooks_reserve (s : PortfolioRiskState) (o : Order) : SameBooks s (reserve s o) := ⟨rfl, rfl⟩

theorem sameBooks_rollBack (s : PortfolioRiskState) (c : RouteCall) (exc : Exc) : SameBooks s (rollBack s c exc).2 := by
  unfold rollBack
  split <;> exact ⟨rfl, rfl⟩

/-- Neither book moves. -/
theorem Mirrors.congr {d d' : Desk} (h : d.Mirrors) (hs : SameBooks d.orchestrator.state d'.orchestrator.state)
    (hcash : d'.gateway.cash = d.gateway.cash) (hpos : d'.gateway.positions = d.gateway.positions) : d'.Mirrors := by
  obtain ⟨h1, h2⟩ := h
  refine ⟨?_, ?_⟩
  · rw [hs.1, h1, hcash]
  · rw [hs.2, h2, hpos]

/-! ## A routed order -/

/-- What the portfolio makes of an answer. -/
def answered (s : PortfolioRiskState) (c : RouteCall) : Except Exc ExecutionReport → PortfolioRiskState
  | .error exc => (rollBack s c exc).2
  | .ok rep => (reconcileReport s c rep).2

/-- A direct call, by the checks and the gateway it finds. -/
theorem route_eq {d : Desk} {c : RouteCall} (hd : Direct d.orchestrator c) (r : Ref) (t : Stamp) :
    d.route c r t =
      match d.orchestrator.clear (d.callOf c r), d.orchestrator.resolveGateway c.targetGatewayId with
      | (.error _, s), _ => { d with orchestrator := { d.orchestrator with state := s } }
      | (.ok (), s), .error exc => { d with orchestrator := { d.orchestrator with
          state := (rollBack (reserve s (d.gateway.heap r)) (d.callOf c r) exc).2 } }
      | (.ok (), s), .ok _ =>
        { orchestrator := { d.orchestrator with
            state := answered (reserve s (d.gateway.heap r)) (d.callOf c r) (d.gateway.submitOrder r t).1 }
          gateway := (d.gateway.submitOrder r t).2 } := by
  unfold route routeOrder
  cases hcl : d.orchestrator.clear (d.callOf c r) with
  | mk res s =>
    cases res with
    | error exc => rfl
    | ok u =>
      have hd' : Direct { d.orchestrator with state := reserve s (d.callOf c r).order } (d.callOf c r) := hd
      have hres : resolveGateway { d.orchestrator with state := reserve s (d.callOf c r).order } (d.callOf c r).targetGatewayId =
          d.orchestrator.resolveGateway c.targetGatewayId := rfl
      simp only [dispatch_direct hd', hres]
      cases d.orchestrator.resolveGateway c.targetGatewayId with
      | error exc => rfl
      | ok gw => cases (d.gateway.submitOrder r t).1 <;> rfl

/-- An acknowledged order changes no book. -/
theorem sameBooks_answered (s : PortfolioRiskState) (c : RouteCall) {answer : Except Exc ExecutionReport}
    (h : ∀ rep, answer = .ok rep → rep.execType = .new) : SameBooks s (answered s c answer) := by
  cases answer with
  | error exc => exact sameBooks_rollBack s c exc
  | ok rep =>
    have hx := h rep rfl
    simp only [answered, reconcileReport, isFill, hx]
    exact ⟨rfl, rfl⟩

/-- A call whose order does not trade moves no book. -/
theorem mirrors_route_of_not_trades {d : Desk} (hm : d.Mirrors) {c : RouteCall} (hd : Direct d.orchestrator c) (r : Ref)
    (t : Stamp) (hn : ∀ price, ¬ d.Trades c r price) : (d.route c r t).Mirrors := by
  have hclear := sameBooks_clear d.orchestrator (d.callOf c r)
  rw [route_eq hd]
  cases hcl : d.orchestrator.clear (d.callOf c r) with
  | mk res s =>
    rw [hcl] at hclear
    have hreserve := hclear.trans (sameBooks_reserve s (d.gateway.heap r))
    cases res with
    | error exc => exact hm.congr hclear rfl rfl
    | ok u =>
      cases hres : d.orchestrator.resolveGateway c.targetGatewayId with
      | error exc => exact hm.congr (hreserve.trans (sameBooks_rollBack _ _ exc)) rfl rfl
      | ok gw =>
        obtain ⟨hcash, hpos, hnew⟩ := PaperGateway.submitOrder_idle
          (fun price h => hn price ⟨by rw [hcl]; rfl, by rw [hres]; rfl, h⟩) t
        exact hm.congr (hreserve.trans (sameBooks_answered _ _ hnew)) hcash hpos

/-! ## A trade -/

/-- What the gateway does with an order that trades and is reported. -/
theorem submitOrder_trades {d : Desk} {r : Ref} {price : ℚ} (ht : d.gateway.TradesAtOnce r price)
    (hrep : d.Reported r price) (t : Stamp) :
    ∃ rep, (d.gateway.submitOrder r t).1 = .ok rep ∧ rep.execType = .filled ∧ rep.lastPrice = price ∧
      rep.lastQuantity = (d.gateway.heap r).quantity ∧
      (d.gateway.submitOrder r t).2.cash = d.gateway.cash + PaperGateway.cashFlow (d.gateway.heap r).side
        (price * (d.gateway.heap r).quantity) (d.gateway.feeOf (price * (d.gateway.heap r).quantity)) ∧
      (d.gateway.submitOrder r t).2.positions = d.gateway.positions.set (d.gateway.heap r).symbol
        (PaperGateway.newPosition (d.gateway.positions.getD (d.gateway.heap r).symbol 0)
          ((d.gateway.heap r).side.signed (d.gateway.heap r).quantity)) := by
  obtain ⟨rt, hex⟩ := PaperGateway.submitOrder_executes ht t
  have hterms := PaperGateway.sameOrders_accepted d.gateway rt r t r
  have hover : ¬ ((d.gateway.accepted rt r t).heap r).overfilled := by
    rw [PaperGateway.accepted_overfilled]
    exact hrep.not_overfilled
  have hid : strip ((d.gateway.accepted rt r t).heap r).clOrdId ≠ "" := by
    rw [hterms.clOrdId]
    exact hrep.id_ne
  obtain ⟨rep, hres, hx, hlast, hqty⟩ := PaperGateway.executed_reported hex hrep.price_pos hover hid
  rw [hres] at hex
  obtain ⟨-, -, -, -, -, -, hpos⟩ := PaperGateway.executed_ok hex
  have hcash := hex.cash
  rw [hterms.side, hterms.quantity] at hcash
  rw [hterms.side, hterms.quantity, hterms.symbol] at hpos
  rw [hterms.quantity] at hqty
  exact ⟨rep, hres, hx, hlast, hqty, hcash, hpos⟩

/-- What the portfolio makes of the report of a trade. -/
theorem answered_filled {o : RiskOrchestrator} {c : RouteCall} {s : PortfolioRiskState} (hcl : o.clear c = (.ok (), s))
    {rep : ExecutionReport} (hx : rep.execType = .filled) (hprice : 0 < rep.lastPrice)
    (hqty : rep.lastQuantity = c.order.quantity) :
    SameBooks ((reserve s c.order).book c.order.symbol c.order.quantity rep.lastPrice c.order.side)
      (answered (reserve s c.order) c (.ok rep)) := by
  obtain ⟨eq, heq⟩ := updateFill_reserve hcl rep
  have hq : (if 0 < rep.lastQuantity then rep.lastQuantity else rep.cumQuantity) = c.order.quantity := by
    rw [hqty, if_pos c.order.quantity_pos]
  have hbooked : bookedPrice (reserve s c.order) c rep = rep.lastPrice := if_pos hprice
  rw [hbooked] at heq
  simp only [answered, reconcileReport, isFill, hx, hq, hbooked, heq]
  exact sameBooks_raisePeak _ eq

/-- A trade is a cleared call whose answer the portfolio books. -/
theorem Trades.route {d : Desk} {c : RouteCall} (hd : Direct d.orchestrator c) {r : Ref} {price : ℚ} (ht : d.Trades c r price)
    (t : Stamp) :
    ∃ s, d.orchestrator.clear (d.callOf c r) = (.ok (), s) ∧
      d.route c r t =
        { orchestrator := { d.orchestrator with
            state := answered (reserve s (d.gateway.heap r)) (d.callOf c r) (d.gateway.submitOrder r t).1 }
          gateway := (d.gateway.submitOrder r t).2 } := by
  have hcleared := ht.cleared
  have hresolved := ht.resolved
  rw [route_eq hd]
  cases hcl : d.orchestrator.clear (d.callOf c r) with
  | mk res s =>
    rw [hcl] at hcleared
    cases res with
    | error exc => cases hcleared
    | ok u =>
      refine ⟨s, rfl, ?_⟩
      cases hgw : d.orchestrator.resolveGateway c.targetGatewayId with
      | error exc =>
        rw [hgw] at hresolved
        cases hresolved
      | ok gw => rfl

/-- A reported trade keeps the law exactly when both book it alike. -/
theorem mirrors_route_iff {d : Desk} (hm : d.Mirrors) {c : RouteCall} (hd : Direct d.orchestrator c) {r : Ref} {price : ℚ}
    (ht : d.Trades c r price) (hrep : d.Reported r price) (t : Stamp) : (d.route c r t).Mirrors ↔ d.BookedAlike r := by
  obtain ⟨rep, hres, hx, hlast, hqty, hcash, hpos⟩ := submitOrder_trades ht.trades hrep t
  obtain ⟨s, hcl, hroute⟩ := ht.route hd t
  have hclear := sameBooks_clear d.orchestrator (d.callOf c r)
  rw [hcl] at hclear
  have hprice : 0 < rep.lastPrice := by
    rw [hlast]
    exact hrep.price_pos
  obtain ⟨hc, hp⟩ := answered_filled hcl hx hprice hqty
  have hnotional : 0 < price * (d.gateway.heap r).quantity := mul_pos hrep.price_pos (d.gateway.heap r).quantity_pos
  have hcash' : (answered (reserve s (d.gateway.heap r)) (d.callOf c r) (.ok rep)).cash =
      d.gateway.cash - (d.gateway.heap r).side.signed (price * (d.gateway.heap r).quantity) := by
    rw [← hm.1, ← hclear.1, mul_comm, ← hlast]
    exact hc
  have hpos' : (answered (reserve s (d.gateway.heap r)) (d.callOf c r) (.ok rep)).positions =
      d.gateway.positions.set (d.gateway.heap r).symbol
        (cleaned (d.gateway.positions.getD (d.gateway.heap r).symbol 0 +
          (d.gateway.heap r).side.signed (d.gateway.heap r).quantity)) := by
    rw [← hm.2, ← hclear.2]
    exact hp
  rw [hroute, hres]
  unfold Mirrors
  simp only [hcash', hpos', hcash, hpos]
  rw [PaperGateway.cashFlow_eq_iff _ hnotional, Dict.set_inj]
  exact ⟨fun h => ⟨h.1, h.2.symm⟩, fun h => ⟨h.fee, h.position.symm⟩⟩

/-! ## Runs -/

/-- A new price that finds no order at rest moves no book. -/
theorem mirrors_setPrice {d : Desk} (hm : d.Mirrors) (hopen : d.gateway.getOpenOrders = []) (symbol : String) (price : ℚ)
    (t : ℕ → Stamp) : (d.step (.setPrice symbol price t)).Mirrors := by
  have hidle : ∀ r ∈ d.gateway.orders.values, (d.gateway.heap r).isActive = false := by
    intro r hr
    simpa using List.filter_eq_nil_iff.1 hopen r hr
  have hw : (d.gateway.setMarketPrice symbol price t).2.cash = d.gateway.cash ∧
      (d.gateway.setMarketPrice symbol price t).2.positions = d.gateway.positions := by
    rcases d.gateway.setMarketPrice_cases symbol price t with ⟨-, exc, hw⟩ | ⟨-, -, hw⟩
    · rw [hw]
      exact ⟨rfl, rfl⟩
    · rw [hw, PaperGateway.matchResting_idle (w := d.gateway.priced symbol price) _ _ hidle]
      exact ⟨rfl, rfl⟩
  change Mirrors { d with gateway := (d.gateway.setMarketPrice symbol price t).2 }
  generalize (d.gateway.setMarketPrice symbol price t).2 = w at hw
  exact hm.congr ⟨rfl, rfl⟩ hw.1 hw.2

/-- A step of the law keeps it. -/
theorem mirrors_step {d : Desk} (hm : d.Mirrors) {op : DeskOp} (hop : d.Admits op) : (d.step op).Mirrors := by
  cases op with
  | route c r t =>
    obtain ⟨hd, htrade⟩ := hop
    by_cases ht : ∃ price, d.Trades c r price
    · obtain ⟨price, ht⟩ := ht
      obtain ⟨hrep, halike⟩ := htrade price ht
      exact (mirrors_route_iff hm hd ht hrep t).2 halike
    · exact mirrors_route_of_not_trades hm hd r t (not_exists.1 ht)
  | setPrice symbol price t => exact mirrors_setPrice hm hop symbol price t

end Desk

/-- In a run of such calls from equal cash and no positions, the portfolio stays the mirror of its broker; a reported trade that
both do not book alike ends that. -/
theorem mirrors_of_run {o : RiskOrchestrator} {w : PaperGateway} (hcash : o.state.cash = w.cash)
    (hpos : o.state.positions = ∅) (hpos' : w.positions = ∅) {d : Desk}
    (h : Run (stepOf Desk.step) Desk.Admits { orchestrator := o, gateway := w } d) :
    d.Mirrors ∧ ∀ (c : RouteCall) (r : Ref) (t : Stamp) (price : ℚ), Direct d.orchestrator c → d.Trades c r price →
      d.Reported r price → ((d.step (.route c r t)).Mirrors ↔ d.BookedAlike r) := by
  have hm : d.Mirrors := by
    refine h.invariant (I := Desk.Mirrors) ?_ ⟨hcash, hpos.trans hpos'.symm⟩
    rintro d op _ hm hop rfl
    exact Desk.mirrors_step hm hop
  refine ⟨hm, ?_⟩
  intro c r t price hd ht hrep
  exact Desk.mirrors_route_iff hm hd ht hrep t

/-! ## A purchase with a fee and one without -/

/-- A connected gateway with a million in cash and a fee, on which the symbol trades at one hundred. -/
def gatewayWithFee (router : IdempotencyRouter) (feeBps : ℚ) (h : 0 ≤ feeBps) : PaperGateway where
  config :=
    { feeBps := feeBps
      initialBalance_nonneg := Literal.million_nonneg
      feeBps_nonneg := h
      slippageBps_nonneg := Literal.one_nonneg
      latencyMs_nonneg := Literal.zero_nonneg }
  router := router
  heap := fun _ => atHundred .buy 100 Literal.hundred_pos
  isConnected := true
  cash := 10 ^ 6
  marketPrices := Dict.set ∅ "AAPL" 100

/-- The purchase of one hundred. -/
def routedPurchase : DeskOp := .route { order := atHundred .buy 100 Literal.hundred_pos } 0 ⟨0, "0"⟩

example : (gatewayWithFee {} 0 Literal.zero_nonneg).getOpenOrders = [] := by decide

/-- The fee of two basis points is in the books of the gateway and not in the portfolio. -/
theorem not_mirrors :
    ¬ ∀ (o : RiskOrchestrator) (w : PaperGateway), o.state.cash = w.cash → o.state.positions = ∅ → w.positions = ∅ → ∀ d,
      Run (stepOf Desk.step)
        (fun d op => (∀ c r t, op = .route c r t → Direct d.orchestrator c) ∧ (d.step op).gateway.getOpenOrders = [])
        { orchestrator := o, gateway := w } d → d.Mirrors := by
  intro h
  have hrun : Run (stepOf Desk.step)
      (fun d op => (∀ c r t, op = .route c r t → Direct d.orchestrator c) ∧ (d.step op).gateway.getOpenOrders = [])
      { orchestrator := wideOrchestrator, gateway := gatewayWithFee {} 2 Literal.two_nonneg }
      (Desk.step { orchestrator := wideOrchestrator, gateway := gatewayWithFee {} 2 Literal.two_nonneg } routedPurchase) :=
    Run.refl.tail (i := routedPurchase) ⟨fun _ _ _ _ => .inl rfl, by decide +kernel⟩ rfl
  have hcash := (h wideOrchestrator (gatewayWithFee {} 2 Literal.two_nonneg) rfl rfl rfl _ hrun).1
  revert hcash
  decide +kernel

/-- Without a fee both book the purchase alike. -/
theorem mirrors_withoutFee :
    ∃ d : Desk, d.gateway.cash = 10 ^ 6 - 10 ^ 4 ∧ d.gateway.positions.getD "AAPL" 0 = 100 ∧ d.Mirrors := by
  let d0 : Desk := { orchestrator := wideOrchestrator, gateway := gatewayWithFee {} 0 Literal.zero_nonneg }
  have hadmits : d0.Admits routedPurchase := by
    refine ⟨.inl rfl, ?_⟩
    intro price ht
    obtain ⟨cur, hcur, hprice⟩ := ht.trades.price_eq
    have h100 : cur = 100 := (Option.some.inj hcur).symm
    have hprice : price = 100 := by
      rw [hprice, h100]
      decide +kernel
    rw [hprice]
    exact ⟨⟨Literal.hundred_pos, by decide +kernel, by decide⟩, ⟨rfl, by decide +kernel⟩⟩
  obtain ⟨hm, -⟩ := mirrors_of_run (o := wideOrchestrator) (w := gatewayWithFee {} 0 Literal.zero_nonneg) rfl rfl rfl
    (Run.refl.tail (i := routedPurchase) hadmits rfl)
  exact ⟨d0.step routedPurchase, by decide +kernel, by decide +kernel, hm⟩

end Quant
