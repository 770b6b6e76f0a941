import Mathlib.Logic.Function.Basic
import Quant.Execution.Fsm
import Quant.Execution.Idempotency
import Quant.Pylib.Decimal

/-!
# The paper gateway

`PaperExecutionGateway` of `execution/gateway.py`. Order objects are shared between the caller, the book and the router, so they
live on a heap, which is part of the state here, and the book and the router hold references to them. The only await of a call
is the simulated latency, which changes nothing; a call runs from its start to its end. A call that raises returns the state it
leaves behind.
-/

namespace Quant

open Pylib

/-- What a new gateway is given. -/
structure PaperConfigFields where
  initialBalance : ℚ := 1000000
  feeBps : ℚ := 2
  slippageBps : ℚ := 1
  latencyMs : ℚ := 0
  deriving DecidableEq

/-- A configuration the constructor accepted. -/
structure PaperConfig extends PaperConfigFields where
  initialBalance_nonneg : 0 ≤ initialBalance
  feeBps_nonneg : 0 ≤ feeBps
  slippageBps_nonneg : 0 ≤ slippageBps
  latencyMs_nonneg : 0 ≤ latencyMs
  deriving DecidableEq

/-- The checks of `PaperExecutionGateway.__init__` on its numbers. -/
def PaperConfigFields.create (c : PaperConfigFields) : Except Exc PaperConfig :=
  if h1 : c.initialBalance < 0 then
    .error (fieldFault "initial_balance must be finite scalar >= 0.0, got %" (.num c.initialBalance))
  else if h2 : c.feeBps < 0 then .error (fieldFault "fee_bps must be finite scalar >= 0.0, got %" (.num c.feeBps))
  else if h3 : c.slippageBps < 0 then
    .error (fieldFault "slippage_bps must be finite scalar >= 0.0, got %" (.num c.slippageBps))
  else if h4 : c.latencyMs < 0 then .error (fieldFault "latency_ms must be finite scalar >= 0.0, got %" (.num c.latencyMs))
  else .ok
    { c with
      initialBalance_nonneg := not_lt.1 h1
      feeBps_nonneg := not_lt.1 h2
      slippageBps_nonneg := not_lt.1 h3
      latencyMs_nonneg := not_lt.1 h4 }

/-- The clock and the random identifier a report takes. -/
structure Stamp where
  nowNs : ℕ
  hex : String
  deriving DecidableEq

/-- The gateway and the order objects. -/
structure PaperGateway where
  config : PaperConfig
  router : IdempotencyRouter
  heap : Ref → Order
  isConnected : Bool := false
  cash : ℚ
  positions : Dict String ℚ := ∅
  orders : Dict String Ref := ∅
  marketPrices : Dict String ℚ := ∅
  reportCounter : ℕ := 0

namespace PaperGateway

/-- A new gateway. -/
def init (config : PaperConfig) (router : IdempotencyRouter) (heap : Ref → Order) : PaperGateway :=
  { config := config, router := router, heap := heap, cash := config.initialBalance }

/-- `connect`. -/
def connect (w : PaperGateway) : PaperGateway := { w with isConnected := true }

/-- `disconnect`. -/
def disconnect (w : PaperGateway) : PaperGateway := { w with isConnected := false }

/-! ## Parts of the calls -/

/-- Change an order object. -/
def setOrder (w : PaperGateway) (r : Ref) (o : Order) : PaperGateway := { w with heap := Function.update w.heap r o }

/-- `self._idempotency_router.deregister_order(cl_ord_id)`. -/
def deregister (w : PaperGateway) (id : String) : Except Exc Unit × PaperGateway :=
  match w.router.deregisterOrder id with
  | .error exc => (.error exc, w)
  | .ok (_, rt) => (.ok (), { w with router := rt })

/-- Give an order up: deregister it, remove it from the book and raise. -/
def release {α : Type} (w : PaperGateway) (id : String) (exc : Exc) : Except Exc α × PaperGateway :=
  match w.deregister id with
  | (.error exc', w) => (.error exc', w)
  | (.ok (), w) => (.error exc, { w with orders := w.orders.erase id })

/-- The text of the exception for a symbol without a market price. -/
def noMarketPrice (symbol : String) : Exc := ⟨.invalidOrderInput, "No market price available for symbol %", [.str symbol]⟩

/-- The limit of an order. A limit order past the checks of `submit_order` has a price, so the assertions on it hold. -/
def limitPrice (o : Order) : ℚ := o.price.getD 0

/-- A resting order trades at a market price within its limit. -/
def crosses (o : Order) (price : ℚ) : Bool :=
  (o.side = .buy ∧ price ≤ limitPrice o) ∨ (o.side = .sell ∧ limitPrice o ≤ price)

/-- The new position after a fill, rounded to eight decimals; what is left of a closed one is dropped. -/
def newPosition (pos : ℚ) (signed : ℚ) : ℚ :=
  let p := round (pos + signed) 8
  if |p| < 1 / 10 ^ 9 then 0 else p

/-- The cash a fill brings: a sale its notional, a purchase minus its notional, less the fee. -/
def cashFlow (side : OrderSide) (notional fee : ℚ) : ℚ :=
  match side with
  | .buy => -(notional + fee)
  | .sell => notional - fee

/-- The fee of a notional. -/
def feeOf (w : PaperGateway) (notional : ℚ) : ℚ := notional * (w.config.feeBps * (1 / 10 ^ 4))

/-- The cash and position updates of a fill. -/
def settle (w : PaperGateway) (o : Order) (price : ℚ) : PaperGateway :=
  let notional := price * o.quantity
  { w with
    cash := w.cash + cashFlow o.side notional (w.feeOf notional)
    positions := w.positions.set o.symbol (newPosition (w.positions.getD o.symbol 0) (o.side.signed o.quantity)) }

/-- The report of a fill, with the counter already raised. -/
def fillReport (w : PaperGateway) (o : Order) (price : ℚ) (exchangeOrderId : String) (t : Stamp) (text : String) :
    ReportFields :=
  { reportId := "rep-paper-" ++ t.hex ++ "-" ++ toString w.reportCounter
    clOrdId := o.clOrdId
    exchangeOrderId := exchangeOrderId
    symbol := o.symbol
    side := o.side
    execType := .filled
    lastQuantity := o.quantity
    lastPrice := price
    cumQuantity := o.quantity
    leavesQuantity := 0
    cumQuoteAmount := price * o.quantity
    averagePrice := price
    fee := w.feeOf (price * o.quantity)
    timestampNs := t.nowNs
    text := text }

/-- Apply a report to an order object, then deregister the order. -/
def applyReport (w : PaperGateway) (r : Ref) (rep : ExecutionReport) : Except Exc ExecutionReport × PaperGateway :=
  match (w.heap r).applyExecutionReport rep with
  | (.error exc, o) => (.error exc, w.setOrder r o)
  | (.ok (), o) =>
    match (w.setOrder r o).deregister o.clOrdId with
    | (.error exc, w) => (.error exc, w)
    | (.ok (), w) => (.ok rep, w)

/-- Execute an order in full at a price: cash and position, then the report, then the order and its registration. -/
def execute (w : PaperGateway) (r : Ref) (price : ℚ) (exchangeOrderId : String) (t : Stamp) (text : String) :
    Except Exc ExecutionReport × PaperGateway :=
  let w := { w.settle (w.heap r) price with reportCounter := w.reportCounter + 1 }
  match (w.fillReport (w.heap r) price exchangeOrderId t text).create with
  | .error exc => (.error exc, w)
  | .ok rep => w.applyReport r rep

/-! ## Market data -/

/-- `order.exchange_order_id or f"ex-{order.cl_ord_id}"`. -/
def exchangeIdOr (o : Order) : String :=
  match o.exchangeOrderId with
  | none => "ex-" ++ o.clOrdId
  | some id => if id = "" then "ex-" ++ o.clOrdId else id

/-- An active limit order on the symbol whose limit the price reaches. -/
def isMatch (o : Order) (symbol : String) (price : ℚ) : Bool :=
  o.symbol = symbol ∧ o.isActive ∧ o.orderType = .limit ∧ crosses o price

/-- The loop of `set_market_price` over a snapshot of the book: fill what the price matches, collecting the reports. -/
def matchResting (symbol : String) (price : ℚ) (t : ℕ → Stamp) :
    List Ref → List ExecutionReport → PaperGateway → Except Exc (List ExecutionReport) × PaperGateway
  | [], reports, w => (.ok reports, w)
  | r :: rs, reports, w =>
    if isMatch (w.heap r) symbol price then
      match w.execute r price (exchangeIdOr (w.heap r)) (t reports.length) "Resting limit order matched" with
      | (.error exc, w) => (.error exc, w)
      | (.ok rep, w) => matchResting symbol price t rs (reports ++ [rep]) w
    else matchResting symbol price t rs reports w

/-- `set_market_price`. -/
def setMarketPrice (w : PaperGateway) (symbol : String) (price : ℚ) (t : ℕ → Stamp) :
    Except Exc (List ExecutionReport) × PaperGateway :=
  if strip symbol = "" then
    (.error ⟨.invalidOrderInput, "symbol must be non-empty string, got %", [.str symbol]⟩, w)
  else if price ≤ 0 then (.error ⟨.invalidOrderInput, "price must be finite scalar > 0.0, got %", [.num price]⟩, w)
  else
    matchResting (strip symbol) price t w.orders.values []
      { w with marketPrices := w.marketPrices.set (strip symbol) price }

/-! ## Submission -/

/-- The checks of `submit_order` before an order is registered. -/
def submitFault (w : PaperGateway) (o : Order) : Option Exc :=
  if ¬ w.isConnected then some ⟨.gatewayDisconnected, "Cannot submit order while gateway is disconnected", []⟩
  else if o.isTerminal then
    some ⟨.invalidStateTransition, "Cannot submit order in terminal state %", [.str o.state.value]⟩
  else if o.state ≠ .pendingNew then
    some ⟨.invalidStateTransition, "Cannot submit order with state %, expected PENDING_NEW", [.str o.state.value]⟩
  else if o.orderType ≠ .market ∧ o.orderType ≠ .limit then
    some ⟨.invalidOrderInput, "Unsupported order type for paper gateway: %", [.str o.orderType.value]⟩
  else if o.orderType = .limit ∧ ∀ p ∈ o.price, p ≤ 0 then
    some ⟨.invalidOrderInput, "LIMIT order must specify price > 0.0, got %", [.num (limitPrice o)]⟩
  else none

/-- The market price moved against a purchase by the slippage. -/
def slippedBuy (w : PaperGateway) (cur : ℚ) : ℚ := cur * (1 + w.config.slippageBps * (1 / 10 ^ 4))

/-- The market price moved against a sale by the slippage. -/
def slippedSell (w : PaperGateway) (cur : ℚ) : ℚ := cur * (1 - w.config.slippageBps * (1 / 10 ^ 4))

/-- The price a purchase is checked at: none for a market order on a symbol without a market price. -/
def estFillPrice (w : PaperGateway) (o : Order) : Option ℚ :=
  match w.marketPrices.get? o.symbol with
  | none => if o.orderType = .market then none else some (limitPrice o)
  | some cur =>
    if o.orderType = .market then some (w.slippedBuy cur)
    else if cur ≤ limitPrice o then some (min (limitPrice o) (w.slippedBuy cur))
    else some (limitPrice o)

/-- The purchasing-power check: what it raises for a purchase, and nothing for a sale. -/
def powerFault (w : PaperGateway) (o : Order) : Option Exc :=
  match o.side with
  | .sell => none
  | .buy =>
    match w.estFillPrice o with
    | none => some (noMarketPrice o.symbol)
    | some est =>
      let required := est * o.quantity + w.feeOf (est * o.quantity)
      if w.cash < required then
        some ⟨.insufficientMargin, "Required purchasing power % exceeds available cash %", [.num required, .num w.cash]⟩
      else none

/-- Whether an order trades at once: every market order, and a limit order the known market price reaches. -/
def isMarketable (w : PaperGateway) (o : Order) : Bool :=
  match o.orderType with
  | .market => true
  | .limit =>
    match w.marketPrices.get? o.symbol with
    | none => false
    | some cur => crosses o cur
  | _ => false

/-- The price of an immediate fill. -/
def fillPrice (w : PaperGateway) (o : Order) (cur : ℚ) : ℚ :=
  match o.side with
  | .buy => if o.orderType = .limit then min (limitPrice o) (w.slippedBuy cur) else w.slippedBuy cur
  | .sell => if o.orderType = .limit then max (limitPrice o) (w.slippedSell cur) else w.slippedSell cur

/-- The acknowledgement of a resting order, with the counter already raised. -/
def ackReport (w : PaperGateway) (o : Order) (t : Stamp) : ReportFields :=
  { reportId := "rep-paper-" ++ t.hex ++ "-" ++ toString w.reportCounter
    clOrdId := o.clOrdId
    exchangeOrderId := o.exchangeOrderId.getD ""
    symbol := o.symbol
    side := o.side
    execType := .new
    lastQuantity := 0
    lastPrice := 0
    cumQuantity := 0
    leavesQuantity := o.quantity
    cumQuoteAmount := 0
    averagePrice := 0
    fee := 0
    timestampNs := t.nowNs
    text := "Limit order resting on book" }

/-- The order gets an exchange identifier if it has none. -/
def assignExchangeId (o : Order) : Order :=
  if o.exchangeOrderId = none then { o with exchangeOrderId := some ("ex-" ++ o.clOrdId) } else o

/-- A limit order that rests: raise the counter and acknowledge. -/
def rest (w : PaperGateway) (r : Ref) (t : Stamp) : Except Exc ExecutionReport × PaperGateway :=
  let w := { w with reportCounter := w.reportCounter + 1 }
  match (w.ackReport (w.heap r) t).create with
  | .error exc => (.error exc, w)
  | .ok rep => (.ok rep, w)

/-- `submit_order` once the order passed the purchasing-power check: it becomes `NEW`, then trades at once or rests. -/
def accept (w : PaperGateway) (r : Ref) (t : Stamp) : Except Exc ExecutionReport × PaperGateway :=
  match (w.heap r).transition .new t.nowNs with
  | (.error exc, o) => (.error exc, w.setOrder r o)
  | (.ok (), o) =>
    let o := assignExchangeId o
    let w := w.setOrder r o
    if w.isMarketable o then
      match w.marketPrices.get? o.symbol with
      | none => w.release o.clOrdId (noMarketPrice o.symbol)
      | some cur => w.execute r (w.fillPrice o cur) (o.exchangeOrderId.getD "") t "Order filled immediately"
    else w.rest r t

/-- The order is put in the book, under its identifier as it stands. -/
def enter (w : PaperGateway) (rt : IdempotencyRouter) (id : String) (r : Ref) : PaperGateway :=
  { w with router := rt, orders := w.orders.set id r }

/-- `submit_order`. -/
def submitOrder (w : PaperGateway) (r : Ref) (t : Stamp) : Except Exc ExecutionReport × PaperGateway :=
  let o := w.heap r
  match w.submitFault o with
  | some exc => (.error exc, w)
  | none =>
    match w.router.registerOrder o.clOrdId r with
    | .error exc => (.error exc, w)
    | .ok rt =>
      match (w.enter rt o.clOrdId r).powerFault o with
      | some exc => (w.enter rt o.clOrdId r).release o.clOrdId exc
      | none => (w.enter rt o.clOrdId r).accept r t

/-! ## Cancellation and queries -/

/-- The report of a cancellation, with the counter already raised. -/
def cancelReport (w : PaperGateway) (o : Order) (t : Stamp) : ReportFields :=
  { reportId := "rep-paper-" ++ t.hex ++ "-" ++ toString w.reportCounter
    clOrdId := o.clOrdId
    exchangeOrderId := exchangeIdOr o
    symbol := o.symbol
    side := o.side
    execType := .cancelled
    lastQuantity := 0
    lastPrice := 0
    cumQuantity := o.filledQuantity
    leavesQuantity := 0
    cumQuoteAmount := o.filledQuoteAmount
    averagePrice := o.averagePrice
    fee := 0
    timestampNs := t.nowNs
    text := "Order cancelled by client" }

/-- The exception for a blank identifier. -/
def blankId (id : String) : Exc := ⟨.invalidOrderInput, "cl_ord_id must be non-empty string, got %", [.str id]⟩

/-- The exception for an identifier the book does not have. -/
def notFound (id : String) : Exc := ⟨.invalidOrderInput, "Order '%' not found in gateway registry", [.str id]⟩

/-- `cancel_order`. -/
def cancelOrder (w : PaperGateway) (id : String) (t : Stamp) : Except Exc ExecutionReport × PaperGateway :=
  if ¬ w.isConnected then (.error ⟨.gatewayDisconnected, "Cannot cancel order while gateway is disconnected", []⟩, w)
  else if strip id = "" then (.error (blankId id), w)
  else
    match w.orders.get? (strip id) with
    | none => (.error (notFound (strip id)), w)
    | some r =>
      if (w.heap r).isTerminal then
        (.error ⟨.invalidStateTransition, "Cannot cancel order % in immutable terminal state %",
          [.str (strip id), .str (w.heap r).state.value]⟩, w)
      else
        let w := { w with reportCounter := w.reportCounter + 1 }
        match (w.cancelReport (w.heap r) t).create with
        | .error exc => (.error exc, w)
        | .ok rep => w.applyReport r rep

/-- `get_order`. -/
def getOrder (w : PaperGateway) (id : String) : Except Exc (Option Ref) :=
  if strip id = "" then .error (blankId id) else .ok (w.orders.get? (strip id))

/-- `get_open_orders`. -/
def getOpenOrders (w : PaperGateway) : List Ref := w.orders.values.filter (fun r => (w.heap r).isActive)

/-! ## Runs -/

/-- A call on the gateway. -/
inductive Op where
  | submit (r : Ref) (t : Stamp)
  | cancel (id : String) (t : Stamp)
  | setPrice (symbol : String) (price : ℚ) (t : ℕ → Stamp)
  | connect
  | disconnect

/-- The exception a call raises, if it does. -/
def raised (w : PaperGateway) : Op → Option Exc
  | .submit r t => match (w.submitOrder r t).1 with | .error exc => some exc | .ok _ => none
  | .cancel id t => match (w.cancelOrder id t).1 with | .error exc => some exc | .ok _ => none
  | .setPrice symbol price t => match (w.setMarketPrice symbol price t).1 with | .error exc => some exc | .ok _ => none
  | .connect => none
  | .disconnect => none

/-- The reports a call returns. -/
def reports (w : PaperGateway) : Op → List ExecutionReport
  | .submit r t => match (w.submitOrder r t).1 with | .error _ => [] | .ok rep => [rep]
  | .cancel id t => match (w.cancelOrder id t).1 with | .error _ => [] | .ok rep => [rep]
  | .setPrice symbol price t => match (w.setMarketPrice symbol price t).1 with | .error _ => [] | .ok reps => reps
  | .connect => []
  | .disconnect => []

/-- The state a call leaves behind, whether it returns or raises. -/
def step (w : PaperGateway) : Op → PaperGateway
  | .submit r t => (w.submitOrder r t).2
  | .cancel id t => (w.cancelOrder id t).2
  | .setPrice symbol price t => (w.setMarketPrice symbol price t).2
  | .connect => w.connect
  | .disconnect => w.disconnect

end PaperGateway

end Quant
