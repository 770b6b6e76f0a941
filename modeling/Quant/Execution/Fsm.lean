import Quant.Execution.Models

/-!
# The order state machine

`OrderStateMachine` of `execution/fsm.py`. It changes the order object it is given; here a call returns the order it leaves
behind, also when it raises.
-/

namespace Quant

/-- The states an order may go to from each state. -/
def validTransitions : OrderState → List OrderState
  | .pendingNew => [.new, .partiallyFilled, .filled, .rejected, .expired]
  | .new => [.partiallyFilled, .filled, .pendingCancel, .cancelled, .expired]
  | .partiallyFilled => [.partiallyFilled, .filled, .pendingCancel, .cancelled, .expired]
  | .pendingCancel => [.cancelled, .filled, .partiallyFilled]
  | .filled => []
  | .cancelled => []
  | .rejected => []
  | .expired => []

/-- `can_transition`. -/
def canTransition (s t : OrderState) : Bool := t ∈ validTransitions s

namespace Order

/-- Move an order to a state at a time. -/
def setState (o : Order) (s : OrderState) (ts : ℕ) : Order := { o with state := s, updatedAtNs := ts }

/-- A fill that overtook its acknowledgement: the order passes through `NEW` first. -/
def reconcile (o : Order) (next : OrderState) (ts : ℕ) : Order :=
  if o.state = .pendingNew ∧ (next = .partiallyFilled ∨ next = .filled) then o.setState .new ts else o

/-- `OrderStateMachine.transition`, without a report. -/
def transition (o : Order) (next : OrderState) (ts : ℕ) : Except Exc Unit × Order :=
  if o.isTerminal then
    (.error ⟨.invalidStateTransition, "Cannot transition order % from terminal state % to %",
      [.str o.clOrdId, .str o.state.value, .str next.value]⟩, o)
  else
    let o' := o.reconcile next ts
    if canTransition o'.state next then (.ok (), o'.setState next ts)
    else
      (.error ⟨.invalidStateTransition, "Invalid state transition from % to % for order %",
        [.str o'.state.value, .str next.value, .str o.clOrdId]⟩, o')

/-- An exchange identifier a report carries; an empty one is ignored. -/
def withExchangeId (o : Order) (id : String) : Order := if id = "" then o else { o with exchangeOrderId := some id }

/-- The changes an accepted report makes to an order. -/
def book (o : Order) (rep : ExecutionReport) : Order :=
  { o.withExchangeId rep.exchangeOrderId with
    state := rep.execType
    filledQuantity := rep.cumQuantity
    filledQuoteAmount := rep.cumQuoteAmount
    averagePrice := rep.averagePrice
    feesPaid := o.feesPaid + rep.fee
    updatedAtNs := rep.timestampNs
    clOrdId_ne := (o.withExchangeId rep.exchangeOrderId).clOrdId_ne
    symbol_ne := (o.withExchangeId rep.exchangeOrderId).symbol_ne
    quantity_pos := (o.withExchangeId rep.exchangeOrderId).quantity_pos
    price_pos := (o.withExchangeId rep.exchangeOrderId).price_pos
    stopPrice_pos := (o.withExchangeId rep.exchangeOrderId).stopPrice_pos
    filledQuantity_nonneg := rep.cumQuantity_nonneg
    filledQuoteAmount_nonneg := rep.cumQuoteAmount_nonneg
    averagePrice_nonneg := rep.averagePrice_nonneg
    feesPaid_nonneg := add_nonneg o.feesPaid_nonneg rep.fee_nonneg }

/-- `OrderStateMachine.apply_execution_report`. -/
def applyExecutionReport (o : Order) (rep : ExecutionReport) : Except Exc Unit × Order :=
  if o.clOrdId ≠ rep.clOrdId then
    (.error ⟨.invalidOrderInput, "Order cl_ord_id '%' does not match ExecutionReport cl_ord_id '%'",
      [.str o.clOrdId, .str rep.clOrdId]⟩, o)
  else if o.isTerminal then
    (.error ⟨.invalidStateTransition, "Cannot apply execution report % to order % in immutable terminal state %",
      [.str rep.reportId, .str o.clOrdId, .str o.state.value]⟩, o)
  else if o.quantity + 1 / 10 ^ 7 < rep.cumQuantity then
    (.error ⟨.invalidOrderInput,
      "Execution report cumulative quantity % exceeds order target quantity % (INV-GW-003 violation)",
      [.num rep.cumQuantity, .num o.quantity]⟩, o)
  else if rep.cumQuantity < o.filledQuantity - 1 / 10 ^ 7 then
    (.error ⟨.invalidOrderInput,
      "Execution report cumulative quantity % is less than previously filled quantity % (monotonicity violation)",
      [.num rep.cumQuantity, .num o.filledQuantity]⟩, o)
  else
    let o' :=
      if o.state = .pendingNew ∧ (rep.execType = .partiallyFilled ∨ rep.execType = .filled) then
        (o.setState .new rep.timestampNs).withExchangeId rep.exchangeOrderId
      else o
    if canTransition o'.state rep.execType then (.ok (), o'.book rep)
    else
      (.error ⟨.invalidStateTransition, "Invalid state transition from % to % for order %",
        [.str o'.state.value, .str rep.execType.value, .str o.clOrdId]⟩, o')

/-! ## Calls -/

/-- The time of a transition: the clock's, one that is given, or that of the report the transition is made for. -/
inductive TransitionTime where
  | clock (nowNs : ℕ)
  | given (ts : ℤ)
  | report (rep : ExecutionReport)

/-- `OrderStateMachine.transition`, with its argument for the time or the report. -/
def transitionAt (o : Order) (next : OrderState) : TransitionTime → Except Exc Unit × Order
  | .clock nowNs => o.transition next nowNs
  | .given ts =>
    if ts < 0 then (.error (fieldFault "Order transition timestamp_ns must be integer >= 0, got %" (.num ts)), o)
    else o.transition next ts.toNat
  | .report rep =>
    if rep.execType ≠ next then
      (.error ⟨.invalidStateTransition, "Target state % does not match report exec_type %",
        [.str next.value, .str rep.execType.value]⟩, o)
    else o.applyExecutionReport rep

/-- The calls on the state machine for one order. -/
inductive FsmCall where
  | transition (next : OrderState) (time : TransitionTime)
  | apply (rep : ExecutionReport)

/-- One call. -/
def fsmStep (o : Order) : FsmCall → Except Exc Unit × Order
  | .transition next time => o.transitionAt next time
  | .apply rep => o.applyExecutionReport rep

/-- The order after a sequence of calls, accepted or raising. -/
def afterCalls (o : Order) (calls : List FsmCall) : Order := calls.foldl (fun o c => (o.fsmStep c).2) o

/-- An order as its constructor leaves it when only its terms are given. -/
structure Fresh (o : Order) : Prop where
  state : o.state = .pendingNew
  exchangeOrderId : o.exchangeOrderId = none
  filledQuantity : o.filledQuantity = 0
  filledQuoteAmount : o.filledQuoteAmount = 0
  averagePrice : o.averagePrice = 0
  feesPaid : o.feesPaid = 0

end Order

end Quant
