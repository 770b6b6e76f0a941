import Quant.Execution.KillSwitch
import Quant.Execution.Risk
import Quant.Execution.Sor

/-!
# The risk orchestrator

`RiskOrchestrator.route_order` of `execution/risk_orchestrator.py`: the checks and the reservation before the first await, the
direct submission or the slice of the router, and the reconciliation of leaves and fills after it. As for `route_slice`, a phase
holds what is awaited, `routeOrder` runs the code to the first await and `resumeOrder` from an answer to the next one.
-/

namespace Quant

open Pylib SmartOrderRouter

/-- The orchestrator: the switch, the limits of the firewall, the portfolio, the router and the gateways. -/
structure RiskOrchestrator where
  killSwitch : EmergencyKillSwitch
  limits : RiskLimits
  state : PortfolioRiskState
  router : Option SmartOrderRouter := none
  gateways : Dict String GatewayRef := ∅
  defaultGatewayId : Option String := none

/-- A call of `route_order`, with the clock and the random identifiers a slice takes. -/
structure RouteCall where
  order : Order
  targetGatewayId : Option String := none
  currentPrice : Option ℚ := none
  quote : Option ConsolidatedQuote := none
  nowNs : ℕ := 0
  hex : ℕ → String := fun _ => ""

/-- What a routed order returns: the report of the gateway, or the reports of the router. -/
inductive Routed where
  | report (rep : ExecutionReport)
  | reports (reps : List ExecutionReport)

/-- The awaits of `route_order`. -/
inductive RoutePhase where
  | direct (gateway : GatewayRef)
  | slice (gateway : GatewayRef) (call : SliceCall) (phase : SlicePhase)
  | done (result : Except Exc Routed)

namespace RiskOrchestrator

/-- `_resolve_gateway`. -/
def resolveGateway (o : RiskOrchestrator) (targetGatewayId : Option String) : Except Exc GatewayRef :=
  match targetGatewayId with
  | some id =>
    match o.gateways.get? id with
    | none => .error ⟨.runtimeError, "Target execution gateway '%' is not registered.", [.str id]⟩
    | some gw => .ok gw
  | none =>
    match o.defaultGatewayId.bind (fun id => o.gateways.get? id), o.gateways.values.head? with
    | some gw, _ => .ok gw
    | none, some gw => .ok gw
    | none, none => .error ⟨.runtimeError, "No execution gateways registered in RiskOrchestrator.", []⟩

/-! ## Leaves and fills -/

/-- Reserve the leaves of an order. -/
def reserve (s : PortfolioRiskState) (order : Order) : PortfolioRiskState :=
  { s with pendingLeaves :=
    s.pendingLeaves.set order.symbol (s.pendingLeaves.getD order.symbol 0 + order.signedQuantity) }

/-- Give back leaves; nothing is left of an entry that is negligible. -/
def giveBack (s : PortfolioRiskState) (sym : String) (signed : ℚ) : PortfolioRiskState :=
  { s with pendingLeaves :=
    PortfolioRiskState.putLeaves s.pendingLeaves sym (s.pendingLeaves.getD sym 0 - signed) }

/-- The price a fill is booked at: the report's, or the order's limit, or the price given, or the last valuation, or one. -/
def bookedPrice (s : PortfolioRiskState) (c : RouteCall) (rep : ExecutionReport) : ℚ :=
  if 0 < rep.lastPrice then rep.lastPrice
  else
    match c.order.price.filter (fun p => 0 < p), c.currentPrice.filter (fun p => p ≠ 0) with
    | some p, _ => p
    | none, some p => p
    | none, none => s.currentPrices.getD c.order.symbol 1

/-- A report of a fill. -/
def isFill (rep : ExecutionReport) : Bool := rep.execType = .filled ∨ rep.execType = .partiallyFilled

/-- `except Exception`: roll the reservation back and raise again. -/
def rollBack (s : PortfolioRiskState) (c : RouteCall) (exc : Exc) : Except Exc Routed × PortfolioRiskState :=
  (.error exc, if exc.isException then giveBack s c.order.symbol c.order.signedQuantity else s)

/-- The loop that books the fills of a slice: the quantity it booked. -/
def bookFills (c : RouteCall) : List ExecutionReport → PortfolioRiskState → ℚ → Except Exc ℚ × PortfolioRiskState
  | [], s, total => (.ok total, s)
  | rep :: reps, s, total =>
    if isFill rep then
      match s.updateFill c.order.symbol rep.cumQuantity (bookedPrice s c rep) c.order.side with
      | (.error exc, s) => (.error exc, s)
      | (.ok (), s) => bookFills c reps s (total + rep.cumQuantity)
    else bookFills c reps s total

/-- The reconciliation of a slice: book its fills and give back what is unfilled. -/
def reconcileSlice (s : PortfolioRiskState) (c : RouteCall) (reps : List ExecutionReport) :
    Except Exc Routed × PortfolioRiskState :=
  match bookFills c reps s 0 with
  | (.error exc, s) => rollBack s c exc
  | (.ok total, s) =>
    let unfilled := max 0 (c.order.quantity - total)
    (.ok (.reports reps),
      if 1 / 10 ^ 7 < unfilled then giveBack s c.order.symbol (c.order.side.signed unfilled) else s)

/-- The reconciliation of a direct submission: a dead order gives its leaves back, a fill is booked, a resting order keeps
them. -/
def reconcileReport (s : PortfolioRiskState) (c : RouteCall) (rep : ExecutionReport) :
    Except Exc Routed × PortfolioRiskState :=
  if rep.execType = .rejected ∨ rep.execType = .cancelled ∨ rep.execType = .expired then
    (.ok (.report rep), giveBack s c.order.symbol c.order.signedQuantity)
  else if isFill rep then
    let qty := if 0 < rep.lastQuantity then rep.lastQuantity else rep.cumQuantity
    match s.updateFill c.order.symbol qty (bookedPrice s c rep) c.order.side with
    | (.error exc, s) => rollBack s c exc
    | (.ok (), s) => (.ok (.report rep), s)
  else (.ok (.report rep), s)

/-! ## Routing -/

/-- End a call with a result and a portfolio. -/
def settle (o : RiskOrchestrator) (r : Except Exc Routed × PortfolioRiskState) : RoutePhase × RiskOrchestrator :=
  (.done r.1, { o with state := r.2 })

/-- A slice that has ended is reconciled; one that waits goes on waiting. -/
def afterSlice (o : RiskOrchestrator) (c : RouteCall) (gw : GatewayRef) (call : SliceCall) :
    SlicePhase → RoutePhase × RiskOrchestrator
  | .done (.ok reps) => o.settle (reconcileSlice o.state c reps)
  | .done (.error exc) => o.settle (rollBack o.state c exc)
  | phase => (.slice gw call phase, o)

/-- The call of the router for an order. -/
def sliceCall (c : RouteCall) (quote : ConsolidatedQuote) : SliceCall :=
  { symbol := c.order.symbol
    side := c.order.side
    quantity := c.order.quantity
    quote := quote
    nowNs := c.nowNs
    hex := c.hex }

/-- The dispatch of an order whose leaves are reserved. -/
def dispatch (o : RiskOrchestrator) (c : RouteCall) (isConnected : GatewayRef → Bool) : RoutePhase × RiskOrchestrator :=
  match o.resolveGateway c.targetGatewayId with
  | .error exc => o.settle (rollBack o.state c exc)
  | .ok gw =>
    match o.router, c.quote, c.targetGatewayId with
    | some r, some quote, none =>
      let call := sliceCall c quote
      { o with router := some (r.routeSlice call (isConnected gw)).2 }.afterSlice c gw call
        (r.routeSlice call (isConnected gw)).1
    | _, _, _ => (.direct gw, o)

/-- The checks of `route_order` before the reservation, with the portfolio the firewall leaves. -/
def clear (o : RiskOrchestrator) (c : RouteCall) : Except Exc Unit × PortfolioRiskState :=
  match o.killSwitch.submissionFault with
  | some exc => (.error exc, o.state)
  | none => PreTradeRiskFirewall.validateOrder o.limits o.state c.order c.currentPrice

/-- `route_order` up to its first await. -/
def routeOrder (o : RiskOrchestrator) (c : RouteCall) (isConnected : GatewayRef → Bool) : RoutePhase × RiskOrchestrator :=
  match o.clear c with
  | (.error exc, s) => (.done (.error exc), { o with state := s })
  | (.ok (), s) => { o with state := reserve s c.order }.dispatch c isConnected

/-- `route_order` from the answer to an await up to the next await. The router it goes on with is the one of the orchestrator. -/
def resumeOrder (o : RiskOrchestrator) (c : RouteCall) : RoutePhase → Except Exc ExecutionReport →
    RoutePhase × RiskOrchestrator
  | .direct _, .error exc => o.settle (rollBack o.state c exc)
  | .direct _, .ok rep => o.settle (reconcileReport o.state c rep)
  | .slice gw call phase, answer =>
    match o.router with
    | none => (.slice gw call phase, o)
    | some r =>
      { o with router := some (r.resumeSlice call phase answer).2 }.afterSlice c gw call (r.resumeSlice call phase answer).1
  | .done result, _ => (.done result, o)

end RiskOrchestrator

end Quant
