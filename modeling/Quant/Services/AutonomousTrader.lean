import Quant.Execution.RiskOrchestrator
import Quant.Pylib.Decimal
import Quant.Services.ExecutionService

/-!
# The autonomous trading engine

`AutonomousTradingEngine` of `services/autonomous_trader.py`, with what `ExecutionService.submit_parent_order` starts for it.
Calls of `step_once` and the background tasks of its orders are cut at their awaits; the world holds those that are on the event
loop and the positions at the gateway, and takes their parts in any order.
-/

namespace Quant

open Pylib

/-! ## Targets and differences -/

/-- The engine. -/
structure AutonomousTradingEngine where
  universeSymbols : List String
  minTradeNotional : ℚ
  forwardAlphaPriors : Dict String ℚ := ∅
  minTradeNotional_ge : 1 ≤ minTradeNotional

namespace AutonomousTradingEngine

/-- `AutonomousTradingEngine.__init__`. -/
def create (symbols : List String) (minTradeNotional : ℚ) : AutonomousTradingEngine where
  universeSymbols := if symbols = [] then ["SPY", "QQQ", "AAPL", "NVDA", "MSFT"] else symbols
  minTradeNotional := max 1 minTradeNotional
  minTradeNotional_ge := le_max_left _ _

/-- `update_news_alpha_priors`. -/
def updateNewsAlphaPriors (self : AutonomousTradingEngine) (priors : List (String × ℚ)) : AutonomousTradingEngine :=
  { self with
    forwardAlphaPriors := priors.foldl (fun d p => d.set p.1 (min (max p.2 (-1)) 1)) self.forwardAlphaPriors }

/-- The allocation of a symbol in dollars, by the close of its bar. -/
def allocation (self : AutonomousTradingEngine) (bars : Dict String ℚ) (targetPerAsset maxSafeAllocation : ℚ)
    (sym : String) : ℚ :=
  if 0 < bars.getD sym 0 then
    let prior := self.forwardAlphaPriors.getD sym 0
    let multiplier := max 0 (1 + 1 / 2 * prior)
    let rawTarget := round (targetPerAsset * multiplier) 2
    min rawTarget maxSafeAllocation
  else 0

/-- `_compute_target_allocations`: the allocations, and the haircut. -/
def computeTargetAllocations (self : AutonomousTradingEngine) (bars : Dict String ℚ) (equity : ℚ) (isKillActive : Bool) :
    Dict String ℚ × ℚ :=
  if isKillActive ∨ equity ≤ 0 ∨ bars.keys = [] then (self.universeSymbols.foldl (fun d sym => d.set sym 0) ∅, 0)
  else
    let haircut := 1
    let nAssets := self.universeSymbols.length
    if nAssets = 0 then (∅, haircut)
    else
      let targetPerAsset := equity * (3 / 5) / nAssets * haircut
      let maxSafeAllocation := equity * (1 / 5)
      (self.universeSymbols.foldl (fun d sym => d.set sym (self.allocation bars targetPerAsset maxSafeAllocation sym)) ∅, haircut)

end AutonomousTradingEngine

/-- The difference a step finds between the target and the shares it counts, held or working. -/
def deltaShares (targetDollar price currentShares workingLeaves : ℚ) : ℚ := targetDollar / price - (currentShares + workingLeaves)

/-- The side of the order for a difference. -/
def orderSide (delta : ℚ) : OrderSide := if 0 < delta then .buy else .sell

/-- The quantity of the order for a difference. -/
def orderQuantity (delta : ℚ) : ℚ := max (1 / 1000) (round |delta| 4)

/-! ## The order of a step -/

/-- A `ParentOrderCreateRequest` of the engine: at the market, in one direct slice. -/
structure RebalanceRequest where
  symbol : String
  side : OrderSide
  quantity : ℚ
  symbol_length : 1 ≤ symbol.length ∧ symbol.length ≤ 30
  quantity_pos : 0 < quantity

/-- The request, unless its schema refuses it. -/
def RebalanceRequest.create (symbol : String) (side : OrderSide) (quantity : ℚ) : Option RebalanceRequest :=
  if hs : 1 ≤ symbol.length ∧ symbol.length ≤ 30 then
    if hq : 0 < quantity then some ⟨symbol, side, quantity, hs, hq⟩ else none
  else none

/-- The slice `_generate_slices` makes of a request. -/
def RebalanceRequest.slice (request : RebalanceRequest) (t0Ns : ℕ) : ScheduledSlice where
  sliceIndex := 0
  quantity := request.quantity
  scheduledTimeNs := t0Ns
  quantity_pos := request.quantity_pos
  priceLimit_pos := Literal.none_pos

/-- Where the background task of an order stands. -/
inductive TaskPhase where
  | created
  | routing (call : RouteCall) (gateway : GatewayRef)
  | ended

/-- An order of the engine, with its one slice and the difference it was sent for. -/
structure RebalanceOrder where
  parent : ParentOrder
  slice : ScheduledSlice
  delta : ℚ

/-- The signed quantity of an order. -/
def RebalanceOrder.signedQuantity (r : RebalanceOrder) : ℚ := r.parent.side.signed r.parent.totalQuantity

/-- The background task of an order, with what the gateway has executed of it and what its routing has added to the pending leaves
of its symbol, both signed. -/
structure SliceTask extends RebalanceOrder where
  phase : TaskPhase := .created
  executed : ℚ := 0
  reserved : ℚ := 0

/-- What a step takes from outside while it sends orders: the verdicts of the gate, the clock, the prices of the gateway and the
random part of the identifiers. -/
structure StepMeets where
  allows : String → Bool := fun _ => true
  t0Ns : ℕ := 0
  marketPrices : Dict String ℚ := ∅
  hex : String → String := fun _ => ""

/-- The price of an order without one: the last valuation, or that of the gateway, or a hundred. -/
def arrivalPrice (o : RiskOrchestrator) (marketPrices : Dict String ℚ) (sym : String) : ℚ :=
  let prevailing := ((o.state.currentPrices.get? sym).filter (fun p => p ≠ 0)).or (marketPrices.get? sym)
  (prevailing.filter (fun p => 0 < p)).getD 100

/-- `submit_parent_order`: the task it starts for a request. -/
def submitParentOrder (o : RiskOrchestrator) (m : StepMeets) (request : RebalanceRequest) (delta : ℚ) : Except Exc SliceTask :=
  if o.killSwitch.state = .panicTriggered then
    .error (invalidSORInput "Cannot submit parent order: Emergency Kill Switch is ACTIVE (ERR-RSK-008)" [])
  else
    match ParentOrderFields.create
      { parentId := "PARENT-" ++ m.hex request.symbol
        symbol := request.symbol
        side := request.side
        totalQuantity := request.quantity
        arrivalPrice := arrivalPrice o m.marketPrices request.symbol
        decisionPrice := some (arrivalPrice o m.marketPrices request.symbol)
        maxDurationSeconds := 60
        startTimeNs := m.t0Ns } with
    | .error exc => .error exc
    | .ok parent => .ok { parent := parent, slice := request.slice m.t0Ns, delta := delta }

/-- The bars, the switch and the equity a step has taken. -/
structure StepInputs where
  bars : Dict String ℚ
  isKillActive : Bool
  equity : ℚ

namespace AutonomousTradingEngine

/-- What a step makes of a symbol: `none` when its request is refused, else the task it starts, if any. -/
def rebalance (self : AutonomousTradingEngine) (o : RiskOrchestrator) (m : StepMeets) (inp : StepInputs)
    (positions : Dict String ℚ) (sym : String) : Option (Option SliceTask) :=
  match inp.bars.get? sym with
  | none => some none
  | some price =>
    if price ≤ 0 then some none
    else
      let targetDollar := (self.computeTargetAllocations inp.bars inp.equity inp.isKillActive).1.getD sym 0
      let delta := deltaShares targetDollar price (positions.getD sym 0) (o.state.pendingLeaves.getD sym 0)
      if self.minTradeNotional ≤ |delta * price| ∧ m.allows sym = true then
        match RebalanceRequest.create sym (orderSide delta) (orderQuantity delta) with
        | none => none
        | some request =>
          match submitParentOrder o m request delta with
          | .error _ => some none
          | .ok task => some (some task)
      else some none

/-- The loop over the universe; a refused request ends it. -/
def rebalanceAll (self : AutonomousTradingEngine) (o : RiskOrchestrator) (m : StepMeets) (inp : StepInputs)
    (positions : Dict String ℚ) : List String → List SliceTask
  | [] => []
  | sym :: rest =>
    match self.rebalance o m inp positions sym with
    | none => []
    | some task => task.toList ++ self.rebalanceAll o m inp positions rest

/-- The tasks a step starts. -/
def dispatched (self : AutonomousTradingEngine) (o : RiskOrchestrator) (m : StepMeets) (inp : StepInputs)
    (positions : Dict String ℚ) : List SliceTask :=
  if inp.isKillActive = true ∨ inp.equity ≤ 0 then [] else self.rebalanceAll o m inp positions self.universeSymbols

end AutonomousTradingEngine

/-! ## The event loop -/

/-- What a call of `step_once` waits for. The positions it goes on with are those of the gateway, with the tasks as they were
then, or none at all when the gateway hides a failure. -/
inductive StepPhase where
  | bars
  | balance (bars : Dict String ℚ) (isKillActive : Bool)
  | positions (inp : StepInputs)
  | answered (inp : StepInputs) (positions : Dict String ℚ) (asOf : Option (List SliceTask))
  | done

/-- The engine, the orchestrator, the positions at the gateway, the calls of `step_once` and the tasks, in the order they
began. -/
structure AutonomousWorld where
  engine : AutonomousTradingEngine
  orchestrator : RiskOrchestrator
  maxSliceDelaySec : Option ℚ := none
  positions : Dict String ℚ := ∅
  steps : List StepPhase := []
  tasks : List SliceTask := []

/-- One part of a call or of a task, from an await to the next one, or what the gateway does. -/
inductive AutonomousOp where
  | stepOnce
  | barsArrive (n : ℕ) (bars : Dict String ℚ)
  | balanceArrives (n : ℕ) (equity : Option ℚ)
  | positionsRead (n : ℕ)
  | positionsLost (n : ℕ)
  | resume (n : ℕ) (m : StepMeets)
  | stepRaises (n : ℕ)
  | updatePriors (priors : List (String × ℚ))
  | taskRuns (k : ℕ) (m : SliceMeets) (isConnected : GatewayRef → Bool)
  | executes (k : ℕ) (qty : ℚ)
  | reportArrives (k : ℕ) (answer : Except Exc ExecutionReport)

/-- The call of `route_order` for the slice of a task. -/
def SliceTask.routeCall (t : SliceTask) : Except Exc RouteCall := do
  let order ← t.parent.childOrder .market none t.slice
  return { order := order, currentPrice := some t.parent.arrivalPrice }

/-- The leaves a routing has added to the symbol of a task. -/
def SliceTask.movedTo (t : SliceTask) (o o' : RiskOrchestrator) (phase : TaskPhase) : SliceTask :=
  { t with
    phase := phase
    reserved := t.reserved +
      (o'.state.pendingLeaves.getD t.parent.symbol 0 - o.state.pendingLeaves.getD t.parent.symbol 0) }

/-- A task up to the await of the gateway: it does not get there when its order is not sent or not routed. -/
def SliceTask.run (t : SliceTask) (o : RiskOrchestrator) (maxSliceDelaySec : Option ℚ) (m : SliceMeets)
    (isConnected : GatewayRef → Bool) : TaskPhase × RiskOrchestrator :=
  match prepareSlice t.parent maxSliceDelaySec .market none t.slice m, t.routeCall with
  | .ok true, .ok call =>
    match o.routeOrder call isConnected with
    | (.direct gw, o) => (.routing call gw, o)
    | (_, o) => (.ended, o)
  | _, _ => (.ended, o)

namespace AutonomousWorld

/-- The equity a step takes first: none of a portfolio that cannot be valued. -/
def equity (o : RiskOrchestrator) : ℚ :=
  match o.state.currentEquity with
  | .error _ => 0
  | .ok eq => eq

/-- Step `n` goes on to a phase. -/
def setStep (w : AutonomousWorld) (n : ℕ) (phase : StepPhase) : AutonomousWorld := { w with steps := w.steps.set n phase }

/-- Task `k` goes on to a phase, with the orchestrator it leaves. -/
def setTask (w : AutonomousWorld) (k : ℕ) (t : SliceTask) (r : TaskPhase × RiskOrchestrator) : AutonomousWorld :=
  { w with
    orchestrator := r.2
    tasks := w.tasks.set k (t.movedTo w.orchestrator r.2 r.1) }

/-- The gateway executes a quantity of task `k`. -/
def execute (w : AutonomousWorld) (k : ℕ) (t : SliceTask) (qty : ℚ) : AutonomousWorld :=
  { w with
    positions := w.positions.set t.parent.symbol (w.positions.getD t.parent.symbol 0 + t.parent.side.signed qty)
    tasks := w.tasks.set k { t with executed := t.executed + t.parent.side.signed qty } }

/-- One operation, when it can take place. -/
def step (w : AutonomousWorld) : AutonomousOp → Option AutonomousWorld
  | .stepOnce => some { w with steps := w.steps ++ [.bars] }
  | .barsArrive n bars =>
    match w.steps[n]? with
    | some .bars =>
      let isKillActive : Bool := w.orchestrator.killSwitch.state = .panicTriggered
      if equity w.orchestrator ≤ 0 then some (w.setStep n (.balance bars isKillActive))
      else some (w.setStep n (.positions ⟨bars, isKillActive, equity w.orchestrator⟩))
    | _ => none
  | .balanceArrives n equity =>
    match w.steps[n]? with
    | some (.balance bars isKillActive) => some (w.setStep n (.positions ⟨bars, isKillActive, equity.getD 0⟩))
    | _ => none
  | .positionsRead n =>
    match w.steps[n]? with
    | some (.positions inp) => some (w.setStep n (.answered inp w.positions (some w.tasks)))
    | _ => none
  | .positionsLost n =>
    match w.steps[n]? with
    | some (.positions inp) => some (w.setStep n (.answered inp ∅ none))
    | _ => none
  | .resume n m =>
    match w.steps[n]? with
    | some (.answered inp positions _) =>
      some { w.setStep n .done with tasks := w.tasks ++ w.engine.dispatched w.orchestrator m inp positions }
    | _ => none
  | .stepRaises n => if n < w.steps.length then some (w.setStep n .done) else none
  | .updatePriors priors => some { w with engine := w.engine.updateNewsAlphaPriors priors }
  | .taskRuns k m isConnected =>
    match w.tasks[k]? with
    | some t =>
      match t.phase with
      | .created => some (w.setTask k t (t.run w.orchestrator w.maxSliceDelaySec m isConnected))
      | _ => none
    | none => none
  | .executes k qty =>
    match w.tasks[k]? with
    | some t =>
      match t.phase with
      | .created => none
      | _ => if 0 < qty ∧ |t.executed| + qty ≤ t.parent.totalQuantity then some (w.execute k t qty) else none
    | none => none
  | .reportArrives k answer =>
    match w.tasks[k]? with
    | some t =>
      match t.phase with
      | .routing call gw =>
        some (w.setTask k t (.ended, (w.orchestrator.resumeOrder call (.direct gw) answer).2))
      | _ => none
    | none => none

/-- The orders dispatched for a symbol. -/
def orders (w : AutonomousWorld) (sym : String) : List RebalanceOrder :=
  (w.tasks.map SliceTask.toRebalanceOrder).filter (fun r => r.parent.symbol = sym)

/-- The signed quantity dispatched for a symbol. -/
def dispatched (w : AutonomousWorld) (sym : String) : ℚ := ((w.orders sym).map RebalanceOrder.signedQuantity).sum

end AutonomousWorld

end Quant
