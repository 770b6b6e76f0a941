import Quant.Analytics.Strategies.Momentum
import Quant.Analytics.Strategies.Sentiment
import Quant.Analytics.Strategies.StatArb
import Quant.Analytics.Strategies.Volatility
import Quant.Pylib.Text

/-!
# The swarm of strategies

`SwarmMetaStrategy` of `analytics/strategies/swarm_meta.py`, `compute_signals` of all the strategies, and what else can be called
on one. A swarm's sub-strategies are any strategies, swarms among them.
-/

namespace Quant

open Pylib

/-- The arguments of the constructor, but for the sub-strategies. -/
structure SwarmMetaFields (α : Type) where
  strategyId : String
  monitoredSymbols : List String
  learningRate : α
  regimePriorWeight : α
  minWarmupBars : Option ℤ
  maxLeverage : α

/-- The attributes of a swarm its constructor accepted, but for the weights and the sub-strategies. -/
structure SwarmMetaConfig (α : Type) [Field α] [LinearOrder α] extends BaseAlphaStrategy α where
  learningRate : α
  priorWeight : α

/-- A strategy, with what it remembers between calls: the position of a pair, the recorded events, the weights of a swarm. -/
inductive Strategy (α : Type) [Field α] [LinearOrder α] [FloorRing α] where
  | kalmanPairs (cfg : KalmanPairsConfig α) (position : ℤ)
  | fracDiffMomentum (cfg : FracDiffMomentumConfig α)
  | sentiment (cfg : SentimentConfig α) (buffer : EventBuffer α)
  | volatilityBreakout (cfg : VolatilityBreakoutConfig α)
  | swarmMeta (cfg : SwarmMetaConfig α) (weights : List α) (subs : List (Strategy α))

section Swarm

variable {α : Type} [Field α] [LinearOrder α] [FloorRing α]

def Strategy.base : Strategy α → BaseAlphaStrategy α
  | .kalmanPairs cfg _ => cfg.toBaseAlphaStrategy
  | .fracDiffMomentum cfg => cfg.toBaseAlphaStrategy
  | .sentiment cfg _ => cfg.toBaseAlphaStrategy
  | .volatilityBreakout cfg => cfg.toBaseAlphaStrategy
  | .swarmMeta cfg _ _ => cfg.toBaseAlphaStrategy

/-- `sub_strategies`. -/
def Strategy.subs : Strategy α → List (Strategy α)
  | .swarmMeta _ _ subs => subs
  | _ => []

/-- The largest of some integers. -/
def maxInt : List ℤ → ℤ
  | [] => 0
  | k :: ks => ks.foldl max k

/-- `SwarmMetaStrategy.__init__`: the weights start equal. -/
def SwarmMetaFields.create (f : SwarmMetaFields α) (subs : List (Strategy α)) : Except (StrategyExc α) (Strategy α) :=
  if subs = [] then
    .error ⟨.strategyError, some "ERR-STRAT-050", "sub_strategies must contain at least one strategy", []⟩
  else
    let resolvedWarmup := f.minWarmupBars.getD (maxInt (subs.map fun s => s.base.minWarmupBars))
    (AlphaStrategyFields.create ⟨f.strategyId, f.monitoredSymbols, resolvedWarmup, f.maxLeverage⟩).map fun base =>
      .swarmMeta { base.1 with learningRate := f.learningRate, priorWeight := f.regimePriorWeight }
        (List.replicate subs.length (1 / (subs.length : α))) subs

/-- `REGIME_PRIORS`. -/
def regimePriors : Dict String (List α) :=
  (∅ : Dict String (List α)).setAll
    [("NORMAL", [lit (25 / 100), lit (25 / 100), lit (25 / 100), lit (25 / 100)]),
      ("BULL", [lit (10 / 100), lit (45 / 100), lit (20 / 100), lit (25 / 100)]),
      ("BEAR", [lit (15 / 100), lit (45 / 100), lit (15 / 100), lit (25 / 100)]),
      ("PANIC", [lit (5 / 100), lit (15 / 100), lit (30 / 100), lit (50 / 100)]),
      ("MEAN_REVERTING", [lit (50 / 100), lit (10 / 100), lit (20 / 100), lit (20 / 100)]),
      ("EVENT_DRIVEN", [lit (10 / 100), lit (15 / 100), lit (55 / 100), lit (20 / 100)])]

/-- Weights divided by their sum. -/
def normalized (ws : List α) : List α := ws.map fun w => w / ws.sum

namespace SwarmMetaConfig

variable (M : StrategyMath α) (cfg : SwarmMetaConfig α)

/-- The weights moved towards a prior. -/
def blended (weights prior : List α) : List α :=
  normalized (List.zipWith (fun w p => (1 - cfg.priorWeight) * w + cfg.priorWeight * p) weights prior)

/-- `active_weights`: four sub-strategies are aligned with the prior of the regime. -/
def activeWeights (weights : List α) (subCount : ℕ) (regime : String) : List α :=
  if subCount = 4 then (regimePriors.get? regime).elim weights (cfg.blended weights) else weights

/-- `update_weights_with_rewards`. -/
def updateWeightsWithRewards (weights : List α) (subCount : ℕ) (rewards : List α) (regimeLabel : String) :
    Except (StrategyExc α) (List α) :=
  if rewards.length ≠ subCount then
    .error (strategyError "Rewards length (%) does not match sub-strategies count (%)" [.int rewards.length, .int subCount])
  else
    let logW := weights.map fun w => M.log (max w (lit (1 / 10 ^ 12)))
    let step := List.zipWith (fun l r => l + cfg.learningRate * r) logW rewards
    -- each number less the largest of them
    let updatedW := normalized (step.map fun x => M.exp (x - step.foldr max x))
    let prior := (regimePriors.get? (upper regimeLabel)).getD (regimePriors.getD "NORMAL" [])
    .ok (if prior.length = subCount then cfg.blended updatedW prior else updatedW)

/-- The signals of a symbol, each with the weight of its strategy. -/
def contributions (activeWeights : List α) (allSignals : List (Signals α)) (sym : String) : List (α × StrategySignal α) :=
  (activeWeights.zip allSignals).filterMap fun p => (p.2.get? sym).map fun sig => (p.1, sig)

/-- The mean of some stops, or what stands in where there are none. -/
def avgStop (stops : List α) (dflt : α) : α := if stops = [] then dflt else roundTo (npMean stops) 4

/-- `entropy_val`. -/
def entropy (activeWeights : List α) : α := -(activeWeights.map fun w => w * M.log (max w (lit (1 / 10 ^ 12)))).sum

/-- The direction of a combined weight, which is cut at the leverage. -/
def directionalThreshold (rawW : α) : SignalDirection × α :=
  if lit (1 / 100) < rawW then (.long, min cfg.maxLeverage rawW)
  else if rawW < lit (-1 / 100) then (.short, max (-cfg.maxLeverage) rawW)
  else (.flat, 0)

/-- The composite signal of a symbol. -/
def signalOf (activeWeights : List α) (subIds : List String) (regime : String) (allSignals : List (Signals α)) (sym : String) :
    Except (StrategyExc α) (StrategySignal α) :=
  let signals := contributions activeWeights allSignals sym
  let rawW := (signals.map fun p => p.1 * p.2.targetWeight).sum
  let rawC := (signals.map fun p => p.1 * p.2.conviction).sum
  let (direction, targetW) := cfg.directionalThreshold rawW
  let conviction := min 1 (max 0 rawC)
  StrategySignalFields.create
    { symbol := sym
      direction := direction
      targetWeight := roundTo targetW 4
      conviction := roundTo conviction 4
      targetHorizonBars := 10
      stopLossPct := some (avgStop (signals.filterMap fun p => p.2.stopLossPct) (lit (2 / 100)))
      takeProfitPct := some (avgStop (signals.filterMap fun p => p.2.takeProfitPct) (lit (4 / 100)))
      diagnostics := (∅ : Dict String (DiagValue α)).setAll
        ([("regime", .str regime), ("strategy_entropy", .float (roundTo (entropy M activeWeights) 4)),
          ("active_sub_strategies", .int subIds.length)] ++
          List.zipWith (fun id w => ("weight_" ++ id, .float (roundTo w 4))) subIds activeWeights) }

/-- `_generate_signals`, from the signals of the sub-strategies on. -/
def aggregate (weights : List α) (subIds : List String) (context : Option (StrategyContext α)) (allSignals : List (Signals α)) :
    Except (StrategyExc α) (Signals α) :=
  let regime := context.elim "NORMAL" fun context => upper context.regimeLabel
  let activeWeights := cfg.activeWeights weights subIds.length regime
  collectSignals cfg.monitoredSymbols (cfg.signalOf M activeWeights subIds regime allSignals)

end SwarmMetaConfig

/-! ## Computing signals -/

/-- `compute_signals` around what the strategy generates, with the strategy after it. -/
def BaseAlphaStrategy.computeSignals (base : BaseAlphaStrategy α) (history : BarHistoryWindow α) (strategy : Strategy α)
    (generated : Except (StrategyExc α) (Signals α) × Strategy α) : Except (StrategyExc α) (Signals α) × Strategy α :=
  match base.validateWarmup history with
  | .error exc => (.error exc, strategy)
  | .ok () => (generated.1.bind base.enforceLeverage, generated.2)

section Compute

variable (M : StrategyMath α) (history : BarHistoryWindow α) (context : Option (StrategyContext α))

mutual

/-- `compute_signals` of a strategy, with the strategy after it. -/
def Strategy.computeSignals : Strategy α → Except (StrategyExc α) (Signals α) × Strategy α
  | .kalmanPairs cfg position =>
    let (signals, position') := cfg.generateSignals M history position
    cfg.computeSignals history (.kalmanPairs cfg position) (signals, .kalmanPairs cfg position')
  | .fracDiffMomentum cfg =>
    cfg.computeSignals history (.fracDiffMomentum cfg) (cfg.generateSignals M history, .fracDiffMomentum cfg)
  | .sentiment cfg buffer =>
    let (signals, buffer') := cfg.generateSignals M history context buffer
    cfg.computeSignals history (.sentiment cfg buffer) (signals, .sentiment cfg buffer')
  | .volatilityBreakout cfg =>
    cfg.computeSignals history (.volatilityBreakout cfg) (cfg.generateSignals M history, .volatilityBreakout cfg)
  | .swarmMeta cfg weights subs =>
    let (allSignals, subs') := Strategy.computeAll subs
    let signals := allSignals.bind (cfg.aggregate M weights (subs.map fun s => s.base.strategyId) context)
    cfg.computeSignals history (.swarmMeta cfg weights subs) (signals, .swarmMeta cfg weights subs')

/-- The signals of the sub-strategies one after the other, up to the first that raises. -/
def Strategy.computeAll : List (Strategy α) → Except (StrategyExc α) (List (Signals α)) × List (Strategy α)
  | [] => (.ok [], [])
  | s :: subs =>
    match s.computeSignals with
    | (.error exc, s') => (.error exc, s' :: subs)
    | (.ok signals, s') =>
      let (rest, subs') := Strategy.computeAll subs
      (rest.map (signals :: ·), s' :: subs')

end

end Compute

/-! ## Calls -/

/-- A call on a strategy, or on one of its sub-strategies. -/
inductive StrategyCall (α : Type) [Field α] [LinearOrder α] where
  | computeSignals (history : BarHistoryWindow α) (context : Option (StrategyContext α))
  | recordEvent (event : NewsSentimentEvent α)
  | reset
  | updateWeightsWithRewards (rewards : List α) (regimeLabel : String)
  | sub (i : ℕ) (call : StrategyCall α)

/-- The strategy after a call: it stays as it is where it has no such method, or where the call raises before it changes
anything. -/
def StrategyCall.run (M : StrategyMath α) : StrategyCall α → Strategy α → Strategy α
  | .computeSignals history context, s => (s.computeSignals M history context).2
  | .recordEvent event, .sentiment cfg buffer => .sentiment cfg (buffer.record event)
  | .reset, .kalmanPairs cfg _ => .kalmanPairs cfg 0
  | .updateWeightsWithRewards rewards regimeLabel, .swarmMeta cfg weights subs =>
    .swarmMeta cfg ((cfg.updateWeightsWithRewards M weights subs.length rewards regimeLabel).toOption.getD weights) subs
  | .sub i call, .swarmMeta cfg weights subs => .swarmMeta cfg weights (subs.modify i (call.run M))
  | _, s => s

end Swarm

end Quant
