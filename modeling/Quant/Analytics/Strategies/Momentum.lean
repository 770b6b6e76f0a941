import Quant.Analytics.FractionalDiff

/-!
# Momentum on fractionally differenced prices

`FracDiffMomentumStrategy` of `analytics/strategies/momentum.py`.
-/

namespace Quant

open Pylib

/-- The arguments of the constructor. -/
structure FracDiffMomentumFields (α : Type) extends AlphaStrategyFields α where
  dOrder : α
  fastEmaSpan : ℤ
  slowEmaSpan : ℤ
  volatilityLookback : ℤ
  weightThreshold : α

/-- The attributes of a strategy its constructor accepted. -/
structure FracDiffMomentumConfig (α : Type) [Field α] [LinearOrder α] [FloorRing α] extends BaseAlphaStrategy α where
  dOrder : α
  fastSpan : ℤ
  slowSpan : ℤ
  volLookback : ℤ
  weightThreshold : α
  weights : List α
  dOrder_mem : 0 < dOrder ∧ dOrder < 1
  fastSpan_mem : 2 ≤ fastSpan ∧ fastSpan < slowSpan
  slowSpan_le : slowSpan + 10 ≤ minWarmupBars
  weights_eq : computeFractionalWeights dOrder weightThreshold = .ok weights

section Momentum

variable {α : Type} [Field α] [LinearOrder α] [FloorRing α]

/-- `FracDiffMomentumStrategy.__init__`. -/
def FracDiffMomentumFields.create (f : FracDiffMomentumFields α) : Except (StrategyExc α) (FracDiffMomentumConfig α) :=
  if h1 : ¬ (0 < f.dOrder ∧ f.dOrder < 1) then
    .error ⟨.strategyError, some "ERR-STRAT-020", "d_order must be in (0.0, 1.0), got %", [.num f.dOrder]⟩
  else if h2 : f.slowEmaSpan ≤ f.fastEmaSpan ∨ f.fastEmaSpan < 2 then
    .error ⟨.strategyError, some "ERR-STRAT-020", "fast_ema_span (%) must be >= 2 and < slow_ema_span (%)",
      [.int f.fastEmaSpan, .int f.slowEmaSpan]⟩
  else if h3 : f.minWarmupBars < f.slowEmaSpan + 10 then
    .error ⟨.strategyError, some "ERR-STRAT-020", "min_warmup_bars (%) must be >= slow_ema_span + 10 (%)",
      [.int f.minWarmupBars, .int (f.slowEmaSpan + 10)]⟩
  else
    f.toAlphaStrategyFields.create.bind fun base =>
      match h4 : computeFractionalWeights f.dOrder f.weightThreshold with
      | .error exc => .error exc
      | .ok weights => .ok
        { base.1 with
          dOrder := f.dOrder
          fastSpan := f.fastEmaSpan
          slowSpan := f.slowEmaSpan
          volLookback := f.volatilityLookback
          weightThreshold := f.weightThreshold
          weights := weights
          dOrder_mem := not_not.1 h1
          fastSpan_mem := ⟨not_lt.1 fun h => h2 (.inr h), not_le.1 fun h => h2 (.inl h)⟩
          slowSpan_le := (not_lt.1 h3).trans (congrArg AlphaStrategyFields.minWarmupBars base.2).ge
          weights_eq := h4 }

/-- The exponential averages after one. -/
def emaFrom (alpha prev : α) : List α → List α
  | [] => []
  | x :: series =>
    let ema := alpha * x + (1 - alpha) * prev
    ema :: emaFrom alpha ema series

/-- `_compute_ema`. -/
def computeEma (span : ℤ) : List α → List α
  | [] => []
  | x :: series => x :: emaFrom (lit 2 / (span + 1)) x series

/-- What is computed of one symbol. -/
structure MomentumScore (α : Type) where
  fastEma : α
  slowEma : α
  score : α
  vol : α

namespace FracDiffMomentumConfig

variable (M : StrategyMath α) (cfg : FracDiffMomentumConfig α)

/-- `_apply_frac_diff`. -/
def applyFracDiff (series : List α) : List α :=
  let baseVal := series.headD 0
  (List.range series.length).map fun t =>
    let availK := min (t + 1) cfg.weights.length
    let pastSlice := (((series.take (t + 1)).drop (t + 1 - availK)).reverse).map (· - baseVal)
    npDotVec (cfg.weights.take availK) pastSlice

/-- `_estimate_annualized_vol`. -/
def estimateAnnualizedVol (closes : List α) : α :=
  let lookback := min cfg.volLookback (closes.length - 1)
  if lookback < 5 then lit (20 / 100)
  else
    let recentCloses := sliceFrom closes (-lookback - 1)
    let rets := List.zipWith (· / ·) (npDiff recentCloses) recentCloses.dropLast
    max (npStd M.sqrt rets * M.sqrt (lit 252)) (lit (5 / 100))

/-- The score of a symbol and its volatility. -/
def analyze (closes : List α) : MomentumScore α :=
  let logPrices := closes.map fun c => M.log (max c (lit (1 / 10 ^ 4)))
  let fracSeries := cfg.applyFracDiff logPrices
  let fastEma := computeEma cfg.fastSpan fracSeries
  let slowEma := computeEma cfg.slowSpan fracSeries
  let spread := List.zipWith (· - ·) fastEma slowEma
  let spreadScale := max (npStd M.sqrt (sliceFrom spread (-cfg.slowSpan))) (lit (1 / 10 ^ 5))
  { fastEma := fastEma.getLastD 0
    slowEma := slowEma.getLastD 0
    score := M.tanh (spread.getLastD 0 / spreadScale)
    vol := cfg.estimateAnnualizedVol M closes }

/-- The scores of the symbols that have bars. -/
def scores (history : BarHistoryWindow α) : Dict String (MomentumScore α) :=
  (∅ : Dict String (MomentumScore α)).setAll
    ((cfg.monitoredSymbols.filter fun sym => history.series sym .close ≠ []).map fun sym =>
      (sym, cfg.analyze M (history.series sym .close)))

/-- The score of a symbol, or what the dictionaries give where it has none. -/
def scoreOf (scores : Dict String (MomentumScore α)) (sym : String) : MomentumScore α := scores.getD sym ⟨0, 0, 0, lit (20 / 100)⟩

/-- `inv_vol_scores`. -/
def invVolScores (scores : Dict String (MomentumScore α)) : Dict String α :=
  (∅ : Dict String α).setAll (cfg.monitoredSymbols.map fun sym => (sym, (scoreOf scores sym).score / (scoreOf scores sym).vol))

/-- The weight of a symbol, by its share of the scores. -/
def targetWeight (invVolScores : Dict String α) (sym : String) : α :=
  let sumAbsInvVol := (invVolScores.values.map fun v => |v|).sum
  if lit (1 / 10 ^ 8) < sumAbsInvVol then invVolScores.getD sym 0 / sumAbsInvVol * cfg.maxLeverage else 0

/-- The direction of a weight: a small one is none. -/
def directionalAssignment (targetW : α) : SignalDirection × α :=
  if lit (1 / 100) < targetW then (.long, targetW) else if targetW < lit (-1 / 100) then (.short, targetW) else (.flat, 0)

/-- The signal of a symbol from its weight. -/
def signalOf (sym : String) (s : MomentumScore α) (targetW : α) : Except (StrategyExc α) (StrategySignal α) :=
  let (direction, targetW) := directionalAssignment targetW
  let dailyVol := s.vol / M.sqrt (lit 252)
  StrategySignalFields.create
    { symbol := sym
      direction := direction
      targetWeight := roundTo targetW 5
      conviction := roundTo (min 1 |s.score|) 4
      targetHorizonBars := cfg.slowSpan
      stopLossPct := some (roundTo (lit 2 * dailyVol) 4)
      takeProfitPct := some (roundTo (lit 4 * dailyVol) 4)
      diagnostics := (∅ : Dict String (DiagValue α)).setAll
        [("d_order", .float cfg.dOrder), ("fast_ema", .float (roundTo s.fastEma 5)), ("slow_ema", .float (roundTo s.slowEma 5)),
          ("trend_score", .float (roundTo s.score 4)), ("annualized_vol", .float (roundTo s.vol 4))] }

/-- `_generate_signals`. -/
def generateSignals (history : BarHistoryWindow α) : Except (StrategyExc α) (Signals α) :=
  let scores := cfg.scores M history
  let invVolScores := cfg.invVolScores scores
  collectSignals cfg.monitoredSymbols fun sym => cfg.signalOf M sym (scoreOf scores sym) (cfg.targetWeight invVolScores sym)

end FracDiffMomentumConfig

end Momentum

end Quant
