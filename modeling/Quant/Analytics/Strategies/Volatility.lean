import Quant.Analytics.Strategies.Base

/-!
# Volatility breakouts

`VolatilityBreakoutStrategy` of `analytics/strategies/volatility.py`.
-/

namespace Quant

open Pylib

/-- The arguments of the constructor. -/
structure VolatilityBreakoutFields (α : Type) extends AlphaStrategyFields α where
  bbPeriod : ℤ
  bbStdDev : α
  squeezeLookback : ℤ
  squeezePercentile : α
  volExpansionThreshold : α
  volumeConfirmationMult : α

/-- The attributes of a strategy its constructor accepted. -/
structure VolatilityBreakoutConfig (α : Type) [Field α] [LinearOrder α] [FloorRing α] extends BaseAlphaStrategy α where
  bbPeriod : ℤ
  bbStdDev : α
  squeezeLookback : ℤ
  squeezePct : α
  volExpansionThresh : α
  volumeMult : α
  bbPeriod_le : 5 ≤ bbPeriod
  squeezePct_mem : 0 < squeezePct ∧ squeezePct < lit 50
  minWarmupBars_ge : squeezeLookback + bbPeriod ≤ minWarmupBars

section Volatility

variable {α : Type} [Field α] [LinearOrder α] [FloorRing α]

/-- `VolatilityBreakoutStrategy.__init__`. -/
def VolatilityBreakoutFields.create (f : VolatilityBreakoutFields α) : Except (StrategyExc α) (VolatilityBreakoutConfig α) :=
  if h1 : f.bbPeriod < 5 then
    .error ⟨.strategyError, some "ERR-STRAT-040", "bb_period (%) must be >= 5", [.int f.bbPeriod]⟩
  else if h2 : ¬ (0 < f.squeezePercentile ∧ f.squeezePercentile < lit 50) then
    .error ⟨.strategyError, some "ERR-STRAT-040", "squeeze_percentile (%) must be in (0.0, 50.0)", [.num f.squeezePercentile]⟩
  else if h3 : f.minWarmupBars < f.squeezeLookback + f.bbPeriod then
    .error ⟨.strategyError, some "ERR-STRAT-040", "min_warmup_bars (%) must be >= squeeze_lookback + bb_period (%)",
      [.int f.minWarmupBars, .int (f.squeezeLookback + f.bbPeriod)]⟩
  else
    f.toAlphaStrategyFields.create.map fun base =>
      { base.1 with
        bbPeriod := f.bbPeriod
        bbStdDev := f.bbStdDev
        squeezeLookback := f.squeezeLookback
        squeezePct := f.squeezePercentile
        volExpansionThresh := f.volExpansionThreshold
        volumeMult := f.volumeConfirmationMult
        bbPeriod_le := not_lt.1 h1
        squeezePct_mem := not_not.1 h2
        minWarmupBars_ge := (not_lt.1 h3).trans (congrArg AlphaStrategyFields.minWarmupBars base.2).ge }

/-- `compute_garman_klass_volatility`, annualized. -/
def computeGarmanKlassVolatility (M : StrategyMath α) (opens highs lows closes : List α) : α :=
  let n := closes.length
  if n < 2 ∨ highs.length ≠ n ∨ lows.length ≠ n ∨ opens.length ≠ n then 0
  else
    let clamped := List.map fun x : α => max x (lit (1 / 10 ^ 4))
    let logHl := List.zipWith (fun h l => M.log (max (h / l) 1)) (clamped highs) (clamped lows)
    let logCo := List.zipWith (fun c o => M.log (c / o)) (clamped closes) (clamped opens)
    let factorHl := logHl.map fun x => lit (1 / 2) * x ^ 2
    let factorCo := logCo.map fun x => (lit 2 * M.log (lit 2) - 1) * x ^ 2
    M.sqrt (max 0 (npMean (List.zipWith (· - ·) factorHl factorCo))) * M.sqrt (lit 252)

/-- `highs - lows`: numpy stretches a single number, and refuses other lengths that differ. -/
def highLowDiff (highs lows : List α) : Except (StrategyExc α) (List α) :=
  if highs.length = lows.length then .ok (List.zipWith (· - ·) highs lows)
  else if highs.length = 1 then .ok (lows.map fun l => highs.headD 0 - l)
  else if lows.length = 1 then .ok (highs.map fun h => h - lows.headD 0)
  else .error ⟨.valueError, none, "operands could not be broadcast together with shapes (%,) (%,)",
    [.int highs.length, .int lows.length]⟩

namespace VolatilityBreakoutConfig

variable (M : StrategyMath α) (cfg : VolatilityBreakoutConfig α)

/-- `bandwidths`: one for each of the last bars. -/
def bandwidths (closes : List α) : Except (StrategyExc α) (List α) :=
  if cfg.squeezeLookback < 0 then .error ⟨.valueError, none, "negative dimensions are not allowed", []⟩
  else .ok ((List.range cfg.squeezeLookback.toNat).map fun (i : ℕ) =>
    let endIdx : ℤ := closes.length - cfg.squeezeLookback + i + 1
    let startIdx := endIdx - cfg.bbPeriod
    -- the warm-up is at least the lookback and the period, so no index is negative
    let subCloses := (closes.take endIdx.toNat).drop startIdx.toNat
    lit 2 * cfg.bbStdDev * npStd M.sqrt subCloses / max (npMean subCloses) (lit (1 / 10 ^ 4)))

/-- `vol_expansion_ratio`, after the recent volatility. -/
def volExpansion (opens highs lows closes : List α) : α × α :=
  let last := fun (n : ℤ) => computeGarmanKlassVolatility M (sliceFrom opens (-n)) (sliceFrom highs (-n)) (sliceFrom lows (-n))
    (sliceFrom closes (-n))
  (last 5, last 5 / max (last cfg.bbPeriod) (lit (1 / 10 ^ 4)))

/-- `volume_confirmed`. -/
def VolumeConfirmed (volumes : List α) : Prop :=
  (if cfg.bbPeriod ≤ volumes.length then npMean (sliceFrom volumes (-cfg.bbPeriod)) else 1) * cfg.volumeMult ≤ volumes.getLastD 1

instance (volumes : List α) : Decidable (cfg.VolumeConfirmed volumes) := inferInstanceAs (Decidable (_ ≤ _))

/-- The breakout of the last price through a band: the direction, the weight and the conviction. -/
def breakout (closes : List α) (volExpansionRatio : α) (volumeConfirmed : Bool) : SignalDirection × α × α :=
  let currentWindow := sliceFrom closes (-cfg.bbPeriod)
  let upperBand := npMean currentWindow + cfg.bbStdDev * npStd M.sqrt currentWindow
  let lowerBand := npMean currentWindow - cfg.bbStdDev * npStd M.sqrt currentWindow
  let currentPrice := closes.getLastD 0
  let prevPrice := closes.dropLast.getLastD 0
  let conviction := min 1 (lit (6 / 10) + if volumeConfirmed then lit (3 / 10) else 0)
  let targetW := cfg.maxLeverage / cfg.monitoredSymbols.length * conviction
  if upperBand < currentPrice ∧ prevPrice ≤ upperBand ∧ cfg.volExpansionThresh ≤ volExpansionRatio then (.long,
    targetW, conviction)
  else if currentPrice < lowerBand ∧ lowerBand ≤ prevPrice ∧ cfg.volExpansionThresh ≤ volExpansionRatio then
    (.short, -targetW, conviction)
  else (.flat, 0, 0)

/-- `max(floor, atr * mult)`, where the range of no bars is not a number and loses. -/
def rangeStop (diff : List α) (currentPrice floor mult : α) : α :=
  if diff = [] then floor else max floor (npMean diff / currentPrice * mult)

/-- The signal of a symbol. -/
def signalOf (history : BarHistoryWindow α) (sym : String) : Except (StrategyExc α) (StrategySignal α) := do
  let closes := history.series sym .close
  let highs := history.series sym .high
  let lows := history.series sym .low
  let bandwidths ← cfg.bandwidths M closes
  match bandwidths.getLast? with
  | none => .error ⟨.indexError, none, "index -1 is out of bounds for axis 0 with size 0", []⟩
  | some currentBandwidth => do
    let squeezeThreshold := npPercentile bandwidths cfg.squeezePct
    let (recentGk, volExpansionRatio) := cfg.volExpansion M (history.series sym .open) highs lows closes
    let volumeConfirmed := decide (cfg.VolumeConfirmed (history.series sym .volume))
    let (direction, targetW, conviction) := cfg.breakout M closes volExpansionRatio volumeConfirmed
    let diff ← highLowDiff (sliceFrom highs (-cfg.bbPeriod)) (sliceFrom lows (-cfg.bbPeriod))
    let currentPrice := closes.getLastD 0
    StrategySignalFields.create
      { symbol := sym
        direction := direction
        targetWeight := roundTo targetW 4
        conviction := roundTo conviction 4
        targetHorizonBars := 10
        stopLossPct := some (roundTo (rangeStop diff currentPrice (lit (1 / 100)) (lit 2)) 4)
        takeProfitPct := some (roundTo (rangeStop diff currentPrice (lit (2 / 100)) (lit (35 / 10))) 4)
        diagnostics := (∅ : Dict String (DiagValue α)).setAll
          [("bandwidth", .float (roundTo currentBandwidth 5)), ("squeeze_thresh", .float (roundTo squeezeThreshold 5)),
            ("is_squeeze", .int (if currentBandwidth ≤ squeezeThreshold then 1 else 0)),
            ("vol_expansion", .float (roundTo volExpansionRatio 3)),
            ("volume_confirmed", .int (if volumeConfirmed then 1 else 0)),
            ("gk_vol", .float (roundTo recentGk 4))] }

/-- `_generate_signals`: a symbol with fewer bars than the warm-up is passed over. -/
def generateSignals (history : BarHistoryWindow α) : Except (StrategyExc α) (Signals α) :=
  collectSignals (cfg.monitoredSymbols.filter fun sym => cfg.minWarmupBars ≤
    (history.series sym .close).length) (cfg.signalOf M history)

end VolatilityBreakoutConfig

end Volatility

end Quant
