import Quant.Analytics.Strategies.Base

/-!
# Kalman pairs trading

`KalmanPairsTradingStrategy` of `analytics/strategies/stat_arb.py`.
-/

namespace Quant

open Pylib

/-- The arguments of the constructor. -/
structure KalmanPairsFields (α : Type) where
  strategyId : String
  assetY : String
  assetX : String
  minWarmupBars : ℤ
  lookbackWindow : ℤ
  zEntry : α
  zExit : α
  zStop : α
  maxLeverage : α
  deltaProcessNoise : α
  measurementNoiseR : α

/-- The attributes of a strategy its constructor accepted, but for the position. -/
structure KalmanPairsConfig (α : Type) [Field α] [LinearOrder α] extends BaseAlphaStrategy α where
  assetY : String
  assetX : String
  lookbackWindow : ℤ
  zEntry : α
  zExit : α
  zStop : α
  delta : α
  measurementNoiseR : α
  monitoredSymbols_eq : monitoredSymbols = [assetY, assetX]
  assets_ne : assetY ≠ assetX
  zExit_lt : zExit < zEntry
  zEntry_lt : zEntry < zStop

/-- `KalmanFilterState`: the state vector and the error covariance, with the two noises. -/
structure KalmanFilterState (α : Type) where
  alpha : α
  beta : α
  p00 : α
  p01 : α
  p10 : α
  p11 : α
  r : α
  q : α

section Kalman

variable {α : Type} [Field α] [LinearOrder α] [FloorRing α]

/-- `KalmanPairsTradingStrategy.__init__`. -/
def KalmanPairsFields.create (f : KalmanPairsFields α) : Except (StrategyExc α) (KalmanPairsConfig α) :=
  if h1 : f.assetY = f.assetX then
    .error ⟨.strategyError, some "ERR-STRAT-010", "asset_y and asset_x must be distinct symbols, got '%'", [.str f.assetY]⟩
  else if h2 : f.zEntry ≤ f.zExit then
    .error (strategyError "z_entry (%) must exceed z_exit (%)" [.num f.zEntry, .num f.zExit])
  else if h3 : f.zStop ≤ f.zEntry then
    .error (strategyError "z_stop (%) must exceed z_entry (%)" [.num f.zStop, .num f.zEntry])
  else
    (AlphaStrategyFields.create ⟨f.strategyId, [f.assetY, f.assetX], f.minWarmupBars, f.maxLeverage⟩).map fun base =>
      { base.1 with
        assetY := f.assetY
        assetX := f.assetX
        lookbackWindow := f.lookbackWindow
        zEntry := f.zEntry
        zExit := f.zExit
        zStop := f.zStop
        delta := f.deltaProcessNoise
        measurementNoiseR := f.measurementNoiseR
        monitoredSymbols_eq := congrArg AlphaStrategyFields.monitoredSymbols base.2
        assets_ne := h1
        zExit_lt := not_le.1 h2
        zEntry_lt := not_le.1 h3 }

namespace KalmanPairsConfig

variable (M : StrategyMath α) (cfg : KalmanPairsConfig α)

/-! ## The filter -/

/-- `_init_kalman_state`. -/
def initKalmanState : Except (StrategyExc α) (KalmanFilterState α) :=
  if 1 - cfg.delta = 0 then .error zeroDivision
  else .ok
    { alpha := 0
      beta := 1
      p00 := 1
      p01 := 0
      p10 := 0
      p11 := 1
      r := cfg.measurementNoiseR
      q := cfg.delta / (1 - cfg.delta) }

end KalmanPairsConfig

/-- One bar of the filter: the state after it and the spread. -/
def KalmanFilterState.step (s : KalmanFilterState α) (y x : α) : KalmanFilterState α × α :=
  let p00 := s.p00 + s.q
  let p11 := s.p11 + s.q
  let yPred := s.alpha + x * s.beta
  let err := y - yPred
  -- the covariance times the observation (1, x)
  let ph0 := p00 + s.p01 * x
  let ph1 := s.p10 + p11 * x
  let f := max (ph0 + x * ph1 + s.r) (lit (1 / 10 ^ 8))
  let k0 := ph0 / f
  let k1 := ph1 / f
  ({ s with
      alpha := s.alpha + k0 * err
      beta := s.beta + k1 * err
      p00 := (1 - k0) * p00 - k0 * x * s.p10
      p01 := (1 - k0) * s.p01 - k0 * x * p11
      p10 := -k1 * p00 + (1 - k1 * x) * s.p10
      p11 := -k1 * s.p01 + (1 - k1 * x) * p11 }, err)

/-- The bars one after the other: the last state and the spreads. -/
def KalmanFilterState.run (s : KalmanFilterState α) : List (α × α) → KalmanFilterState α × List α
  | [] => (s, [])
  | (y, x) :: prices =>
    let (s', err) := s.step y x
    let (last, spreads) := s'.run prices
    (last, err :: spreads)

/-- `_estimate_half_life`, none where it is not a number or infinite. -/
def estimateHalfLife (M : StrategyMath α) (spreads : List α) : Option α :=
  if spreads.length < 10 then none
  else
    let deltaE := npDiff spreads
    let lagE := spreads.dropLast
    let varLag := npVar lagE
    if varLag < lit (1 / 10 ^ 12) then none
    else
      let bCoef := npCov deltaE lagE / varLag
      if lit (-1 / 10 ^ 6) ≤ bCoef then none else some (max (lit (1 / 10)) (-M.log (lit 2) / bCoef))

namespace KalmanPairsConfig

variable (M : StrategyMath α) (cfg : KalmanPairsConfig α)

/-! ## The signals -/

/-- The z-score of the last spread, none where the window is empty and numpy has no number. -/
def zScore (windowSpreads : List α) (currentSpread : α) : Option α :=
  if windowSpreads = [] then none
  else some ((currentSpread - npMean windowSpreads) / max (npStd M.sqrt windowSpreads) (lit (1 / 10 ^ 6)))

/-- What the bands decide: the position after it, the side of `asset_y` in the signals, and the conviction. -/
structure Stance (α : Type) where
  position : ℤ
  side : SignalDirection
  conviction : α

/-- In the hysteresis band the position is kept. -/
def heldStance (position : ℤ) : Stance α :=
  if position = -1 then ⟨position, .short, lit (1 / 2)⟩
  else if position = 1 then ⟨position, .long, lit (1 / 2)⟩
  else ⟨position, .flat, 0⟩

/-- The direction of the signals by the bands of the z-score. -/
def stance (z : Option α) (position : ℤ) : Stance α :=
  match z with
  | none => heldStance position
  | some z =>
    if cfg.zStop ≤ |z| then ⟨0, .flat, 0⟩
    else if cfg.zEntry ≤ z then ⟨-1, .short, lit (1 / 2) + lit (1 / 2) * min 1 ((z - cfg.zEntry) / lit 2)⟩
    else if z ≤ -cfg.zEntry then ⟨1, .long, lit (1 / 2) + lit (1 / 2) * min 1 ((|z| - cfg.zEntry) / lit 2)⟩
    else if |z| ≤ cfg.zExit then ⟨0, .flat, 0⟩
    else heldStance position

/-- The opposite side. -/
def opposite : SignalDirection → SignalDirection
  | .long => .short
  | .short => .long
  | .flat => .flat

/-- A weight on one side. -/
def signed (side : SignalDirection) (w : α) : α :=
  match side with
  | .long => w
  | .short => -w
  | .flat => 0

/-- The hedge of `asset_y`: on the other side where beta is not negative, else on the same. -/
def hedgeSide (beta : α) (side : SignalDirection) : SignalDirection := if 0 ≤ beta then opposite side else side

/-- `dollar_beta`. -/
def dollarBeta (beta pY pX : α) : α :=
  let priceRatio := if 0 < pY then pX / max pY (lit (1 / 10 ^ 6)) else 1
  max (lit (1 / 100)) (|beta| * priceRatio)

/-- The fields of a leg's signal. -/
def legFields (symbol : String) (side : SignalDirection) (weightUnit conviction : α) (targetHorizon : ℤ)
    (diagnostics : Dict String (DiagValue α)) : StrategySignalFields α :=
  { symbol := symbol
    direction := side
    targetWeight := signed side (weightUnit * cfg.maxLeverage)
    conviction := conviction
    targetHorizonBars := targetHorizon
    stopLossPct := some (lit (3 / 100))
    takeProfitPct := some (lit (4 / 100))
    diagnostics := diagnostics }

/-- Both legs from the filtered spreads and the last prices, with the position after them. -/
def pairSignals (last : KalmanFilterState α) (spreads : List α) (currentSpread pY pX : α) (position : ℤ) :
    Except (StrategyExc α) (Signals α) × ℤ :=
  let lookback := min cfg.lookbackWindow spreads.length
  let windowSpreads := sliceFrom spreads (-lookback)
  let z := zScore M windowSpreads currentSpread
  let halfLife := estimateHalfLife M windowSpreads
  let dollarBeta := dollarBeta last.beta pY pX
  let normFactor := 1 + dollarBeta
  let stance := cfg.stance z position
  let conviction := if halfLife.any fun h => h ≤ lit 45 then stance.conviction else stance.conviction * lit (1 / 2)
  let targetHorizon : ℤ := halfLife.elim 10 fun h => max 5 ⌊h * lit 2⌋
  let diagnostics := fun (role : String) => (∅ : Dict String (DiagValue α)).setAll
    [("pair_role", .str role), ("z_score", z.elim (.str "nan") fun z => .float (roundTo z 3)),
      ("beta", .float (roundTo last.beta 4)),
      ("alpha", .float (roundTo last.alpha 4)), ("half_life", .float (halfLife.elim (-1) fun h => roundTo h 1)),
      ("structural_break", .int (if z.any fun z => cfg.zStop ≤ |z| then 1 else 0))]
  (do
    let signalY ← (cfg.legFields cfg.assetY stance.side (1 / normFactor) conviction targetHorizon (diagnostics "target_y")).create
    let signalX ← (cfg.legFields cfg.assetX (hedgeSide last.beta stance.side) (dollarBeta / normFactor) conviction targetHorizon
      (diagnostics "hedge_x")).create
    .ok ((∅ : Signals α).setAll [(cfg.assetY, signalY), (cfg.assetX, signalX)]), stance.position)

/-- `_generate_signals`, with the position after it. -/
def generateSignals (history : BarHistoryWindow α) (position : ℤ) : Except (StrategyExc α) (Signals α) × ℤ :=
  let yCloses := history.series cfg.assetY .close
  let xCloses := history.series cfg.assetX .close
  let nBars := min yCloses.length xCloses.length
  let ySeries := sliceFrom yCloses (-nBars)
  let xSeries := sliceFrom xCloses (-nBars)
  match cfg.initKalmanState with
  | .error exc => (.error exc, position)
  | .ok state =>
    let (last, spreads) := state.run (ySeries.zip xSeries)
    match spreads.getLast?, ySeries.getLast?, xSeries.getLast? with
    | some currentSpread, some pY, some pX => cfg.pairSignals M last spreads currentSpread pY pX position
    | _, _, _ => (.error ⟨.indexError, none, "index -1 is out of bounds for axis 0 with size 0", []⟩, position)

end KalmanPairsConfig

end Kalman

end Quant
