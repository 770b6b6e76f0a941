import Quant.Analytics.Chromosomes
import Quant.Analytics.Replay
import Quant.Domain.MarketData
import Quant.Pylib.Dict
import Quant.Pylib.Series

/-!
# The backtest runner

`run`, `run_with_chromosome` and `run_on_market_batches` of `analytics/backtest_runner.py`. The floats are those of `PyFloat`; the
logarithm, the root and the exponential are parameters. A run goes through the replay engine; what the engine is built from, its
audit after the last bar and the metrics made of it are parameters too.
-/

namespace Quant

open Pylib

/-! ## Errors -/

/-- The diagnostic fault codes. -/
inductive BacktestFault where
  | lookaheadViolation
  | nonFiniteInput
  | capitalRuin
  | starvation
  | infeasibleFriction
  | dimensionMismatch
  deriving DecidableEq, Repr

def BacktestFault.code : BacktestFault → String
  | .lookaheadViolation => "ERR-BKT-001"
  | .nonFiniteInput => "ERR-BKT-002"
  | .capitalRuin => "ERR-BKT-003"
  | .starvation => "ERR-BKT-004"
  | .infeasibleFriction => "ERR-BKT-005"
  | .dimensionMismatch => "ERR-BKT-006"

inductive BacktestErrorClass where
  | lookaheadViolation
  | degenerate
  | infeasible
  deriving DecidableEq, Repr

/-- A raised `BacktestError`: the class, the code it is raised with, and the message as its template with the values in the
gaps. -/
structure BacktestError where
  cls : BacktestErrorClass
  fault : BacktestFault
  text : String
  args : List ExcArg := []
  deriving DecidableEq

/-- What a call raises: an error of the runner, or one of the parts it is built from. -/
inductive BacktestRaised where
  | backtest (exc : BacktestError)
  | other (exc : Exc)
  deriving DecidableEq

/-- A check that raises where it fails. -/
def check (c : Prop) [Decidable c] (exc : BacktestError) : Except BacktestRaised Unit :=
  if c then .ok () else .error (.backtest exc)

/-! ## Stacking the batches -/

/-- The functions of numpy that the runner calls. -/
structure MarketMath where
  log : PyFloat → PyFloat
  sqrt : PyFloat → PyFloat
  exp : ℚ → ℚ

/-- `1e-8`. -/
def tinyPrice : PyFloat := .finite (1 / 10 ^ 8)

/-- The logarithmic return from one close to the next. -/
def logReturn (m : MarketMath) (prev cur : PyFloat) : PyFloat := m.log ((cur.npMax tinyPrice).div (prev.npMax tinyPrice))

/-- The Parkinson volatility of a bar, with its floor. -/
def parkinsonVolatility (m : MarketMath) (high low : PyFloat) : PyFloat :=
  let hlRatio := (high.div (low.npMax tinyPrice)).npMax (.finite 1)
  (m.sqrt (((m.log hlRatio).mul (m.log hlRatio)).div ((PyFloat.finite 4).mul (m.log (.finite 2))))).npMax (.finite (5 / 1000))

/-- The dollar volume of a bar, with its floor. -/
def dollarVolume (close volume : PyFloat) : PyFloat := (close.mul volume).npMax (.finite 1000000)

/-- The batches side by side: a row for each bar, a column for each symbol, and one vector of timestamps. -/
structure StackedMarket where
  tLen : ℕ
  nAssets : ℕ
  returns : ℕ → ℕ → PyFloat
  volatilities : ℕ → ℕ → PyFloat
  advs : ℕ → ℕ → PyFloat
  timestamps : List ℤ

/-- The symbols in order, each with its batch. -/
def sortedBatches (batches : Dict String MarketDataBatch) : List (String × MarketDataBatch) :=
  batches.items.insertionSort fun p q => p.1 ≤ q.1

/-- `returns`, `volatilities`, `advs` and `timestamps`, of the batches in the order of their symbols. -/
def stack (m : MarketMath) (first : MarketDataBatch) (batches : List (String × MarketDataBatch)) : StackedMarket where
  tLen := first.timestamps.length - 1
  nAssets := batches.length
  returns t i := batches[i]?.elim (.finite 0) fun b => logReturn m (b.2.closes.getD t .nan) (b.2.closes.getD (t + 1) .nan)
  volatilities t i := batches[i]?.elim (.finite 0) fun b =>
    parkinsonVolatility m (b.2.highs.getD (t + 1) .nan) (b.2.lows.getD (t + 1) .nan)
  advs t i := batches[i]?.elim (.finite 0) fun b => dollarVolume (b.2.closes.getD (t + 1) .nan) (b.2.volumes.getD (t + 1) .nan)
  timestamps := first.timestamps.tail

/-! ## Signals -/

/-- An exponential average of what came before bar `t`. -/
def laggedEma (decay : ℚ) (series : ℕ → PyFloat) : ℕ → PyFloat
  | 0 => .finite 0
  | t + 1 => ((PyFloat.finite decay).mul (series t)).add ((PyFloat.finite (1 - decay)).mul (laggedEma decay series t))

/-- `signals` without a chromosome: 5-bar momentum. -/
def momentumSignal (returns : ℕ → ℕ → PyFloat) (t i : ℕ) : PyFloat := laggedEma (2 / (5 + 1)) (fun s => returns s i) t

/-- `signals` of a chromosome: two averages blended, where the blend clears its hurdle. -/
def chromosomeSignal (c : StrategyChromosome ℚ) (returns volatilities : ℕ → ℕ → PyFloat) (t i : ℕ) : PyFloat :=
  if t = 0 then .finite 0
  else
    let tauS := max 2 (truncate (c.representation.tauSlow / 86400 * 5))
    let tauF := max 1 (truncate (c.representation.tauRatio * c.representation.tauSlow / 86400 * 5))
    let alphaBlend := c.representation.alphaDecay
    let emaSlow := laggedEma (2 / (tauS + 1)) (fun s => returns s i) t
    let emaFast := laggedEma (2 / (tauF + 1)) (fun s => returns s i) t
    let blended := ((PyFloat.finite alphaBlend).mul emaFast).add ((PyFloat.finite (1 - alphaBlend)).mul emaSlow)
    let hurdle := (PyFloat.finite c.inference.metaLabelThresh).mul ((volatilities (t - 1) i).npMax (.finite (1 / 10 ^ 4)))
    if hurdle.le blended.abs then blended else .finite 0

/-! ## Arrays -/

/-- A table of floats. -/
def floatTable (tLen n : ℕ) (f : ℕ → ℕ → PyFloat) : Ndarray where
  dtype := .number "float64"
  shape := [tLen, n]
  data := (List.range tLen).flatMap fun t => (List.range n).map fun i => (f t i).value?
  data_length := by simp [List.length_flatMap]

/-- The timestamps as an array. -/
def timestampArray (timestamps : List ℤ) : Ndarray where
  dtype := .number "int64"
  shape := [timestamps.length]
  data := timestamps.map fun t => some (t : ℚ)
  data_length := by simp

/-- The arguments of `run` made of the stacked batches, the signals, the regime probabilities of every bar and the ambiguity of
every bar. -/
def StackedMarket.inputs (s : StackedMarket) (signals : ℕ → ℕ → PyFloat) (regimeProbs : List ℚ) (ambiguityBeta : ℚ) :
    ReplayInputs where
  assetReturns := .ndarray (floatTable s.tLen s.nAssets s.returns)
  assetVolatilities := .ndarray (floatTable s.tLen s.nAssets s.volatilities)
  candidatePredictions := .ndarray (floatTable s.tLen s.nAssets signals)
  regimeProbabilities := .ndarray (floatTable s.tLen regimeProbs.length fun _ j => .finite (regimeProbs.getD j 0))
  ambiguityBetas := .ndarray (.vector (List.replicate s.tLen ambiguityBeta))
  timestamps := some (.ndarray (timestampArray s.timestamps))
  advs := some (.ndarray (floatTable s.tLen s.nAssets s.advs))
  cusumShocks := none

/-! ## The runner -/

/-- A runner: its budget and trials, how it builds the engine of a run, the audit that ends a replay, and the result made of both;
and how the errors of a replay read. -/
structure BacktestRunner (ε S Z A R : Type) where
  mddBudget : ℚ
  numTrials : ℤ
  engine : ℚ → ℤ → Except Exc (ReplayEngine ε S Z)
  audit : ReplayInputs → List BarExecutionRecord → Except (ReplayError ε) A
  result : ReplayInputs → List BarExecutionRecord → A → Except Exc R
  message : ReplayError ε → String
  typeName : ReplayError ε → String

/-- The error an error of the replay is mapped to. -/
def remapError (msg typeName : String) : BacktestError :=
  if contains msg "ERR-SIM-001" ∨ contains typeName "Lookahead" then ⟨.lookaheadViolation, .lookaheadViolation, msg, []⟩
  else if contains msg "ERR-SIM-003" ∨ contains msg "Capital ruin" then ⟨.degenerate, .capitalRuin, msg, []⟩
  else if contains msg "ERR-SIM-004" ∨ contains msg "friction" then ⟨.infeasible, .infeasibleFriction, msg, []⟩
  else if contains msg "ERR-SIM-005" ∨ contains msg "starvation" then ⟨.degenerate, .starvation, msg, []⟩
  else if contains msg "ERR-SIM-006" ∨ contains msg.toLower "dimension" then ⟨.degenerate, .dimensionMismatch, msg, []⟩
  else ⟨.degenerate, .nonFiniteInput, msg, []⟩

/-- The finiteness check of an array of numbers; of another element type numpy raises. -/
def checkAllFinite (name : String) (a : Ndarray) : Except BacktestRaised Unit :=
  if ¬ (a.dtype.isNumeric ∨ a.dtype =
    .bool) then .error (.other ⟨.typeError, "ufunc 'isfinite' not supported for the input types", []⟩)
  else check a.allFinite ⟨.degenerate, .nonFiniteInput, name ++ " contains non-finite values (NaN or Inf)", []⟩

/-- Steps 1 to 3: the returns. -/
def checkAssetReturns : PyArray → Except BacktestRaised (ℕ × ℕ)
  | .other type => .error (.backtest ⟨.degenerate, .nonFiniteInput, "asset_returns must be a numpy ndarray, got %", [.str type]⟩)
  | .ndarray a => do
    check a.dtype.isNumeric ⟨.degenerate, .nonFiniteInput, "asset_returns must have numeric dtype, got %", [.str a.dtype.name]⟩
    check (a.ndim = 2) ⟨.degenerate, .dimensionMismatch,
      "asset_returns must be 2D array of shape (T, N), got ndim=%", [.num a.ndim]⟩
    check (30 ≤ a.dim 0)
      ⟨.degenerate, .starvation, "Historical record starvation: % bars < 30 required (INV-BKT-004)", [.num (a.dim 0)]⟩
    checkAllFinite "asset_returns" a
    return (a.dim 0, a.dim 1)

/-- Step 4: the volatilities. -/
def checkAssetVolatilities (tLen nAssets : ℕ) : PyArray → Except BacktestRaised Unit
  | .other type =>
    .error (.backtest ⟨.degenerate, .nonFiniteInput, "asset_volatilities must be a numpy ndarray, got %", [.str type]⟩)
  | .ndarray a => do
    check (a.shape = [tLen, nAssets])
      ⟨.degenerate, .dimensionMismatch, "asset_volatilities shape does not match asset_returns shape (%, %)",
        [.num tLen, .num nAssets]⟩
    checkAllFinite "asset_volatilities" a
    check (a.values.all (0 ≤ ·)) ⟨.degenerate, .nonFiniteInput, "asset_volatilities elements must be non-negative", []⟩

/-- Step 5: the timestamps, where there are any. -/
def checkRunTimestamps (tLen : ℕ) : Option PyArray → Except BacktestRaised Unit
  | none => .ok ()
  | some (.other type) =>
    .error (.backtest ⟨.degenerate, .nonFiniteInput, "timestamps must be a numpy ndarray, got %", [.str type]⟩)
  | some (.ndarray a) => do
    check (a.ndim = 1 ∧ a.dim 0 = tLen) ⟨.degenerate, .dimensionMismatch, "timestamps shape does not match T=%", [.num tLen]⟩
    checkAllFinite "timestamps" a
    check (a.values.all (0 ≤ ·)) ⟨.degenerate, .nonFiniteInput, "timestamps must be non-negative", []⟩
    check ((npDiff a.values).all (0 < ·))
      ⟨.lookaheadViolation, .lookaheadViolation,
        "Timestamps must be strictly monotonically increasing; non-positive interval detected (INV-BKT-001)", []⟩

namespace BacktestRunner

variable {ε S Z A R : Type} (runner : BacktestRunner ε S Z A R)

/-- `run`; of the chromosome it reads the limit on the drawdown. -/
def run (x : ReplayInputs) (chromosome : Option (StrategyChromosome ℚ)) (numTrials : Option ℤ) : Except BacktestRaised R := do
  let shape ← checkAssetReturns x.assetReturns
  checkAssetVolatilities shape.1 shape.2 x.assetVolatilities
  checkRunTimestamps shape.1 x.timestamps
  let effectiveMdd := chromosome.elim runner.mddBudget (·.risk.maxDrawdownLimit)
  let engine ← (runner.engine effectiveMdd (numTrials.getD runner.numTrials)).mapError .other
  let remap (exc : ReplayError ε) : BacktestRaised := .backtest (remapError (runner.message exc) (runner.typeName exc))
  let played := engine.run x
  let _ ← played.1.mapError remap
  let report ← (runner.audit x played.2).mapError remap
  (runner.result x played.2 report).mapError .other

/-- The run of stacked batches: `run_with_chromosome` where there is one, else `run` with the momentum signals. -/
def runStacked (m : MarketMath) (s : StackedMarket) (chromosome : Option (StrategyChromosome ℚ)) (numTrials : ℤ) :
    Except BacktestRaised R :=
  match chromosome with
  | some c =>
    runner.run (s.inputs (chromosomeSignal c s.returns s.volatilities)
      (c.gameTheory.regimePriors m.exp) c.gameTheory.ambiguityTemp)
      (some c) (some numTrials)
  | none => runner.run (s.inputs (momentumSignal s.returns) [60 / 100, 30 / 100, 10 / 100] 1) none (some numTrials)

/-- `run_on_market_batches`. -/
def runOnMarketBatches (m : MarketMath) (batches : Dict String MarketDataBatch) (chromosome : Option (StrategyChromosome ℚ))
    (numTrials : ℤ) : Except BacktestRaised R :=
  match sortedBatches batches with
  | [] => .error (.backtest ⟨.degenerate, .starvation, "batches dictionary cannot be empty (ERR-BKT-004)", []⟩)
  | (sym, first) :: rest =>
    let commonLen := first.timestamps.length
    if commonLen < 30 then
      .error (.backtest ⟨.degenerate, .starvation, "Batch bar count (%) < 30 required (ERR-BKT-004)", [.num commonLen]⟩)
    else
      match ((sym, first) :: rest).find? fun b => b.2.timestamps.length ≠ commonLen with
      | some b =>
        .error (.backtest ⟨.degenerate, .dimensionMismatch,
          "Timestamp length mismatch for symbol %: expected %, got % (ERR-BKT-006)",
          [.str b.1, .num commonLen, .num b.2.timestamps.length]⟩)
      | none => runner.runStacked m (stack m first ((sym, first) :: rest)) chromosome numTrials

end BacktestRunner

end Quant
