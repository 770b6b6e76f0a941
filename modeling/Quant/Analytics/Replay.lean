import Mathlib.Algebra.Order.Floor.Defs
import Mathlib.Data.Rat.Floor
import Quant.Analytics.CircuitBreakers
import Quant.Analytics.Simulation

/-!
# The replay engine

`ExecutionCostModel` and `ReplayEngine.run` of `analytics/simulation.py`. The square root of numpy, the sizer and the circuit
breaker are parameters; the sizer and the circuit breaker each have a state of their own. The audit after the last bar is left
out, as it changes nothing of what the bars recorded, and so are the arguments only it reads.
-/

namespace Quant

open Pylib

/-! ## Friction -/

/-- `ExecutionCostModel`: the rates its constructor accepts. -/
structure ExecutionCostModel where
  feeBps : ℚ
  spreadBps : ℚ
  impactCoefficient : ℚ
  feeBps_nonneg : 0 ≤ feeBps
  spreadBps_nonneg : 0 ≤ spreadBps
  impactCoefficient_nonneg : 0 ≤ impactCoefficient

namespace ExecutionCostModel

def feeMultiplier (m : ExecutionCostModel) : ℚ := m.feeBps * (1 / 10 ^ 4)

def spreadMultiplier (m : ExecutionCostModel) : ℚ := 1 / 2 * m.spreadBps * (1 / 10 ^ 4)

/-- The impact component. -/
def impactCost (m : ExecutionCostModel) (sqrt : ℚ → ℚ) (absDelta vols : List ℚ) : Option (List ℚ) → ℚ
  | none => m.impactCoefficient * dot vols (absDelta.map fun d => d * sqrt d)
  | some advs =>
    dot (List.zipWith (· * ·) (advs.map fun adv => m.impactCoefficient / sqrt adv) vols) (absDelta.map fun d => d * sqrt d)

/-- `compute_cost_breakdown` on vectors of finite numbers. -/
def computeCostBreakdown (m : ExecutionCostModel) (sqrt : ℚ → ℚ) (delta vols : List ℚ) (advs : Option (List ℚ)) :
    Except SimulationError (ℚ × ℚ × ℚ) :=
  let n := delta.length
  if vols.length ≠ n then
    .error ⟨.degenerate, .dimensionMismatch, "Dimension mismatch between delta_positions (%) and asset_volatilities (%)",
      [.num n, .num vols.length]⟩
  else if (advs.map List.length).getD n ≠ n then
    .error ⟨.degenerate, .dimensionMismatch, "Dimension mismatch between delta_positions (%) and advs (%)",
      [.num n, .num ((advs.map List.length).getD n)]⟩
  else if n = 0 then .ok (0, 0, 0)
  else if vols.any (· < 0) then
    .error ⟨.degenerate, .nonFiniteInput, "asset_volatilities must be non-negative (sigma_i >= 0.0)", []⟩
  else if (advs.getD []).any (· ≤ 0) then
    .error ⟨.degenerate, .nonFiniteInput, "advs must be strictly positive (ADV_i > 0.0)", []⟩
  else
    let absDelta := delta.map (|·|)
    let l1Turnover := absDelta.sum
    if l1Turnover = 0 then .ok (0, 0, 0)
    else
      let feeCost := m.feeMultiplier * l1Turnover
      let spreadCost := m.spreadMultiplier * l1Turnover
      let impactCost := m.impactCost sqrt absDelta vols advs
      if feeCost < 0 ∨ spreadCost < 0 ∨ impactCost < 0 then
        .error ⟨.infeasible, .negativeFriction,
          "Negative friction component detected (INV-SIM-003): fee=%, spread=%, impact=%",
          [.num feeCost, .num spreadCost, .num impactCost]⟩
      else .ok (feeCost, spreadCost, impactCost)

/-- `compute_cost`. -/
def computeCost (m : ExecutionCostModel) (sqrt : ℚ → ℚ) (delta vols : List ℚ) (advs : Option (List ℚ)) :
    Except SimulationError ℚ :=
  match m.computeCostBreakdown sqrt delta vols advs with
  | .error exc => .error exc
  | .ok (feeCost, spreadCost, impactCost) =>
    let totalCost := feeCost + spreadCost + impactCost
    if totalCost < 0 then
      .error ⟨.infeasible, .negativeFriction, "Total friction cost must be non-negative (INV-SIM-003), got %", [.num totalCost]⟩
    else .ok totalCost

end ExecutionCostModel

/-! ## The components -/

def CircuitBreakerTier.name : CircuitBreakerTier → String
  | .normal => "NORMAL"
  | .caution => "CAUTION"
  | .derisk => "DERISK"
  | .halt => "HALT"

/-- What the engine reads of a `CircuitBreakerDecision`. -/
structure CircuitBreakerDecision where
  actionTier : CircuitBreakerTier
  executionHaircut : ℚ
  isHalted : Bool
  deriving DecidableEq

/-- The arguments of the circuit breaker's `evaluate`, but for its state. -/
structure EvaluateArgs where
  predictions : List ℚ
  weights : List ℚ
  aleatoricVariance : ℚ
  epistemicVariance : ℚ
  ambiguityBeta : ℚ
  cusumShock : Bool
  regimeIsPanic : Bool
  deriving DecidableEq

structure SizingDecision where
  targetAllocations : List ℚ
  discretizedAllocations : List ℚ
  effectiveLeverage : ℚ
  expectedShortfall : ℚ
  estimatedImpactCost : ℚ
  circuitBreakerHaircut : ℚ
  isDrawdownConstrained : Bool
  isLeverageConstrained : Bool
  deriving DecidableEq

/-- The arguments of the sizer's `solve`; a matrix is the list of its rows. -/
structure SolveArgs where
  mu : List ℚ
  sigma2Epistemic : List ℚ
  covAleatoric : List (List ℚ)
  assetVols : List ℚ
  crossImpact : List (List ℚ)
  circuitBreakerHaircut : ℚ
  assetCvars : List ℚ
  totalCapital : ℚ
  randomSeed : ℕ
  deriving DecidableEq

/-- What a listener is given. -/
inductive ReplayEvent where
  | onBarStart (step : ℕ) (timestamp : ℤ)
  | onDecision (step : ℕ) (decision : SizingDecision)
  | onFill (step : ℕ) (record : BarExecutionRecord)
  | onBarEnd (step : ℕ) (record : BarExecutionRecord)
  deriving DecidableEq

/-- What a run raises: an error of the simulation, one of a component, or numpy's for shapes that
do not fit and for a column that is not there. -/
inductive ReplayError (ε : Type) where
  | simulation (exc : SimulationError)
  | component (exc : ε)
  | broadcast (n m : ℕ)
  | index
  deriving DecidableEq

instance (ε : Type) : MonadLift (Except SimulationError) (Except (ReplayError ε)) := ⟨Except.mapError .simulation⟩

/-- An engine: capital, costs, and the components with the states they start in. -/
structure ReplayEngine (ε S Z : Type) where
  initialCapital : ℚ
  costModel : ExecutionCostModel
  sqrt : ℚ → ℚ
  initializeState : S
  evaluate : EvaluateArgs → S → Except ε (CircuitBreakerDecision × S)
  sizerState : Z
  solve : SolveArgs → Z → Except ε SizingDecision × Z
  initialCapital_pos : 0 < initialCapital

/-! ## The inputs -/

/-- The arguments of `run`. -/
structure ReplayInputs where
  assetReturns : PyArray
  assetVolatilities : PyArray
  candidatePredictions : PyArray
  regimeProbabilities : PyArray
  ambiguityBetas : PyArray
  timestamps : Option PyArray
  advs : Option PyArray
  cusumShocks : Option PyArray

def wrongShape (text : String) (args : List ExcArg) : SimulationError := ⟨.degenerate, .dimensionMismatch, text, args⟩

def wrongValue (text : String) : SimulationError := ⟨.degenerate, .nonFiniteInput, text, []⟩

/-- Step 1: the returns, one row a bar. -/
def checkReturns (v : PyArray) : Except SimulationError {a : Ndarray // v = .ndarray a ∧ a.ndim = 2 ∧ 30 ≤ a.dim 0} := do
  let a ← checkNumeric "asset_returns" v
  let ndim ← ensure (a.1.ndim = 2) (wrongShape "asset_returns must be 2-dimensional (T, N), got ndim=%" [.num a.1.ndim])
  let bars ← ensure (30 ≤ a.1.dim 0)
    ⟨.degenerate, .starvation, "Simulation record starvation: % bars < 30 required (INV-SIM-005)", [.num (a.1.dim 0)]⟩
  let _ ← checkFinite "asset_returns" a.1
  return ⟨a.1, a.2, ndim.down, bars.down⟩

/-- Step 2. -/
def checkVolatilities (tLen nAssets : ℕ) (v : PyArray) :
    Except SimulationError {a : Ndarray // v = .ndarray a ∧ a.shape = [tLen, nAssets]} := do
  let a ← checkNumeric "asset_volatilities" v
  let _ ← ensure (a.1.ndim = 2) (wrongShape "asset_volatilities must be 2-dimensional (T, N), got ndim=%" [.num a.1.ndim])
  let shape ← ensure (a.1.shape = [tLen, nAssets])
    (wrongShape "asset_volatilities shape does not match asset_returns shape (%, %)" [.num tLen, .num nAssets])
  let _ ← checkFinite "asset_volatilities" a.1
  let _ ← ensure (a.1.values.all (0 ≤ ·)) (wrongValue "asset_volatilities must be non-negative (sigma_i >= 0.0)")
  return ⟨a.1, a.2, shape.down⟩

/-- Step 3. -/
def checkPredictions (tLen nAssets : ℕ) (v : PyArray) :
    Except SimulationError {a : Ndarray // v = .ndarray a ∧ (a.ndim = 2 ∨ a.ndim = 3) ∧ a.dim 0 = tLen} := do
  let a ← checkNumeric "candidate_predictions" v
  let _ ← checkFinite "candidate_predictions" a.1
  let ndim ← ensure (a.1.ndim = 2 ∨ a.1.ndim = 3)
    (wrongShape "candidate_predictions must be 2D (T, N) or 3D (T, N, K), got ndim=%" [.num a.1.ndim])
  let len ← ensure (a.1.dim 0 = tLen)
    (wrongShape "candidate_predictions length (%) does not match T (%)" [.num (a.1.dim 0), .num tLen])
  let _ ← ensure (a.1.dim 1 = nAssets)
    (wrongShape "candidate_predictions assets (%) does not match N (%)" [.num (a.1.dim 1), .num nAssets])
  let _ ← ensure (a.1.ndim = 3 → 1 ≤ a.1.dim 2) (wrongShape "candidate_predictions model dimension K must be >= 1" [])
  return ⟨a.1, a.2, ndim.down, len.down⟩

/-- Step 4: one row a bar, one number a bar, or one vector of three for all bars. -/
def checkRegimes (tLen : ℕ) (v : PyArray) :
    Except SimulationError {a : Ndarray // v = .ndarray a ∧ (a.dim 0 = tLen ∨ a.ndim = 1 ∧ a.dim 0 = 3)} := do
  let a ← checkNumeric "regime_probabilities" v
  let _ ← checkFinite "regime_probabilities" a.1
  let _ ← ensure (a.1.values.all (0 ≤ ·)) (wrongValue "regime_probabilities elements must be non-negative")
  if a.1.ndim = 2 then
    let len ← ensure (a.1.dim 0 = tLen)
      (wrongShape "regime_probabilities length (%) does not match T (%)" [.num (a.1.dim 0), .num tLen])
    return ⟨a.1, a.2, .inl len.down⟩
  else if h1 : a.1.ndim = 1 then
    let len ← ensure (a.1.dim 0 = 3 ∨ a.1.dim 0 = tLen)
      (wrongShape "1D regime_probabilities length (%) must be 3 or T (%)" [.num (a.1.dim 0), .num tLen])
    return ⟨a.1, a.2, len.down.elim (fun h => .inr ⟨h1, h⟩) .inl⟩
  else .error (wrongShape "regime_probabilities must be 1D or 2D, got ndim=%" [.num a.1.ndim])

/-- Step 5: one row or one number a bar, or one number for all bars. -/
def checkBetas (tLen : ℕ) (v : PyArray) :
    Except SimulationError {a : Ndarray // v = .ndarray a ∧
      ((a.ndim = 0 ∨ a.ndim = 1 ∧ a.dim 0 = 1) ∨ (a.ndim = 1 ∨ a.ndim = 2) ∧ a.dim 0 = tLen)} := do
  let a ← checkNumeric "ambiguity_betas" v
  let _ ← checkFinite "ambiguity_betas" a.1
  let _ ← ensure (a.1.values.all (0 < ·)) (wrongValue "ambiguity_betas elements must be strictly positive (> 0.0)")
  if h1 : a.1.ndim = 1 then
    let len ← ensure (a.1.dim 0 = 1 ∨ a.1.dim 0 = tLen)
      (wrongShape "1D ambiguity_betas length (%) must be 1 or T (%)" [.num (a.1.dim 0), .num tLen])
    return ⟨a.1, a.2, len.down.elim (fun h => .inl (.inr ⟨h1, h⟩)) (fun h => .inr ⟨.inl h1, h⟩)⟩
  else if h2 : a.1.ndim = 2 then
    let len ← ensure (a.1.dim 0 = tLen)
      (wrongShape "2D ambiguity_betas length (%) does not match T (%)" [.num (a.1.dim 0), .num tLen])
    return ⟨a.1, a.2, .inr ⟨.inr h2, len.down⟩⟩
  else if h0 : a.1.ndim = 0 then return ⟨a.1, a.2, .inl (.inl h0)⟩
  else .error (wrongShape "ambiguity_betas ndim must be <= 2, got ndim=%" [.num a.1.ndim])

/-- Step 6. -/
def checkTimestamps (tLen : ℕ) (v : PyArray) : Except SimulationError {a : Ndarray // v = .ndarray a ∧ a.dim 0 = tLen} := do
  let a ← checkNumeric "timestamps" v
  let _ ← ensure (a.1.ndim = 1) (wrongShape "timestamps must be 1-dimensional, got ndim=%" [.num a.1.ndim])
  let len ← ensure (a.1.dim 0 = tLen) (wrongShape "timestamps length (%) does not match T (%)" [.num (a.1.dim 0), .num tLen])
  let _ ← checkFinite "timestamps" a.1
  let _ ← ensure (a.1.values.all (0 ≤ ·)) (wrongValue "timestamps must be non-negative")
  return ⟨a.1, a.2, len.down⟩

/-- Step 7: one vector for all bars, or one row a bar. -/
def checkAdvs (tLen nAssets : ℕ) (v : PyArray) :
    Except SimulationError {a : Ndarray // v = .ndarray a ∧ (a.ndim = 1 ∨ a.shape = [tLen, nAssets])} := do
  let a ← checkNumeric "advs" v
  let _ ← checkFinite "advs" a.1
  let _ ← ensure (a.1.values.all (0 < ·)) (wrongValue "advs elements must be strictly positive (> 0.0)")
  if h1 : a.1.ndim = 1 then
    let _ ← ensure (a.1.dim 0 = nAssets) (wrongShape "1D advs length (%) does not match N (%)" [.num (a.1.dim 0), .num nAssets])
    return ⟨a.1, a.2, .inl h1⟩
  else if a.1.ndim = 2 then
    let shape ← ensure (a.1.shape = [tLen, nAssets])
      (wrongShape "2D advs shape does not match (T, N) (%, %)" [.num tLen, .num nAssets])
    return ⟨a.1, a.2, .inr shape.down⟩
  else .error (wrongShape "advs must be 1D or 2D, got ndim=%" [.num a.1.ndim])

/-- The check of the shocks, made after the others and before the first bar. -/
def checkShocks (tLen : ℕ) : (v : PyArray) → Except SimulationError {a : Ndarray // v = .ndarray a ∧ a.dim 0 = tLen}
  | .other type => .error ⟨.degenerate, .nonFiniteInput, "cusum_shocks must be a numpy ndarray, got %", [.str type]⟩
  | .ndarray a => do
    let _ ← ensure (a.dtype.isNumeric ∨ a.dtype = .bool)
      ⟨.degenerate, .nonFiniteInput, "cusum_shocks must have numeric or boolean dtype, got %", [.str a.dtype.name]⟩
    let _ ← checkFinite "cusum_shocks" a
    let shape ← ensure (a.ndim = 1 ∧ a.dim 0 = tLen) (wrongShape "cusum_shocks must be 1D of length T (%)" [.num tLen])
    return ⟨a, rfl, shape.down.2⟩

/-- Inputs that passed the checks: an array that is not one value for all bars has one row a bar. -/
structure ReplayHistory where
  assetReturns : Ndarray
  assetVolatilities : Ndarray
  candidatePredictions : Ndarray
  regimeProbabilities : Ndarray
  ambiguityBetas : Ndarray
  timestamps : Option Ndarray
  advs : Option Ndarray
  cusumShocks : Option Ndarray
  returns_ndim : assetReturns.ndim = 2
  returns_bars : 30 ≤ assetReturns.dim 0
  volatilities_shape : assetVolatilities.shape = [assetReturns.dim 0, assetReturns.dim 1]
  predictions_ndim : candidatePredictions.ndim = 2 ∨ candidatePredictions.ndim = 3
  predictions_bars : candidatePredictions.dim 0 = assetReturns.dim 0
  regimes_bars : regimeProbabilities.dim 0 = assetReturns.dim 0 ∨ regimeProbabilities.ndim = 1 ∧ regimeProbabilities.dim 0 = 3
  betas_bars : (ambiguityBetas.ndim = 0 ∨ ambiguityBetas.ndim = 1 ∧ ambiguityBetas.dim 0 = 1) ∨
    (ambiguityBetas.ndim = 1 ∨ ambiguityBetas.ndim = 2) ∧ ambiguityBetas.dim 0 = assetReturns.dim 0
  timestamps_bars : ∀ a ∈ timestamps, a.dim 0 = assetReturns.dim 0
  advs_bars : ∀ a ∈ advs, a.ndim = 1 ∨ a.shape = [assetReturns.dim 0, assetReturns.dim 1]
  shocks_bars : ∀ a ∈ cusumShocks, a.dim 0 = assetReturns.dim 0

/-- A check of an argument that may be left out. -/
def checkOptional {P : Ndarray → Prop} (check : (v : PyArray) → Except SimulationError {a : Ndarray // v = .ndarray a ∧ P a}) :
    (v : Option PyArray) → Except SimulationError {a : Option Ndarray // v = a.map .ndarray ∧ ∀ x ∈ a, P x}
  | none => .ok ⟨none, rfl, nofun⟩
  | some v => do
    let a ← check v
    return ⟨some a.1, congrArg some a.2.1, fun _ hx => Option.some.inj hx ▸ a.2.2⟩

/-- The history is made of the inputs. -/
structure ReplayInputs.Holds (x : ReplayInputs) (h : ReplayHistory) : Prop where
  assetReturns : x.assetReturns = .ndarray h.assetReturns
  assetVolatilities : x.assetVolatilities = .ndarray h.assetVolatilities
  candidatePredictions : x.candidatePredictions = .ndarray h.candidatePredictions
  regimeProbabilities : x.regimeProbabilities = .ndarray h.regimeProbabilities
  ambiguityBetas : x.ambiguityBetas = .ndarray h.ambiguityBetas
  timestamps : x.timestamps = h.timestamps.map .ndarray
  advs : x.advs = h.advs.map .ndarray
  cusumShocks : x.cusumShocks = h.cusumShocks.map .ndarray

/-- All checks of `run` before the first bar. -/
def ReplayInputs.validate (ε : Type) (x : ReplayInputs) : Except (ReplayError ε) {h : ReplayHistory // x.Holds h} := do
  let returns ← checkReturns x.assetReturns
  let tLen := returns.1.dim 0
  let nAssets := returns.1.dim 1
  let volatilities ← checkVolatilities tLen nAssets x.assetVolatilities
  let predictions ← checkPredictions tLen nAssets x.candidatePredictions
  let regimes ← checkRegimes tLen x.regimeProbabilities
  let betas ← checkBetas tLen x.ambiguityBetas
  let timestamps ← checkOptional (checkTimestamps tLen) x.timestamps
  let advs ← checkOptional (checkAdvs tLen nAssets) x.advs
  -- the first column of the betas is read before the shocks are checked
  if betas.1.ndim = 2 ∧ betas.1.dim 1 = 0 then throw .index
  let shocks ← checkOptional (checkShocks tLen) x.cusumShocks
  return ⟨{
    assetReturns := returns.1
    assetVolatilities := volatilities.1
    candidatePredictions := predictions.1
    regimeProbabilities := regimes.1
    ambiguityBetas := betas.1
    timestamps := timestamps.1
    advs := advs.1
    cusumShocks := shocks.1
    returns_ndim := returns.2.2.1
    returns_bars := returns.2.2.2
    volatilities_shape := volatilities.2.2
    predictions_ndim := predictions.2.2.1
    predictions_bars := predictions.2.2.2
    regimes_bars := regimes.2.2
    betas_bars := betas.2.2
    timestamps_bars := timestamps.2.2
    advs_bars := advs.2.2
    shocks_bars := shocks.2.2 },
    ⟨returns.2.1, volatilities.2.1, predictions.2.1, regimes.2.1, betas.2.1, timestamps.2.1, advs.2.1, shocks.2.1⟩⟩

/-! ## The tables computed before the first bar -/

/-- The mean of numbers. -/
def mean (xs : List ℚ) : ℚ := xs.sum / xs.length

/-- `np.var` with `ddof=1`. -/
def sampleVar (xs : List ℚ) : ℚ := (xs.map fun x => (x - mean xs) ^ 2).sum / (xs.length - 1)

/-- The models' numbers of each asset in a row of predictions. -/
def perAsset (nAssets k : ℕ) (row : List ℚ) : List (List ℚ) := (List.range nAssets).map fun i => (row.drop (i * k)).take k

/-- The assets' numbers of each model in a row of predictions. -/
def perModel (nAssets k : ℕ) (row : List ℚ) : List (List ℚ) :=
  (List.range k).map fun j => (List.range nAssets).map fun i => row.getD (i * k + j) 0

/-- `np.argmax(row) == 2`: the third number is the first of the largest ones. -/
def argmaxIsTwo (row : List ℚ) : Bool := row.idxOf (row.foldl max (row.headD 0)) = 2

namespace ReplayHistory

def tLen (h : ReplayHistory) : ℕ := h.assetReturns.dim 0

def nAssets (h : ReplayHistory) : ℕ := h.assetReturns.dim 1

def is3dPredictions (h : ReplayHistory) : Bool := h.candidatePredictions.ndim = 3

def kModels (h : ReplayHistory) : ℕ := if h.is3dPredictions then h.candidatePredictions.dim 2 else 1

/-- `p_mu_all`. -/
def pMuAll (h : ReplayHistory) : List (List ℚ) :=
  h.candidatePredictions.rows.map fun row => (perAsset h.nAssets h.kModels row).map mean

/-- `p_sig2_all`. -/
def pSig2All (h : ReplayHistory) : List (List ℚ) :=
  h.candidatePredictions.rows.map fun row =>
    if 1 < h.kModels then (perAsset h.nAssets h.kModels row).map sampleVar else List.replicate h.nAssets 0

/-- `bar_preds_all`. -/
def barPredsAll (h : ReplayHistory) : List (List ℚ) :=
  h.candidatePredictions.rows.map fun row =>
    if 0 < h.nAssets then (perModel h.nAssets h.kModels row).map mean else List.replicate h.kModels 0

/-- `epistemic_var_cb_all`. -/
def epistemicVarCbAll (h : ReplayHistory) : List ℚ := h.pSig2All.map fun row => if 0 < h.nAssets then mean row else 0

/-- `c_all`. -/
def cAll (h : ReplayHistory) : List (List ℚ) :=
  h.assetVolatilities.rows.map fun row => row.map fun v => if 0 < v then 233 / 100 * v else 1

/-- `vols_sq`. -/
def volsSq (h : ReplayHistory) : List (List ℚ) := h.assetVolatilities.rows.map fun row => row.map (· ^ 2)

/-- `aleatoric_var_cb_all`. -/
def aleatoricVarCbAll (h : ReplayHistory) : List ℚ :=
  h.volsSq.map fun row => if 0 < h.nAssets then max (1 / 10 ^ 8) (mean row) else 1 / 100

/-- `model_weights`. -/
def modelWeights (h : ReplayHistory) : List ℚ := List.replicate h.kModels (1 / h.kModels)

/-- `panic_flags`. -/
def panicFlags (h : ReplayHistory) : List Bool :=
  let a := h.regimeProbabilities
  if a.ndim = 2 then
    if a.dim 1 = 3 then a.rows.map argmaxIsTwo else List.replicate h.tLen false
  else if a.ndim = 1 ∧ a.dim 0 = 3 then List.replicate h.tLen (argmaxIsTwo a.values)
  else if a.ndim = 1 ∧ a.dim 0 = h.tLen then a.rows.map fun row => 1 / 2 ≤ row.headD 0
  else List.replicate h.tLen false

/-- `betas_all`. -/
def betasAll (h : ReplayHistory) : List ℚ :=
  let a := h.ambiguityBetas
  if a.ndim = 1 ∧ a.dim 0 = h.tLen then a.rows.map (·.headD 0)
  else if a.ndim = 2 ∧ a.dim 0 = h.tLen then a.rows.map (·.headD 0)
  else List.replicate h.tLen (a.values.headD 0)

/-- `cusum_flags`. -/
def cusumFlags (h : ReplayHistory) : List Bool :=
  match h.cusumShocks with
  | some a => a.rows.map fun row => row.headD 0 ≠ 0
  | none => List.replicate h.tLen false

/-- `ts_series`, each entry as the integer the loop takes of it; without timestamps one day after the other. -/
def tsSeries (h : ReplayHistory) : List ℤ :=
  match h.timestamps with
  | some a => a.rows.map fun row => ⌊row.headD 0⌋
  | none => (List.range h.tLen).map fun t : ℕ => (t : ℤ) * 86400000000000

/-- The volumes the costs of bar `t` are computed with. -/
def advsAt (h : ReplayHistory) (t : ℕ) : Option (List ℚ) :=
  h.advs.map fun a => if a.ndim = 2 then a.row t else a.values

end ReplayHistory

/-! ## The loop -/

/-- What the loop carries from bar to bar, and what the listeners were given. -/
structure ReplayState (S Z : Type) where
  ledger : PortfolioLedger
  cbState : S
  sizerState : Z
  prevPositions : List ℚ
  events : List ReplayEvent

/-- `xs - ys` of two vectors: of one length, or one of them a single number. -/
def broadcastSub (xs ys : List ℚ) : Option (List ℚ) :=
  if xs.length = ys.length then some (List.zipWith (· - ·) xs ys)
  else
    match xs, ys with
    | [x], ys => some (ys.map (x - ·))
    | xs, [y] => some (xs.map (· - y))
    | _, _ => none

/-- `np.zeros((n, n))` with a diagonal written into it. -/
def diagonal (d : List ℚ) : List (List ℚ) :=
  (List.range d.length).map fun i => (List.range d.length).map fun j => if i = j then d.getD i 0 else 0

namespace ReplayEngine

variable {ε S Z : Type}

/-- Step 10.3: what the circuit breaker is asked at bar `t`. -/
def evaluateArgs (h : ReplayHistory) (t : ℕ) : EvaluateArgs where
  predictions := h.barPredsAll.getD t []
  weights := h.modelWeights
  aleatoricVariance := h.aleatoricVarCbAll.getD t 0
  epistemicVariance := h.epistemicVarCbAll.getD t 0
  ambiguityBeta := h.betasAll.getD t 0
  cusumShock := h.cusumFlags.getD t false
  regimeIsPanic := h.panicFlags.getD t false

/-- `kappa_t`: nothing is traded on a halt. -/
def kappa (d : CircuitBreakerDecision) : ℚ :=
  if d.actionTier.name = "HALT" ∨ d.isHalted ∨ d.executionHaircut ≤ 0 then 0 else d.executionHaircut

/-- Step 10.4: what the sizer is asked at bar `t`. -/
def solveArgs (h : ReplayHistory) (t : ℕ) (kappa capital : ℚ) : SolveArgs where
  mu := h.pMuAll.getD t []
  sigma2Epistemic := h.pSig2All.getD t []
  covAleatoric := diagonal ((h.volsSq.getD t []).map (max · (1 / 10 ^ 8)))
  assetVols := h.assetVolatilities.row t
  crossImpact := diagonal (List.replicate h.nAssets 0)
  circuitBreakerHaircut := kappa
  assetCvars := h.cAll.getD t []
  totalCapital := capital
  randomSeed := 42 + t

/-- The decision without assets. -/
def emptyDecision (kappa : ℚ) : SizingDecision where
  targetAllocations := []
  discretizedAllocations := []
  effectiveLeverage := 0
  expectedShortfall := 0
  estimatedImpactCost := 0
  circuitBreakerHaircut := kappa
  isDrawdownConstrained := false
  isLeverageConstrained := false

/-- Step 10.4: the decision of bar `t`. -/
def sizing (e : ReplayEngine ε S Z) (h : ReplayHistory) (t : ℕ) (kappa capital : ℚ) (z : Z) : Except ε SizingDecision × Z :=
  if 0 < h.nAssets then e.solve (solveArgs h t kappa capital) z else (.ok (emptyDecision kappa), z)

/-- Step 10.7: the call of the ledger. -/
def updateArgs (h : ReplayHistory) (t : ℕ) (d : CircuitBreakerDecision) (s : SizingDecision) (cost : ℚ) : UpdateArgs where
  stepIndex := .int t
  timestamp := .int (h.tsSeries.getD t 0)
  returnVector := .ndarray (.vector (h.assetReturns.row t))
  newPositions := .ndarray (.vector s.discretizedAllocations)
  frictionCost := .float cost
  circuitBreakerTier := .text d.actionTier.name
  circuitBreakerHaircut := .float (kappa d)
  targetAllocations := .ndarray (.vector s.targetAllocations)

/-- Steps 10.5 to 10.8: the decision is announced, its costs are computed, and the bar is booked. -/
def book (e : ReplayEngine ε S Z) (h : ReplayHistory) (t : ℕ) (d : CircuitBreakerDecision) (s : SizingDecision)
    (st : ReplayState S Z) : Except (ReplayError ε) Unit × ReplayState S Z :=
  let st := { st with events := st.events ++ [.onDecision t s] }
  match broadcastSub s.discretizedAllocations st.prevPositions with
  | none => (.error (.broadcast s.discretizedAllocations.length st.prevPositions.length), st)
  | some delta =>
    match e.costModel.computeCost e.sqrt delta (h.assetVolatilities.row t) (h.advsAt t) with
    | .error exc => (.error (.simulation exc), st)
    | .ok cost =>
      match st.ledger.update (updateArgs h t d s cost) with
      | (.error exc, ledger) => (.error (.simulation exc), { st with ledger := ledger })
      | (.ok record, ledger) =>
        (.ok (),
          { st with
            ledger := ledger
            prevPositions := s.discretizedAllocations
            events := st.events ++ [.onFill t record, .onBarEnd t record] })

/-- Step 10: one turn of the loop. -/
def bar (e : ReplayEngine ε S Z) (h : ReplayHistory) (t : ℕ) (st : ReplayState S Z) :
    Except (ReplayError ε) Unit × ReplayState S Z :=
  let st := { st with events := st.events ++ [.onBarStart t (h.tsSeries.getD t 0)] }
  let wAvail := st.ledger.equity
  if wAvail ≤ 0 then
    (.error (.simulation ⟨.degenerate, .capitalRuin, "Capital ruin detected prior to bar %: equity=% <= 0.0 (INV-SIM-002)",
      [.num t, .num wAvail]⟩), st)
  else
    match e.evaluate (evaluateArgs h t) st.cbState with
    | .error exc => (.error (.component exc), st)
    | .ok (d, cbState) =>
      match e.sizing h t (kappa d) wAvail st.sizerState with
      | (.error exc, z) => (.error (.component exc), { st with cbState := cbState, sizerState := z })
      | (.ok s, z) => e.book h t d s { st with cbState := cbState, sizerState := z }

/-- The state before the first bar. -/
def start (e : ReplayEngine ε S Z) (h : ReplayHistory) : ReplayState S Z where
  ledger := .initial e.initialCapital
  cbState := e.initializeState
  sizerState := e.sizerState
  prevPositions := List.replicate h.nAssets 0
  events := []

/-- The first `n` turns of the loop; the turn that raises is the last one. -/
def play (e : ReplayEngine ε S Z) (h : ReplayHistory) : ℕ → Except (ReplayError ε) Unit × ReplayState S Z
  | 0 => (.ok (), e.start h)
  | n + 1 =>
    match e.play h n with
    | (.error exc, st) => (.error exc, st)
    | (.ok _, st) => e.bar h n st

/-- `run` up to the audit: how it ended, and the records of the bars. -/
def run (e : ReplayEngine ε S Z) (x : ReplayInputs) : Except (ReplayError ε) Unit × List BarExecutionRecord :=
  match x.validate ε with
  | .error exc => (.error exc, [])
  | .ok h => ((e.play h.1 h.1.tLen).1, (e.play h.1 h.1.tLen).2.ledger.history)

end ReplayEngine
end Quant
