import Quant.Exceptions
import Quant.Pylib.Decimal

/-!
# The circuit breaker

`CircuitBreakerOverlayEngine` of `analytics/circuit_breakers.py`, with its two calculators: a score of the shock from how far the
models disagree, a haircut from the score, and a machine of four tiers that escalates at once and recovers slowly. `math.log`,
`math.exp` and `math.sqrt` are parameters; numbers are exact and finite, so the checks for `NaN` and for types have no case here.
-/

namespace Quant

open Pylib

/-- The functions of `math` that the calculators use. -/
structure MathFns where
  log : ℚ → ℚ
  exp : ℚ → ℚ
  sqrt : ℚ → ℚ

/-- `CircuitBreakerTier`, by severity. -/
inductive CircuitBreakerTier where
  | normal
  | caution
  | derisk
  | halt
  deriving DecidableEq, Repr

namespace CircuitBreakerTier

/-- The value of a tier. -/
def value : CircuitBreakerTier → ℕ
  | .normal => 0
  | .caution => 1
  | .derisk => 2
  | .halt => 3

/-- `CircuitBreakerTier(tier - 1)`; the machine asks for it only above `NORMAL`. -/
def down : CircuitBreakerTier → CircuitBreakerTier
  | .normal => .normal
  | .caution => .normal
  | .derisk => .caution
  | .halt => .derisk

/-- Whether a tier is `HALT` or `DERISK`. -/
def locked (t : CircuitBreakerTier) : Bool := t = .halt ∨ t = .derisk

end CircuitBreakerTier

/-! ## The configuration -/

/-- The fields of a configuration, with their defaults. -/
structure CircuitBreakerFields where
  signThreshold : ℚ := 1 / 10 ^ 4
  cautionThreshold : ℚ := 9 / 20
  deriskThreshold : ℚ := 7 / 10
  haltThreshold : ℚ := 9 / 10
  recoveryThreshold : ℚ := 3 / 10
  dwellTimeBars : ℤ := 5
  haircutSteepness : ℚ := 10
  haircutMidpoint : ℚ := 1 / 2
  weightEntropy : ℚ := 1 / 2
  weightEpistemicRatio : ℚ := 3 / 10
  weightAmbiguity : ℚ := 1 / 5
  betaMin : ℚ := 1
  betaMax : ℚ := 5
  deriving DecidableEq

/-- How far the weights may sum from one. -/
def weightTolerance : ℚ := 1 / 10 ^ 6

/-- How far probabilities may sum from one. -/
def simplexTolerance : ℚ := 1 / 10 ^ 10

/-- A configuration its constructor accepted. -/
structure CircuitBreakerConfig extends CircuitBreakerFields where
  dwellTimeBars_pos : 1 ≤ dwellTimeBars
  signThreshold_pos : 0 < signThreshold
  haircutSteepness_pos : 0 < haircutSteepness
  betaMin_pos : 0 < betaMin
  betaMax_gt : betaMin < betaMax
  weights_nonneg : 0 ≤ weightEntropy ∧ 0 ≤ weightEpistemicRatio ∧ 0 ≤ weightAmbiguity
  weights_sum : |weightEntropy + weightEpistemicRatio + weightAmbiguity - 1| ≤ weightTolerance
  haircutMidpoint_mem : 0 < haircutMidpoint ∧ haircutMidpoint < 1
  recoveryThreshold_mem : 0 < recoveryThreshold ∧ recoveryThreshold < cautionThreshold
  hierarchy : 0 < cautionThreshold ∧ cautionThreshold < deriskThreshold ∧ deriskThreshold < haltThreshold ∧ haltThreshold ≤ 1

/-- `CircuitBreakerConfig.__post_init__`. -/
def CircuitBreakerFields.create (f : CircuitBreakerFields) : Except Exc CircuitBreakerConfig :=
  if h1 : f.dwellTimeBars < 1 then
    .error ⟨.degenerateCircuitBreaker, "dwell_time_bars must be an integer >= 1, got %", [.num f.dwellTimeBars]⟩
  else if h2 : f.signThreshold ≤ 0 then
    .error ⟨.degenerateCircuitBreaker, "sign_threshold must be strictly positive, got %", [.num f.signThreshold]⟩
  else if h3 : f.haircutSteepness ≤ 0 then
    .error ⟨.degenerateCircuitBreaker, "haircut_steepness must be strictly positive, got %", [.num f.haircutSteepness]⟩
  else if h4 : f.betaMin ≤ 0 then
    .error ⟨.degenerateCircuitBreaker, "beta_min must be strictly positive, got %", [.num f.betaMin]⟩
  else if h5 : f.betaMax ≤ f.betaMin then
    .error ⟨.invalidCircuitBreakerInput, "beta_max (%) must be strictly greater than beta_min (%)",
      [.num f.betaMax, .num f.betaMin]⟩
  else if h6 : ¬ (0 ≤ f.weightEntropy ∧ 0 ≤ f.weightEpistemicRatio ∧ 0 ≤ f.weightAmbiguity) then
    .error ⟨.degenerateCircuitBreaker,
      "Component weights must be non-negative: weight_entropy=%, weight_epistemic_ratio=%, weight_ambiguity=%",
      [.num f.weightEntropy, .num f.weightEpistemicRatio, .num f.weightAmbiguity]⟩
  else if h7 : weightTolerance < |f.weightEntropy + f.weightEpistemicRatio + f.weightAmbiguity - 1| then
    .error ⟨.invalidCircuitBreakerInput, "Component weights must sum to 1.0 +/- 1e-6, got %",
      [.num (f.weightEntropy + f.weightEpistemicRatio + f.weightAmbiguity)]⟩
  else if h8 : ¬ (0 < f.haircutMidpoint ∧ f.haircutMidpoint < 1) then
    .error ⟨.invalidCircuitBreakerInput, "haircut_midpoint must be in (0.0, 1.0), got %", [.num f.haircutMidpoint]⟩
  else if h9 : ¬ (0 < f.recoveryThreshold ∧ f.recoveryThreshold < f.cautionThreshold) then
    .error ⟨.invalidCircuitBreakerInput, "recovery_threshold (%) must be in (0.0, caution_threshold=%)",
      [.num f.recoveryThreshold, .num f.cautionThreshold]⟩
  else if h10 : ¬ (0 < f.cautionThreshold ∧ f.cautionThreshold < f.deriskThreshold ∧ f.deriskThreshold < f.haltThreshold ∧
      f.haltThreshold ≤ 1) then
    .error ⟨.invalidCircuitBreakerInput,
      "Threshold hierarchy violation: must satisfy 0.0 < caution < derisk < halt <= 1.0. Got caution=%, derisk=%, halt=%",
      [.num f.cautionThreshold, .num f.deriskThreshold, .num f.haltThreshold]⟩
  else .ok
    { f with
      dwellTimeBars_pos := not_lt.1 h1
      signThreshold_pos := not_le.1 h2
      haircutSteepness_pos := not_le.1 h3
      betaMin_pos := not_le.1 h4
      betaMax_gt := not_le.1 h5
      weights_nonneg := not_not.1 h6
      weights_sum := not_lt.1 h7
      haircutMidpoint_mem := not_not.1 h8
      recoveryThreshold_mem := not_not.1 h9
      hierarchy := not_not.1 h10 }

/-! ## The disagreement of the models -/

/-- The weight of the models that predict a rise, a fall and neither. -/
structure Consensus where
  pPos : ℚ
  pNeg : ℚ
  pNeu : ℚ
  deriving DecidableEq

/-- `np.sum` of a consensus. -/
def Consensus.total (p : Consensus) : ℚ := p.pPos + p.pNeg + p.pNeu

namespace CircuitBreakerConfig

variable (M : MathFns) (cfg : CircuitBreakerConfig)

/-- `compute_directional_consensus`. -/
def computeDirectionalConsensus (predictions weights : List ℚ) : Except Exc Consensus :=
  if predictions.length ≠ weights.length then
    .error ⟨.invalidCircuitBreakerInput, "predictions length (%) must match weights length (%)",
      [.num predictions.length, .num weights.length]⟩
  else if predictions.length = 0 then
    .error ⟨.invalidCircuitBreakerInput, "predictions and weights cannot be empty (K >= 1 required)", []⟩
  else if weights.any (fun w => w < 0) then .error ⟨.invalidCircuitBreakerInput, "weights must be non-negative", []⟩
  else if simplexTolerance < |weights.sum - 1| then
    .error ⟨.invalidCircuitBreakerInput, "weights must sum to 1.0 +/- 1e-10, got %", [.num weights.sum]⟩
  else
    let masked (mask : ℚ → Bool) : ℚ := (((predictions.zip weights).filter (fun p => mask p.1)).map Prod.snd).sum
    .ok
      { pPos := max 0 (masked (fun y => cfg.signThreshold < y))
        pNeg := max 0 (masked (fun y => y < -cfg.signThreshold))
        pNeu := max 0 (masked (fun y => |y| ≤ cfg.signThreshold)) }

/-- `epsilon_log`, which the engine leaves at its default. -/
def epsilonLog : ℚ := 1 / 10 ^ 30

/-- `compute_directional_entropy`. -/
def computeDirectionalEntropy (p : Consensus) : Except Exc ℚ :=
  if p.pPos < 0 ∨ p.pNeg < 0 ∨ p.pNeu < 0 then
    .error ⟨.invalidCircuitBreakerInput, "directional_probs components must be non-negative", []⟩
  else if simplexTolerance < |p.total - 1| then
    .error ⟨.invalidCircuitBreakerInput, "directional_probs must sum to 1.0 +/- 1e-10, got %", [.num p.total]⟩
  else
    let term (x : ℚ) : ℚ := x * M.log (x + epsilonLog)
    .ok (clip (-(term p.pPos + term p.pNeg + term p.pNeu) / M.log 3) 0 1)

/-- `compute_epistemic_ratio`. -/
def computeEpistemicRatio (aleatoricVariance epistemicVariance : ℚ) : Except Exc ℚ :=
  if aleatoricVariance ≤ 0 then
    .error ⟨.invalidCircuitBreakerInput, "aleatoric_variance must be strictly positive (> 0.0), got %", [.num aleatoricVariance]⟩
  else if epistemicVariance < 0 then
    .error ⟨.invalidCircuitBreakerInput, "epistemic_variance must be non-negative (>= 0.0), got %", [.num epistemicVariance]⟩
  else .ok (clip (epistemicVariance / (aleatoricVariance + epistemicVariance)) 0 1)

/-- What `compute_epistemic_entropy` returns. -/
structure EpistemicReading where
  entropy : ℚ
  directionalEntropy : ℚ
  ratio : ℚ
  probabilities : Consensus

/-- `compute_epistemic_entropy`. -/
def computeEpistemicEntropy (predictions weights : List ℚ) (aleatoricVariance epistemicVariance : ℚ) :
    Except Exc EpistemicReading := do
  let probs ← cfg.computeDirectionalConsensus predictions weights
  let hDir ← computeDirectionalEntropy M probs
  let rho ← computeEpistemicRatio aleatoricVariance epistemicVariance
  return { entropy := clip (hDir * M.sqrt rho) 0 1, directionalEntropy := hDir, ratio := rho, probabilities := probs }

/-! ## The shock and the haircut -/

/-- `compute_composite_shock`. -/
def computeCompositeShock (epistemicEntropy epistemicRatio ambiguityBeta : ℚ) : Except Exc ℚ :=
  if ¬ (0 ≤ epistemicEntropy ∧ epistemicEntropy ≤ 1) then
    .error ⟨.invalidCircuitBreakerInput, "epistemic_entropy must be in [0.0, 1.0], got %", [.num epistemicEntropy]⟩
  else if ¬ (0 ≤ epistemicRatio ∧ epistemicRatio ≤ 1) then
    .error ⟨.invalidCircuitBreakerInput, "epistemic_ratio must be in [0.0, 1.0], got %", [.num epistemicRatio]⟩
  else if ambiguityBeta ≤ 0 then
    .error ⟨.invalidCircuitBreakerInput, "ambiguity_beta must be strictly positive (> 0.0), got %", [.num ambiguityBeta]⟩
  else
    let normalizedBeta := clip ((ambiguityBeta - cfg.betaMin) / (cfg.betaMax - cfg.betaMin)) 0 1
    .ok (clip (cfg.weightEntropy * epistemicEntropy + cfg.weightEpistemicRatio * epistemicRatio +
      cfg.weightAmbiguity * normalizedBeta) 0 1)

/-- `_raw_sigmoid`. -/
def rawSigmoid (shock : ℚ) : ℚ :=
  let x := cfg.haircutSteepness * (shock - cfg.haircutMidpoint)
  if 500 < x then 0 else if x < -500 then 1 else 1 / (1 + M.exp x)

/-- `compute_haircut`. The two ends of the sigmoid can be equal in floats, and the division by their difference then raises. -/
def computeHaircut (compositeShock : ℚ) : Except Exc ℚ :=
  if ¬ (0 ≤ compositeShock ∧ compositeShock ≤ 1) then
    .error ⟨.invalidCircuitBreakerInput, "composite_shock must be in [0.0, 1.0], got %", [.num compositeShock]⟩
  else if compositeShock = 0 then .ok 1
  else if compositeShock = 1 then .ok 0
  else
    let kappa1 := cfg.rawSigmoid M 1
    let kappaRange := cfg.rawSigmoid M 0 - kappa1
    if kappaRange = 0 then .error ⟨.zeroDivisionError, "float division by zero", []⟩
    else .ok (clip ((cfg.rawSigmoid M compositeShock - kappa1) / kappaRange) 0 1)

end CircuitBreakerConfig

/-! ## The state and the decision -/

/-- The fields of a state. -/
structure CircuitBreakerStateFields where
  tier : CircuitBreakerTier
  activeBarsInTier : ℕ
  continuousHaircut : ℚ
  epistemicEntropy : ℚ
  directionalEntropy : ℚ
  epistemicRatio : ℚ
  compositeShockScore : ℚ
  directionalProbabilities : Consensus
  stepIndex : ℕ

/-- A state its constructor accepted. -/
structure CircuitBreakerState extends CircuitBreakerStateFields where
  continuousHaircut_mem : 0 ≤ continuousHaircut ∧ continuousHaircut ≤ 1
  epistemicEntropy_mem : 0 ≤ epistemicEntropy ∧ epistemicEntropy ≤ 1
  directionalEntropy_mem : 0 ≤ directionalEntropy ∧ directionalEntropy ≤ 1
  epistemicRatio_mem : 0 ≤ epistemicRatio ∧ epistemicRatio ≤ 1
  compositeShockScore_mem : 0 ≤ compositeShockScore ∧ compositeShockScore ≤ 1
  probabilities_nonneg : 0 ≤ directionalProbabilities.pPos ∧ 0 ≤ directionalProbabilities.pNeg ∧ 0 ≤ directionalProbabilities.pNeu
  probabilities_sum : |directionalProbabilities.total - 1| ≤ simplexTolerance

/-- `CircuitBreakerState.__post_init__`. -/
def CircuitBreakerStateFields.create (f : CircuitBreakerStateFields) : Except Exc CircuitBreakerState :=
  if h1 : ¬ (0 ≤ f.continuousHaircut ∧ f.continuousHaircut ≤ 1) then
    .error ⟨.invalidCircuitBreakerInput, "INV-CB-001: continuous_haircut must be in [0.0, 1.0], got %",
      [.num f.continuousHaircut]⟩
  else if h2 : ¬ (0 ≤ f.epistemicEntropy ∧ f.epistemicEntropy ≤ 1) then
    .error ⟨.invalidCircuitBreakerInput, "epistemic_entropy must be in [0.0, 1.0], got %", [.num f.epistemicEntropy]⟩
  else if h3 : ¬ (0 ≤ f.directionalEntropy ∧ f.directionalEntropy ≤ 1) then
    .error ⟨.invalidCircuitBreakerInput, "directional_entropy must be in [0.0, 1.0], got %", [.num f.directionalEntropy]⟩
  else if h4 : ¬ (0 ≤ f.epistemicRatio ∧ f.epistemicRatio ≤ 1) then
    .error ⟨.invalidCircuitBreakerInput, "epistemic_ratio must be in [0.0, 1.0], got %", [.num f.epistemicRatio]⟩
  else if h5 : ¬ (0 ≤ f.compositeShockScore ∧ f.compositeShockScore ≤ 1) then
    .error ⟨.invalidCircuitBreakerInput, "composite_shock_score must be in [0.0, 1.0], got %", [.num f.compositeShockScore]⟩
  else if h6 : ¬ (0 ≤ f.directionalProbabilities.pPos ∧ 0 ≤ f.directionalProbabilities.pNeg ∧
    0 ≤ f.directionalProbabilities.pNeu) then
    .error ⟨.invalidCircuitBreakerInput, "directional_probabilities components must be non-negative, got [% % %]",
      [.num f.directionalProbabilities.pPos, .num f.directionalProbabilities.pNeg, .num f.directionalProbabilities.pNeu]⟩
  else if h7 : simplexTolerance < |f.directionalProbabilities.total - 1| then
    .error ⟨.invalidCircuitBreakerInput, "directional_probabilities must sum to 1.0 +/- 1e-10, got %",
      [.num f.directionalProbabilities.total]⟩
  else .ok
    { f with
      continuousHaircut_mem := not_not.1 h1
      epistemicEntropy_mem := not_not.1 h2
      directionalEntropy_mem := not_not.1 h3
      epistemicRatio_mem := not_not.1 h4
      compositeShockScore_mem := not_not.1 h5
      probabilities_nonneg := not_not.1 h6
      probabilities_sum := not_lt.1 h7 }

namespace CircuitBreakerConfig

/-- A decision its constructor accepted: the flags are those of the tier. -/
structure CircuitBreakerDecision where
  actionTier : CircuitBreakerTier
  executionHaircut : ℚ
  isHalted : Bool
  isDerisking : Bool
  isThrottled : Bool
  state : CircuitBreakerState
  executionHaircut_mem : 0 ≤ executionHaircut ∧ executionHaircut ≤ 1
  isHalted_eq : isHalted = decide (actionTier = .halt)
  isDerisking_eq : isDerisking = decide (actionTier = .derisk)
  isThrottled_eq : isThrottled = decide (actionTier = .caution)

/-- `CircuitBreakerDecision.from_state`, with the checks of the constructor that its arguments can fail. -/
def CircuitBreakerDecision.fromState (actionTier : CircuitBreakerTier) (executionHaircut : ℚ) (state : CircuitBreakerState) :
    Except Exc CircuitBreakerDecision :=
  if h : ¬ (0 ≤ executionHaircut ∧ executionHaircut ≤ 1) then
    .error ⟨.invalidCircuitBreakerInput, "INV-CB-001: execution_haircut must be in [0.0, 1.0], got %", [.num executionHaircut]⟩
  else .ok
    { actionTier := actionTier
      executionHaircut := executionHaircut
      isHalted := actionTier = .halt
      isDerisking := actionTier = .derisk
      isThrottled := actionTier = .caution
      state := state
      executionHaircut_mem := not_not.1 h
      isHalted_eq := rfl
      isDerisking_eq := rfl
      isThrottled_eq := rfl }

/-! ## The machine -/

variable (M : MathFns) (cfg : CircuitBreakerConfig)

/-- The tier a shock stands for by itself. -/
def candidateTier (cusumShock regimeIsPanic : Bool) (shock : ℚ) : CircuitBreakerTier :=
  if (cusumShock ∧ regimeIsPanic) ∨ cfg.haltThreshold ≤ shock then .halt
  else if cfg.deriskThreshold ≤ shock then .derisk
  else if cfg.cautionThreshold ≤ shock then .caution
  else .normal

/-- The next tier and the bars spent in it. -/
def nextTier (tier : CircuitBreakerTier) (active : ℕ) (candidate : CircuitBreakerTier) (shock : ℚ) : CircuitBreakerTier × ℕ :=
  if tier.value < candidate.value then (candidate, 1)
  else if candidate = tier then (tier, active + 1)
  else if tier.locked then
    if cfg.dwellTimeBars ≤ active ∧ shock < cfg.recoveryThreshold then (tier.down, 1) else (tier, active + 1)
  else if tier = .caution then
    if shock < cfg.recoveryThreshold then (.normal, 1) else (tier, active + 1)
  else (.normal, active + 1)

/-- The haircut a tier leaves of the continuous one. -/
def executionHaircut (tier : CircuitBreakerTier) (continuousHaircut : ℚ) : ℚ :=
  if tier.locked then 0 else if tier = .caution then min (1 / 2) continuousHaircut else continuousHaircut

/-- The arguments of `evaluate` that a bar brings. -/
structure ShockInput where
  predictions : List ℚ
  weights : List ℚ
  aleatoricVariance : ℚ
  epistemicVariance : ℚ
  ambiguityBeta : ℚ
  cusumShock : Bool := false
  regimeIsPanic : Bool := false

/-- `evaluate`: the decision, with the next state in it. -/
def evaluate (x : ShockInput) (s : CircuitBreakerState) : Except Exc CircuitBreakerDecision :=
  if x.ambiguityBeta ≤ 0 then
    .error ⟨.invalidCircuitBreakerInput, "ambiguity_beta must be strictly positive (> 0.0), got %", [.num x.ambiguityBeta]⟩
  else do
    let r ← cfg.computeEpistemicEntropy M x.predictions x.weights x.aleatoricVariance x.epistemicVariance
    let shock ← cfg.computeCompositeShock r.entropy r.ratio x.ambiguityBeta
    let haircut ← cfg.computeHaircut M shock
    let next := cfg.nextTier s.tier s.activeBarsInTier (cfg.candidateTier x.cusumShock x.regimeIsPanic shock) shock
    let s' ← CircuitBreakerStateFields.create
      { tier := next.1
        activeBarsInTier := next.2
        continuousHaircut := haircut
        epistemicEntropy := r.entropy
        directionalEntropy := r.directionalEntropy
        epistemicRatio := r.ratio
        compositeShockScore := shock
        directionalProbabilities := r.probabilities
        stepIndex := s.stepIndex + 1 }
    CircuitBreakerDecision.fromState next.1 (executionHaircut next.1 haircut) s'

/-- The part of an `EnsemblePrediction` that is read. -/
structure EnsemblePrediction where
  modelWeights : List ℚ
  aleatoricVariance : ℚ
  epistemicVariance : ℚ
  regimeProbabilities : List ℚ

/-- `np.argmax`: the first place of the greatest number. -/
def argmax (xs : List ℚ) : ℕ := xs.findIdx (fun x => xs.all (fun y => y ≤ x))

/-- `evaluate_prediction`: regime 2 is panic, unless the caller says what the regime is. -/
def evaluatePrediction (p : EnsemblePrediction) (predictions : List ℚ) (ambiguityBeta : ℚ) (s : CircuitBreakerState)
    (cusumShock : Bool) (regimeIsPanic : Option Bool) : Except Exc CircuitBreakerDecision :=
  cfg.evaluate M
    { predictions := predictions
      weights := p.modelWeights
      aleatoricVariance := p.aleatoricVariance
      epistemicVariance := p.epistemicVariance
      ambiguityBeta := ambiguityBeta
      cusumShock := cusumShock
      regimeIsPanic := regimeIsPanic.getD (argmax p.regimeProbabilities == 2) } s

end CircuitBreakerConfig

/-- `initialize_state`. -/
def CircuitBreakerState.initial : CircuitBreakerState :=
  { tier := .normal
    activeBarsInTier := 0
    continuousHaircut := 1
    epistemicEntropy := 0
    directionalEntropy := 0
    epistemicRatio := 0
    compositeShockScore := 0
    directionalProbabilities := { pPos := 1 / 3, pNeg := 1 / 3, pNeu := 1 / 3 }
    stepIndex := 0
    continuousHaircut_mem := by decide
    epistemicEntropy_mem := by decide
    directionalEntropy_mem := by decide
    epistemicRatio_mem := by decide
    compositeShockScore_mem := by decide
    probabilities_nonneg := by decide +kernel
    probabilities_sum := by decide +kernel }

end Quant
