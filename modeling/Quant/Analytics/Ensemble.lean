import Quant.Analytics.Strategies.Base
import Quant.Pylib.Simplex

/-!
# Dynamic model averaging

`analytics/ensemble.py`: the configuration, the forgetting factor, the loss scorer, the regime prior and posteriors, the
correlation estimator, the mirror descent solver and the engine that drives them, for `K` models and three regimes. Numbers are
exact and finite, and the arrays of a call have the shapes the engine asks for, so the checks of shapes and for `NaN` have no case
here; `K` may be zero where the source checks it.
-/

namespace Quant

open Pylib

/-! ## Exceptions and comparisons -/

inductive EnsembleExcClass where
  | ensembleError
  | degenerateEnsemble
  | invalidPrediction
  | valueError
  deriving DecidableEq, Repr

structure EnsembleExc (α : Type) where
  cls : EnsembleExcClass
  text : String
  args : List (StrategyArg α) := []

section Errors

variable {α : Type}

def ensembleError (text : String) (args : List (StrategyArg α)) : EnsembleExc α := ⟨.ensembleError, text, args⟩

def degenerateEnsemble (text : String) (args : List (StrategyArg α)) : EnsembleExc α := ⟨.degenerateEnsemble, text, args⟩

def invalidPrediction (text : String) (args : List (StrategyArg α)) : EnsembleExc α := ⟨.invalidPrediction, text, args⟩

/-- `np.max` of no numbers. -/
def emptyReduction : EnsembleExc α := ⟨.valueError, "zero-size array to reduction operation maximum which has no identity", []⟩

end Errors

section Vectors

variable {K : ℕ} {α : Type} [Field α] [LinearOrder α]

/-- `math.isclose(a, b, rel_tol=rel_tol, abs_tol=abs_tol)`. -/
def IsClose (relTol absTol a b : α) : Prop := |a - b| ≤ max (relTol * max |a| |b|) absTol

instance (relTol absTol a b : α) : Decidable (IsClose relTol absTol a b) := inferInstanceAs (Decidable (_ ≤ _))

/-- `math.isclose(x, 1.0, abs_tol=1e-10)`, with the relative tolerance at its default. -/
def IsCloseToOne (x : α) : Prop := IsClose (lit (1 / 10 ^ 9)) (lit (1 / 10 ^ 10)) x 1

instance (x : α) : Decidable (IsCloseToOne x) := inferInstanceAs (Decidable (IsClose _ _ _ _))

/-- `np.max`. -/
def npMax (v : Fin K → α) : Except (EnsembleExc α) α :=
  match (List.ofFn v).max? with
  | none => .error emptyReduction
  | some m => .ok m

/-- `np.exp(v - np.max(v))`. -/
def expShifted (M : StrategyMath α) (v : Fin K → α) : Except (EnsembleExc α) (Fin K → α) := do
  let m ← npMax v
  return fun k => M.exp (v k - m)

/-- The regimes, one after the other. -/
def forRegimes {ε β : Type} (f : Fin 3 → Except ε β) : Except ε (Fin 3 → β) := do
  let absorption ← f 0
  let momentum ← f 1
  let panic ← f 2
  return ![absorption, momentum, panic]

/-- The first row that does not sum to one. -/
def unnormalizedRow {n : ℕ} (rows : Fin 3 → Fin n → α) : Option (Fin 3) :=
  (List.finRange 3).find? fun r => ¬ IsCloseToOne (∑ k, rows r k)

/-- `eps_floor`: the floor of a weight, or half an equal share where all floors together are one or more. -/
def epsFloor (K : ℕ) (minWeightFloor : α) : α := if 1 ≤ minWeightFloor * K then lit (1 / 2) / K else minWeightFloor

/-- `(1.0 - float(k_models) * eps_floor) * w + eps_floor`. -/
def laplace (eps : α) (w : Fin K → α) : Fin K → α := fun k => (1 - K * eps) * w k + eps

end Vectors

/-! ## Configuration -/

structure EnsembleConfigFields (α : Type) where
  baseForgettingFactor : α
  volatilitySensitivity : α
  minForgettingFactor : α
  maxForgettingFactor : α
  orthogonalityPenalty : α
  downsidePenalty : α
  turnoverDamping : α
  ridgeShrinkage : α
  ambiguityShrinkageCap : α
  minWeightFloor : α
  temperature : α
  mirrorDescentLr : α
  mirrorDescentMaxIter : ℤ
  mirrorDescentTol : α

section Config

variable {α : Type} [Field α] [LinearOrder α]

/-- A configuration its constructor accepted. -/
structure EnsembleConfig (α : Type) [Field α] [LinearOrder α] extends EnsembleConfigFields α where
  forgetting_lt : minForgettingFactor < maxForgettingFactor
  baseForgettingFactor_mem : lit (80 / 100) < baseForgettingFactor ∧ baseForgettingFactor < lit (999 / 1000)
  minForgettingFactor_mem : lit (1 / 2) < minForgettingFactor ∧ minForgettingFactor < baseForgettingFactor
  maxForgettingFactor_mem : baseForgettingFactor < maxForgettingFactor ∧ maxForgettingFactor < 1
  volatilitySensitivity_nonneg : 0 ≤ volatilitySensitivity
  orthogonalityPenalty_nonneg : 0 ≤ orthogonalityPenalty
  downsidePenalty_nonneg : 0 ≤ downsidePenalty
  turnoverDamping_mem : 0 ≤ turnoverDamping ∧ turnoverDamping < 1
  ridgeShrinkage_mem : 0 < ridgeShrinkage ∧ ridgeShrinkage < 1
  ambiguityShrinkageCap_mem : 0 ≤ ambiguityShrinkageCap ∧ ambiguityShrinkageCap ≤ 1
  minWeightFloor_pos : 0 < minWeightFloor
  temperature_pos : 0 < temperature
  mirrorDescentLr_pos : 0 < mirrorDescentLr
  mirrorDescentMaxIter_pos : 1 ≤ mirrorDescentMaxIter
  mirrorDescentTol_pos : 0 < mirrorDescentTol

/-- The defaults. -/
def EnsembleConfigFields.default : EnsembleConfigFields α where
  baseForgettingFactor := lit (96 / 100)
  volatilitySensitivity := lit (50 / 100)
  minForgettingFactor := lit (85 / 100)
  maxForgettingFactor := lit (99 / 100)
  orthogonalityPenalty := lit (25 / 100)
  downsidePenalty := lit (250 / 100)
  turnoverDamping := lit (15 / 100)
  ridgeShrinkage := lit (5 / 100)
  ambiguityShrinkageCap := lit (50 / 100)
  minWeightFloor := lit (1 / 10 ^ 5)
  temperature := lit 1
  mirrorDescentLr := lit (50 / 100)
  mirrorDescentMaxIter := 10
  mirrorDescentTol := lit (1 / 10 ^ 6)

/-- `EnsembleConfig.__post_init__`. -/
def EnsembleConfigFields.create (f : EnsembleConfigFields α) : Except (EnsembleExc α) (EnsembleConfig α) :=
  if h1 : f.maxForgettingFactor ≤ f.minForgettingFactor then
    .error (ensembleError "min_forgetting_factor (%) must be strictly less than max_forgetting_factor (%)"
      [.num f.minForgettingFactor, .num f.maxForgettingFactor])
  else if h2 : ¬ (lit (80 / 100) < f.baseForgettingFactor ∧ f.baseForgettingFactor < lit (999 / 1000)) then
    .error (ensembleError "base_forgetting_factor must be in (0.80, 0.999), got %" [.num f.baseForgettingFactor])
  else if h3 : ¬ (lit (1 / 2) < f.minForgettingFactor ∧ f.minForgettingFactor < f.baseForgettingFactor) then
    .error (ensembleError "min_forgetting_factor must be in (0.50, base_forgetting_factor), got min=%, base=%"
      [.num f.minForgettingFactor, .num f.baseForgettingFactor])
  else if h4 : ¬ (f.baseForgettingFactor < f.maxForgettingFactor ∧ f.maxForgettingFactor < 1) then
    .error (ensembleError "max_forgetting_factor must be in (base_forgetting_factor, 1.0), got max=%, base=%"
      [.num f.maxForgettingFactor, .num f.baseForgettingFactor])
  else if h5 : f.volatilitySensitivity < 0 then
    .error (ensembleError "volatility_sensitivity must be >= 0.0, got %" [.num f.volatilitySensitivity])
  else if h6 : f.orthogonalityPenalty < 0 then
    .error (ensembleError "orthogonality_penalty must be >= 0.0, got %" [.num f.orthogonalityPenalty])
  else if h7 : f.downsidePenalty < 0 then .error (ensembleError "downside_penalty must be >= 0.0, got %" [.num f.downsidePenalty])
  else if h8 : ¬ (0 ≤ f.turnoverDamping ∧ f.turnoverDamping < 1) then
    .error (ensembleError "turnover_damping must be in [0.0, 1.0), got %" [.num f.turnoverDamping])
  else if h9 : ¬ (0 < f.ridgeShrinkage ∧ f.ridgeShrinkage < 1) then
    .error (ensembleError "ridge_shrinkage must be in (0.0, 1.0), got %" [.num f.ridgeShrinkage])
  else if h10 : ¬ (0 ≤ f.ambiguityShrinkageCap ∧ f.ambiguityShrinkageCap ≤ 1) then
    .error (ensembleError "ambiguity_shrinkage_cap must be in [0.0, 1.0], got %" [.num f.ambiguityShrinkageCap])
  else if h11 : f.minWeightFloor ≤ 0 then .error (ensembleError "min_weight_floor must be > 0.0, got %" [.num f.minWeightFloor])
  else if h12 : f.temperature ≤ 0 then .error (ensembleError "temperature must be > 0.0, got %" [.num f.temperature])
  else if h13 : f.mirrorDescentLr ≤ 0 then .error (ensembleError "mirror_descent_lr must be > 0.0, got %"
    [.num f.mirrorDescentLr])
  else if h14 : f.mirrorDescentMaxIter < 1 then
    .error (ensembleError "mirror_descent_max_iter must be >= 1, got %" [.int f.mirrorDescentMaxIter])
  else if h15 : f.mirrorDescentTol ≤ 0 then .error (ensembleError "mirror_descent_tol must be > 0.0, got %"
    [.num f.mirrorDescentTol])
  else .ok
    { f with
      forgetting_lt := not_le.1 h1
      baseForgettingFactor_mem := not_not.1 h2
      minForgettingFactor_mem := not_not.1 h3
      maxForgettingFactor_mem := not_not.1 h4
      volatilitySensitivity_nonneg := not_lt.1 h5
      orthogonalityPenalty_nonneg := not_lt.1 h6
      downsidePenalty_nonneg := not_lt.1 h7
      turnoverDamping_mem := not_not.1 h8
      ridgeShrinkage_mem := not_not.1 h9
      ambiguityShrinkageCap_mem := not_not.1 h10
      minWeightFloor_pos := not_le.1 h11
      temperature_pos := not_le.1 h12
      mirrorDescentLr_pos := not_le.1 h13
      mirrorDescentMaxIter_pos := not_lt.1 h14
      mirrorDescentTol_pos := not_le.1 h15 }

end Config

/-! ## States and predictions -/

structure EnsembleStateFields (K : ℕ) (α : Type) where
  stepIndex : ℤ
  weights : Fin K → α
  regimeConditionalPosteriors : Fin 3 → Fin K → α
  cumulativeLosses : Fin K → α
  effectiveModels : α
  meanRealizedVolatility : α
  lastAmbiguityTemperature : α

structure EnsemblePredictionFields (K : ℕ) (α : Type) where
  pointPrediction : α
  aleatoricVariance : α
  epistemicVariance : α
  totalVariance : α
  modelWeights : Fin K → α
  regimeProbabilities : Fin 3 → α
  effectiveModels : α
  volatilityForgettingFactor : α
  ambiguityShrinkageWeight : α

section States

variable {K : ℕ} {α : Type} [Field α] [LinearOrder α]

/-- The number of models the weights stand for, within the tolerance of the two constructors. -/
def EffectiveIn (K : ℕ) (x : α) : Prop := 1 - lit (1 / 10 ^ 6) ≤ x ∧ x ≤ K + lit (1 / 10 ^ 6)

instance (x : α) : Decidable (EffectiveIn K x) := inferInstanceAs (Decidable (_ ∧ _))

/-- A state its constructor accepted. -/
structure EnsembleState (K : ℕ) (α : Type) [Field α] [LinearOrder α] extends EnsembleStateFields K α where
  stepIndex_nonneg : 0 ≤ stepIndex
  models_pos : 1 ≤ K
  weights_pos : ∀ k, 0 < weights k
  weights_sum : IsCloseToOne (∑ k, weights k)
  posteriors_nonneg : ∀ r k, 0 ≤ regimeConditionalPosteriors r k
  posteriors_sum : ∀ r, IsCloseToOne (∑ k, regimeConditionalPosteriors r k)
  effectiveModels_mem : EffectiveIn K effectiveModels
  meanRealizedVolatility_pos : 0 < meanRealizedVolatility
  lastAmbiguityTemperature_pos : 0 < lastAmbiguityTemperature

theorem unnormalizedRow_eq_none {n : ℕ} {rows : Fin 3 → Fin n → α} :
    unnormalizedRow rows = none ↔ ∀ r, IsCloseToOne (∑ k, rows r k) := by
  simp [unnormalizedRow, List.find?_eq_none]

/-- `EnsembleState.__post_init__`. -/
def EnsembleStateFields.create (f : EnsembleStateFields K α) : Except (EnsembleExc α) (EnsembleState K α) :=
  if h1 : f.stepIndex < 0 then .error (ensembleError "step_index must be >= 0, got %" [.int f.stepIndex])
  else if h2 : K < 1 then .error (ensembleError "weights must contain at least 1 model" [])
  else if h3 : ∃ k, f.weights k ≤ 0 then .error (ensembleError "INV-ENS-001 violation: weights must be strictly positive" [])
  else if h4 : ¬ IsCloseToOne (∑ k, f.weights k) then
    .error (ensembleError "INV-ENS-001 violation: weights sum to %, expected 1.0 +/- 1e-10" [.num (∑ k, f.weights k)])
  else if h5 : ∃ r k, f.regimeConditionalPosteriors r k < 0 then
    .error (ensembleError "regime_conditional_posteriors elements must be non-negative" [])
  else
    match h6 : unnormalizedRow f.regimeConditionalPosteriors with
    | some r =>
      .error (ensembleError "regime_conditional_posteriors row % must sum to 1.0 +/- 1e-10, got %"
        [.int r, .num (∑ k, f.regimeConditionalPosteriors r k)])
    | none =>
      if h7 : ¬ EffectiveIn K f.effectiveModels then
        .error (ensembleError "effective_models must be in [1.0, %], got %" [.int K, .num f.effectiveModels])
      else if h8 : f.meanRealizedVolatility ≤ 0 then
        .error (ensembleError "mean_realized_volatility must be > 0.0, got %" [.num f.meanRealizedVolatility])
      else if h9 : f.lastAmbiguityTemperature ≤ 0 then
        .error (ensembleError "last_ambiguity_temperature must be > 0.0, got %" [.num f.lastAmbiguityTemperature])
      else .ok
        { f with
          stepIndex_nonneg := not_lt.1 h1
          models_pos := not_lt.1 h2
          weights_pos := fun k => not_le.1 fun hk => h3 ⟨k, hk⟩
          weights_sum := not_not.1 h4
          posteriors_nonneg := fun r k => not_lt.1 fun hk => h5 ⟨r, k, hk⟩
          posteriors_sum := unnormalizedRow_eq_none.1 h6
          effectiveModels_mem := not_not.1 h7
          meanRealizedVolatility_pos := not_le.1 h8
          lastAmbiguityTemperature_pos := not_le.1 h9 }

/-- A prediction its constructor accepted. -/
structure EnsembleEmission (K : ℕ) (α : Type) [Field α] [LinearOrder α] extends EnsemblePredictionFields K α where
  aleatoricVariance_pos : 0 < aleatoricVariance
  epistemicVariance_nonneg : 0 ≤ epistemicVariance
  totalVariance_close : IsClose (lit (1 / 10 ^ 7)) (lit (1 / 10 ^ 10)) totalVariance (aleatoricVariance + epistemicVariance)
  models_pos : 1 ≤ K
  modelWeights_pos : ∀ k, 0 < modelWeights k
  modelWeights_sum : IsCloseToOne (∑ k, modelWeights k)
  regimeProbabilities_nonneg : ∀ r, 0 ≤ regimeProbabilities r
  regimeProbabilities_sum : IsCloseToOne (∑ r, regimeProbabilities r)
  effectiveModels_mem : EffectiveIn K effectiveModels
  volatilityForgettingFactor_mem : 0 < volatilityForgettingFactor ∧ volatilityForgettingFactor < 1
  ambiguityShrinkageWeight_mem : 0 ≤ ambiguityShrinkageWeight ∧ ambiguityShrinkageWeight ≤ 1

/-- `EnsemblePrediction.__post_init__`. -/
def EnsemblePredictionFields.create (f : EnsemblePredictionFields K α) : Except (EnsembleExc α) (EnsembleEmission K α) :=
  if h1 : f.aleatoricVariance ≤ 0 then
    .error (degenerateEnsemble "INV-ENS-002 violation: aleatoric_variance must be > 0.0, got %" [.num f.aleatoricVariance])
  else if h2 : f.epistemicVariance < 0 then
    .error (degenerateEnsemble "INV-ENS-002 violation: epistemic_variance must be >= 0.0, got %" [.num f.epistemicVariance])
  else if h3 : ¬ IsClose (lit (1 / 10 ^ 7)) (lit (1 / 10 ^ 10)) f.totalVariance (f.aleatoricVariance + f.epistemicVariance) then
    .error (degenerateEnsemble "INV-ENS-002 violation: total_variance (%) != aleatoric (%) + epistemic (%)"
      [.num f.totalVariance, .num f.aleatoricVariance, .num f.epistemicVariance])
  else if h4 : K < 1 then .error (degenerateEnsemble "model_weights must have length >= 1" [])
  else if h5 : ∃ k, f.modelWeights k ≤ 0 then
    .error (degenerateEnsemble "INV-ENS-001 violation: model_weights must be strictly positive" [])
  else if h6 : ¬ IsCloseToOne (∑ k, f.modelWeights k) then
    .error (degenerateEnsemble "INV-ENS-001 violation: model_weights sum to %, expected 1.0 +/- 1e-10"
      [.num (∑ k, f.modelWeights k)])
  else if h7 : ∃ r, f.regimeProbabilities r < 0 then
    .error (degenerateEnsemble "regime_probabilities elements must be non-negative" [])
  else if h8 : ¬ IsCloseToOne (∑ r, f.regimeProbabilities r) then
    .error (degenerateEnsemble "regime_probabilities sum to %, expected 1.0 +/- 1e-10" [.num (∑ r, f.regimeProbabilities r)])
  else if h9 : ¬ EffectiveIn K f.effectiveModels then
    .error (degenerateEnsemble "effective_models must be in [1.0, %], got %" [.int K, .num f.effectiveModels])
  else if h10 : ¬ (0 < f.volatilityForgettingFactor ∧ f.volatilityForgettingFactor < 1) then
    .error (degenerateEnsemble "volatility_forgetting_factor must be in (0.0, 1.0), got %" [.num f.volatilityForgettingFactor])
  else if h11 : ¬ (0 ≤ f.ambiguityShrinkageWeight ∧ f.ambiguityShrinkageWeight ≤ 1) then
    .error (degenerateEnsemble "ambiguity_shrinkage_weight must be in [0.0, 1.0], got %" [.num f.ambiguityShrinkageWeight])
  else .ok
    { f with
      aleatoricVariance_pos := not_le.1 h1
      epistemicVariance_nonneg := not_lt.1 h2
      totalVariance_close := not_not.1 h3
      models_pos := not_lt.1 h4
      modelWeights_pos := fun k => not_le.1 fun hk => h5 ⟨k, hk⟩
      modelWeights_sum := not_not.1 h6
      regimeProbabilities_nonneg := fun r => not_lt.1 fun hr => h7 ⟨r, hr⟩
      regimeProbabilities_sum := not_not.1 h8
      effectiveModels_mem := not_not.1 h9
      volatilityForgettingFactor_mem := not_not.1 h10
      ambiguityShrinkageWeight_mem := not_not.1 h11 }

end States

/-! ## Forgetting -/

section Forgetting

variable {α : Type} [Field α] [LinearOrder α]

/-- A tracker its constructor accepted. -/
structure VolatilityAdaptiveForgetting (α : Type) [Field α] [LinearOrder α] where
  config : EnsembleConfig α
  meanRealizedVol : α
  smoothing : α
  meanRealizedVol_pos : 0 < meanRealizedVol
  smoothing_mem : 0 < smoothing ∧ smoothing ≤ 1

namespace VolatilityAdaptiveForgetting

/-- `VolatilityAdaptiveForgetting.__init__`. -/
def create (config : EnsembleConfig α) (initialMeanVol volSmoothing : α) :
    Except (EnsembleExc α) (VolatilityAdaptiveForgetting α) :=
  if h1 : initialMeanVol ≤ 0 then .error (ensembleError "initial_mean_vol must be > 0.0, got %" [.num initialMeanVol])
  else if h2 : ¬ (0 < volSmoothing ∧ volSmoothing ≤ 1) then
    .error (ensembleError "vol_smoothing must be in (0, 1], got %" [.num volSmoothing])
  else .ok ⟨config, initialMeanVol, volSmoothing, not_le.1 h1, not_not.1 h2⟩

/-- `compute_alpha`: the factor, and the baseline after it. -/
def computeAlpha (self : VolatilityAdaptiveForgetting α) (realizedVol : α) : Except (EnsembleExc α) (α × α) :=
  if realizedVol ≤ 0 then .error (ensembleError "realized_vol must be > 0.0, got %" [.num realizedVol])
  else
    let deltaSigma := (realizedVol - self.meanRealizedVol) / self.meanRealizedVol
    let rawAlpha := self.config.baseForgettingFactor - self.config.volatilitySensitivity * deltaSigma
    .ok (clip rawAlpha self.config.minForgettingFactor self.config.maxForgettingFactor,
      (1 - self.smoothing) * self.meanRealizedVol + self.smoothing * realizedVol)

end VolatilityAdaptiveForgetting

end Forgetting

/-! ## Losses -/

section Losses

variable {K : ℕ} {α : Type} [Field α] [LinearOrder α]

/-- `scaled_predictions`. -/
def scaledPredictions (M : StrategyMath α) (predictions : Fin K → α) (forecastHorizons : Option (Fin K → α)) : Fin K → α :=
  match forecastHorizons with
  | some horizons => fun k => predictions k / M.sqrt (horizons k)
  | none => predictions

/-- The loss of one model. -/
def asymmetricLoss (downsidePenalty realizedReturn scaledPrediction : α) : α :=
  max 0 ((realizedReturn - scaledPrediction) ^ 2 + downsidePenalty * max 0 (-realizedReturn * scaledPrediction))

/-- `AsymmetricDownsideLossScorer.compute_losses`. -/
def computeLosses (M : StrategyMath α) (downsidePenalty : α) (predictions : Fin K → α) (realizedReturn : α)
    (forecastHorizons : Option (Fin K → α)) : Except (EnsembleExc α) (Fin K → α) :=
  if K < 1 then .error (invalidPrediction "predictions must contain at least 1 model prediction" [])
  else if ∃ horizons ∈ forecastHorizons, ∃ k, horizons k < 1 then
    .error (invalidPrediction "forecast_horizons elements must be >= 1.0" [])
  else .ok fun k => asymmetricLoss downsidePenalty realizedReturn (scaledPredictions M predictions forecastHorizons k)

end Losses

/-! ## Regimes -/

section Regimes

variable {K : ℕ} {α : Type} [Field α] [LinearOrder α]

/-- `predict_forward_regime_prior`. -/
def predictForwardRegimePrior (currentRegimeProbs : Fin 3 → α) (transitionMatrix : Fin 3 → Fin 3 → α) :
    Except (EnsembleExc α) (Fin 3 → α) :=
  if ∃ r, currentRegimeProbs r < 0 then .error (invalidPrediction "current_regime_probs elements must be non-negative" [])
  else if ¬ IsCloseToOne (∑ r, currentRegimeProbs r) then
    .error (invalidPrediction "current_regime_probs must sum to 1.0 +/- 1e-10, got %" [.num (∑ r, currentRegimeProbs r)])
  else if ∃ i j, transitionMatrix i j < 0 then .error (invalidPrediction "transition_matrix elements must be non-negative" [])
  else
    match unnormalizedRow transitionMatrix with
    | some r =>
      .error (invalidPrediction "transition_matrix row % must sum to 1.0 +/- 1e-10, got %"
        [.int r, .num (∑ j, transitionMatrix r j)])
    | none =>
      let forwardP : Fin 3 → α := fun j => clip (∑ i, transitionMatrix i j * currentRegimeProbs i) 0 1
      if ∑ j, forwardP j ≤ 0 then
        .error (degenerateEnsemble "Forward regime probabilities sum collapsed to zero or non-finite" [])
      else .ok (npNormalize forwardP)

/-- A row of `updated_posteriors`: tempered with the largest logarithm taken off, and normalised twice. -/
def temperedRow (M : StrategyMath α) (alphaT : α) (row : Fin K → α) (r : Fin 3) : Except (EnsembleExc α) (Fin K → α) := do
  let expShift ← expShifted M fun k => alphaT * M.log (row k + lit (1 / 10 ^ 30))
  let updated := npNormalize expShift
  if ∑ k, updated k ≤ 0 then .error (degenerateEnsemble "updated_posteriors row % collapsed" [.int r])
  else .ok (npNormalize updated)

/-- `update_regime_posteriors`: the tempered rows and the composite prior. -/
def updateRegimePosteriors (M : StrategyMath α) (posteriors : Fin 3 → Fin K → α) (alphaT : α) (forwardRegimeProbs : Fin 3 → α)
    (alphaMin alphaMax : α) : Except (EnsembleExc α) ((Fin 3 → Fin K → α) × (Fin K → α)) :=
  if K < 1 then .error (invalidPrediction "posteriors must have shape (3, K) with K >= 1, got (3, %)" [.int K])
  else if ∃ r k, posteriors r k < 0 then .error (invalidPrediction "posteriors elements must be non-negative" [])
  else
    match unnormalizedRow posteriors with
    | some r =>
      .error (invalidPrediction "posteriors row % must sum to 1.0 +/- 1e-10, got %" [.int r, .num (∑ k, posteriors r k)])
    | none =>
      if ¬ ((alphaMin ≤ alphaT ∧ alphaT ≤ alphaMax) ∧ 0 < alphaT ∧ alphaT < 1) then
        .error (degenerateEnsemble "alpha_t must be in [%, %] and (0, 1), got %" [.num alphaMin, .num alphaMax, .num alphaT])
      else if ∃ r, forwardRegimeProbs r < 0 then
        .error (invalidPrediction "forward_regime_probs elements must be non-negative" [])
      else if ¬ IsCloseToOne (∑ r, forwardRegimeProbs r) then
        .error (invalidPrediction "forward_regime_probs must sum to 1.0 +/- 1e-10, got %" [.num (∑ r, forwardRegimeProbs r)])
      else do
        let updatedPosteriors ← forRegimes fun r => temperedRow M alphaT (posteriors r) r
        let compositePrior : Fin K → α := fun k => clip (∑ r, forwardRegimeProbs r * updatedPosteriors r k) 0 1
        if ∑ k, compositePrior k ≤ 0 then
          .error (degenerateEnsemble "composite_prior collapsed to non-finite or non-positive sum" [])
        else .ok (updatedPosteriors, npNormalize compositePrior)

end Regimes

/-! ## Correlations -/

section Correlations

variable {N K : ℕ} {α : Type} [Field α] [LinearOrder α]

/-- `np.fill_diagonal(c, 1.0)`. -/
def fillDiagonal (c : Matrix (Fin K) (Fin K) α) : Matrix (Fin K) (Fin K) α := fun i j => if i = j then 1 else c i j

/-- `0.5 * (c + c.T)`. -/
def symmetrized (c : Matrix (Fin K) (Fin K) α) : Matrix (Fin K) (Fin K) α := fun i j => lit (1 / 2) * (c i j + c j i)

/-- `np.clip(c, -1.0, 1.0)`. -/
def clippedEntries (c : Matrix (Fin K) (Fin K) α) : Matrix (Fin K) (Fin K) α := fun i j => clip (c i j) (-1) 1

/-- The ridge and what follows it. -/
def ridged (delta : α) (c : Matrix (Fin K) (Fin K) α) : Matrix (Fin K) (Fin K) α :=
  symmetrized (fillDiagonal fun i j => (1 - delta) * c i j + delta * if i = j then 1 else 0)

/-- `c_sym` of `regularize_correlation_matrix`. -/
def symmetricPart (c : Matrix (Fin K) (Fin K) α) : Matrix (Fin K) (Fin K) α := fillDiagonal (clippedEntries (symmetrized c))

/-- An estimator its constructor accepted. -/
structure TikhonovCorrelationEstimator (α : Type) [Field α] [LinearOrder α] where
  ridgeShrinkage : α
  minStdDev : α
  ridgeShrinkage_mem : 0 < ridgeShrinkage ∧ ridgeShrinkage < 1
  minStdDev_pos : 0 < minStdDev

namespace TikhonovCorrelationEstimator

/-- `TikhonovCorrelationEstimator.__init__`. -/
def create (ridgeShrinkage minStdDev : α) : Except (EnsembleExc α) (TikhonovCorrelationEstimator α) :=
  if h1 : ¬ (0 < ridgeShrinkage ∧ ridgeShrinkage < 1) then
    .error (ensembleError "ridge_shrinkage must be in (0.0, 1.0), got %" [.num ridgeShrinkage])
  else if h2 : minStdDev ≤ 0 then .error (ensembleError "min_std_dev must be > 0.0, got %" [.num minStdDev])
  else .ok ⟨ridgeShrinkage, minStdDev, not_not.1 h1, not_le.1 h2⟩

variable (self : TikhonovCorrelationEstimator α)

/-- `regularize_correlation_matrix`. -/
def regularizeCorrelationMatrix (c : Matrix (Fin K) (Fin K) α) : Except (EnsembleExc α) (Matrix (Fin K) (Fin K) α) :=
  if K < 1 then .error (invalidPrediction "correlation_matrix must be square (K, K), got (%, %)" [.int K, .int K])
  else .ok (ridged self.ridgeShrinkage (symmetricPart c))

variable (M : StrategyMath α) (predictions : Fin N → Fin K → α)

/-- `centered`. -/
def centered (k : Fin K) (t : Fin N) : α := predictions t k - (∑ s, predictions s k) / N

/-- `stds < self._min_std_dev`. -/
def isFlatline (k : Fin K) : Prop := M.sqrt ((∑ t, centered predictions k t ^ 2) / N) < self.minStdDev

instance (k : Fin K) : Decidable (self.isFlatline M predictions k) := inferInstanceAs (Decidable (_ < _))

/-- A column of `z`. -/
def unitColumn (k : Fin K) (t : Fin N) : α :=
  if self.isFlatline M predictions k then 0
  else
    let colNorm := M.sqrt (∑ s, centered predictions k s ^ 2)
    if self.minStdDev ≤ colNorm then centered predictions k t / colNorm else 0

/-- A flatline model is uncorrelated with the others. -/
def isolate (c : Matrix (Fin K) (Fin K) α) (k : Fin K) : Matrix (Fin K) (Fin K) α :=
  fun i j => if i = k ∧ j = k then 1 else if i = k ∨ j = k then 0 else c i j

/-- `c_emp` after the loop over the flatline models. -/
def empirical : Matrix (Fin K) (Fin K) α :=
  (List.finRange K).foldl (fun c k => if self.isFlatline M predictions k then isolate c k else c)
    fun i j => ∑ t, self.unitColumn M predictions i t * self.unitColumn M predictions j t

/-- `compute_correlation_matrix`. -/
def computeCorrelationMatrix : Except (EnsembleExc α) (Matrix (Fin K) (Fin K) α) :=
  if N < 1 ∨ K < 1 then
    .error (invalidPrediction "predictions must have shape (N, K) with N >= 1, K >= 1, got (%, %)" [.int N, .int K])
  else if N = 1 then .ok 1
  else if ∀ k, self.isFlatline M predictions k then .ok 1
  else .ok (ridged self.ridgeShrinkage (symmetrized (fillDiagonal (clippedEntries (self.empirical M predictions)))))

end TikhonovCorrelationEstimator

end Correlations

/-! ## Mirror descent -/

section Solver

variable {K : ℕ} {α : Type} [Field α] [LinearOrder α]

/-- A solver its constructor accepted. -/
structure OrthogonalityRegularizedSolver (α : Type) [Field α] [LinearOrder α] where
  orthogonalityPenalty : α
  temperature : α
  learningRate : α
  maxIter : ℤ
  tol : α
  minWeightFloor : α
  orthogonalityPenalty_nonneg : 0 ≤ orthogonalityPenalty
  temperature_pos : 0 < temperature
  learningRate_pos : 0 < learningRate
  maxIter_pos : 1 ≤ maxIter
  tol_pos : 0 < tol
  minWeightFloor_pos : 0 < minWeightFloor

/-- `OrthogonalityRegularizedSolver(config=config)`. -/
def EnsembleConfig.solver (config : EnsembleConfig α) : OrthogonalityRegularizedSolver α where
  orthogonalityPenalty := config.orthogonalityPenalty
  temperature := config.temperature
  learningRate := config.mirrorDescentLr
  maxIter := config.mirrorDescentMaxIter
  tol := config.mirrorDescentTol
  minWeightFloor := config.minWeightFloor
  orthogonalityPenalty_nonneg := config.orthogonalityPenalty_nonneg
  temperature_pos := config.temperature_pos
  learningRate_pos := config.mirrorDescentLr_pos
  maxIter_pos := config.mirrorDescentMaxIter_pos
  tol_pos := config.mirrorDescentTol_pos
  minWeightFloor_pos := config.minWeightFloor_pos

namespace OrthogonalityRegularizedSolver

variable (M : StrategyMath α) (self : OrthogonalityRegularizedSolver α) (scores : Fin K → α) (c : Matrix (Fin K) (Fin K) α)

def stepFactor : α := self.learningRate / self.temperature

/-- The scaled mirror gradient. -/
def mirrorGradient (w : Fin K → α) : Fin K → α :=
  let scaledScores : Fin K → α := fun k => -self.stepFactor * scores k
  if 0 < self.orthogonalityPenalty then
    fun k => (∑ j, -self.stepFactor * self.orthogonalityPenalty * c k j * w j) + scaledScores k
  else scaledScores

/-- The mirror step. -/
def mirrorStep (w : Fin K → α) : Except (EnsembleExc α) (Fin K → α) := do
  let e ← expShifted M (self.mirrorGradient scores c w)
  let v : Fin K → α := fun k => e k * w k
  if ∑ k, v k ≤ 0 then .error (degenerateEnsemble "Mirror descent step collapsed to non-finite or non-positive denominator" [])
  else .ok (npNormalize v)

/-- The loop, of at most so many steps. -/
def mirrorLoop : ℕ → (Fin K → α) → Except (EnsembleExc α) (Fin K → α)
  | 0, w => .ok w
  | fuel + 1, w => do
    let v ← self.mirrorStep M scores c w
    let diff ← npMax fun k => |v k - w k|
    if diff < self.tol then .ok v else mirrorLoop fuel v

/-- The weights the loop starts with. -/
def warmStart (currentWeights : Option (Fin K → α)) : Except (EnsembleExc α) (Fin K → α) :=
  match currentWeights with
  | none => .ok fun _ => 1 / K
  | some current =>
    if ∃ k, current k < 0 then .error (invalidPrediction "current_weights elements must be non-negative" [])
    else if ∑ k, current k ≤ 0 then .error (invalidPrediction "current_weights sum must be strictly positive" [])
    else .ok (npNormalize fun k => max (npNormalize current k) (lit (1 / 10 ^ 30)))

/-- `solve`. -/
def solve (currentWeights : Option (Fin K → α)) : Except (EnsembleExc α) (Fin K → α) :=
  if K < 1 then .error (invalidPrediction "scores must contain at least 1 model score" [])
  else do
    let w ← warmStart currentWeights
    let w ← self.mirrorLoop M scores c self.maxIter.toNat w
    let lifted := laplace (epsFloor K self.minWeightFloor) w
    if ∑ k, lifted k ≤ 0 then .error (degenerateEnsemble "Laplace smoothing produced invalid sum" [])
    else
      let w := npNormalize lifted
      if ∃ k, w k ≤ 0 then .error (degenerateEnsemble "INV-ENS-001 violation: weights must be strictly positive" [])
      else if ¬ IsCloseToOne (∑ k, w k) then
        .error (degenerateEnsemble "INV-ENS-001 violation: weights sum to %, expected 1.0 +/- 1e-10" [.num (∑ k, w k)])
      else .ok w

end OrthogonalityRegularizedSolver

end Solver

/-! ## The engine -/

/-- The arguments of one update. -/
structure EnsembleInput (K : ℕ) (α : Type) where
  predictions : Fin K → α
  variances : Fin K → α
  realizedReturn : α
  realizedVol : α
  regimeProbs : Fin 3 → α
  transitionMatrix : Fin 3 → Fin 3 → α
  ambiguityBeta : α
  correlationMatrix : Option (Matrix (Fin K) (Fin K) α) := none
  forecastHorizons : Option (Fin K → α) := none
  betaMin : Option α := none
  betaMax : Option α := none

section Engine

variable {K : ℕ} {α : Type} [Field α] [LinearOrder α]

/-- An engine its constructor accepted. Its tracker takes its baseline from the state of each call. -/
structure RegimeConditionedDMAEngine (α : Type) [Field α] [LinearOrder α] where
  config : EnsembleConfig α
  betaMin : α
  betaMax : α
  vaf : VolatilityAdaptiveForgetting α
  estimator : TikhonovCorrelationEstimator α
  betaMin_pos : 0 < betaMin
  betaMax_gt : betaMin < betaMax
  vaf_config : vaf.config = config

namespace RegimeConditionedDMAEngine

/-- `RegimeConditionedDMAEngine.__init__`. -/
def create (config : EnsembleConfig α) (betaMin betaMax : α) : Except (EnsembleExc α) (RegimeConditionedDMAEngine α) :=
  if h1 : betaMin ≤ 0 then .error (ensembleError "beta_min must be > 0.0, got %" [.num betaMin])
  else if h2 : betaMax ≤ betaMin then .error (ensembleError "beta_max (%) must be > beta_min (%)" [.num betaMax, .num betaMin])
  else
    match VolatilityAdaptiveForgetting.create config (lit (1 / 100)) (lit (10 / 100)),
      TikhonovCorrelationEstimator.create config.ridgeShrinkage (lit (1 / 10 ^ 8)) with
    | .ok vaf, .ok estimator => .ok ⟨config, betaMin, betaMax, { vaf with config }, estimator, not_le.1 h1, not_le.1 h2, rfl⟩
    | .error exc, _ => .error exc
    | _, .error exc => .error exc

variable (M : StrategyMath α) (self : RegimeConditionedDMAEngine α)

/-- The weights of a softmax warm start. -/
def softmaxStart (initialDsr : Fin K → α) : Except (EnsembleExc α) (Fin K → α) := do
  let expDsr ← expShifted M initialDsr
  return npNormalize (laplace (epsFloor K self.config.minWeightFloor) (npNormalize expDsr))

def startingWeights (initialDsr : Option (Fin K → α)) : Except (EnsembleExc α) (Fin K → α) :=
  match initialDsr with
  | some dsr => self.softmaxStart M dsr
  | none => .ok fun _ => 1 / K

/-- `initialize_state`. -/
def initializeState (K : ℕ) (initialDsr : Option (Fin K → α)) (initialVol : α) : Except (EnsembleExc α) (EnsembleState K α) :=
  if K < 1 then .error (ensembleError "n_models must be an integer >= 1, got %" [.int K])
  else if initialVol ≤ 0 then .error (ensembleError "initial_vol must be > 0.0, got %" [.num initialVol])
  else do
    let initWeights ← self.startingWeights M initialDsr
    let initWeights := npNormalize initWeights
    EnsembleStateFields.create
      { stepIndex := 0
        weights := initWeights
        regimeConditionalPosteriors := fun _ => initWeights
        cumulativeLosses := fun _ => 0
        effectiveModels := 1 / ∑ k, initWeights k ^ 2
        meanRealizedVolatility := initialVol
        lastAmbiguityTemperature := 1 }

/-- `beta_norm`. -/
def betaNorm (x : EnsembleInput K α) : α :=
  let bMin := x.betaMin.getD self.betaMin
  let bMax := x.betaMax.getD self.betaMax
  if bMin < bMax then clip ((x.ambiguityBeta - bMin) / (bMax - bMin)) 0 1
  else if bMax ≤ x.ambiguityBeta then 1
  else 0

/-- `lambda_beta`. -/
def lambdaBeta (x : EnsembleInput K α) : α := self.betaNorm x * self.config.ambiguityShrinkageCap

/-- `c_reg`. -/
def cReg (x : EnsembleInput K α) : Except (EnsembleExc α) (Matrix (Fin K) (Fin K) α) :=
  match x.correlationMatrix with
  | none => .ok 1
  | some c => self.estimator.regularizeCorrelationMatrix c

/-- Steps 7 and 8: the optimum is shrunk to equal weights, damped with the weights before, and floored. -/
def finalWeights (lambdaBeta : α) (wStar weights : Fin K → α) : Fin K → α :=
  let wShrunk := npNormalize (mix lambdaBeta wStar fun _ => 1 / K)
  let wFinal := npNormalize (mix self.config.turnoverDamping wShrunk weights)
  npNormalize (laplace (epsFloor K self.config.minWeightFloor) wFinal)

/-- A row of `new_posteriors`. -/
def posteriorRow (updated : Fin K → α) (regimeProb : α) (losses : Fin K → α) : Except (EnsembleExc α) (Fin K → α) := do
  let row ← expShifted M fun k => M.log (max (updated k) (lit (1 / 10 ^ 30))) - regimeProb * losses k
  let row := if ∑ k, row k ≤ 0 then fun _ => 1 / (K : α) else npNormalize row
  return npNormalize (laplace (epsFloor K self.config.minWeightFloor) row)

/-- `predict_and_update`. -/
def predictAndUpdate (x : EnsembleInput K α) (state : EnsembleState K α) :
    Except (EnsembleExc α) (EnsembleEmission K α × EnsembleState K α) :=
  if ∃ k, x.variances k ≤ 0 then .error (degenerateEnsemble "variances elements must be strictly positive (> 0.0)" [])
  else if x.realizedVol ≤ 0 then .error (ensembleError "realized_vol must be > 0.0, got %" [.num x.realizedVol])
  else if x.ambiguityBeta ≤ 0 then .error (ensembleError "ambiguity_beta must be > 0.0, got %" [.num x.ambiguityBeta])
  else do
    let (alphaT, newMeanVol) ← ({ self.vaf with
      meanRealizedVol := state.meanRealizedVolatility
      meanRealizedVol_pos := state.meanRealizedVolatility_pos } : VolatilityAdaptiveForgetting α).computeAlpha x.realizedVol
    let pNext ← predictForwardRegimePrior x.regimeProbs x.transitionMatrix
    let losses ← computeLosses M self.config.downsidePenalty x.predictions x.realizedReturn x.forecastHorizons
    let scaled := scaledPredictions M x.predictions x.forecastHorizons
    let (updatedPosteriors, compositePrior) ← updateRegimePosteriors M state.regimeConditionalPosteriors alphaT pNext
      self.config.minForgettingFactor self.config.maxForgettingFactor
    let cReg ← self.cReg x
    let scores : Fin K → α := fun k => losses k - M.log (max (compositePrior k) (lit (1 / 10 ^ 30)))
    let wStar ← self.config.solver.solve M scores cReg (some state.weights)
    let lambdaBeta := self.lambdaBeta x
    let wFinal := self.finalWeights lambdaBeta wStar state.weights
    let muHat := ∑ k, wFinal k * scaled k
    let sigma2Aleatoric := ∑ k, wFinal k * x.variances k
    let sigma2Epistemic := ∑ k, wFinal k * (scaled k - muHat) ^ 2
    let kEff := 1 / ∑ k, wFinal k ^ 2
    let newPosteriors ← forRegimes fun r => self.posteriorRow M (updatedPosteriors r) (x.regimeProbs r) losses
    let prediction ← EnsemblePredictionFields.create
      { pointPrediction := muHat
        aleatoricVariance := sigma2Aleatoric
        epistemicVariance := sigma2Epistemic
        totalVariance := sigma2Aleatoric + sigma2Epistemic
        modelWeights := wFinal
        regimeProbabilities := pNext
        effectiveModels := kEff
        volatilityForgettingFactor := alphaT
        ambiguityShrinkageWeight := lambdaBeta }
    let newState ← EnsembleStateFields.create
      { stepIndex := state.stepIndex + 1
        weights := wFinal
        regimeConditionalPosteriors := newPosteriors
        cumulativeLosses := fun k => state.cumulativeLosses k + losses k
        effectiveModels := kEff
        meanRealizedVolatility := newMeanVol
        lastAmbiguityTemperature := x.ambiguityBeta }
    return (prediction, newState)

end RegimeConditionedDMAEngine

end Engine

end Quant
