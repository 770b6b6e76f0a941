import Mathlib.Data.Matrix.Mul
import Quant.Analytics.Strategies.Base

/-!
# Market impact

`analytics/market_impact.py`: the configuration, the 3/2-power potential, the cross-impact matrix and the engine with its order
book depletion. Numbers are exact, and the arrays of a call have one entry for each asset, so the checks of their lengths have no
case here; the depletion that an engine remembers may be of another number of assets. `scipy.linalg.eigh` is a parameter.
-/

namespace Quant

open Pylib

/-- The functions of numpy that the engine calls. -/
structure FrictionMath (α : Type) extends StrategyMath α where
  pow : α → α → α

/-! ## The configuration -/

/-- The fields of a `MarketImpactConfig`. -/
structure MarketImpactConfigFields (α : Type) where
  feeFloor : α
  huberDelta : α
  crossImpactScale : α
  transientScale : α
  panicPenaltyScale : α
  sigmoidalSlope : α
  resilienceRate : α
  depletionCap : α
  depletionWeight : α
  portfolioValue : α
  barTimeFraction : α
  crowdingMaxMult : α
  crowdingSteepness : α

/-- A configuration its constructor accepted. -/
structure MarketImpactConfig (α : Type) [Field α] [LinearOrder α] extends MarketImpactConfigFields α where
  feeFloor_pos : 0 < feeFloor
  huberDelta_pos : 0 < huberDelta
  crossImpactScale_nonneg : 0 ≤ crossImpactScale
  transientScale_nonneg : 0 ≤ transientScale
  panicPenaltyScale_nonneg : 0 ≤ panicPenaltyScale
  sigmoidalSlope_pos : 0 < sigmoidalSlope
  resilienceRate_mem : 0 < resilienceRate ∧ resilienceRate < 1
  depletionCap_pos : 0 < depletionCap
  depletionWeight_nonneg : 0 ≤ depletionWeight
  portfolioValue_pos : 0 < portfolioValue
  barTimeFraction_mem : 0 < barTimeFraction ∧ barTimeFraction ≤ 1
  crowdingMaxMult_ge : 1 ≤ crowdingMaxMult

section Config

variable {α : Type} [Field α]

/-- A parameter that `MarketImpactConfig` refuses. -/
def impactParamError (text : String) (x : α) : StrategyExc α :=
  ⟨.valueError, none, "ERR-GAME-IMPACT-PARAM: Invalid configuration parameter passed to MarketImpactConfig: " ++ text, [.num x]⟩

/-- The defaults. -/
def MarketImpactConfigFields.default : MarketImpactConfigFields α where
  feeFloor := lit (5 / 10000)
  huberDelta := lit (1 / 10 ^ 4)
  crossImpactScale := lit (10 / 100)
  transientScale := lit (1 / 2)
  panicPenaltyScale := lit (3 / 2)
  sigmoidalSlope := lit 10
  resilienceRate := lit (1 / 2)
  depletionCap := lit (20 / 100)
  depletionWeight := lit (30 / 100)
  portfolioValue := lit 1000000
  barTimeFraction := lit (1 / 390)
  crowdingMaxMult := lit (5 / 2)
  crowdingSteepness := lit 2

variable [LinearOrder α]

/-- `MarketImpactConfig.__post_init__`. -/
def MarketImpactConfigFields.create (f : MarketImpactConfigFields α) : Except (StrategyExc α) (MarketImpactConfig α) :=
  if h1 : f.feeFloor ≤ 0 then .error (impactParamError "fee_floor must be > 0, got %" f.feeFloor)
  else if h2 : f.huberDelta ≤ 0 then .error (impactParamError "huber_delta must be > 0, got %" f.huberDelta)
  else if h3 : f.crossImpactScale < 0 then .error (impactParamError "cross_impact_scale must be >= 0, got %" f.crossImpactScale)
  else if h4 : f.transientScale < 0 then .error (impactParamError "transient_scale must be >= 0, got %" f.transientScale)
  else if h5 : f.panicPenaltyScale < 0 then .error (impactParamError "panic_penalty_scale must be >= 0, got %"
    f.panicPenaltyScale)
  else if h6 : f.sigmoidalSlope ≤ 0 then .error (impactParamError "sigmoidal_slope must be > 0, got %" f.sigmoidalSlope)
  else if h7 : ¬ (0 < f.resilienceRate ∧ f.resilienceRate < 1) then
    .error (impactParamError "resilience_rate must be in (0, 1), got %" f.resilienceRate)
  else if h8 : f.depletionCap ≤ 0 then .error (impactParamError "depletion_cap must be > 0, got %" f.depletionCap)
  else if h9 : f.depletionWeight < 0 then .error (impactParamError "depletion_weight must be >= 0, got %" f.depletionWeight)
  else if h10 : f.portfolioValue ≤ 0 then .error (impactParamError "portfolio_value must be > 0, got %" f.portfolioValue)
  else if h11 : ¬ (0 < f.barTimeFraction ∧ f.barTimeFraction ≤ 1) then
    .error (impactParamError "bar_time_fraction must be in (0, 1], got %" f.barTimeFraction)
  else if h12 : f.crowdingMaxMult < 1 then .error (impactParamError "crowding_max_mult must be >= 1.0, got %" f.crowdingMaxMult)
  else .ok
    { f with
      feeFloor_pos := not_le.1 h1
      huberDelta_pos := not_le.1 h2
      crossImpactScale_nonneg := not_lt.1 h3
      transientScale_nonneg := not_lt.1 h4
      panicPenaltyScale_nonneg := not_lt.1 h5
      sigmoidalSlope_pos := not_le.1 h6
      resilienceRate_mem := not_not.1 h7
      depletionCap_pos := not_le.1 h8
      depletionWeight_nonneg := not_lt.1 h9
      portfolioValue_pos := not_le.1 h10
      barTimeFraction_mem := not_not.1 h11
      crowdingMaxMult_ge := not_lt.1 h12 }

end Config

section MarketImpact

variable {n : ℕ} {α : Type} [Field α]

/-! ## The potential -/

namespace GeneralizedPseudoHuber

variable (M : FrictionMath α) (delta : α)

/-- `evaluate`. -/
def evaluate (u : α) : α := M.pow (u ^ 2 + delta ^ 2) (lit (3 / 4)) - M.pow delta (lit (3 / 2))

/-- `gradient`. -/
def gradient (u : α) : α := lit (3 / 2) * u / M.pow (u ^ 2 + delta ^ 2) (lit (1 / 4))

end GeneralizedPseudoHuber

variable [LinearOrder α]

/-- `np.sign`. -/
def npSign (x : α) : α := if 0 < x then 1 else if x < 0 then -1 else 0

/-! ## The cross-impact matrix -/

/-- The eigenvalues of a symmetric matrix and its eigenvectors, as columns. -/
abbrev Eigh (n : ℕ) (α : Type) := Matrix (Fin n) (Fin n) α → (Fin n → α) × Matrix (Fin n) (Fin n) α

/-- `HubermanStanzlCrossImpact.build_matrix`. -/
def buildMatrix (M : FrictionMath α) (eigh : Eigh n α) (feeFloor crossImpactScale : α) (covariance : Matrix (Fin n) (Fin n) α)
    (dailyDollarVolumes : Fin n → α) (kellyConviction : Option (Fin n → α)) : Except (StrategyExc α) (Matrix (Fin n) (Fin n) α) :=
  if ∃ i, dailyDollarVolumes i ≤ 0 then
    .error ⟨.valueError, none, "ERR-GAME-IMPACT-PARAM: Invalid configuration parameter passed to MarketImpactConfig: " ++
      "Daily dollar volumes must be strictly positive", []⟩
  else
    let zVec : Fin n → α := (kellyConviction.map fun z i => clip (z i) 0 1).getD fun _ => 1
    let (eigenvalues, eigenvectors) := eigh covariance
    let clampedEigs := fun i => max (eigenvalues i) (lit (1 / 10 ^ 8))
    let rootCov := eigenvectors * (Matrix.diagonal (fun i => M.sqrt (clampedEigs i)) * eigenvectors.transpose)
    let sqrtCov := fun i j => (rootCov i j + rootCov j i) / lit 2
    let dInv := Matrix.diagonal fun i => 1 / M.sqrt (dailyDollarVolumes i)
    let normalizedKernel := dInv * (Matrix.of sqrtCov * dInv)
    let zDiagSqrt := Matrix.diagonal fun i => M.sqrt (zVec i + lit (1 / 10 ^ 6))
    let scaledCross := zDiagSqrt * (normalizedKernel * zDiagSqrt)
    let lambdaMatrix := feeFloor • (1 : Matrix (Fin n) (Fin n) α) + crossImpactScale • scaledCross
    .ok (Matrix.of fun i j => (lambdaMatrix i j + lambdaMatrix j i) / lit 2)

/-! ## The engine -/

/-- `DepletionState`. -/
structure DepletionState (α : Type) where
  depletionVector : List α
  lastUpdateBar : ℕ := 0

/-- The engine: its configuration and what it remembers. -/
structure MultiAssetMarketImpactEngine (α : Type) [Field α] [LinearOrder α] where
  config : MarketImpactConfig α
  depletionState : Option (DepletionState α) := none

/-- The arguments of `evaluate_impact`, but for the allocation changes. -/
structure ImpactArgs (n : ℕ) (α : Type) where
  covariance : Matrix (Fin n) (Fin n) α
  dailyDollarVolumes : Fin n → α
  assetVolatilities : Fin n → α
  panicProbability : α
  kellyConviction : Option (Fin n → α) := none
  crowdingScores : Option (Fin n → α) := none
  updateState : Bool := false
  crossImpactMatrix : Option (Matrix (Fin n) (Fin n) α) := none

structure MarketImpactResult (n : ℕ) (α : Type) where
  totalCost : α
  permanentCost : α
  transientCost : α
  gradient : Fin n → α
  crossImpactMatrix : Matrix (Fin n) (Fin n) α
  participationRates : Fin n → α
  depletionState : Fin n → α

namespace MarketImpactConfig

variable (M : FrictionMath α) (config : MarketImpactConfig α)

/-- `safe_bar_vols`. -/
def safeBarVols (vols : Fin n → α) : Fin n → α := fun i => max (vols i * config.barTimeFraction) 1

/-- `participation_rates`. -/
def participationRates (vols deltaA : Fin n → α) : Fin n → α :=
  fun i => config.portfolioValue * deltaA i / config.safeBarVols vols i

/-- `effective_u` of an asset. -/
def effectiveU (b nu : α) : α := nu + config.depletionWeight * npSign nu * b

/-- `sigma_asym` of an asset. -/
def sigmaAsym (nu : α) : α := 1 / (1 + M.exp (clip (config.sigmoidalSlope * nu) (-lit 50) (lit 50)))

/-- `d_sigma_asym` of an asset. -/
def dSigmaAsym (nu : α) : α := -config.sigmoidalSlope * config.sigmaAsym M nu * (1 - config.sigmaAsym M nu)

/-- The panic penalty at a probability: `panic_penalty_scale * pi_panic_clamped`. -/
def panicPenalty (panicProbability : α) : α := config.panicPenaltyScale * clip panicProbability 0 1

/-- `panic_mult` of an asset. -/
def panicMult (panicProbability nu : α) : α := 1 + config.panicPenalty panicProbability * config.sigmaAsym M nu

/-- `crowding_mult`. -/
def crowdingMult (crowdingScores : Option (Fin n → α)) : Fin n → α :=
  match crowdingScores with
  | none => fun _ => 1
  | some scores => fun i =>
    1 + (config.crowdingMaxMult - 1) / (1 + M.exp (-clip (config.crowdingSteepness * scores i) (-lit 30) (lit 30)))

/-- `psi_vals` of an asset times its panic multiplier, the part of its cost that depends on its rate. -/
def gatedPotential (panicProbability b nu : α) : α :=
  GeneralizedPseudoHuber.evaluate M config.huberDelta (config.effectiveU b nu) * config.panicMult M panicProbability nu

/-- `term1 + term2` of an asset. -/
def gatedGradient (panicProbability b nu : α) : α :=
  let u := config.effectiveU b nu
  GeneralizedPseudoHuber.gradient M config.huberDelta u * config.panicMult M panicProbability nu +
    GeneralizedPseudoHuber.evaluate M config.huberDelta u * config.panicPenalty panicProbability * config.dSigmaAsym M nu

end MarketImpactConfig

namespace MultiAssetMarketImpactEngine

variable (M : FrictionMath α) (engine : MultiAssetMarketImpactEngine α)

/-- `reset`. -/
def reset : MultiAssetMarketImpactEngine α := { engine with depletionState := none }

/-- `_get_depletion_vector`: zeros where there is none, or one of another length. -/
def getDepletionVector (n : ℕ) : Fin n → α :=
  match engine.depletionState with
  | none => fun _ => 0
  | some state =>
    if h : state.depletionVector.length = n then fun i => state.depletionVector.get (i.cast h.symm) else fun _ => 0

/-- `update_depletion`. -/
def updateDepletion (participationRates : Fin n → α) : (Fin n → α) × MultiAssetMarketImpactEngine α :=
  let currentB := engine.getDepletionVector n
  let bMax := engine.config.depletionCap
  let rho := engine.config.resilienceRate
  let clampedB : Fin n → α := fun i =>
    let injection := (1 - rho) * bMax * M.tanh (|participationRates i| / max bMax (lit (1 / 10 ^ 8)))
    clip (rho * currentB i + injection) 0 bMax
  let lastUpdateBar := match engine.depletionState with
    | none => 0
    | some state => state.lastUpdateBar + 1
  (clampedB, { engine with depletionState := some ⟨List.ofFn clampedB, lastUpdateBar⟩ })

/-- `lambda_cross`. -/
def lambdaCross (eigh : Eigh n α) (args : ImpactArgs n α) : Except (StrategyExc α) (Matrix (Fin n) (Fin n) α) :=
  match args.crossImpactMatrix with
  | some lambda => .ok lambda
  | none =>
    buildMatrix M eigh engine.config.feeFloor engine.config.crossImpactScale args.covariance args.dailyDollarVolumes
      args.kellyConviction

/-- `evaluate_impact`: the result, and the engine after it. -/
def evaluateImpact (eigh : Eigh n α) (args : ImpactArgs n α) (deltaA : Fin n → α) :
    Except (StrategyExc α) (MarketImpactResult n α × MultiAssetMarketImpactEngine α) := do
  let config := engine.config
  let participationRates := config.participationRates args.dailyDollarVolumes deltaA
  let lambdaCross ← engine.lambdaCross M eigh args
  let gradPermanent := lambdaCross.mulVec deltaA
  let permanentCost := lit (1 / 2) * dotProduct deltaA gradPermanent
  let depletionB := engine.getDepletionVector n
  let crowding := config.crowdingMult M args.crowdingScores
  let transientCost := ∑ i, config.transientScale * args.assetVolatilities i *
    config.gatedPotential M args.panicProbability (depletionB i) (participationRates i) * crowding i
  let gradTransient : Fin n → α := fun i => config.transientScale * args.assetVolatilities i * crowding i *
    config.gatedGradient M args.panicProbability (depletionB i) (participationRates i) *
    (config.portfolioValue / config.safeBarVols args.dailyDollarVolumes i)
  let (newDepletion, after) := if args.updateState then engine.updateDepletion M participationRates else (depletionB, engine)
  return ({ totalCost := permanentCost + transientCost
            permanentCost := permanentCost
            transientCost := transientCost
            gradient := gradPermanent + gradTransient
            crossImpactMatrix := lambdaCross
            participationRates := participationRates
            depletionState := newDepletion }, after)

end MultiAssetMarketImpactEngine

end MarketImpact

end Quant
