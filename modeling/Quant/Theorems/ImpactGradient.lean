import Mathlib.Analysis.SpecialFunctions.Pow.Deriv
import Mathlib.Analysis.SpecialFunctions.Trigonometric.DerivHyp
import Quant.Analytics.MarketImpact
import Quant.Pylib.Calculus
import Quant.Theorems.StrategySignals

/-!
# The gradient of the friction cost

The cost and the gradient of `evaluate_impact` as functions of the allocation changes, and the depletion that an engine can
remember. Away from a rate of zero and from the bounds of the gate, the gradient that is returned is the derivative of the cost.
-/

namespace Quant

open Pylib

/-! ## What an evaluation returns -/

/-- The functions as the real ones. -/
noncomputable def exactFrictionMath : FrictionMath ℝ := { exactMath with pow := fun (x y : ℝ) => x ^ y }

variable {n : ℕ} {α : Type} [Field α] [LinearOrder α]

namespace MultiAssetMarketImpactEngine

variable (M : FrictionMath α) (engine : MultiAssetMarketImpactEngine α) (args : ImpactArgs n α)
    (lambda : Matrix (Fin n) (Fin n) α)

/-- The scale of an asset's transient cost: `eta * sigma * crowding_mult`. -/
def transientScaleOf (i : Fin n) : α :=
  engine.config.transientScale * args.assetVolatilities i * engine.config.crowdingMult M args.crowdingScores i

/-- The transient cost of an asset, as a function of its allocation change. -/
def transientCostOf (i : Fin n) (t : α) : α :=
  engine.transientScaleOf M args i * engine.config.gatedPotential M args.panicProbability (engine.getDepletionVector n i)
    (engine.config.portfolioValue * t / engine.config.safeBarVols args.dailyDollarVolumes i)

/-- The cost as a function of the allocation changes. -/
def totalCostOf (x : Fin n → α) : α := lit (1 / 2) * dotProduct x (lambda.mulVec x) + ∑ i, engine.transientCostOf M args i (x i)

/-- The gradient at some allocation changes. -/
def totalGradientOf (x : Fin n → α) : Fin n → α := lambda.mulVec x + fun i =>
  engine.transientScaleOf M args i * engine.config.gatedGradient M args.panicProbability (engine.getDepletionVector n i)
    (engine.config.portfolioValue * x i / engine.config.safeBarVols args.dailyDollarVolumes i) *
    (engine.config.portfolioValue / engine.config.safeBarVols args.dailyDollarVolumes i)

/-- What an evaluation returns, where the cross-impact matrix is there. -/
theorem evaluateImpact_spec {eigh : Eigh n α} (h : engine.lambdaCross M eigh args = .ok lambda) (x : Fin n → α) :
    ∃ r after, engine.evaluateImpact M eigh args x = .ok (r, after) ∧ r.totalCost = engine.totalCostOf M args lambda x ∧
      r.gradient = engine.totalGradientOf M args lambda x := by
  unfold evaluateImpact
  dsimp only
  rw [h]
  refine ⟨_, _, rfl, ?_, ?_⟩
  · refine congrArg₂ (· + ·) rfl (Finset.sum_congr rfl fun i _ => ?_)
    rw [transientCostOf, transientScaleOf]
    exact mul_right_comm _ _ _
  · rfl

end MultiAssetMarketImpactEngine

/-! ## The depletion -/

/-- A call on an engine. -/
inductive ImpactOp (α : Type) where
  | reset
  | update {n : ℕ} (participationRates : Fin n → α)
  | evaluate {n : ℕ} (eigh : Eigh n α) (args : ImpactArgs n α) (deltaA : Fin n → α)

namespace MultiAssetMarketImpactEngine

variable (M : FrictionMath α)

/-- The engine after a call; one that raises leaves it as it was. -/
def apply (engine : MultiAssetMarketImpactEngine α) : ImpactOp α → MultiAssetMarketImpactEngine α
  | .reset => engine.reset
  | .update participationRates => (engine.updateDepletion M participationRates).2
  | .evaluate eigh args deltaA =>
    match engine.evaluateImpact M eigh args deltaA with
    | .ok (_, after) => after
    | .error _ => engine

/-- The engines that calls on a new one lead to. -/
def Reachable (engine : MultiAssetMarketImpactEngine α) : Prop :=
  ∃ ops : List (ImpactOp α), engine = ops.foldl (apply M) { config := engine.config }

/-- The depletion of each asset lies between zero and the cap. -/
def DepletionBounded (engine : MultiAssetMarketImpactEngine α) : Prop :=
  ∀ state ∈ engine.depletionState, ∀ b ∈ state.depletionVector, 0 ≤ b ∧ b ≤ engine.config.depletionCap

/-- An update clips what it stores. -/
theorem depletionBounded_update (engine : MultiAssetMarketImpactEngine α) (participationRates : Fin n → α) :
    (engine.updateDepletion M participationRates).2.DepletionBounded ∧
      (engine.updateDepletion M participationRates).2.config = engine.config := by
  refine ⟨?_, rfl⟩
  rintro state hstate b hb
  obtain rfl := Option.some.inj hstate
  obtain ⟨i, rfl⟩ := (List.mem_ofFn' _ _).1 hb
  exact clip_mem engine.config.depletionCap_pos.le

/-- A call keeps the depletion within its bounds, and the configuration. -/
theorem depletionBounded_apply {engine : MultiAssetMarketImpactEngine α} (h : engine.DepletionBounded) (op : ImpactOp α) :
    (engine.apply M op).DepletionBounded ∧ (engine.apply M op).config = engine.config := by
  cases op with
  | reset => exact ⟨fun _ hstate => (by cases hstate), rfl⟩
  | update participationRates => exact depletionBounded_update M engine participationRates
  | evaluate eigh args deltaA =>
    rw [apply]
    unfold evaluateImpact
    dsimp only
    cases engine.lambdaCross M eigh args with
    | error exc => exact ⟨h, rfl⟩
    | ok lambda =>
      cases hupdate : args.updateState with
      | false => exact ⟨h, rfl⟩
      | true => exact depletionBounded_update M engine _

/-- In an engine that calls lead to, the depletion is within its bounds. -/
theorem Reachable.depletionBounded {engine : MultiAssetMarketImpactEngine α} (h : Reachable M engine) :
    engine.DepletionBounded := by
  obtain ⟨ops, hops⟩ := h
  have hrun (ops : List (ImpactOp α)) (start : MultiAssetMarketImpactEngine α) (hstart : start.DepletionBounded) :
      (ops.foldl (apply M) start).DepletionBounded := by
    induction ops generalizing start with
    | nil => exact hstart
    | cons op ops ih => exact ih _ (depletionBounded_apply M hstart op).1
  rw [hops]
  exact hrun ops _ fun _ hstate => by cases hstate

/-- The depletion that an evaluation reads, whatever the number of assets. -/
theorem getDepletionVector_mem {engine : MultiAssetMarketImpactEngine α} (h : engine.DepletionBounded) (i : Fin n) :
    0 ≤ engine.getDepletionVector n i ∧ engine.getDepletionVector n i ≤ engine.config.depletionCap := by
  unfold getDepletionVector
  cases hstate : engine.depletionState with
  | none => exact ⟨le_rfl, engine.config.depletionCap_pos.le⟩
  | some state =>
    dsimp only
    split_ifs
    · exact h state hstate _ (List.get_mem _ _)
    · exact ⟨le_rfl, engine.config.depletionCap_pos.le⟩

end MultiAssetMarketImpactEngine

/-! ## The parts of an asset's cost -/

/-- The sign of a number near one that is not zero. -/
theorem npSign_eventuallyEq {x : ℝ} (h : x ≠ 0) : npSign =ᶠ[nhds x] fun _ => npSign x := by
  rcases lt_or_gt_of_ne h with hneg | hpos
  · filter_upwards [Iio_mem_nhds hneg] with y hy
    rw [npSign, npSign, if_neg (Set.mem_Iio.1 hy).not_gt, if_neg hneg.not_gt, if_pos (Set.mem_Iio.1 hy), if_pos hneg]
  · filter_upwards [Ioi_mem_nhds hpos] with y hy
    rw [npSign, npSign, if_pos (Set.mem_Ioi.1 hy), if_pos hpos]

theorem lit_half : (lit (1 / 2) : ℝ) = 1 / 2 := by
  rw [lit]
  norm_num

/-- The gradient of the potential is its derivative. -/
theorem GeneralizedPseudoHuber.hasDerivAt_evaluate {delta : ℝ} (hdelta : 0 < delta) (u : ℝ) :
    HasDerivAt (evaluate exactFrictionMath delta) (gradient exactFrictionMath delta u) u := by
  have hinner : 0 < u ^ 2 + delta ^ 2 := by positivity
  have hsq : HasDerivAt (fun u : ℝ => u ^ 2 + delta ^ 2) (2 * u) u := by
    simpa using (hasDerivAt_pow 2 u).add_const (delta ^ 2)
  have hpow : HasDerivAt (fun u : ℝ => (u ^ 2 + delta ^ 2) ^ (3 / 4 : ℝ))
      (2 * u * (3 / 4) * (u ^ 2 + delta ^ 2) ^ (3 / 4 - 1 : ℝ)) u :=
    hsq.rpow_const (.inl hinner.ne')
  have hlit : (lit (3 / 4) : ℝ) = 3 / 4 ∧ (lit (3 / 2) : ℝ) = 3 / 2 ∧ (lit (1 / 4) : ℝ) = 1 / 4 := by
    simp only [lit]
    norm_num
  have hderiv := hpow.sub_const (delta ^ (3 / 2 : ℝ))
  unfold evaluate gradient
  rw [hlit.1, hlit.2.1, hlit.2.2]
  refine hderiv.congr_deriv ?_
  change _ = 3 / 2 * u / (u ^ 2 + delta ^ 2) ^ (1 / 4 : ℝ)
  rw [show (3 / 4 - 1 : ℝ) = -(1 / 4) by norm_num, Real.rpow_neg hinner.le]
  ring

/-- The slope of a falling logistic function. -/
theorem hasDerivAt_logistic (zeta nu : ℝ) :
    HasDerivAt (fun x => 1 / (1 + Real.exp (zeta * x)))
      (-zeta * (1 / (1 + Real.exp (zeta * nu))) * (1 - 1 / (1 + Real.exp (zeta * nu)))) nu := by
  have hlinear : HasDerivAt (fun x => zeta * x) zeta nu := by
    simpa using (hasDerivAt_id nu).const_mul zeta
  have hden : 0 < 1 + Real.exp (zeta * nu) := add_pos one_pos (Real.exp_pos _)
  have hinv := (hlinear.exp.const_add 1).inv hden.ne'
  simp only [one_div]
  refine hinv.congr_deriv ?_
  field_simp
  ring

namespace MarketImpactConfig

variable (config : MarketImpactConfig ℝ) {nu : ℝ}

/-- The shifted rate moves with the rate, as long as that is not zero. -/
theorem hasDerivAt_effectiveU (b : ℝ) (h : nu ≠ 0) : HasDerivAt (config.effectiveU b) 1 nu := by
  have hshift : HasDerivAt (fun x => x + config.depletionWeight * npSign nu * b) 1 nu :=
    (hasDerivAt_id nu).add_const (config.depletionWeight * npSign nu * b)
  refine hshift.congr_of_eventuallyEq ?_
  filter_upwards [npSign_eventuallyEq h] with x hx
  rw [effectiveU, hx]

/-- Within its bounds the gate is the logistic function. -/
theorem sigmaAsym_eq (h : -lit 50 ≤ config.sigmoidalSlope * nu ∧ config.sigmoidalSlope * nu ≤ lit 50) :
    config.sigmaAsym exactFrictionMath nu = 1 / (1 + Real.exp (config.sigmoidalSlope * nu)) := by
  rw [sigmaAsym, clip_of_mem h]
  rfl

/-- The gate has its derivative strictly within its bounds. -/
theorem hasDerivAt_sigmaAsym (h : |config.sigmoidalSlope * nu| < lit 50) :
    HasDerivAt (config.sigmaAsym exactFrictionMath) (config.dSigmaAsym exactFrictionMath nu) nu := by
  have hmem : -lit 50 < config.sigmoidalSlope * nu ∧ config.sigmoidalSlope * nu < lit 50 := abs_lt.1 h
  have hcont : ContinuousAt (fun x => config.sigmoidalSlope * x) nu := continuousAt_const.mul continuousAt_id
  have heq : config.sigmaAsym exactFrictionMath =ᶠ[nhds nu] fun x => 1 / (1 + Real.exp (config.sigmoidalSlope * x)) := by
    filter_upwards [hcont.eventually (Ioo_mem_nhds hmem.1 hmem.2)] with x hx
    exact config.sigmaAsym_eq ⟨hx.1.le, hx.2.le⟩
  rw [dSigmaAsym, heq.eq_of_nhds]
  exact (hasDerivAt_logistic config.sigmoidalSlope nu).congr_of_eventuallyEq heq

/-- The part of an asset's cost that depends on its rate. -/
theorem hasDerivAt_gatedPotential (panicProbability b : ℝ) (hne : nu ≠ 0) (hgate : |config.sigmoidalSlope * nu| < lit 50) :
    HasDerivAt (config.gatedPotential exactFrictionMath panicProbability b)
    (config.gatedGradient exactFrictionMath panicProbability b nu)
      nu := by
  have hpsi : HasDerivAt (fun x => GeneralizedPseudoHuber.evaluate exactFrictionMath config.huberDelta (config.effectiveU b x))
      (GeneralizedPseudoHuber.gradient exactFrictionMath config.huberDelta (config.effectiveU b nu) * 1) nu :=
    (GeneralizedPseudoHuber.hasDerivAt_evaluate config.huberDelta_pos _).comp nu (config.hasDerivAt_effectiveU b hne)
  have hmult : HasDerivAt (config.panicMult exactFrictionMath panicProbability)
      (config.panicPenalty panicProbability * config.dSigmaAsym exactFrictionMath nu) nu :=
    ((config.hasDerivAt_sigmaAsym hgate).const_mul _).const_add 1
  refine (hpsi.mul hmult).congr_deriv ?_
  rw [gatedGradient, mul_one, mul_assoc (GeneralizedPseudoHuber.evaluate _ _ _)]

end MarketImpactConfig

/-! ## The gradient -/

namespace MultiAssetMarketImpactEngine

variable {n : ℕ} (engine : MultiAssetMarketImpactEngine ℝ) (args : ImpactArgs n ℝ)

theorem hasDerivAt_transientCostOf (i : Fin n) {t : ℝ}
    (hne : engine.config.portfolioValue * t / engine.config.safeBarVols args.dailyDollarVolumes i ≠ 0)
    (hgate : |engine.config.sigmoidalSlope *
      (engine.config.portfolioValue * t / engine.config.safeBarVols args.dailyDollarVolumes i)| <
      lit 50) :
    HasDerivAt (engine.transientCostOf exactFrictionMath args i)
      (engine.transientScaleOf exactFrictionMath args i * engine.config.gatedGradient exactFrictionMath args.panicProbability
        (engine.getDepletionVector n i) (engine.config.portfolioValue * t / engine.config.safeBarVols args.dailyDollarVolumes i) *
        (engine.config.portfolioValue / engine.config.safeBarVols args.dailyDollarVolumes i)) t := by
  have hrate : HasDerivAt (fun t => engine.config.portfolioValue * t / engine.config.safeBarVols args.dailyDollarVolumes i)
      (engine.config.portfolioValue / engine.config.safeBarVols args.dailyDollarVolumes i) t := by
    simpa using ((hasDerivAt_id t).const_mul engine.config.portfolioValue).div_const
      (engine.config.safeBarVols args.dailyDollarVolumes i)
  have hgated := (engine.config.hasDerivAt_gatedPotential args.panicProbability
    (engine.getDepletionVector n i) hne hgate).comp t hrate
  refine (hgated.const_mul (engine.transientScaleOf exactFrictionMath args i)).congr_deriv ?_
  rw [mul_assoc]

/-- With a symmetric cross-impact matrix, and rates that are not zero and lie within the bounds of the gate, the gradient that is
returned is that of the cost, as a function of the allocation changes in one state of the engine. -/
theorem isGradient_evaluateImpact {eigh : Eigh n ℝ} {lambda : Matrix (Fin n) (Fin n) ℝ}
    (hlambda : engine.lambdaCross exactFrictionMath eigh args = .ok lambda) (hsymm : lambda.IsSymm) {a : Fin n → ℝ}
    (hne : ∀ i, engine.config.participationRates args.dailyDollarVolumes a i ≠ 0)
    (hgate : ∀ i, |engine.config.sigmoidalSlope * engine.config.participationRates args.dailyDollarVolumes a i| < lit 50) :
    ∃ cost : (Fin n → ℝ) → ℝ,
      (∀ x, ∃ r after, engine.evaluateImpact exactFrictionMath eigh args x = .ok (r, after) ∧ r.totalCost = cost x) ∧
      ∃ r after, engine.evaluateImpact exactFrictionMath eigh args a = .ok (r, after) ∧ IsGradient cost r.gradient a := by
  refine ⟨engine.totalCostOf exactFrictionMath args lambda, fun x => ?_, ?_⟩
  · obtain ⟨r, after, hok, hcost, -⟩ := engine.evaluateImpact_spec exactFrictionMath args lambda hlambda x
    exact ⟨r, after, hok, hcost⟩
  obtain ⟨r, after, hok, -, hgrad⟩ := engine.evaluateImpact_spec exactFrictionMath args lambda hlambda a
  refine ⟨r, after, hok, ?_⟩
  have htransient := IsGradient.sum_coord fun i => engine.hasDerivAt_transientCostOf args i (hne i) (hgate i)
  have hsum := (IsGradient.half_quadratic hsymm a).add htransient
  rw [hgrad]
  unfold totalCostOf
  rw [lit_half]
  exact hsum

end MultiAssetMarketImpactEngine

/-! ### Runs -/

/-- The defaults pass their checks. -/
theorem defaultImpact_ranges :
    let f : MarketImpactConfigFields ℝ := .default
    (0 < f.feeFloor ∧ 0 < f.huberDelta ∧ 0 < f.crossImpactScale ∧ 0 < f.transientScale ∧ 0 < f.panicPenaltyScale ∧
      0 < f.sigmoidalSlope) ∧
      (0 < f.resilienceRate ∧ f.resilienceRate < 1) ∧ (0 < f.depletionCap ∧ 0 < f.depletionWeight ∧ 0 < f.portfolioValue) ∧
      (0 < f.barTimeFraction ∧ f.barTimeFraction ≤ 1) ∧ 1 ≤ f.crowdingMaxMult := by
  have hpos {q : ℚ} (hq : 0 < q) : (0 : ℝ) < lit q := lit_pos.2 hq
  refine ⟨⟨?_, ?_, ?_, ?_, ?_, ?_⟩, ⟨?_, ?_⟩, ⟨?_, ?_, ?_⟩, ⟨?_, lit_le_one.2 (by norm_num)⟩, ?_⟩
  · exact hpos (by norm_num)
  · exact hpos (by norm_num)
  · exact hpos (by norm_num)
  · exact hpos (by norm_num)
  · exact hpos (by norm_num)
  · exact hpos (by norm_num)
  · exact hpos (by norm_num)
  · exact (lit_lt_lit.2 (by norm_num : (1 / 2 : ℚ) < 1)).trans_eq Rat.cast_one
  · exact hpos (by norm_num)
  · exact hpos (by norm_num)
  · exact hpos (by norm_num)
  · exact hpos (by norm_num)
  · exact Rat.cast_one.symm.trans_le (lit_le_lit.2 (by norm_num : (1 : ℚ) ≤ 5 / 2))

/-- The default configuration. -/
noncomputable def defaultImpact : MarketImpactConfig ℝ where
  toMarketImpactConfigFields := .default
  feeFloor_pos := defaultImpact_ranges.1.1
  huberDelta_pos := defaultImpact_ranges.1.2.1
  crossImpactScale_nonneg := defaultImpact_ranges.1.2.2.1.le
  transientScale_nonneg := defaultImpact_ranges.1.2.2.2.1.le
  panicPenaltyScale_nonneg := defaultImpact_ranges.1.2.2.2.2.1.le
  sigmoidalSlope_pos := defaultImpact_ranges.1.2.2.2.2.2
  resilienceRate_mem := defaultImpact_ranges.2.1
  depletionCap_pos := defaultImpact_ranges.2.2.1.1
  depletionWeight_nonneg := defaultImpact_ranges.2.2.1.2.1.le
  portfolioValue_pos := defaultImpact_ranges.2.2.1.2.2
  barTimeFraction_mem := defaultImpact_ranges.2.2.2.1
  crowdingMaxMult_ge := defaultImpact_ranges.2.2.2.2

/-- One asset with a volume of a million in each bar, a volatility of 1 and the unit matrix, at a panic probability. -/
noncomputable def oneAsset (panicProbability : ℝ) : ImpactArgs 1 ℝ where
  covariance := 1
  dailyDollarVolumes := fun _ => lit 390000000
  assetVolatilities := fun _ => 1
  panicProbability := panicProbability
  crossImpactMatrix := some 1

/-- The rate of the one asset is its allocation change. -/
theorem participationRates_oneAsset (panicProbability : ℝ) (a : Fin 1 → ℝ) :
    defaultImpact.participationRates (oneAsset panicProbability).dailyDollarVolumes a = a := by
  have hvol : defaultImpact.safeBarVols (oneAsset panicProbability).dailyDollarVolumes = fun _ : Fin 1 => lit 1000000 := by
    funext i
    change max ((lit 390000000 : ℝ) * lit (1 / 390)) 1 = lit 1000000
    rw [lit_mul, show (390000000 * (1 / 390) : ℚ) = 1000000 by norm_num]
    exact max_eq_left (Rat.cast_one.symm.trans_le (lit_le_lit.2 (by norm_num : (1 : ℚ) ≤ 1000000)))
  funext i
  rw [MarketImpactConfig.participationRates, hvol]
  exact mul_div_cancel_left₀ (a i) (lit_pos.2 (by norm_num : (0 : ℚ) < 1000000)).ne'

/-- A new engine that has seen a bar at a rate of 1. -/
noncomputable def depletedEngine : MultiAssetMarketImpactEngine ℝ :=
  (MultiAssetMarketImpactEngine.updateDepletion exactFrictionMath ⟨defaultImpact, none⟩ (1 : Fin 1 → ℝ)).2

/-- Its order book is depleted. -/
theorem depletedEngine_pos (i : Fin 1) : 0 < depletedEngine.getDepletionVector 1 i := by
  have hrho := sub_pos.2 defaultImpact.resilienceRate_mem.2
  have hcap := defaultImpact.depletionCap_pos
  have hrate : 0 < |(1 : Fin 1 → ℝ) i| / max defaultImpact.depletionCap (lit (1 / 10 ^ 8)) :=
    div_pos (abs_pos.2 one_ne_zero) (lt_max_of_lt_left hcap)
  have htanh : 0 < Real.tanh (|(1 : Fin 1 → ℝ) i| / max defaultImpact.depletionCap (lit (1 / 10 ^ 8))) := by
    rw [Real.tanh_eq_sinh_div_cosh]
    exact div_pos (Real.sinh_pos_iff.2 hrate) (Real.cosh_pos _)
  have hentry : depletedEngine.getDepletionVector 1 i =
      clip (defaultImpact.resilienceRate * 0 + (1 - defaultImpact.resilienceRate) * defaultImpact.depletionCap *
        Real.tanh (|(1 : Fin 1 → ℝ) i| / max defaultImpact.depletionCap (lit (1 / 10 ^ 8)))) 0 defaultImpact.depletionCap := by
    simp [MultiAssetMarketImpactEngine.getDepletionVector, depletedEngine, MultiAssetMarketImpactEngine.updateDepletion]
    rfl
  rw [hentry, mul_zero, zero_add]
  exact lt_min hcap (lt_max_of_lt_right (mul_pos (mul_pos hrho hcap) htanh))

/-- One asset that others trade as well, in a panic. -/
noncomputable def crowdedAsset : ImpactArgs 1 ℝ := { oneAsset 1 with crowdingScores := some fun _ => 1 }

theorem isGradient_evaluateImpact_crowded :
    (∀ i, 0 < depletedEngine.getDepletionVector 1 i) ∧
    ∃ cost : (Fin 1 → ℝ) → ℝ,
      (∀ x, ∃ r after, depletedEngine.evaluateImpact exactFrictionMath (fun _ => (0, 1)) crowdedAsset x = .ok (r, after) ∧
        r.totalCost = cost x) ∧
      ∃ r after, depletedEngine.evaluateImpact exactFrictionMath (fun _ => (0, 1)) crowdedAsset 1 = .ok (r, after) ∧
        IsGradient cost r.gradient 1 := by
  have hlambda : depletedEngine.lambdaCross exactFrictionMath (fun _ => (0, 1)) crowdedAsset =
      .ok (1 : Matrix (Fin 1) (Fin 1) ℝ) := rfl
  have hrate : depletedEngine.config.participationRates crowdedAsset.dailyDollarVolumes 1 = 1 := participationRates_oneAsset 1 1
  refine ⟨depletedEngine_pos, MultiAssetMarketImpactEngine.isGradient_evaluateImpact depletedEngine crowdedAsset hlambda
    Matrix.isSymm_one ?_ ?_⟩
  · intro i
    rw [hrate]
    exact one_ne_zero
  · intro i
    rw [hrate]
    change |(lit 10 : ℝ) * 1| < lit 50
    rw [mul_one, abs_of_pos (lit_pos.2 (by norm_num))]
    exact lit_lt_lit.2 (by norm_num)

end Quant
