import Mathlib.Algebra.Order.Star.Real
import Mathlib.LinearAlgebra.Matrix.PosDef
import Quant.Pylib.Calculus
import Quant.Theorems.ImpactGradient

/-!
# Where the friction cost is convex

The cost of `evaluate_impact` is convex exactly where neither the depletion nor the panic gate touches an asset that has a
transient cost: the depletion shifts the rate by a jump at zero, and the clipped gate has a corner at which the slope falls.
-/

namespace Quant

open Pylib

/-! ## The potential -/

namespace GeneralizedPseudoHuber

variable {delta : ℝ}

theorem evaluate_eq (delta u : ℝ) : evaluate exactFrictionMath delta u = (u ^ 2 + delta ^ 2) ^ (3 / 4 : ℝ) - delta ^
    (3 / 2 : ℝ) := by
  have hlit : (lit (3 / 4) : ℝ) = 3 / 4 ∧ (lit (3 / 2) : ℝ) = 3 / 2 := by
    simp only [lit]
    norm_num
  rw [evaluate, hlit.1, hlit.2]
  rfl

theorem evaluate_zero (hdelta : 0 < delta) : evaluate exactFrictionMath delta 0 = 0 := by
  have hpow : (delta ^ 2) ^ (3 / 4 : ℝ) = delta ^ (3 / 2 : ℝ) := by
    rw [← Real.rpow_natCast, ← Real.rpow_mul hdelta.le]
    norm_num
  rw [evaluate_eq, zero_pow two_ne_zero, zero_add, hpow, sub_self]

/-- A larger rate costs more. -/
theorem evaluate_lt_evaluate {u v : ℝ} (h : u ^ 2 < v ^ 2) :
    evaluate exactFrictionMath delta u < evaluate exactFrictionMath delta v := by
  rw [evaluate_eq, evaluate_eq]
  exact sub_lt_sub_right (Real.rpow_lt_rpow (by positivity) (by linarith) (by norm_num)) _

theorem evaluate_pos (hdelta : 0 < delta) {u : ℝ} (hu : u ≠ 0) : 0 < evaluate exactFrictionMath delta u := by
  rw [← evaluate_zero hdelta]
  refine evaluate_lt_evaluate ?_
  rw [zero_pow two_ne_zero]
  positivity

theorem convexOn_evaluate (delta : ℝ) : ConvexOn ℝ Set.univ (evaluate exactFrictionMath delta) := by
  have hconvex := (convexOn_rpow_sq_add delta (by norm_num : (1 / 2 : ℝ) ≤ 3 / 4)).add_const (-delta ^ (3 / 2 : ℝ))
  refine hconvex.congr fun u _ => ?_
  rw [evaluate_eq]
  exact (sub_eq_add_neg _ _).symm

end GeneralizedPseudoHuber

/-! ## One asset -/

namespace MarketImpactConfig

variable (config : MarketImpactConfig ℝ) {panicProbability b nu : ℝ}

theorem sigmaAsym_pos (nu : ℝ) : 0 < config.sigmaAsym exactFrictionMath nu := one_div_pos.2 (add_pos one_pos (Real.exp_pos _))

theorem panicPenalty_nonneg (panicProbability : ℝ) : 0 ≤ config.panicPenalty panicProbability :=
  mul_nonneg config.panicPenaltyScale_nonneg (clip_mem zero_le_one).1

theorem one_le_panicMult (panicProbability nu : ℝ) : 1 ≤ config.panicMult exactFrictionMath panicProbability nu :=
  le_add_of_nonneg_right (mul_nonneg (config.panicPenalty_nonneg panicProbability) (config.sigmaAsym_pos nu).le)

theorem effectiveU_zero (b : ℝ) : config.effectiveU b 0 = 0 := by
  simp [effectiveU, npSign]

/-- Nothing is paid for no trade. -/
theorem gatedPotential_zero (panicProbability b : ℝ) : config.gatedPotential exactFrictionMath panicProbability b 0 = 0 := by
  rw [gatedPotential, effectiveU_zero, GeneralizedPseudoHuber.evaluate_zero config.huberDelta_pos, zero_mul]

/-- Without depletion the rate is not shifted. -/
theorem effectiveU_of_mul_eq_zero (hb : config.depletionWeight * b = 0) (nu : ℝ) : config.effectiveU b nu = nu := by
  rw [effectiveU, mul_right_comm, hb, zero_mul, add_zero]

/-- Without depletion and without a penalty an asset pays the potential of its rate. -/
theorem gatedPotential_of_rest (hb : config.depletionWeight * b = 0) (hpenalty : config.panicPenalty panicProbability = 0) :
    config.gatedPotential exactFrictionMath panicProbability b =
    GeneralizedPseudoHuber.evaluate exactFrictionMath config.huberDelta := by
  funext nu
  rw [gatedPotential, config.effectiveU_of_mul_eq_zero hb, panicMult, hpenalty, zero_mul, add_zero, mul_one]

/-- With depletion every purchase, however small, costs at least the potential of the shift. -/
theorem le_gatedPotential_of_depletion (hb : 0 < config.depletionWeight * b) (panicProbability : ℝ) (hnu : 0 < nu) :
    GeneralizedPseudoHuber.evaluate exactFrictionMath config.huberDelta (config.depletionWeight * b) ≤
      config.gatedPotential exactFrictionMath panicProbability b nu := by
  have hu : config.effectiveU b nu = nu + config.depletionWeight * b := by rw [effectiveU, npSign, if_pos hnu, mul_one]
  have hlt : GeneralizedPseudoHuber.evaluate exactFrictionMath config.huberDelta (config.depletionWeight * b) <
      GeneralizedPseudoHuber.evaluate exactFrictionMath config.huberDelta (config.effectiveU b nu) := by
    rw [hu]
    exact GeneralizedPseudoHuber.evaluate_lt_evaluate (by nlinarith)
  have hpos := GeneralizedPseudoHuber.evaluate_pos config.huberDelta_pos hb.ne'
  exact hlt.le.trans (le_mul_of_one_le_right (hpos.trans hlt).le (config.one_le_panicMult panicProbability nu))

/-- Where the gate has a slope on one side, so has the cost of an asset without depletion. -/
theorem hasDerivWithinAt_gatedPotential (hb : config.depletionWeight * b = 0) (panicProbability : ℝ) {s : Set ℝ} {d : ℝ}
    (hgate : HasDerivWithinAt (config.sigmaAsym exactFrictionMath) d s nu) :
    HasDerivWithinAt (config.gatedPotential exactFrictionMath panicProbability b)
      (GeneralizedPseudoHuber.gradient exactFrictionMath config.huberDelta nu *
        config.panicMult exactFrictionMath panicProbability nu +
        GeneralizedPseudoHuber.evaluate exactFrictionMath config.huberDelta nu *
        (config.panicPenalty panicProbability * d)) s nu := by
  have hmult : HasDerivWithinAt (config.panicMult exactFrictionMath panicProbability)
      (config.panicPenalty panicProbability * d) s nu :=
    (hgate.const_mul _).const_add 1
  have hproduct := (GeneralizedPseudoHuber.hasDerivAt_evaluate config.huberDelta_pos nu).hasDerivWithinAt.mul hmult
  refine hproduct.congr_of_eventuallyEq (Filter.Eventually.of_forall fun x => ?_) ?_
  · rw [gatedPotential, config.effectiveU_of_mul_eq_zero hb]
    rfl
  · rw [gatedPotential, config.effectiveU_of_mul_eq_zero hb]
    rfl

/-- The rate at which the gate's exponent meets its lower bound. -/
noncomputable def cornerRate : ℝ := -lit 50 / config.sigmoidalSlope

theorem cornerRate_neg : config.cornerRate < 0 :=
  div_neg_of_neg_of_pos (neg_neg_of_pos (lit_pos.2 (by norm_num))) config.sigmoidalSlope_pos

theorem slope_mul_cornerRate : config.sigmoidalSlope * config.cornerRate = -lit 50 :=
  mul_div_cancel₀ _ config.sigmoidalSlope_pos.ne'

/-- Below the corner the gate is flat. -/
theorem hasDerivWithinAt_sigmaAsym_left : HasDerivWithinAt (config.sigmaAsym exactFrictionMath) 0
    (Set.Iio config.cornerRate) config.cornerRate := by
  have hflat (x : ℝ) (hx : x ≤ config.cornerRate) : config.sigmaAsym exactFrictionMath x =
      config.sigmaAsym exactFrictionMath config.cornerRate := by
    have hle : config.sigmoidalSlope * x ≤ -lit 50 := by
      rw [← slope_mul_cornerRate]
      exact mul_le_mul_of_nonneg_left hx config.sigmoidalSlope_pos.le
    have hclip : clip (config.sigmoidalSlope * x) (-lit 50) (lit 50) = clip (config.sigmoidalSlope * config.cornerRate)
        (-lit 50) (lit 50) := by
      rw [clip, clip, slope_mul_cornerRate, max_eq_left hle, max_self]
    rw [sigmaAsym, sigmaAsym, hclip]
  exact (hasDerivWithinAt_const _ _ _).congr (fun x hx => hflat x (le_of_lt hx)) rfl

/-- Above it the gate falls. -/
theorem hasDerivWithinAt_sigmaAsym_right :
    HasDerivWithinAt (config.sigmaAsym exactFrictionMath) (config.dSigmaAsym exactFrictionMath config.cornerRate)
    (Set.Ioi config.cornerRate)
      config.cornerRate := by
  have hcorner := config.cornerRate_neg
  have hfifty : (0 : ℝ) < lit 50 := lit_pos.2 (by norm_num)
  have hmem (x : ℝ) (hlo : config.cornerRate ≤ x) (hhi : x ≤ -config.cornerRate) :
      -lit 50 ≤ config.sigmoidalSlope * x ∧ config.sigmoidalSlope * x ≤ lit 50 := by
    have hslope := config.sigmoidalSlope_pos.le
    rw [← config.slope_mul_cornerRate]
    refine ⟨mul_le_mul_of_nonneg_left hlo hslope, (mul_le_mul_of_nonneg_left hhi hslope).trans_eq ?_⟩
    rw [mul_neg, config.slope_mul_cornerRate, neg_neg]
  have hat := config.sigmaAsym_eq (hmem config.cornerRate le_rfl (by linarith))
  rw [dSigmaAsym, hat]
  refine (hasDerivAt_logistic config.sigmoidalSlope config.cornerRate).hasDerivWithinAt.congr_of_eventuallyEq ?_ hat
  filter_upwards [Ioo_mem_nhdsGT (by linarith : config.cornerRate < -config.cornerRate)] with x hx
  exact config.sigmaAsym_eq (hmem x hx.1.le hx.2.le)

theorem dSigmaAsym_neg (nu : ℝ) : config.dSigmaAsym exactFrictionMath nu < 0 := by
  have hlt : config.sigmaAsym exactFrictionMath nu < 1 := by
    exact (div_lt_one (add_pos one_pos (Real.exp_pos _))).2 (lt_add_of_pos_right 1 (Real.exp_pos _))
  have hpos := config.sigmaAsym_pos nu
  have hslope := config.sigmoidalSlope_pos
  rw [dSigmaAsym, neg_mul, neg_mul, neg_lt_zero]
  exact mul_pos (mul_pos hslope hpos) (sub_pos.2 hlt)

theorem one_le_crowdingMult {n : ℕ} (scores : Option (Fin n → ℝ)) (i : Fin n) :
    1 ≤ config.crowdingMult exactFrictionMath scores i := by
  cases scores with
  | none => exact le_rfl
  | some scores =>
    exact le_add_of_nonneg_right (div_nonneg (sub_nonneg.2 config.crowdingMaxMult_ge) (add_pos one_pos (Real.exp_pos _)).le)

/-- The volume that a rate is taken of is positive. -/
theorem safeBarVols_pos {n : ℕ} (vols : Fin n → ℝ) (i : Fin n) : 0 < config.safeBarVols vols i := lt_max_of_lt_right one_pos

end MarketImpactConfig

/-! ## The whole cost -/

namespace MultiAssetMarketImpactEngine

variable {n : ℕ} (engine : MultiAssetMarketImpactEngine ℝ) (args : ImpactArgs n ℝ) (lambda : Matrix (Fin n) (Fin n) ℝ)

/-- An asset without a transient cost, or one that neither the depletion nor the panic touches. -/
def Undisturbed (i : Fin n) : Prop :=
  engine.config.transientScale * args.assetVolatilities i = 0 ∨
    engine.config.depletionWeight * engine.getDepletionVector n i = 0 ∧ engine.config.panicPenaltyScale *
    args.panicProbability = 0

variable {engine args lambda}

theorem transientScaleOf_nonneg (hvol : ∀ i, 0 ≤ args.assetVolatilities i) (i : Fin n) :
    0 ≤ engine.transientScaleOf exactFrictionMath args i :=
  mul_nonneg (mul_nonneg engine.config.transientScale_nonneg (hvol i))
    (zero_le_one.trans (engine.config.one_le_crowdingMult args.crowdingScores i))

/-- An asset has a transient cost unless its scale or its volatility is zero. -/
theorem transientScaleOf_pos (hvol : ∀ i, 0 ≤ args.assetVolatilities i) {i : Fin n}
    (hne : engine.config.transientScale * args.assetVolatilities i ≠ 0) : 0 < engine.transientScaleOf exactFrictionMath args i :=
  mul_pos (lt_of_le_of_ne (mul_nonneg engine.config.transientScale_nonneg (hvol i)) hne.symm)
    (one_pos.trans_le (engine.config.one_le_crowdingMult args.crowdingScores i))

theorem panicPenalty_eq (hpanic : 0 ≤ args.panicProbability ∧ args.panicProbability ≤ 1) :
    engine.config.panicPenalty args.panicProbability = engine.config.panicPenaltyScale * args.panicProbability := by
  rw [MarketImpactConfig.panicPenalty, clip_of_mem hpanic]

/-! ### Convex costs -/

/-- The transient cost of an undisturbed asset is convex. -/
theorem convexOn_transientCostOf (hvol : ∀ i, 0 ≤ args.assetVolatilities i)
    (hpanic : 0 ≤ args.panicProbability ∧ args.panicProbability ≤ 1)
    {i : Fin n} (h : engine.Undisturbed args i) : ConvexOn ℝ Set.univ (engine.transientCostOf exactFrictionMath args i) := by
  rcases h with hzero | ⟨hb, hpenalty⟩
  · have hconst : engine.transientCostOf exactFrictionMath args i = fun _ => 0 := by
      funext t
      rw [transientCostOf, transientScaleOf, hzero, zero_mul, zero_mul]
    rw [hconst]
    exact convexOn_const 0 convex_univ
  · rw [← panicPenalty_eq hpanic] at hpenalty
    have hrate : engine.transientCostOf exactFrictionMath args i = fun t => engine.transientScaleOf exactFrictionMath args i •
        GeneralizedPseudoHuber.evaluate exactFrictionMath engine.config.huberDelta
          ((engine.config.portfolioValue / engine.config.safeBarVols args.dailyDollarVolumes i) • t) := by
      funext t
      rw [transientCostOf, engine.config.gatedPotential_of_rest hb hpenalty, mul_div_right_comm]
      rfl
    have hconvex := (GeneralizedPseudoHuber.convexOn_evaluate engine.config.huberDelta).comp_linearMap
      ((engine.config.portfolioValue / engine.config.safeBarVols args.dailyDollarVolumes i) • LinearMap.id)
    rw [hrate]
    exact hconvex.smul (transientScaleOf_nonneg hvol i)

/-- Where no asset is disturbed the cost is convex. -/
theorem convexOn_totalCostOf (hlambda : ∀ x : Fin n → ℝ, 0 ≤ dotProduct x (lambda.mulVec x))
    (hvol : ∀ i, 0 ≤ args.assetVolatilities i)
    (hpanic : 0 ≤ args.panicProbability ∧ args.panicProbability ≤ 1) (h : ∀ i, engine.Undisturbed args i) :
    ConvexOn ℝ Set.univ (engine.totalCostOf exactFrictionMath args lambda) := by
  have hhalf : (0 : ℝ) ≤ lit (1 / 2) := (lit_pos.2 (by norm_num)).le
  have hsum (s : Finset (Fin n)) : ConvexOn ℝ Set.univ fun x : Fin n → ℝ =>
      ∑ i ∈ s, engine.transientCostOf exactFrictionMath args i (x i) := by
    induction s using Finset.induction_on with
    | empty => simpa using convexOn_const (0 : ℝ) (convex_univ : Convex ℝ (Set.univ : Set (Fin n → ℝ)))
    | insert i s hi ih =>
      have hterm : ConvexOn ℝ Set.univ fun x : Fin n → ℝ => engine.transientCostOf exactFrictionMath args i (x i) :=
        (convexOn_transientCostOf hvol hpanic (h i)).comp_linearMap (LinearMap.proj (R := ℝ) (φ := fun _ : Fin n => ℝ) i)
      simp only [Finset.sum_insert hi]
      exact hterm.add ih
  exact ((convexOn_quadratic hlambda).smul hhalf).add (hsum Finset.univ)

/-! ### Costs that are not convex -/

/-- The change of one allocation that trades an asset at a rate. -/
noncomputable def axisChange (engine : MultiAssetMarketImpactEngine ℝ) (args : ImpactArgs n ℝ) (i : Fin n) : ℝ →ₗ[ℝ] Fin n → ℝ :=
  (engine.config.safeBarVols args.dailyDollarVolumes i / engine.config.portfolioValue) • LinearMap.single ℝ (fun _ => ℝ) i

/-- Along one asset the cost is a square and the gated potential of the rate. -/
theorem totalCostOf_axisChange (i : Fin n) (nu : ℝ) :
    engine.totalCostOf exactFrictionMath args lambda (engine.axisChange args i nu) =
      lit (1 / 2) * lambda i i *
        (engine.config.safeBarVols args.dailyDollarVolumes i / engine.config.portfolioValue) ^ 2 * nu ^ 2 +
        engine.transientScaleOf exactFrictionMath args i *
          engine.config.gatedPotential exactFrictionMath args.panicProbability (engine.getDepletionVector n i) nu := by
  have hvol := (engine.config.safeBarVols_pos args.dailyDollarVolumes i).ne'
  have hvalue := engine.config.portfolioValue_pos.ne'
  have hchange : engine.axisChange args i nu =
      Pi.single i (engine.config.safeBarVols args.dailyDollarVolumes i / engine.config.portfolioValue * nu) := by
    rw [axisChange, LinearMap.smul_apply, LinearMap.single_apply, ← Pi.single_smul, smul_eq_mul]
  have hrate : engine.config.portfolioValue *
      (engine.config.safeBarVols args.dailyDollarVolumes i / engine.config.portfolioValue * nu) /
      engine.config.safeBarVols args.dailyDollarVolumes i = nu := by
    field_simp
  rw [totalCostOf, hchange]
  congr 1
  · rw [single_dotProduct, Matrix.mulVec_single]
    simp only [Pi.smul_apply, Matrix.col_apply, MulOpposite.smul_eq_mul_unop, MulOpposite.unop_op]
    ring
  · rw [Finset.sum_eq_single i]
    · rw [Pi.single_eq_same, transientCostOf, hrate]
    · intro j _ hj
      rw [Pi.single_eq_of_ne hj, transientCostOf, mul_zero, zero_div, engine.config.gatedPotential_zero, mul_zero]
    · intro hi
      exact absurd (Finset.mem_univ i) hi

theorem convexOn_axis (h : ConvexOn ℝ Set.univ (engine.totalCostOf exactFrictionMath args lambda)) (i : Fin n) :
    ConvexOn ℝ Set.univ fun nu =>
      lit (1 / 2) * lambda i i *
        (engine.config.safeBarVols args.dailyDollarVolumes i / engine.config.portfolioValue) ^ 2 * nu ^ 2 +
        engine.transientScaleOf exactFrictionMath args i *
          engine.config.gatedPotential exactFrictionMath args.panicProbability (engine.getDepletionVector n i) nu := by
  have haxis := h.comp_linearMap (engine.axisChange args i)
  refine haxis.congr fun nu _ => ?_
  exact totalCostOf_axisChange i nu

/-- The cost of an asset with depletion jumps where trading starts. -/
theorem not_convexOn_of_depletion (hlambda : ∀ x : Fin n → ℝ, 0 ≤ dotProduct x (lambda.mulVec x)) {i : Fin n}
    (hscale : 0 < engine.transientScaleOf exactFrictionMath args i)
    (hb : 0 < engine.config.depletionWeight * engine.getDepletionVector n i) :
    ¬ ConvexOn ℝ Set.univ (engine.totalCostOf exactFrictionMath args lambda) := by
  intro h
  have hdiag : 0 ≤ lambda i i := by simpa using hlambda (Pi.single i 1)
  have hhalf : (0 : ℝ) ≤ lit (1 / 2) := (lit_pos.2 (by norm_num)).le
  have hpsi := GeneralizedPseudoHuber.evaluate_pos engine.config.huberDelta_pos hb.ne'
  refine not_convexOn_of_jump (mul_pos hscale hpsi) ?_ (fun t ht => ?_) (convexOn_axis h i)
  · rw [engine.config.gatedPotential_zero, zero_pow two_ne_zero, mul_zero, mul_zero, add_zero]
  · refine (mul_le_mul_of_nonneg_left
      (engine.config.le_gatedPotential_of_depletion hb args.panicProbability ht) hscale.le).trans ?_
    exact le_add_of_nonneg_left (by positivity)

/-- The cost of an asset with a penalty and no depletion has a corner where the gate stops being flat. -/
theorem not_convexOn_of_penalty {i : Fin n} (hscale : 0 < engine.transientScaleOf exactFrictionMath args i)
    (hb : engine.config.depletionWeight * engine.getDepletionVector n i = 0)
    (hpenalty : 0 < engine.config.panicPenalty args.panicProbability) :
    ¬ ConvexOn ℝ Set.univ (engine.totalCostOf exactFrictionMath args lambda) := by
  intro h
  have hsq : HasDerivAt (fun nu : ℝ => lit (1 / 2) * lambda i i *
      (engine.config.safeBarVols args.dailyDollarVolumes i / engine.config.portfolioValue) ^ 2 * nu ^ 2) _
      engine.config.cornerRate :=
    (hasDerivAt_pow 2 engine.config.cornerRate).const_mul _
  have hleft := hsq.hasDerivWithinAt.add ((engine.config.hasDerivWithinAt_gatedPotential hb args.panicProbability
    engine.config.hasDerivWithinAt_sigmaAsym_left).const_mul (engine.transientScaleOf exactFrictionMath args i))
  have hright := hsq.hasDerivWithinAt.add ((engine.config.hasDerivWithinAt_gatedPotential hb args.panicProbability
    engine.config.hasDerivWithinAt_sigmaAsym_right).const_mul (engine.transientScaleOf exactFrictionMath args i))
  have hslopes := slope_le_slope_of_convexOn (convexOn_axis h i) hleft hright
  have hpsi := GeneralizedPseudoHuber.evaluate_pos engine.config.huberDelta_pos engine.config.cornerRate_neg.ne
  have hfall : engine.transientScaleOf exactFrictionMath args i *
      (GeneralizedPseudoHuber.evaluate exactFrictionMath engine.config.huberDelta
      engine.config.cornerRate * (engine.config.panicPenalty args.panicProbability *
        engine.config.dSigmaAsym exactFrictionMath engine.config.cornerRate)) < 0 :=
    mul_neg_of_pos_of_neg hscale (mul_neg_of_pos_of_neg hpsi (mul_neg_of_pos_of_neg hpenalty (engine.config.dSigmaAsym_neg _)))
  rw [mul_zero, mul_zero, add_zero, mul_add] at hslopes
  linarith

/-- With a depletion within its bounds, the cost is convex exactly where every asset is undisturbed. -/
theorem convexOn_totalCostOf_iff (hbounded : engine.DepletionBounded)
    (hlambda : ∀ x : Fin n → ℝ, 0 ≤ dotProduct x (lambda.mulVec x))
    (hvol : ∀ i, 0 ≤ args.assetVolatilities i) (hpanic : 0 ≤ args.panicProbability ∧ args.panicProbability ≤ 1) :
    ConvexOn ℝ Set.univ (engine.totalCostOf exactFrictionMath args lambda) ↔ ∀ i, engine.Undisturbed args i := by
  refine ⟨fun h i => ?_, convexOn_totalCostOf hlambda hvol hpanic⟩
  by_cases hcost : engine.config.transientScale * args.assetVolatilities i = 0
  · exact .inl hcost
  have hscale := transientScaleOf_pos hvol hcost
  have hdepletion : 0 ≤ engine.config.depletionWeight * engine.getDepletionVector n i :=
    mul_nonneg engine.config.depletionWeight_nonneg (getDepletionVector_mem hbounded i).1
  rcases hdepletion.eq_or_lt with hb | hb
  · rcases (engine.config.panicPenalty_nonneg args.panicProbability).eq_or_lt with hpenalty | hpenalty
    · exact .inr ⟨hb.symm, by rw [← panicPenalty_eq hpanic, ← hpenalty]⟩
    · exact absurd h (not_convexOn_of_penalty hscale hb.symm hpenalty)
  · exact absurd h (not_convexOn_of_depletion hlambda hscale hb)

/-- The cost that an engine evaluates, in a state that calls lead to, is convex exactly where every asset is undisturbed. -/
theorem convexOn_evaluateImpact_iff {engine : MultiAssetMarketImpactEngine ℝ} (hreach : Reachable exactFrictionMath engine)
    {args : ImpactArgs n ℝ} {eigh : Eigh n ℝ} {lambda : Matrix (Fin n) (Fin n) ℝ}
    (hlambda : engine.lambdaCross exactFrictionMath eigh args = .ok lambda) (hpos : lambda.PosDef)
    (hvol : ∀ i, 0 ≤ args.assetVolatilities i) (hpanic : 0 ≤ args.panicProbability ∧ args.panicProbability ≤ 1) :
    ∃ cost : (Fin n → ℝ) → ℝ,
      (∀ x, ∃ r after, engine.evaluateImpact exactFrictionMath eigh args x = .ok (r, after) ∧ r.totalCost = cost x) ∧
      (ConvexOn ℝ Set.univ cost ↔ ∀ i, engine.Undisturbed args i) := by
  have hnonneg (x : Fin n → ℝ) : 0 ≤ dotProduct x (lambda.mulVec x) := by
    simpa using hpos.posSemidef.dotProduct_mulVec_nonneg x
  refine ⟨engine.totalCostOf exactFrictionMath args lambda, fun x => ?_,
    convexOn_totalCostOf_iff (Reachable.depletionBounded exactFrictionMath hreach) hnonneg hvol hpanic⟩
  obtain ⟨r, after, hok, hcost, -⟩ := engine.evaluateImpact_spec exactFrictionMath args lambda hlambda x
  exact ⟨r, after, hok, hcost⟩

/-! ### Runs -/

theorem reachable_default : Reachable exactFrictionMath ⟨defaultImpact, none⟩ := ⟨[], rfl⟩

/-- A new engine and no panic. -/
theorem convexOn_evaluateImpact_calm :
    ∃ cost : (Fin 1 → ℝ) → ℝ,
      (∀ x, ∃ r after, evaluateImpact exactFrictionMath ⟨defaultImpact, none⟩ (fun _ => (0, 1)) (oneAsset 0) x = .ok (r, after) ∧
        r.totalCost = cost x) ∧ ConvexOn ℝ Set.univ cost := by
  have hlambda : lambdaCross exactFrictionMath ⟨defaultImpact, none⟩ (fun _ => (0, 1)) (oneAsset 0) = .ok 1 := rfl
  obtain ⟨cost, hcost, hiff⟩ := convexOn_evaluateImpact_iff reachable_default hlambda Matrix.PosDef.one (fun _ => zero_le_one)
    ⟨le_rfl, zero_le_one⟩
  exact ⟨cost, hcost, hiff.2 fun i => .inr ⟨mul_zero _, mul_zero _⟩⟩

theorem reachable_depletedEngine : Reachable exactFrictionMath depletedEngine := ⟨[.update (1 : Fin 1 → ℝ)], rfl⟩

/-- Where the order book is depleted the cost is not convex, without any panic. -/
theorem not_convexOn_evaluateImpact_depleted :
    Reachable exactFrictionMath depletedEngine ∧ (1 : Matrix (Fin 1) (Fin 1) ℝ).PosDef ∧
      ∃ cost : (Fin 1 → ℝ) → ℝ,
        (∀ x, ∃ r after, depletedEngine.evaluateImpact exactFrictionMath (fun _ => (0, 1)) (oneAsset 0) x = .ok (r, after) ∧
          r.totalCost = cost x) ∧ ¬ ConvexOn ℝ Set.univ cost := by
  refine ⟨reachable_depletedEngine, Matrix.PosDef.one, totalCostOf exactFrictionMath depletedEngine (oneAsset 0) 1,
    fun x => ?_, ?_⟩
  · have hlambda : lambdaCross exactFrictionMath depletedEngine (fun _ => (0, 1)) (oneAsset 0) = .ok 1 := rfl
    obtain ⟨r, after, hok, hcost, -⟩ := evaluateImpact_spec exactFrictionMath depletedEngine (oneAsset 0) 1 hlambda x
    exact ⟨r, after, hok, hcost⟩
  · have hscale : (defaultImpact.transientScale : ℝ) * (oneAsset 0).assetVolatilities (Fin.last 0) ≠ 0 :=
      mul_ne_zero (lit_pos.2 (by norm_num)).ne' one_ne_zero
    have hweight : 0 < depletedEngine.config.depletionWeight := lit_pos.2 (by norm_num)
    refine not_convexOn_of_depletion (fun x => ?_) (transientScaleOf_pos (fun _ => zero_le_one) hscale)
      (mul_pos hweight (depletedEngine_pos (Fin.last 0)))
    simpa using Matrix.PosDef.one.posSemidef.dotProduct_mulVec_nonneg x

end MultiAssetMarketImpactEngine

end Quant
