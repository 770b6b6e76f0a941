import Quant.Analytics.MinimaxRegret
import Quant.Pylib.Calculus
import Quant.Theorems.StrategySignals

/-!
# The gradient of the regret potential

The regrets are clamped at zero and their gradients are not: a regime that the allocation beats still pulls at the gradient that
is returned. It is the gradient of the potential exactly where the pulls of these regimes cancel.
-/

namespace Quant

open Pylib

variable {n : ℕ}

/-! ## Regimes -/

/-- A regime with its ceiling and its prior. -/
structure RatedRegime (n : ℕ) where
  payoff : RegimePayoff n ℝ
  ceiling : ℝ
  prior : ℝ

namespace RatedRegime

/-- What the ceiling exceeds the utility by. -/
def shortfall (t : RatedRegime n) (a : Fin n → ℝ) : ℝ := t.ceiling - t.payoff.utility a

noncomputable def regret (t : RatedRegime n) (a : Fin n → ℝ) : ℝ := max 0 (t.shortfall a)

end RatedRegime

namespace RegretProblem

/-- The problem of some regimes. -/
def ofRegimes (regimes : List (RatedRegime n)) (temperature : ℝ) : RegretProblem n ℝ where
  regimePayoffs := regimes.map (·.payoff)
  benchmarkCeilings := regimes.map (·.ceiling)
  regimePriors := regimes.map (·.prior)
  temperature := temperature

/-- The dimensions are those of the regimes. -/
def Aligned (problem : RegretProblem n ℝ) : Prop :=
  problem.regimePriors.length = problem.regimePayoffs.length ∧ problem.benchmarkCeilings.length = problem.regimePayoffs.length

theorem exists_regimes {problem : RegretProblem n ℝ} (h : problem.Aligned) :
    ∃ regimes, problem = ofRegimes regimes problem.temperature := by
  obtain ⟨payoffs, ceilings, priors, temperature⟩ := problem
  obtain ⟨hpriors, hceilings⟩ := h
  have hlists : ∃ regimes : List (RatedRegime n), payoffs = regimes.map (·.payoff) ∧ ceilings = regimes.map (·.ceiling) ∧
      priors = regimes.map (·.prior) := by
    dsimp only at hpriors hceilings
    clear temperature
    induction payoffs generalizing ceilings priors with
    | nil => exact ⟨[], rfl, List.length_eq_zero_iff.1 hceilings, List.length_eq_zero_iff.1 hpriors⟩
    | cons payoff payoffs ih =>
      obtain ⟨ceiling, ceilings, rfl⟩ := List.exists_cons_of_length_eq_add_one hceilings
      obtain ⟨prior, priors, rfl⟩ := List.exists_cons_of_length_eq_add_one hpriors
      obtain ⟨regimes, rfl, rfl, rfl⟩ := ih ceilings priors (by simpa using hpriors) (by simpa using hceilings)
      exact ⟨⟨payoff, ceiling, prior⟩ :: regimes, rfl, rfl, rfl⟩
  obtain ⟨regimes, rfl, rfl, rfl⟩ := hlists
  exact ⟨regimes, rfl⟩

/-- The gradients of the utilities that exceed their ceilings, by the priors of their regimes. -/
noncomputable def clampedPull (problem : RegretProblem n ℝ) (a : Fin n → ℝ) : Fin n → ℝ :=
  (((problem.regimePayoffs.zip (problem.benchmarkCeilings.zip problem.regimePriors)).filter fun t => t.2.1 < t.1.utility a).map
    fun t => t.2.2 • t.1.gradient a).sum

theorem clampedPull_ofRegimes (regimes : List (RatedRegime n)) (temperature : ℝ) (a : Fin n → ℝ) :
    (ofRegimes regimes temperature).clampedPull a =
      ((regimes.filter fun t => t.shortfall a < 0).map fun t => t.prior • t.payoff.gradient a).sum := by
  rw [clampedPull, ofRegimes, List.zip_map', List.zip_map', List.filter_map, List.map_map]
  refine congrArg (fun l => (List.map _ l).sum) (List.filter_congr fun t _ => ?_)
  exact decide_eq_decide.2 sub_neg.symm

end RegretProblem

/-! ## What the two functions compute -/

namespace MinimaxRegretConfig

variable (config : MinimaxRegretConfig ℝ)

noncomputable def beta (temperature : ℝ) : ℝ := max temperature config.temperatureFloor

theorem beta_pos (temperature : ℝ) : 0 < config.beta temperature := config.temperatureFloor_pos.trans_le (le_max_right _ _)

/-- `z_partition`, without the shift. -/
noncomputable def partitionSum (regimes : List (RatedRegime n)) (temperature : ℝ) (a : Fin n → ℝ) : ℝ :=
  (regimes.map fun t => t.prior * Real.exp (t.regret a / config.beta temperature)).sum

/-- The tilted probability of a regime. -/
noncomputable def tilted (regimes : List (RatedRegime n)) (temperature : ℝ) (a : Fin n → ℝ) (t : RatedRegime n) : ℝ :=
  t.prior * Real.exp (t.regret a / config.beta temperature) / config.partitionSum regimes temperature a

/-- The potential and the distribution that both functions return. -/
noncomputable def potentialOf (regimes : List (RatedRegime n)) (temperature : ℝ) (a : Fin n → ℝ) : PotentialValue ℝ where
  potential := config.beta temperature * Real.log (config.partitionSum regimes temperature a)
  boltzmannDistribution := regimes.map (config.tilted regimes temperature a)
  regrets := regimes.map (·.regret a)

variable {config} {regimes : List (RatedRegime n)} {temperature : ℝ}

/-! The steps that the two functions have in common. -/

theorem regrets_eq (regimes : List (RatedRegime n)) (temperature : ℝ) (a : Fin n → ℝ) :
    List.zipWith (fun payoff ceiling => max 0 (ceiling - payoff.utility a))
    (RegretProblem.ofRegimes regimes temperature).regimePayoffs
        (RegretProblem.ofRegimes regimes temperature).benchmarkCeilings = regimes.map (·.regret a) := by
  rw [RegretProblem.ofRegimes, List.zipWith_map, List.zipWith_self]
  rfl

theorem weightedTerms_eq (config : MinimaxRegretConfig ℝ) (regimes : List (RatedRegime n)) (temperature : ℝ)
    (a : Fin n → ℝ) (mShift : ℝ) :
    List.zipWith (· * ·) (RegretProblem.ofRegimes regimes temperature).regimePriors
        (((regimes.map (·.regret a)).map (· / config.beta temperature)).map fun r => exactMath.exp (r - mShift)) =
      regimes.map fun t => t.prior * Real.exp (t.regret a / config.beta temperature - mShift) := by
  rw [List.map_map, List.map_map, RegretProblem.ofRegimes, List.zipWith_map, List.zipWith_self]
  rfl

/-- There is a largest regret. -/
theorem exists_mShift (config : MinimaxRegretConfig ℝ) (temperature : ℝ) (hne : regimes ≠ []) (a : Fin n → ℝ) :
    ∃ mShift, ((regimes.map (·.regret a)).map (· / config.beta temperature)).max? = some mShift := by
  refine Option.isSome_iff_exists.1 ?_
  rw [List.isSome_max?_iff]
  simpa using hne

theorem aligned_ofRegimes (regimes : List (RatedRegime n)) (temperature : ℝ) :
    ¬ ((RegretProblem.ofRegimes regimes temperature).regimePriors.length ≠
      (RegretProblem.ofRegimes regimes temperature).regimePayoffs.length ∨
      (RegretProblem.ofRegimes regimes temperature).benchmarkCeilings.length ≠
        (RegretProblem.ofRegimes regimes temperature).regimePayoffs.length) := by
  simp [RegretProblem.ofRegimes]

theorem tilted_shift (config : MinimaxRegretConfig ℝ) (temperature : ℝ) (hne : regimes ≠ []) (hprior : ∀ t ∈ regimes, 0 < t.prior)
    (a : Fin n → ℝ) (mShift : ℝ) :
    let weightedTerms := regimes.map fun t => t.prior * Real.exp (t.regret a / config.beta temperature - mShift)
    ¬ weightedTerms.sum ≤ 0 ∧ weightedTerms.map (· / weightedTerms.sum) = regimes.map (config.tilted regimes temperature a) ∧
      config.beta temperature * (mShift + exactMath.log weightedTerms.sum) =
      (config.potentialOf regimes temperature a).potential := by
  refine ⟨not_le.2 (sum_exp_pos hne hprior _), ?_, ?_⟩
  · rw [List.map_map]
    exact List.map_congr_left fun t _ =>
      share_exp_shift regimes (·.prior) (fun t => t.regret a / config.beta temperature) mShift t
  · exact congrArg (config.beta temperature * ·)
      (log_sum_exp_shift hne hprior (fun t => t.regret a / config.beta temperature) mShift)

theorem evaluatePotential_eq (hne : regimes ≠ []) (hprior : ∀ t ∈ regimes, 0 < t.prior) (a : Fin n → ℝ) :
    config.evaluatePotential exactMath (.ofRegimes regimes temperature) a = .ok (config.potentialOf regimes temperature a) := by
  obtain ⟨mShift, hshift⟩ := exists_mShift config temperature hne a
  obtain ⟨hpos, hq, hpsi⟩ := tilted_shift config temperature hne hprior a mShift
  unfold evaluatePotential
  dsimp only
  have hbeta : max (RegretProblem.ofRegimes regimes temperature).temperature config.temperatureFloor = config.beta temperature :=
    rfl
  rw [if_neg (aligned_ofRegimes regimes temperature), regrets_eq, hbeta, hshift]
  dsimp only
  rw [weightedTerms_eq, if_neg hpos, hq, hpsi]
  rfl

/-- The gradient that is returned: the mean of the regimes' gradients, clamped or not. -/
noncomputable def gradientOf (config : MinimaxRegretConfig ℝ) (regimes : List (RatedRegime n)) (temperature : ℝ) (a : Fin n → ℝ) :
    PotentialGradient n ℝ where
  gradient := (regimes.map fun t => config.tilted regimes temperature a t • -t.payoff.gradient a).sum
  potential := (config.potentialOf regimes temperature a).potential
  boltzmannDistribution := (config.potentialOf regimes temperature a).boltzmannDistribution
  regimeGradients := regimes.map fun t => -t.payoff.gradient a

theorem evaluateGradient_eq (hne : regimes ≠ []) (hprior : ∀ t ∈ regimes, 0 < t.prior) (a : Fin n → ℝ) :
    config.evaluateGradient exactMath (.ofRegimes regimes temperature) a = .ok (config.gradientOf regimes temperature a) := by
  rw [evaluateGradient_eq_weigh, evaluatePotential_eq hne hprior]
  have hgradient : (fun i => npDotVec (regimes.map (config.tilted regimes temperature a))
      (((regimes.map (·.payoff)).map fun payoff i => -payoff.gradient a i).map (· i))) =
      (config.gradientOf regimes temperature a).gradient := by
    funext i
    rw [npDotVec, List.map_map, List.map_map, List.zipWith_map, List.zipWith_self, gradientOf]
    refine ((Pi.list_sum_apply (M := fun _ => ℝ) i _).trans ?_).symm
    rw [List.map_map]
    rfl
  have hgrads : ((regimes.map (·.payoff)).map fun payoff i => -payoff.gradient a i) = regimes.map fun t => -t.payoff.gradient a :=
    List.map_map
  refine congrArg Except.ok ?_
  unfold gradientOf PotentialValue.weigh
  rw [PotentialGradient.mk.injEq]
  exact ⟨hgradient, rfl, rfl, hgrads⟩

/-! ## The gradient -/

/-- The gradient of the potential: a regime that is clamped does not pull. -/
theorem isGradient_potential (config : MinimaxRegretConfig ℝ) (temperature : ℝ) (hne : regimes ≠ [])
    (hprior : ∀ t ∈ regimes, 0 < t.prior)
    {a : Fin n → ℝ} (hgrad : ∀ t ∈ regimes, IsGradient t.payoff.utility (t.payoff.gradient a) a)
    (hceiling : ∀ t ∈ regimes, t.shortfall a ≠ 0) :
    IsGradient (fun x => (config.potentialOf regimes temperature x).potential)
      (regimes.map fun t =>
        config.tilted regimes temperature a t • if t.shortfall a < 0 then 0 else -t.payoff.gradient a).sum a := by
  refine isGradient_logSumExp (f := fun t x => t.regret x) hne hprior (config.beta_pos temperature).ne' fun t ht => ?_
  exact ((hgrad t ht).const_sub t.ceiling).clamped (hceiling t ht)

/-- What the clamped regimes pull at the gradient that is returned: they all have the weight of no regret. -/
theorem gradientOf_eq (config : MinimaxRegretConfig ℝ) (regimes : List (RatedRegime n)) (temperature : ℝ) (a : Fin n → ℝ) :
    (config.gradientOf regimes temperature a).gradient =
      (regimes.map fun t => config.tilted regimes temperature a t • if t.shortfall a < 0 then 0 else -t.payoff.gradient a).sum -
        (config.partitionSum regimes temperature a)⁻¹ •
          ((regimes.filter fun t => t.shortfall a < 0).map fun t => t.prior • t.payoff.gradient a).sum := by
  have htilted : ∀ t : RatedRegime n, t.shortfall a < 0 →
      config.tilted regimes temperature a t = (config.partitionSum regimes temperature a)⁻¹ * t.prior := fun t ht => by
    rw [tilted, RatedRegime.regret, max_eq_left ht.le, zero_div, Real.exp_zero, mul_one, div_eq_inv_mul]
  rw [gradientOf]
  dsimp only
  generalize config.tilted regimes temperature a = q at htilted ⊢
  generalize (config.partitionSum regimes temperature a)⁻¹ = z at htilted ⊢
  induction regimes with
  | nil => simp
  | cons t regimes ih =>
    by_cases ht : t.shortfall a < 0
    · rw [List.map_cons, List.sum_cons, List.map_cons, List.sum_cons, ih,
        List.filter_cons_of_pos (by simpa using ht), List.map_cons,
        List.sum_cons, if_pos ht, htilted t ht]
      module
    · rw [List.map_cons, List.sum_cons, List.map_cons, List.sum_cons, ih, List.filter_cons_of_neg (by simpa using ht), if_neg ht]
      module

theorem isGradient_gradientOf_iff (hne : regimes ≠ []) (hprior : ∀ t ∈ regimes, 0 < t.prior) {a : Fin n → ℝ}
    (hgrad : ∀ t ∈ regimes, IsGradient t.payoff.utility (t.payoff.gradient a) a) (hceiling : ∀ t ∈ regimes, t.shortfall a ≠ 0) :
    IsGradient (fun x => (config.potentialOf regimes temperature x).potential)
      (config.gradientOf regimes temperature a).gradient a ↔
      ((regimes.filter fun t => t.shortfall a < 0).map fun t => t.prior • t.payoff.gradient a).sum = 0 := by
  have hpos : 0 < config.partitionSum regimes temperature a := sum_exp_pos hne hprior _
  rw [(isGradient_potential config temperature hne hprior hgrad hceiling).iff_eq, gradientOf_eq, sub_eq_self,
    smul_eq_zero_iff_right (inv_pos.2 hpos).ne']

end MinimaxRegretConfig

/-- With positive priors and no ceiling equal to its utility, both functions return the same potential and the same distribution.
The gradient that is returned is the gradient of the potential exactly where the gradients of the utilities that exceed their
ceilings cancel. -/
theorem regretGradient {config : MinimaxRegretConfig ℝ} {problem : RegretProblem n ℝ} (haligned : problem.Aligned)
    (hne : problem.regimePayoffs ≠ []) (hprior : ∀ p ∈ problem.regimePriors, 0 < p) {a : Fin n → ℝ}
    (hgrad : ∀ payoff ∈ problem.regimePayoffs, IsGradient payoff.utility (payoff.gradient a) a)
    (hceiling : ∀ p ∈ problem.regimePayoffs.zip problem.benchmarkCeilings, p.2 ≠ p.1.utility a) :
    ∃ (value : (Fin n → ℝ) → PotentialValue ℝ) (grad : PotentialGradient n ℝ),
      (∀ x, config.evaluatePotential exactMath problem x = .ok (value x)) ∧
        config.evaluateGradient exactMath problem a = .ok grad ∧
      grad.potential = (value a).potential ∧ grad.boltzmannDistribution = (value a).boltzmannDistribution ∧
      (IsGradient (fun x => (value x).potential) grad.gradient a ↔ problem.clampedPull a = 0) := by
  obtain ⟨regimes, hregimes⟩ := RegretProblem.exists_regimes haligned
  generalize problem.temperature = temperature at hregimes
  subst hregimes
  have hne' : regimes ≠ [] := fun h => hne (by rw [h]; rfl)
  have hprior' : ∀ t ∈ regimes, 0 < t.prior := fun t ht => hprior _ (List.mem_map_of_mem ht)
  have hgrad' : ∀ t ∈ regimes, IsGradient t.payoff.utility (t.payoff.gradient a) a := fun t ht => hgrad _ (List.mem_map_of_mem ht)
  have hceiling' : ∀ t ∈ regimes, t.shortfall a ≠ 0 := fun t ht => by
    refine sub_ne_zero.2 (hceiling (t.payoff, t.ceiling) ?_)
    rw [RegretProblem.ofRegimes, List.zip_map']
    exact List.mem_map_of_mem (f := fun t => (t.payoff, t.ceiling)) ht
  refine ⟨config.potentialOf regimes temperature, config.gradientOf regimes temperature a,
    MinimaxRegretConfig.evaluatePotential_eq hne' hprior', MinimaxRegretConfig.evaluateGradient_eq hne' hprior' a, rfl, rfl, ?_⟩
  rw [RegretProblem.clampedPull_ofRegimes, MinimaxRegretConfig.isGradient_gradientOf_iff hne' hprior' hgrad' hceiling']

/-! ## One asset in one regime -/

theorem MinimaxRegretConfig.create_config (config : MinimaxRegretConfig ℝ) :
    config.toMinimaxRegretConfigFields.create = .ok config := by
  rw [MinimaxRegretConfigFields.create, dif_neg (not_lt.2 config.maxIterations_pos),
    dif_neg (not_le.2 config.gradientTolerance_pos),
    dif_neg (not_le.2 config.stepTolerance_pos), dif_neg (not_not.2 config.lineSearchBacktrack_mem),
    dif_neg (not_not.2 config.armijoC1_mem), dif_neg (not_le.2 config.levenbergDamping_pos),
    dif_neg (not_le.2 config.temperatureFloor_pos), dif_neg (not_lt.2 config.leveragePenalty_nonneg)]

/-- The default configuration. -/
noncomputable def defaultMinimax : MinimaxRegretConfig ℝ where
  toMinimaxRegretConfigFields := .default
  maxIterations_pos := by decide
  gradientTolerance_pos := lit_pos.2 (by norm_num)
  stepTolerance_pos := lit_pos.2 (by norm_num)
  lineSearchBacktrack_mem := ⟨lit_pos.2 (by norm_num), (lit_lt_lit.2 (by norm_num : (1 / 2 : ℚ) < 1)).trans_eq Rat.cast_one⟩
  armijoC1_mem := ⟨lit_pos.2 (by norm_num), (lit_lt_lit.2 (by norm_num : (1 / 10 ^ 4 : ℚ) < 1)).trans_eq Rat.cast_one⟩
  levenbergDamping_pos := lit_pos.2 (by norm_num)
  temperatureFloor_pos := lit_pos.2 (by norm_num)
  leveragePenalty_nonneg := (lit_pos.2 (by norm_num)).le

/-- A regime in which the one asset's weight is the utility. -/
noncomputable def weightPayoff : RegimePayoff 1 ℝ where
  utility := fun a => a (Fin.last 0)
  gradient := fun _ _ => 1

theorem isGradient_weightPayoff (a : Fin 1 → ℝ) : IsGradient weightPayoff.utility (weightPayoff.gradient a) a := by
  have hmap : dotMap (weightPayoff.gradient a) = ContinuousLinearMap.proj 0 := by
    ext v
    simp [dotMap_apply, weightPayoff]
  rw [IsGradient, hmap]
  exact (ContinuousLinearMap.proj (R := ℝ) (φ := fun _ : Fin 1 => ℝ) 0).hasFDerivAt

/-- The regime alone, with a ceiling. -/
noncomputable def weightProblem (ceiling : ℝ) : RegretProblem 1 ℝ where
  regimePayoffs := [weightPayoff]
  benchmarkCeilings := [ceiling]
  regimePriors := [1]
  temperature := 1

/-- A quarter of the capital. -/
noncomputable def quarter : Fin 1 → ℝ := fun _ => 1 / 4

/-- Below its ceiling, the gradient that is returned is the gradient. -/
theorem regretGradient_belowCeiling : ∃ (value : (Fin 1 → ℝ) → PotentialValue ℝ) (grad : PotentialGradient 1 ℝ),
    (∀ x, defaultMinimax.evaluatePotential exactMath (weightProblem 1) x = .ok (value x)) ∧
      defaultMinimax.evaluateGradient exactMath (weightProblem 1) quarter = .ok grad ∧
      IsGradient (fun x => (value x).potential) grad.gradient quarter := by
  have hceiling : ∀ p ∈ (weightProblem 1).regimePayoffs.zip (weightProblem 1).benchmarkCeilings, p.2 ≠ p.1.utility quarter := by
    intro p hp
    rw [List.mem_singleton.1 hp]
    norm_num [weightPayoff, quarter]
  have hpull : (weightProblem 1).clampedPull quarter = 0 := by
    norm_num [RegretProblem.clampedPull, weightProblem, weightPayoff, quarter]
  obtain ⟨value, grad, hvalue, hgrad, -, -, hiff⟩ :=
    @regretGradient 1 defaultMinimax (weightProblem 1) ⟨rfl, rfl⟩ (List.cons_ne_nil _ _)
    (fun p hp => List.mem_singleton.1 hp ▸ zero_lt_one) quarter
    (fun payoff hpayoff => List.mem_singleton.1 hpayoff ▸ isGradient_weightPayoff quarter) hceiling
  exact ⟨value, grad, hvalue, hgrad, hiff.2 hpull⟩

/-- Above its ceiling the potential is flat, and the gradient that is returned is not zero. -/
theorem regretGradient_counterexample : (MinimaxRegretConfigFields.default : MinimaxRegretConfigFields ℝ).create =
    .ok defaultMinimax ∧
    (∀ p ∈ (weightProblem 0).regimePriors, 0 < p) ∧ (weightProblem 0).regimePriors.sum = 1 ∧
    (∀ a, IsGradient weightPayoff.utility (weightPayoff.gradient a) a) ∧ (0 : ℝ) ≠ weightPayoff.utility quarter ∧
    ∃ (value : (Fin 1 → ℝ) → PotentialValue ℝ) (grad : PotentialGradient 1 ℝ),
      (∀ x, defaultMinimax.evaluatePotential exactMath (weightProblem 0) x = .ok (value x)) ∧
      defaultMinimax.evaluateGradient exactMath (weightProblem 0) quarter = .ok grad ∧
      IsGradient (fun x => (value x).potential) 0 quarter ∧ grad.gradient = fun _ => -1 := by
  have hprior : ∀ p ∈ (weightProblem 0).regimePriors, 0 < p := fun p hp => List.mem_singleton.1 hp ▸ zero_lt_one
  have hregimes : weightProblem 0 = .ofRegimes [⟨weightPayoff, 0, 1⟩] 1 := rfl
  have hprior' : ∀ t ∈ [(⟨weightPayoff, 0, 1⟩ : RatedRegime 1)], 0 < t.prior := fun t ht => List.mem_singleton.1 ht ▸ zero_lt_one
  have hshortfall : (⟨weightPayoff, 0, 1⟩ : RatedRegime 1).shortfall quarter < 0 := by
    norm_num [RatedRegime.shortfall, weightPayoff, quarter]
  refine ⟨defaultMinimax.create_config, hprior, List.sum_singleton, isGradient_weightPayoff, by norm_num [weightPayoff, quarter],
    defaultMinimax.potentialOf [⟨weightPayoff, 0, 1⟩] 1,
    defaultMinimax.gradientOf [⟨weightPayoff, 0, 1⟩] 1 quarter, ?_, ?_, ?_, ?_⟩
  · rw [hregimes]
    exact MinimaxRegretConfig.evaluatePotential_eq (List.cons_ne_nil _ _) hprior'
  · rw [hregimes]
    exact MinimaxRegretConfig.evaluateGradient_eq (List.cons_ne_nil _ _) hprior' quarter
  · have hgrad := MinimaxRegretConfig.isGradient_potential defaultMinimax 1 (List.cons_ne_nil _ _) hprior'
      (a := quarter) (fun t ht => List.mem_singleton.1 ht ▸ isGradient_weightPayoff quarter)
      (fun t ht => List.mem_singleton.1 ht ▸ hshortfall.ne)
    simpa [hshortfall] using hgrad
  · rw [MinimaxRegretConfig.gradientOf]
    funext i
    simp [MinimaxRegretConfig.tilted, MinimaxRegretConfig.partitionSum, weightPayoff]

end Quant
