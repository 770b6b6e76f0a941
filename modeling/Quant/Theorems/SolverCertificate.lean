import Mathlib.Algebra.BigOperators.Field
import Quant.Analytics.NewtonSolver
import Quant.Theorems.RegretGradient

/-!
# The certificate of the minimax solver

The weights that the solver returns are within the bounds and the leverage, and the penalised objective does not rise along its
iterates. Its flag of convergence is another matter: where the line search gives up, the point stays, the step has no length, and
the solver takes that for convergence.
-/

namespace Quant

open Pylib

variable {n : ℕ} {α : Type} [Field α] [LinearOrder α]

namespace VectorizedNewtonSolver

variable {M : StrategyMath α} {solver : VectorizedNewtonSolver n α}

/-! ## The iterates -/

/-- A point at which the loop stops. -/
def Stops (M : StrategyMath α) (solver : VectorizedNewtonSolver n α) (w : Fin n → α) : Prop :=
  solver.GradientMet M (solver.forward M w) ∨ solver.stepNorm M w ≤ solver.config.stepTolerance

instance (w : Fin n → α) : Decidable (Stops M solver w) := inferInstanceAs (Decidable (_ ∨ _))

/-- The latent points at which the loop evaluates the gradient, for some rounds. -/
def iterates (M : StrategyMath α) (solver : VectorizedNewtonSolver n α) : ℕ → (Fin n → α) → List (Fin n → α)
  | 0, _ => []
  | rounds + 1, w => w :: if Stops M solver w then [] else iterates M solver rounds (solver.wNext M w)

/-- The test of the gradient is met at an iterate, or a step that the Armijo condition accepted is no longer than the
tolerance. -/
def Certified (M : StrategyMath α) (solver : VectorizedNewtonSolver n α) (rounds : ℕ) (w : Fin n → α) : Prop :=
  ∃ v ∈ iterates M solver rounds w, solver.GradientMet M (solver.forward M v) ∨
    ∃ v', solver.lineSearch M v = some v' ∧ npNorm M (fun i => v' i - v i) ≤ solver.config.stepTolerance

/-- At every iterate that does not meet the test of the gradient, the line search finds an acceptable step. -/
def NeverGivesUp (M : StrategyMath α) (solver : VectorizedNewtonSolver n α) (rounds : ℕ) (w : Fin n → α) : Prop :=
  ∀ v ∈ iterates M solver rounds w, ¬ solver.GradientMet M (solver.forward M v) → solver.lineSearch M v ≠ none

/-- The loop stops at one iterate at most. -/
theorem eq_of_stops {rounds : ℕ} {w v v' : Fin n → α} (hv : v ∈ iterates M solver rounds w)
    (hv' : v' ∈ iterates M solver rounds w)
    (hstop : Stops M solver v) (hstop' : Stops M solver v') : v = v' := by
  induction rounds generalizing w with
  | zero => cases hv
  | succ rounds ih =>
    rw [iterates] at hv hv'
    by_cases hw : Stops M solver w
    · rw [if_pos hw, List.mem_singleton] at hv hv'
      rw [hv, hv']
    · rw [if_neg hw, List.mem_cons] at hv hv'
      rcases hv with rfl | hv
      · exact absurd hstop hw
      · rcases hv' with rfl | hv'
        · exact absurd hstop' hw
        · exact ih hv hv'

/-- The flag is raised where the loop stops. -/
theorem converged_loop (rounds : ℕ) (s : NewtonState n α) :
    (solver.loop M rounds s).converged = true ↔ s.converged = true ∨
    ∃ v ∈ iterates M solver rounds s.wCurr, Stops M solver v := by
  induction rounds generalizing s with
  | zero => simp [loop, iterates]
  | succ rounds ih =>
    rw [loop, iterates]
    by_cases hmet : solver.GradientMet M (solver.evaluated M s).aCurr
    · have hstop : Stops M solver s.wCurr := .inl hmet
      rw [if_pos hmet, if_pos hstop]
      exact iff_of_true rfl (.inr ⟨s.wCurr, List.mem_singleton_self _, hstop⟩)
    · rw [if_neg hmet]
      by_cases hstep : solver.stepNorm M (solver.evaluated M s).wCurr ≤ solver.config.stepTolerance
      · have hstop : Stops M solver s.wCurr := .inr hstep
        rw [if_pos hstep, if_pos hstop]
        exact iff_of_true rfl (.inr ⟨s.wCurr, List.mem_singleton_self _, hstop⟩)
      · have hstop : ¬ Stops M solver s.wCurr := not_or.2 ⟨hmet, hstep⟩
        rw [if_neg hstep, if_neg hstop, ih]
        refine or_congr Iff.rfl ⟨fun ⟨v, hv, h⟩ => ⟨v, List.mem_cons_of_mem _ hv, h⟩, fun ⟨v, hv, h⟩ => ?_⟩
        rcases List.mem_cons.1 hv with rfl | hv
        · exact absurd h hstop
        · exact ⟨v, hv, h⟩

/-- Where the line search gives up, the step has no length. -/
theorem stepNorm_of_none (hsqrt : M.sqrt 0 = 0) {w : Fin n → α} (h : solver.lineSearch M w = none) : solver.stepNorm M w = 0 := by
  rw [stepNorm, wNext, h, Option.getD_none, npNorm]
  simp [hsqrt]

/-- The flag tells the truth exactly where the line search never gives up. -/
theorem certified_iff (hsqrt : M.sqrt 0 = 0) (rounds : ℕ) {s : NewtonState n α} (hs : s.converged = false) :
    ((solver.loop M rounds s).converged = true → Certified M solver rounds s.wCurr) ↔ NeverGivesUp M solver rounds s.wCurr := by
  rw [converged_loop, hs]
  constructor
  · intro htrue v hv hmet hnone
    have hstop : Stops M solver v := .inr ((stepNorm_of_none hsqrt hnone).trans_le solver.config.stepTolerance_pos.le)
    obtain ⟨v', hv', hcert⟩ := htrue (.inr ⟨v, hv, hstop⟩)
    rcases hcert with hmet' | ⟨next, hnext, hshort⟩
    · exact hmet (eq_of_stops hv' hv (.inl hmet') hstop ▸ hmet')
    · have hstop' : Stops M solver v' := .inr (by rwa [stepNorm, wNext, hnext, Option.getD_some])
      rw [eq_of_stops hv' hv hstop' hstop, hnone] at hnext
      cases hnext
  · rintro hfound (hfalse | ⟨v, hv, hstop⟩)
    · cases hfalse
    · by_cases hmet : solver.GradientMet M (solver.forward M v)
      · exact ⟨v, hv, .inl hmet⟩
      · obtain ⟨next, hnext⟩ := Option.ne_none_iff_exists'.1 (hfound v hv hmet)
        have hshort := hstop.resolve_left hmet
        rw [stepNorm, wNext, hnext, Option.getD_some] at hshort
        exact ⟨v, hv, .inr ⟨next, hnext, hshort⟩⟩

/-! ## The objective -/

variable [IsStrictOrderedRing α]

/-- The direction never ascends. -/
theorem descent_nonpos (a : Fin n → α) : (solver.descent M a).2 ≤ 0 := by
  unfold descent
  dsimp only
  split_ifs with hascends
  · exact neg_nonpos.2 (Finset.sum_nonneg fun i _ => mul_self_nonneg _)
  · exact not_lt.1 hascends

/-- An accepted candidate does not raise the objective. -/
theorem backtrack_le {w direction : Fin n → α} {fCurr derivative : α} (hderivative : derivative ≤ 0) {tries : ℕ} {stepSize : α}
    (hstep : 0 < stepSize) {w' : Fin n → α} (h : solver.backtrack M w direction fCurr derivative tries stepSize = some w') :
    solver.penalisedObjective (solver.forward M w') ≤ fCurr := by
  induction tries generalizing stepSize with
  | zero => cases h
  | succ tries ih =>
    rw [backtrack] at h
    split_ifs at h with haccept
    · cases h
      have hdecrease : solver.config.armijoC1 * stepSize * derivative ≤ 0 :=
        mul_nonpos_of_nonneg_of_nonpos (mul_nonneg solver.config.armijoC1_mem.1.le hstep.le) hderivative
      exact haccept.trans (add_le_of_nonpos_right hdecrease)
    · exact ih (mul_pos hstep solver.config.lineSearchBacktrack_mem.1) h

theorem objective_wNext (w : Fin n → α) :
    solver.penalisedObjective (solver.forward M (solver.wNext M w)) ≤ solver.penalisedObjective (solver.forward M w) := by
  rw [wNext]
  cases h : solver.lineSearch M w with
  | none => exact le_rfl
  | some w' => exact backtrack_le (descent_nonpos _) zero_lt_one h

theorem objective_loop (rounds : ℕ) (s : NewtonState n α) :
    solver.penalisedObjective (solver.forward M (solver.loop M rounds s).wCurr) ≤
    solver.penalisedObjective (solver.forward M s.wCurr) := by
  induction rounds generalizing s with
  | zero => exact le_rfl
  | succ rounds ih =>
    rw [loop]
    split_ifs with hmet hstep
    · exact le_rfl
    · exact objective_wNext s.wCurr
    · exact (ih _).trans (objective_wNext s.wCurr)

/-! ## The weights -/

/-- The transform keeps within the bounds. -/
theorem forward_mem (M : StrategyMath α) (solver : VectorizedNewtonSolver n α) (w : Fin n → α) (i : Fin n) :
    0 < solver.forward M w i ∧ solver.forward M w i ≤ solver.wMax := by
  have hbounds : (lit (1 / 10 ^ 15) : α) ≤ 1 - lit (1 / 10 ^ 15) := by
    rw [le_sub_iff_add_le, lit_add]
    exact lit_le_one.2 (by norm_num)
  have hsmall : (0 : α) < lit (1 / 10 ^ 15) := lit_pos.2 (by norm_num)
  have hmax : 0 < solver.wMax := solver.stackelberg.maxWeightPerAsset_mem.1
  rw [forward, LatentSoftmax.forward]
  obtain ⟨hlo, hhi⟩ := clip_mem (x := 1 / (1 + M.exp (-clip (w i) (lit (-50)) (lit 50)))) hbounds
  exact ⟨mul_pos hmax (hsmall.trans_le hlo), mul_le_of_le_one_right hmax.le (hhi.trans (sub_le_self 1 hsmall.le))⟩

/-- The returned weights are within the bounds and the leverage. -/
theorem extract_mem (M : StrategyMath α) (solver : VectorizedNewtonSolver n α) (w : Fin n → α) :
    (∀ i, 0 ≤ solver.extract M w i ∧ solver.extract M w i ≤ solver.wMax) ∧ ∑ i, solver.extract M w i ≤ solver.lMax := by
  have hmax : 0 ≤ solver.wMax := solver.stackelberg.maxWeightPerAsset_mem.1.le
  have hlimit : 0 < solver.lMax := solver.stackelberg.grossLeverageLimit_mem.1
  have hclip : ∀ x : α, 0 ≤ x → clip x 0 solver.wMax ≤ x := fun x hx => by
    rw [clip, max_eq_right hx]
    exact min_le_right _ _
  refine ⟨fun i => clip_mem hmax, ?_⟩
  unfold extract
  split_ifs with hover
  · have htotal : 0 < ∑ i, solver.forward M w i := hlimit.trans hover
    calc ∑ i, clip (solver.forward M w i / (∑ k, solver.forward M w k) * solver.lMax) 0 solver.wMax
        ≤ ∑ i, solver.forward M w i / (∑ k, solver.forward M w k) * solver.lMax := Finset.sum_le_sum fun i _ =>
          hclip _ (mul_nonneg (div_nonneg (forward_mem M solver w i).1.le htotal.le) hlimit.le)
      _ = solver.lMax := by rw [← Finset.sum_mul, ← Finset.sum_div, div_self htotal.ne', one_mul]
  · exact (Finset.sum_le_sum fun i _ => hclip _ (forward_mem M solver w i).1.le).trans (not_lt.1 hover)

/-- The clamp of the exponent is past the logit of every share that `inverse` lets through. -/
theorem logit_mem {r : ℝ} (hlo : 1 / 10 ^ 7 ≤ r) (hhi : r ≤ 1 - 1 / 10 ^ 7) :
    -50 ≤ Real.log (r / (1 - r)) ∧ Real.log (r / (1 - r)) ≤ 50 := by
  have hexp : (10 ^ 7 : ℝ) ≤ Real.exp 50 := by
    calc (10 ^ 7 : ℝ) ≤ 2 ^ 50 := by norm_num
      _ ≤ Real.exp 1 ^ 50 := pow_le_pow_left₀ zero_le_two (by linarith [Real.add_one_le_exp 1]) 50
      _ = Real.exp 50 := by rw [← Real.exp_nat_mul]; norm_num
  have hr0 : 0 < r := lt_of_lt_of_le (by norm_num) hlo
  have hr1 : 0 < 1 - r := by linarith
  have hodds : 0 < r / (1 - r) := div_pos hr0 hr1
  constructor
  · rw [Real.le_log_iff_exp_le hodds, Real.exp_neg]
    calc (Real.exp 50)⁻¹ ≤ (10 ^ 7 : ℝ)⁻¹ := inv_anti₀ (by norm_num) hexp
      _ ≤ r := by linarith
      _ ≤ r / (1 - r) := le_div_self hr0.le hr1 (by linarith)
  · rw [Real.log_le_iff_le_exp hodds, div_le_iff₀ hr1]
    nlinarith

/-- The transform takes an allocation back to itself, but for shares of the bound next to 0 and 1. -/
theorem forward_inverse {solver : VectorizedNewtonSolver n ℝ} {a : Fin n → ℝ}
    (h : ∀ i, lit (1 / 10 ^ 7) ≤ a i / solver.wMax ∧ a i / solver.wMax ≤ 1 - lit (1 / 10 ^ 7)) :
    solver.forward exactMath (LatentSoftmax.inverse exactMath solver.wMax a) = a := by
  funext i
  have hmax : 0 < solver.wMax := solver.stackelberg.maxWeightPerAsset_mem.1
  have hlo : (1 / 10 ^ 7 : ℝ) ≤ a i / solver.wMax := by simpa [lit] using (h i).1
  have hhi : a i / solver.wMax ≤ 1 - 1 / 10 ^ 7 := by simpa [lit] using (h i).2
  rw [forward, LatentSoftmax.forward, LatentSoftmax.inverse]
  dsimp only [exactMath]
  rw [clip_of_mem (h i)]
  generalize hr : a i / solver.wMax = r at hlo hhi
  have hr0 : 0 < r := lt_of_lt_of_le (by norm_num) hlo
  have hr1 : 0 < 1 - r := by linarith
  have hlogit : lit (-50) ≤ Real.log (r / (1 - r)) ∧ Real.log (r / (1 - r)) ≤ lit 50 := by
    simpa [lit] using logit_mem hlo hhi
  have hshare : 1 / (1 + Real.exp (-Real.log (r / (1 - r)))) = r := by
    rw [Real.exp_neg, Real.exp_log (div_pos hr0 hr1)]
    field_simp
    ring
  have hmem : lit (1 / 10 ^ 15) ≤ r ∧ r ≤ 1 - lit (1 / 10 ^ 15) := by
    constructor
    · exact (lit_le_lit.2 (by norm_num)).trans (hr ▸ (h i).1)
    · refine (hr ▸ (h i).2).trans (sub_le_sub_left (lit_le_lit.2 (by norm_num)) 1)
  rw [clip_of_mem hlogit, hshare, clip_of_mem hmem, ← hr]
  exact mul_div_cancel₀ _ hmax.ne'

end VectorizedNewtonSolver

open VectorizedNewtonSolver in
/-- The weights are within the bounds and the leverage, the penalised objective at the last iterate is at most that at the first,
which is the warm start unless this is next to a bound, and the flag of convergence is certified exactly where the line search
never gives up. -/
theorem solverCertificate {solver : VectorizedNewtonSolver n ℝ} {problem : RegretProblem n ℝ} {initialWeights : Option (List ℝ)}
    {initialGuess : Option (Fin n → ℝ)} {result : OptimizationResult n ℝ}
    (h : solver.solve exactMath problem initialWeights initialGuess = .ok result) :
    (∀ i, 0 ≤ result.optimalWeights i ∧ result.optimalWeights i ≤ solver.wMax) ∧ ∑ i, result.optimalWeights i ≤ solver.lMax ∧
      ∃ start, solver.warmStart (initialWeights.map fun ws i => ws.getD i 0) initialGuess = .ok start ∧
        let first := (solver.initialState exactMath start).wCurr
        let last := (solver.finalState exactMath start).wCurr
        let rounds := solver.config.maxIterations.toNat
        solver.penalisedObjective (solver.forward exactMath last) ≤ solver.penalisedObjective (solver.forward exactMath first) ∧
        ((∀ i, lit (1 / 10 ^ 7) ≤ start i / solver.wMax ∧ start i / solver.wMax ≤ 1 - lit (1 / 10 ^ 7)) →
          solver.forward exactMath first = start) ∧
        ((result.solverConverged = true → Certified exactMath solver rounds first) ↔
          NeverGivesUp exactMath solver rounds first) := by
  unfold solve at h
  dsimp only at h
  split_ifs at h with hdim hlen
  obtain ⟨start, hstart, hresult⟩ := exists_of_bind_ok h
  cases hresult
  obtain ⟨hbounds, hleverage⟩ := extract_mem exactMath solver (solver.finalState exactMath start).wCurr
  exact ⟨hbounds, hleverage, start, hstart, objective_loop _ _, forward_inverse, certified_iff Real.sqrt_zero _ rfl⟩

/-! ## The potential of some regimes -/

/-- What the potential evaluator computes of some regimes, with a Hessian. -/
noncomputable def MinimaxRegretConfig.dualOf (config : MinimaxRegretConfig ℝ) (regimes : List (RatedRegime n)) (temperature : ℝ)
    (hessian : (Fin n → ℝ) → List ℝ → List (Fin n → ℝ) → Matrix (Fin n) (Fin n) ℝ) : DualPotential n ℝ where
  potential := fun a => (config.potentialOf regimes temperature a).potential
  boltzmannDistribution := fun a => (config.potentialOf regimes temperature a).boltzmannDistribution
  gradient := fun a => (config.gradientOf regimes temperature a).gradient
  regimeGradients := fun a => (config.gradientOf regimes temperature a).regimeGradients
  hessian := hessian

/-- It is what the two functions return. -/
theorem MinimaxRegretConfig.dualOf_evaluates (config : MinimaxRegretConfig ℝ) {regimes : List (RatedRegime n)} (temperature : ℝ)
    (hne : regimes ≠ []) (hprior : ∀ t ∈ regimes, 0 < t.prior)
    (hessian : (Fin n → ℝ) → List ℝ → List (Fin n → ℝ) → Matrix (Fin n) (Fin n) ℝ) (a : Fin n → ℝ) :
    let dual := config.dualOf regimes temperature hessian
    (∃ regrets, config.evaluatePotential exactMath (.ofRegimes regimes temperature) a =
      .ok ⟨dual.potential a, dual.boltzmannDistribution a, regrets⟩) ∧
    config.evaluateGradient exactMath (.ofRegimes regimes temperature) a =
      .ok ⟨dual.gradient a, dual.potential a, dual.boltzmannDistribution a, dual.regimeGradients a⟩ :=
  ⟨⟨_, evaluatePotential_eq hne hprior a⟩, evaluateGradient_eq hne hprior a⟩

/-! ## One asset in one regime -/

theorem StackelbergConfig.create_config (stackelberg : StackelbergConfig ℝ) :
    stackelberg.toStackelbergConfigFields.create = .ok stackelberg := by
  rw [StackelbergConfigFields.create, dif_neg (not_lt.2 stackelberg.executionHorizon_pos),
    dif_neg (not_lt.2 stackelberg.hyperbolicDecayRate_nonneg), dif_neg (not_le.2 stackelberg.riskAversion_pos),
    dif_neg (not_lt.2 stackelberg.predatoryShadingIntensity_nonneg), dif_neg (not_lt.2 stackelberg.riskFreeRate_nonneg),
    dif_neg (not_not.2 stackelberg.maxWeightPerAsset_mem), dif_neg (not_not.2 stackelberg.grossLeverageLimit_mem),
    dif_neg (not_lt.2 stackelberg.maxWeightPerAsset_le)]

/-- The default configuration of the game. -/
noncomputable def defaultStackelberg : StackelbergConfig ℝ where
  toStackelbergConfigFields := .default
  executionHorizon_pos := by decide
  hyperbolicDecayRate_nonneg := (lit_pos.2 (by norm_num)).le
  riskAversion_pos := zero_lt_one
  predatoryShadingIntensity_nonneg := (lit_pos.2 (by norm_num)).le
  riskFreeRate_nonneg := le_rfl
  maxWeightPerAsset_mem := ⟨lit_pos.2 (by norm_num), lit_le_one.2 (by norm_num)⟩
  grossLeverageLimit_mem := ⟨zero_lt_one, le_rfl⟩
  maxWeightPerAsset_le := lit_le_one.2 (by norm_num)

/-- One equation with one unknown: it raises where the coefficient is zero. -/
noncomputable def solveOne (A : Matrix (Fin 1) (Fin 1) ℝ) (b : Fin 1 → ℝ) : Option (Fin 1 → ℝ) :=
  if A (Fin.last 0) (Fin.last 0) = 0 then none else some fun i => b i / A (Fin.last 0) (Fin.last 0)

/-- The default solver for a regime in which the one asset's weight is the utility, which has no curvature. -/
noncomputable def weightSolver (ceiling : ℝ) : VectorizedNewtonSolver 1 ℝ where
  config := defaultMinimax
  stackelberg := defaultStackelberg
  dual := defaultMinimax.dualOf [⟨weightPayoff, ceiling, 1⟩] 1 fun _ _ _ => 0
  linalgSolve := solveOne

/-- Half of the bound on a weight, where the solver starts. -/
noncomputable def halfBound : Fin 1 → ℝ := fun _ => 3 / 20

open VectorizedNewtonSolver in
theorem warmStart_weightSolver (ceiling : ℝ) : (weightSolver ceiling).warmStart none none = .ok halfBound := by
  have hmin : min ((weightSolver ceiling).wMax * lit (1 / 2)) ((weightSolver ceiling).lMax / (lit 2 * ((1 : ℕ) : ℝ))) =
      3 / 20 := by
    change min ((lit (30 / 100) : ℝ) * lit (1 / 2)) (1 / (lit 2 * ((1 : ℕ) : ℝ))) = 3 / 20
    norm_num [lit]
  unfold warmStart
  dsimp only [Option.or]
  rw [if_neg one_ne_zero, hmin]
  rfl

theorem solve_weightSolver (ceiling : ℝ) : (weightSolver ceiling).solve exactMath (weightProblem ceiling) none none =
    .ok ((weightSolver ceiling).resultOf exactMath ((weightSolver ceiling).finalState exactMath halfBound)) := by
  unfold VectorizedNewtonSolver.solve
  dsimp only
  rw [if_neg (by simp [weightProblem]), if_neg (by simp), Option.map_none, warmStart_weightSolver]
  rfl

open VectorizedNewtonSolver in
theorem forward_halfBound (ceiling : ℝ) : (weightSolver ceiling).forward exactMath
    (LatentSoftmax.inverse exactMath (weightSolver ceiling).wMax halfBound) = halfBound := by
  refine forward_inverse fun i => ?_
  have hratio : halfBound i / (weightSolver ceiling).wMax = 1 / 2 := by
    change (3 / 20 : ℝ) / lit (30 / 100) = 1 / 2
    norm_num [lit]
  rw [hratio]
  norm_num [lit]

open VectorizedNewtonSolver in
/-- The solver's result on the regime is within the bounds and the leverage, costs no more than the start at half of the bound,
and its flag is certified where no line search gives up. -/
theorem solverCertificate_weightSolver : ∃ result, (weightSolver 1).solve exactMath (weightProblem 1) none none = .ok result ∧
    (∀ i, 0 ≤ result.optimalWeights i ∧ result.optimalWeights i ≤ (weightSolver 1).wMax) ∧
    ∑ i, result.optimalWeights i ≤ (weightSolver 1).lMax ∧
    (weightSolver 1).penalisedObjective
      ((weightSolver 1).forward exactMath ((weightSolver 1).finalState exactMath halfBound).wCurr) ≤
      (weightSolver 1).penalisedObjective halfBound ∧
    ((result.solverConverged = true → Certified exactMath (weightSolver 1) (weightSolver 1).config.maxIterations.toNat
        ((weightSolver 1).initialState exactMath halfBound).wCurr) ↔
      NeverGivesUp exactMath (weightSolver 1) (weightSolver 1).config.maxIterations.toNat
        ((weightSolver 1).initialState exactMath halfBound).wCurr) := by
  obtain ⟨hbounds, hleverage, start, hstart, hdescent, -, hflag⟩ := solverCertificate (solve_weightSolver 1)
  obtain rfl : halfBound = start := Except.ok.inj ((warmStart_weightSolver 1).symm.trans hstart)
  rw [show (weightSolver 1).forward exactMath ((weightSolver 1).initialState exactMath halfBound).wCurr = halfBound from
    forward_halfBound 1] at hdescent
  exact ⟨_, solve_weightSolver 1, hbounds, hleverage, hdescent, hflag⟩

/-! ## A line search that gives up -/

section GivesUp

open VectorizedNewtonSolver

/-- Along a direction of descent, a constant objective has no acceptable step. -/
theorem VectorizedNewtonSolver.backtrack_eq_none {solver : VectorizedNewtonSolver n ℝ} {w direction : Fin n → ℝ}
    {f derivative : ℝ}
    (hflat : ∀ v, solver.penalisedObjective (solver.forward exactMath v) = f) (hderivative : derivative < 0)
    {tries : ℕ} {stepSize : ℝ}
    (hstep : 0 < stepSize) : solver.backtrack exactMath w direction f derivative tries stepSize = none := by
  induction tries generalizing stepSize with
  | zero => rfl
  | succ tries ih =>
    have hreject : ¬ f ≤ f + solver.config.armijoC1 * stepSize * derivative :=
      not_le.2 (add_lt_of_neg_right f (mul_neg_of_pos_of_neg (mul_pos solver.config.armijoC1_mem.1 hstep) hderivative))
    rw [backtrack]
    rw [hflat, if_neg hreject]
    exact ih (mul_pos hstep solver.config.lineSearchBacktrack_mem.1)

/-- There is no excess over the leverage with one asset. -/
theorem excessLeverage_weightSolver (ceiling : ℝ) {a : Fin 1 → ℝ} (ha : a 0 ≤ 1) :
    (weightSolver ceiling).excessLeverage a = 0 := by
  rw [excessLeverage, Fin.sum_univ_one]
  exact max_eq_left (sub_nonpos.2 ha)

/-- Above a ceiling of zero the objective is flat. -/
theorem objective_weightSolver (w : Fin 1 → ℝ) :
    (weightSolver 0).penalisedObjective ((weightSolver 0).forward exactMath w) = 0 := by
  obtain ⟨hpos, hle⟩ := forward_mem exactMath (weightSolver 0) w 0
  have hone : (weightSolver 0).forward exactMath w 0 ≤ 1 := hle.trans defaultStackelberg.maxWeightPerAsset_mem.2
  have hregret : (⟨weightPayoff, 0, 1⟩ : RatedRegime 1).regret ((weightSolver 0).forward exactMath w) = 0 := by
    rw [RatedRegime.regret, RatedRegime.shortfall]
    exact max_eq_left (sub_nonpos.2 hpos.le)
  have hpotential : (weightSolver 0).dual.potential ((weightSolver 0).forward exactMath w) = 0 := by
    change defaultMinimax.beta 1 * Real.log ([(⟨weightPayoff, 0, 1⟩ : RatedRegime 1)].map fun t =>
      t.prior * Real.exp (t.regret ((weightSolver 0).forward exactMath w) / defaultMinimax.beta 1)).sum = 0
    rw [List.map_singleton, List.sum_singleton, hregret, zero_div, Real.exp_zero, mul_one, Real.log_one, mul_zero]
  rw [penalisedObjective, hpotential, excessLeverage_weightSolver 0 hone]
  ring

/-- The gradient that the solver is given there is not flat. -/
theorem gradATotal_halfBound : (weightSolver 0).gradATotal halfBound = fun _ => -1 := by
  have hgradient : (weightSolver 0).dual.gradient halfBound = fun _ => -1 := by
    change (defaultMinimax.gradientOf [⟨weightPayoff, 0, 1⟩] 1 halfBound).gradient = _
    rw [MinimaxRegretConfig.gradientOf]
    funext i
    simp [MinimaxRegretConfig.tilted, MinimaxRegretConfig.partitionSum, weightPayoff]
  funext i
  rw [gradATotal, hgradient, excessLeverage_weightSolver 0 (by norm_num [halfBound])]
  ring

theorem wMax_weightSolver (ceiling : ℝ) : (weightSolver ceiling).wMax = 3 / 10 := by
  change (lit (30 / 100) : ℝ) = 3 / 10
  norm_num [lit]

theorem gradW_halfBound : (weightSolver 0).gradW halfBound = fun _ => -(3 / 40) := by
  funext i
  rw [gradW, gradATotal_halfBound, wMax_weightSolver, LatentSoftmax.jacobianDiagonal, halfBound]
  norm_num

theorem npNorm_one (x : ℝ) : npNorm exactMath (fun _ : Fin 1 => x) = |x| := by
  rw [npNorm, Fin.sum_univ_one]
  exact Real.sqrt_sq_eq_abs x

/-- The test of the gradient is not met. -/
theorem not_gradientMet_halfBound : ¬ (weightSolver 0).GradientMet exactMath halfBound := by
  have hproj : (weightSolver 0).projGrad halfBound = fun _ => -1 := by
    funext i
    unfold projGrad
    rw [gradATotal_halfBound, wMax_weightSolver]
    norm_num [halfBound, lit]
  have htolerance : (weightSolver 0).config.gradientTolerance = 1 / 10 ^ 6 := by
    change (lit (1 / 10 ^ 6) : ℝ) = 1 / 10 ^ 6
    norm_num [lit]
  rw [GradientMet, gradW_halfBound, hproj, npNorm_one, npNorm_one, htolerance]
  norm_num

/-- The Newton step descends. -/
theorem descent_halfBound : ((weightSolver 0).descent exactMath halfBound).2 < 0 := by
  have hhess : (weightSolver 0).hessW halfBound (Fin.last 0) (Fin.last 0) = 1 / 10 ^ 4 := by
    have hdamping : (weightSolver 0).config.levenbergDamping = 1 / 10 ^ 4 := by
      change (lit (1 / 10 ^ 4) : ℝ) = 1 / 10 ^ 4
      norm_num [lit]
    unfold hessW
    dsimp only
    rw [excessLeverage_weightSolver 0 (by norm_num [halfBound]), gradATotal_halfBound, wMax_weightSolver,
      if_neg (lt_irrefl _), if_pos rfl,
      hdamping]
    norm_num [LatentSoftmax.hessianDiagonalFactor, halfBound, weightSolver, MinimaxRegretConfig.dualOf, lit]
  have hsolve : (weightSolver 0).linalgSolve ((weightSolver 0).hessW halfBound) (fun _ => -(3 / 40)) = some fun _ => -750 := by
    change solveOne _ _ = _
    rw [solveOne, if_neg (by rw [hhess]; norm_num), hhess]
    norm_num
  unfold descent
  dsimp only
  rw [gradW_halfBound, hsolve]
  norm_num [VectorizedNewtonSolver.dot]

/-- Where the utility exceeds the ceiling the line search gives up at once, far from where the gradient would vanish, and the
solver reports convergence. -/
theorem solverCertificate_counterexample :
    (MinimaxRegretConfigFields.default : MinimaxRegretConfigFields ℝ).create = .ok (weightSolver 0).config ∧
    (StackelbergConfigFields.default : StackelbergConfigFields ℝ).create = .ok (weightSolver 0).stackelberg ∧
    ∃ result, (weightSolver 0).solve exactMath (weightProblem 0) none none = .ok result ∧ result.solverConverged = true ∧
      ∃ start, (weightSolver 0).warmStart none none = .ok start ∧
        ¬ Certified exactMath (weightSolver 0) (weightSolver 0).config.maxIterations.toNat
          ((weightSolver 0).initialState exactMath start).wCurr := by
  refine ⟨defaultMinimax.create_config, defaultStackelberg.create_config, _, solve_weightSolver 0, ?_⟩
  have hnone : (weightSolver 0).lineSearch exactMath ((weightSolver 0).initialState exactMath halfBound).wCurr = none := by
    have hforward : (weightSolver 0).forward exactMath ((weightSolver 0).initialState exactMath halfBound).wCurr = halfBound :=
      forward_halfBound 0
    rw [lineSearch]
    dsimp only
    rw [hforward]
    have hobjective : (weightSolver 0).penalisedObjective halfBound = 0 := hforward ▸ objective_weightSolver _
    rw [hobjective]
    exact backtrack_eq_none objective_weightSolver descent_halfBound zero_lt_one
  have hgivesUp : ¬ NeverGivesUp exactMath (weightSolver 0) (weightSolver 0).config.maxIterations.toNat
      ((weightSolver 0).initialState exactMath halfBound).wCurr := fun hfound => by
    refine hfound _ List.mem_cons_self ?_ hnone
    rw [show (weightSolver 0).forward exactMath ((weightSolver 0).initialState exactMath halfBound).wCurr = halfBound from
      forward_halfBound 0]
    exact not_gradientMet_halfBound
  have htrue := mt (certified_iff (M := exactMath) Real.sqrt_zero (weightSolver 0).config.maxIterations.toNat rfl).1 hgivesUp
  obtain ⟨hconverged, hcertified⟩ := Classical.not_imp.1 htrue
  exact ⟨hconverged, halfBound, warmStart_weightSolver 0, hcertified⟩

end GivesUp

end Quant
