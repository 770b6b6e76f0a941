import Quant.Analytics.Ensemble
import Quant.Theorems.StrategySignals

/-!
# Model averaging

With the real functions for `np.exp`, `np.log` and `np.sqrt`: the engine raises on nothing but its arguments, and every weight and
posterior it keeps stays off zero over every run; a mirror descent never raises its objective; a correlation matrix it estimates
is as definite as its ridge.
-/

namespace Quant

open Pylib

/-! ## Tolerances -/

section Tolerances

theorem isClose_self {relTol absTol x : ℝ} (h : 0 ≤ absTol) : IsClose relTol absTol x x := by
  rw [IsClose, sub_self, abs_zero]
  exact h.trans (le_max_right _ _)

theorem isCloseToOne_of_eq {x : ℝ} (h : x = 1) : IsCloseToOne x := by
  subst h
  exact isClose_self (lit_pos.2 (by norm_num)).le

/-- What is close to one is positive. -/
theorem pos_of_isCloseToOne {x : ℝ} (h : IsCloseToOne x) : 0 < x := by
  by_contra! hx
  have habs : |x - 1| = 1 - x := by
    rw [abs_of_nonpos (by linarith)]
    ring
  have hmax : max |x| |(1 : ℝ)| ≤ 1 - x := by
    rw [abs_one, abs_of_nonpos hx]
    exact max_le (by linarith) (by linarith)
  have hrel : (lit (1 / 10 ^ 9) : ℝ) ≤ 1 / 2 := by
    rw [lit]
    norm_num
  have habsTol : (lit (1 / 10 ^ 10) : ℝ) ≤ 1 / 2 := by
    rw [lit]
    norm_num
  rw [IsCloseToOne, IsClose, habs] at h
  rcases le_max_iff.1 h with h | h
  · have hscaled : (lit (1 / 10 ^ 9) : ℝ) * max |x| |(1 : ℝ)| ≤ 1 / 2 * (1 - x) :=
      mul_le_mul hrel hmax (le_max_of_le_left (abs_nonneg _)) (by norm_num)
    linarith
  · linarith

end Tolerances

/-! ## Vectors -/

section Vectors

variable {K : ℕ}

theorem epsFloor_mem (hK : 1 ≤ K) {floor : ℝ} (hfloor : 0 < floor) : 0 < epsFloor K floor ∧ K * epsFloor K floor < 1 := by
  have hcast : (0 : ℝ) < K := Nat.cast_pos.2 hK
  have hhalf : (0 : ℝ) < lit (1 / 2) ∧ (lit (1 / 2) : ℝ) < 1 := by
    rw [lit]
    norm_num
  rw [epsFloor]
  split_ifs with hone
  · refine ⟨div_pos hhalf.1 hcast, ?_⟩
    rw [mul_div_cancel₀ _ hcast.ne']
    exact hhalf.2
  · refine ⟨hfloor, ?_⟩
    rw [mul_comm]
    exact not_le.1 hone

/-- Weights that sum to one, none of them under a floor. -/
def Floored (eps : ℝ) (w : Fin K → ℝ) : Prop := (∀ k, eps ≤ w k) ∧ ∑ k, w k = 1

theorem Floored.mem {eps : ℝ} {w : Fin K → ℝ} (h : Floored eps w) (heps : 0 ≤ eps) : w ∈ stdSimplex ℝ (Fin K) :=
  ⟨fun k => heps.trans (h.1 k), h.2⟩

theorem Floored.pos {eps : ℝ} {w : Fin K → ℝ} (h : Floored eps w) (heps : 0 < eps) (k : Fin K) : 0 < w k := heps.trans_le (h.1 k)

theorem laplace_eq_lift (eps : ℝ) (w : Fin K → ℝ) : laplace eps w = lift eps w := by
  funext k
  rw [laplace, lift, Fintype.card_fin]

/-- What is smoothed is floored, and the division by its sum changes nothing. -/
theorem floored_laplace {eps : ℝ} (heps : K * eps ≤ 1) {w : Fin K → ℝ} (hw : w ∈ stdSimplex ℝ (Fin K)) :
    Floored eps (npNormalize (laplace eps w)) := by
  rw [laplace_eq_lift, npNormalize_of_sum (sum_lift hw.2)]
  exact ⟨le_lift (by rwa [Fintype.card_fin]) hw.1, sum_lift hw.2⟩

/-- Equal weights are above the floor. -/
theorem floored_uniform (hK : 1 ≤ K) {floor : ℝ} (hfloor : 0 < floor) :
    Floored (epsFloor K floor) fun _ : Fin K => 1 / (K : ℝ) := by
  have hcast : (0 : ℝ) < K := Nat.cast_pos.2 hK
  refine ⟨fun _ => ?_, ?_⟩
  · rw [le_div_iff₀ hcast, mul_comm]
    exact (epsFloor_mem hK hfloor).2.le
  · rw [Finset.sum_const, Finset.card_univ, Fintype.card_fin, nsmul_eq_mul, mul_one_div, div_self hcast.ne']

variable [Nonempty (Fin K)]

theorem npMax_ok (v : Fin K → ℝ) : ∃ m, npMax v = .ok m := by
  have hne : List.ofFn v ≠ [] := by
    rw [Ne, List.ofFn_eq_nil_iff]
    exact (Fin.pos_iff_nonempty.2 inferInstance).ne'
  obtain ⟨m, hm⟩ := Option.ne_none_iff_exists'.1 (mt List.max?_eq_none_iff.1 hne)
  exact ⟨m, by rw [npMax, hm]⟩

theorem expShifted_ok (v : Fin K → ℝ) : ∃ m, expShifted exactMath v = .ok fun k => Real.exp (v k - m) := by
  obtain ⟨m, hm⟩ := npMax_ok v
  exact ⟨m, by rw [expShifted, hm]; rfl⟩

/-- Exponentials are positive and can be normalised. -/
theorem npNormalize_exp (v : Fin K → ℝ) : (∀ k, 0 < npNormalize (fun k => Real.exp (v k)) k) ∧
    ∑ k, npNormalize (fun k => Real.exp (v k)) k = 1 := by
  have hpos : ∀ k, 0 < Real.exp (v k) := fun k => Real.exp_pos _
  exact ⟨npNormalize_pos hpos, (npNormalize_mem (fun k => (hpos k).le) (sum_pos_of_forall hpos)).2⟩

end Vectors

/-! ## Mirror descent -/

namespace OrthogonalityRegularizedSolver

section Descent

variable {K : ℕ} {self : OrthogonalityRegularizedSolver ℝ} {scores : Fin K → ℝ} {c : Matrix (Fin K) (Fin K) ℝ}

theorem stepFactor_pos (self : OrthogonalityRegularizedSolver ℝ) : 0 < self.stepFactor :=
  div_pos self.learningRate_pos self.temperature_pos

/-- The branch without a penalty is the other one at zero. -/
theorem mirrorGradient_eq (self : OrthogonalityRegularizedSolver ℝ) (scores : Fin K → ℝ) (c : Matrix (Fin K) (Fin K) ℝ)
    (w : Fin K → ℝ) :
    self.mirrorGradient scores c w = -self.stepFactor • (scores + self.orthogonalityPenalty • c.mulVec w) := by
  funext k
  have hsum : ∑ j, -self.stepFactor * self.orthogonalityPenalty * c k j * w j =
      -self.stepFactor * (self.orthogonalityPenalty * ∑ j, c k j * w j) := by
    simp only [Finset.mul_sum, mul_assoc]
  have hright : (-self.stepFactor • (scores + self.orthogonalityPenalty • c.mulVec w)) k =
      -self.stepFactor * (scores k + self.orthogonalityPenalty * ∑ j, c k j * w j) := rfl
  rw [mirrorGradient, hright]
  split_ifs with h
  · change (∑ j, -self.stepFactor * self.orthogonalityPenalty * c k j * w j) + -self.stepFactor * scores k = _
    rw [hsum]
    ring
  · rw [le_antisymm (not_lt.1 h) self.orthogonalityPenalty_nonneg]
    ring

variable [Nonempty (Fin K)]

/-- The shift by the largest entry is invisible, and the denominator is positive. -/
theorem mirrorStep_eq {w : Fin K → ℝ} (hw : ∀ k, 0 < w k) :
    self.mirrorStep exactMath scores c w = .ok (expGradStep (self.mirrorGradient scores c w) w) := by
  obtain ⟨m, hm⟩ := expShifted_ok (self.mirrorGradient scores c w)
  have hpos : 0 < ∑ k, Real.exp (self.mirrorGradient scores c w k - m) * w k :=
    sum_pos_of_forall fun k => mul_pos (Real.exp_pos _) (hw k)
  have hshift : npNormalize (fun k => Real.exp (self.mirrorGradient scores c w k - m) * w k) =
      expGradStep (self.mirrorGradient scores c w) w := expGradStep_sub_const m _ w
  rw [mirrorStep, hm]
  change (if _ then _ else _) = _
  rw [if_neg (not_le.2 hpos), hshift]

/-- What a step keeps, the loop keeps, wherever the tolerance ends it. -/
theorem mirrorLoop_of_step (self : OrthogonalityRegularizedSolver ℝ) (scores : Fin K → ℝ) (c : Matrix (Fin K) (Fin K) ℝ)
    {P : (Fin K → ℝ) → Prop} (hpos : ∀ w, P w → ∀ k, 0 < w k)
    (hstep : ∀ w, P w → P (expGradStep (self.mirrorGradient scores c w) w)) (fuel : ℕ) {w : Fin K → ℝ} (hw : P w) :
    ∃ v, self.mirrorLoop exactMath scores c fuel w = .ok v ∧ P v := by
  induction fuel generalizing w with
  | zero => exact ⟨w, rfl, hw⟩
  | succ fuel ih =>
    have hnext := hstep w hw
    obtain ⟨diff, hdiff⟩ := npMax_ok fun k => |expGradStep (self.mirrorGradient scores c w) w k - w k|
    rw [mirrorLoop, mirrorStep_eq (hpos w hw)]
    change ∃ v, (npMax _).bind _ = .ok v ∧ P v
    rw [hdiff]
    rw [Except.bind]
    split_ifs
    · exact ⟨_, rfl, hnext⟩
    · exact ih hnext

theorem mirrorLoop_ok (self : OrthogonalityRegularizedSolver ℝ) (scores : Fin K → ℝ) (c : Matrix (Fin K) (Fin K) ℝ) (fuel : ℕ)
    {w : Fin K → ℝ} (hw : ∀ k, 0 < w k) (hsum : ∑ k, w k = 1) :
    ∃ v, self.mirrorLoop exactMath scores c fuel w = .ok v ∧ (∀ k, 0 < v k) ∧ ∑ k, v k = 1 :=
  mirrorLoop_of_step self scores c (P := fun v => (∀ k, 0 < v k) ∧ ∑ k, v k = 1) (fun _ h => h.1)
    (fun _ h => ⟨expGradStep_pos h.1, sum_expGradStep h.1⟩) fuel ⟨hw, hsum⟩

/-- One step lowers the objective, unless it moves nothing. -/
theorem quadScore_mirror_lt (scores : Fin K → ℝ) (hsymm : c.IsSymm) (hc : ∀ i j, |c i j| ≤ 1)
    (hstep : self.stepFactor * self.orthogonalityPenalty < 2)
    {w : Fin K → ℝ} (hw : ∀ k, 0 < w k) (hsum : ∑ k, w k = 1) :
    quadScore scores self.orthogonalityPenalty c (expGradStep (self.mirrorGradient scores c w) w) <
        quadScore scores self.orthogonalityPenalty c w ∨
      expGradStep (self.mirrorGradient scores c w) w = w := by
  have hdescent := quadScore_expGradStep_le (s := scores) hsymm hc self.orthogonalityPenalty_nonneg self.stepFactor_pos hw hsum
  rw [← mirrorGradient_eq] at hdescent
  set u := expGradStep (self.mirrorGradient scores c w) w with hu
  by_cases hmove : u = w
  · exact .inr hmove
  · left
    obtain ⟨k, hk⟩ := Function.ne_iff.1 hmove
    have hlength : 0 < ∑ k, |u k - w k| :=
      Finset.sum_pos' (fun _ _ => abs_nonneg _) ⟨k, Finset.mem_univ k, abs_pos.2 (sub_ne_zero.2 hk)⟩
    have hrate : 0 < 1 / self.stepFactor - self.orthogonalityPenalty * 1 / 2 := by
      have hpos := self.stepFactor_pos
      have hone : 1 / self.stepFactor - self.orthogonalityPenalty * 1 / 2 =
          (2 - self.stepFactor * self.orthogonalityPenalty) / (2 * self.stepFactor) := by
        field_simp
      rw [hone]
      exact div_pos (by linarith) (by linarith)
    have htaken := mul_pos hrate (pow_pos hlength 2)
    linarith

/-- The loop ends lower than it starts, unless it ends where it starts. -/
theorem quadScore_mirrorLoop_lt (scores : Fin K → ℝ) (hsymm : c.IsSymm) (hc : ∀ i j, |c i j| ≤ 1)
    (hstep : self.stepFactor * self.orthogonalityPenalty < 2) (fuel : ℕ)
    {w : Fin K → ℝ} (hw : ∀ k, 0 < w k) (hsum : ∑ k, w k = 1) :
    ∃ v, self.mirrorLoop exactMath scores c fuel w = .ok v ∧
      (quadScore scores self.orthogonalityPenalty c v < quadScore scores self.orthogonalityPenalty c w ∨ v = w) := by
  have hkeep : ∀ v : Fin K → ℝ, (((∀ k, 0 < v k) ∧ ∑ k, v k = 1) ∧ (quadScore scores self.orthogonalityPenalty c v <
        quadScore scores self.orthogonalityPenalty c w ∨ v = w)) →
      (((∀ k, 0 < expGradStep (self.mirrorGradient scores c v) v k) ∧ ∑ k, expGradStep (self.mirrorGradient scores c v) v k = 1) ∧
        (quadScore scores self.orthogonalityPenalty c (expGradStep (self.mirrorGradient scores c v) v) <
          quadScore scores self.orthogonalityPenalty c w ∨ expGradStep (self.mirrorGradient scores c v) v = w)) := by
    rintro v ⟨⟨hvpos, hvsum⟩, hvlower⟩
    refine ⟨⟨expGradStep_pos hvpos, sum_expGradStep hvpos⟩, ?_⟩
    rcases quadScore_mirror_lt scores hsymm hc hstep hvpos hvsum with hdown | hstay
    · rcases hvlower with hlower | rfl
      · exact .inl (hdown.trans hlower)
      · exact .inl hdown
    · rwa [hstay]
  obtain ⟨v, hv, -, hlower⟩ := mirrorLoop_of_step self scores c (fun _ h => h.1.1) hkeep fuel ⟨⟨hw, hsum⟩, .inr rfl⟩
  exact ⟨v, hv, hlower⟩

end Descent

section Solve

variable {K : ℕ} {self : OrthogonalityRegularizedSolver ℝ} {scores : Fin K → ℝ} {c : Matrix (Fin K) (Fin K) ℝ}

/-- The loop starts with positive weights. -/
theorem warmStart_ok [Nonempty (Fin K)] {current : Fin K → ℝ} (hcurrent : ∀ k, 0 < current k) :
    ∃ w, warmStart (some current) = .ok w ∧ (∀ k, 0 < w k) ∧ ∑ k, w k = 1 := by
  have htiny : (0 : ℝ) < lit (1 / 10 ^ 30) := lit_pos.2 (by norm_num)
  have hfloor : ∀ k, 0 < max (npNormalize current k) (lit (1 / 10 ^ 30)) := fun k => lt_max_of_lt_right htiny
  refine ⟨npNormalize fun k => max (npNormalize current k) (lit (1 / 10 ^ 30)), ?_, npNormalize_pos hfloor,
    (npNormalize_mem (fun k => (hfloor k).le) (sum_pos_of_forall hfloor)).2⟩
  rw [warmStart, if_neg (by simpa using fun k => (hcurrent k).le), if_neg (not_le.2 (sum_pos_of_forall hcurrent))]

/-- Whatever the scores, the correlations and the positive weights before: the solver returns weights above its floor. -/
theorem solve_ok (self : OrthogonalityRegularizedSolver ℝ) (scores : Fin K → ℝ) (c : Matrix (Fin K) (Fin K) ℝ) (hK : 1 ≤ K)
    {current : Fin K → ℝ} (hcurrent : ∀ k, 0 < current k) :
    ∃ w, self.solve exactMath scores c (some current) = .ok w ∧ Floored (epsFloor K self.minWeightFloor) w := by
  have hne : Nonempty (Fin K) := Fin.pos_iff_nonempty.1 hK
  obtain ⟨w, hwarm, hw, hsum⟩ := warmStart_ok hcurrent
  obtain ⟨v, hloop, hv, hvsum⟩ := mirrorLoop_ok self scores c self.maxIter.toNat hw hsum
  obtain ⟨heps, hroom⟩ := epsFloor_mem hK self.minWeightFloor_pos
  have hfloored := floored_laplace hroom.le ⟨fun k => (hv k).le, hvsum⟩
  have hlifted : ∑ k, laplace (epsFloor K self.minWeightFloor) v k = 1 := by
    rw [laplace_eq_lift, sum_lift hvsum]
  refine ⟨_, ?_, hfloored⟩
  rw [solve, if_neg (Nat.not_lt.2 hK), hwarm]
  change (self.mirrorLoop exactMath scores c self.maxIter.toNat w).bind _ = _
  rw [hloop, Except.bind, if_neg (by rw [hlifted]; norm_num), if_neg (by simpa using fun k => hfloored.pos heps k),
    if_neg (not_not.2 (isCloseToOne_of_eq hfloored.2))]

end Solve

end OrthogonalityRegularizedSolver

/-! ## The default configuration -/

theorem lit_millionth_pos : (0 : ℝ) < lit (1 / 10 ^ 6) := lit_pos.2 (by norm_num)

theorem lit_hundredMillionth_pos : (0 : ℝ) < lit (1 / 10 ^ 8) := lit_pos.2 (by norm_num)

/-- The defaults pass the checks. -/
noncomputable def EnsembleConfig.default : EnsembleConfig ℝ :=
  { EnsembleConfigFields.default with
    forgetting_lt := lit_lt_lit.2 (by norm_num)
    baseForgettingFactor_mem := ⟨lit_lt_lit.2 (by norm_num), lit_lt_lit.2 (by norm_num)⟩
    minForgettingFactor_mem := ⟨lit_lt_lit.2 (by norm_num), lit_lt_lit.2 (by norm_num)⟩
    maxForgettingFactor_mem := ⟨lit_lt_lit.2 (by norm_num), by simp only [EnsembleConfigFields.default, lit]; norm_num⟩
    volatilitySensitivity_nonneg := (lit_pos.2 (by norm_num)).le
    orthogonalityPenalty_nonneg := (lit_pos.2 (by norm_num)).le
    downsidePenalty_nonneg := (lit_pos.2 (by norm_num)).le
    turnoverDamping_mem := ⟨(lit_pos.2 (by norm_num)).le, by simp only [EnsembleConfigFields.default, lit]; norm_num⟩
    ridgeShrinkage_mem := ⟨lit_pos.2 (by norm_num), by simp only [EnsembleConfigFields.default, lit]; norm_num⟩
    ambiguityShrinkageCap_mem := ⟨(lit_pos.2 (by norm_num)).le, lit_le_one.2 (by norm_num)⟩
    minWeightFloor_pos := lit_pos.2 (by norm_num)
    temperature_pos := lit_pos.2 (by norm_num)
    mirrorDescentLr_pos := lit_pos.2 (by norm_num)
    mirrorDescentMaxIter_pos := by decide
    mirrorDescentTol_pos := lit_millionth_pos }

/-- What was accepted is accepted again. -/
theorem EnsembleConfig.create_fields (config : EnsembleConfig ℝ) : config.toEnsembleConfigFields.create = .ok config := by
  rw [EnsembleConfigFields.create, dif_neg (not_le.2 config.forgetting_lt), dif_neg (not_not.2 config.baseForgettingFactor_mem),
    dif_neg (not_not.2 config.minForgettingFactor_mem), dif_neg (not_not.2 config.maxForgettingFactor_mem),
    dif_neg (not_lt.2 config.volatilitySensitivity_nonneg), dif_neg (not_lt.2 config.orthogonalityPenalty_nonneg),
    dif_neg (not_lt.2 config.downsidePenalty_nonneg), dif_neg (not_not.2 config.turnoverDamping_mem),
    dif_neg (not_not.2 config.ridgeShrinkage_mem), dif_neg (not_not.2 config.ambiguityShrinkageCap_mem),
    dif_neg (not_le.2 config.minWeightFloor_pos), dif_neg (not_le.2 config.temperature_pos),
    dif_neg (not_le.2 config.mirrorDescentLr_pos),
    dif_neg (not_lt.2 config.mirrorDescentMaxIter_pos), dif_neg (not_le.2 config.mirrorDescentTol_pos)]

theorem EnsembleConfigFields.create_default :
    (EnsembleConfigFields.default : EnsembleConfigFields ℝ).create = .ok EnsembleConfig.default :=
  EnsembleConfig.default.create_fields

/-! ## Correlations -/

section Correlations

variable {N K : ℕ} {c : Matrix (Fin K) (Fin K) ℝ}

/-- A symmetric matrix with ones on its diagonal and no larger entries. -/
structure IsCorrelation (c : Matrix (Fin K) (Fin K) ℝ) : Prop where
  symm : ∀ i j, c i j = c j i
  diag : ∀ i, c i i = 1
  abs_le : ∀ i j, |c i j| ≤ 1

theorem isCorrelation_one : IsCorrelation (1 : Matrix (Fin K) (Fin K) ℝ) := by
  refine ⟨fun i j => ?_, fun i => Matrix.one_apply_eq i, fun i j => ?_⟩
  · simp only [Matrix.one_apply, eq_comm]
  · rw [Matrix.one_apply]
    split_ifs <;> simp

theorem symmetrized_eq_self (h : ∀ i j, c i j = c j i) : symmetrized c = c := by
  have hhalf : (lit (1 / 2) : ℝ) = 1 / 2 := by
    rw [lit]
    norm_num
  funext i j
  rw [symmetrized, ← h i j, hhalf]
  ring

theorem fillDiagonal_eq_self (h : ∀ i, c i i = 1) : fillDiagonal c = c := by
  funext i j
  rw [fillDiagonal]
  split_ifs with hij
  · rw [← hij, h]
  · rfl

theorem clippedEntries_eq_self (h : ∀ i j, |c i j| ≤ 1) : clippedEntries c = c := by
  funext i j
  exact clip_of_mem (abs_le.1 (h i j))

/-- With a correlation matrix only the ridge itself changes anything. -/
theorem ridged_apply (hc : IsCorrelation c) (delta : ℝ) (i j : Fin K) :
    ridged delta c i j = (1 - delta) * c i j + delta * if i = j then 1 else 0 := by
  set r : Matrix (Fin K) (Fin K) ℝ := fun i j => (1 - delta) * c i j + delta * if i = j then 1 else 0 with hr
  have hdiag : ∀ i, r i i = 1 := fun i => by
    simp only [hr, hc.diag, if_true]
    ring
  have hsymm : ∀ i j, r i j = r j i := fun i j => by
    simp only [hr, hc.symm i j, eq_comm]
  change symmetrized (fillDiagonal r) i j = r i j
  rw [fillDiagonal_eq_self hdiag, symmetrized_eq_self hsymm]

theorem isCorrelation_ridged (hc : IsCorrelation c) {delta : ℝ} (hdelta : 0 < delta ∧ delta < 1) :
    IsCorrelation (ridged delta c) := by
  refine ⟨fun i j => ?_, fun i => ?_, fun i j => ?_⟩
  · rw [ridged_apply hc, ridged_apply hc, hc.symm i j]
    simp only [eq_comm]
  · rw [ridged_apply hc, hc.diag, if_pos rfl]
    ring
  · obtain ⟨hlower, hupper⟩ := abs_le.1 (hc.abs_le i j)
    rw [ridged_apply hc, abs_le]
    split_ifs <;> constructor <;> nlinarith [hdelta.1, hdelta.2]

/-- What is off the diagonal is shrunk. -/
theorem abs_ridged_le (hc : IsCorrelation c) {delta : ℝ} (hdelta : 0 < delta ∧ delta < 1) {i j : Fin K} (hij : i ≠ j) :
    |ridged delta c i j| ≤ 1 - delta := by
  have hrest := (sub_pos.2 hdelta.2).le
  rw [ridged_apply hc, if_neg hij, mul_zero, add_zero, abs_mul, abs_of_nonneg hrest]
  exact mul_le_of_le_one_right hrest (hc.abs_le i j)

/-- `x @ c @ x`. -/
def quadraticForm (c : Matrix (Fin K) (Fin K) ℝ) (x : Fin K → ℝ) : ℝ := ∑ i, ∑ j, x i * c i j * x j

theorem quadraticForm_ridged (hc : IsCorrelation c) (delta : ℝ) (x : Fin K → ℝ) :
    quadraticForm (ridged delta c) x = (1 - delta) * quadraticForm c x + delta * ∑ i, x i ^ 2 := by
  have hterm : ∀ i j, x i * ridged delta c i j * x j = (1 - delta) * (x i * c i j * x j) + delta *
      (if i = j then x i * x j else 0) := fun i j => by
    rw [ridged_apply hc]
    split_ifs <;> ring
  simp only [quadraticForm, hterm, Finset.sum_add_distrib, ← Finset.mul_sum, Finset.sum_ite_eq, Finset.mem_univ, if_true, sq]

/-- A ridge lifts a form by its own size exactly where the form was not negative. -/
theorem ridge_le_quadraticForm_iff (hc : IsCorrelation c) {delta : ℝ} (hdelta : 0 < delta ∧ delta < 1) :
    (∀ x, delta * ∑ i, x i ^ 2 ≤ quadraticForm (ridged delta c) x) ↔ ∀ x, 0 ≤ quadraticForm c x := by
  refine forall_congr' fun x => ?_
  rw [quadraticForm_ridged hc, le_add_iff_nonneg_left]
  exact ⟨fun h => nonneg_of_mul_nonneg_right h (sub_pos.2 hdelta.2), mul_nonneg (sub_pos.2 hdelta.2).le⟩

theorem le_quadraticForm_one {delta : ℝ} (hdelta : delta ≤ 1) (x : Fin K → ℝ) :
    delta * ∑ i, x i ^ 2 ≤ quadraticForm (1 : Matrix (Fin K) (Fin K) ℝ) x := by
  have hform : quadraticForm (1 : Matrix (Fin K) (Fin K) ℝ) x = ∑ i, x i ^ 2 := by
    simp [quadraticForm, Matrix.one_apply, sq]
  rw [hform]
  exact mul_le_of_le_one_left (Finset.sum_nonneg fun i _ => sq_nonneg (x i)) hdelta

theorem abs_one_apply_le {rest : ℝ} (hrest : 0 ≤ rest) {i j : Fin K} (hij : i ≠ j) :
    |(1 : Matrix (Fin K) (Fin K) ℝ) i j| ≤ rest := by
  rwa [Matrix.one_apply_ne hij, abs_zero]

theorem isCorrelation_symmetricPart (c : Matrix (Fin K) (Fin K) ℝ) : IsCorrelation (symmetricPart c) := by
  have hsymm : ∀ i j, symmetrized c i j = symmetrized c j i := fun i j => by
    rw [symmetrized, symmetrized, add_comm]
  refine ⟨fun i j => ?_, fun i => if_pos rfl, fun i j => ?_⟩
  · simp only [symmetricPart, fillDiagonal, clippedEntries, hsymm i j, eq_comm]
  · rw [symmetricPart, fillDiagonal]
    split_ifs
    · simp
    · exact abs_le.2 (clip_mem (by norm_num))

namespace TikhonovCorrelationEstimator

/-- An estimator with the defaults. -/
noncomputable def default : TikhonovCorrelationEstimator ℝ :=
  ⟨EnsembleConfig.default.ridgeShrinkage, lit (1 / 10 ^ 8), EnsembleConfig.default.ridgeShrinkage_mem, lit_hundredMillionth_pos⟩

variable (self : TikhonovCorrelationEstimator ℝ)

/-- Symmetric, with ones on the diagonal, whatever matrix it is given; and as definite as the ridge exactly where the matrix was
not indefinite. -/
theorem regularizeCorrelationMatrix_ok (hK : 1 ≤ K) (c : Matrix (Fin K) (Fin K) ℝ) :
    ∃ r, self.regularizeCorrelationMatrix c = .ok r ∧ IsCorrelation r ∧ (∀ i j, i ≠ j → |r i j| ≤ 1 - self.ridgeShrinkage) ∧
      ((∀ x, self.ridgeShrinkage * ∑ i, x i ^ 2 ≤ quadraticForm r x) ↔ ∀ x, 0 ≤ quadraticForm (symmetricPart c) x) := by
  have hc := isCorrelation_symmetricPart c
  have hdelta := self.ridgeShrinkage_mem
  exact ⟨_, if_neg (Nat.not_lt.2 hK), isCorrelation_ridged hc hdelta, fun i j hij => abs_ridged_le hc hdelta hij,
    ridge_le_quadraticForm_iff hc hdelta⟩

/-- Two models that move together once the entries are clipped: the regularised matrix is as definite as the ridge. -/
theorem regularizeCorrelationMatrix_ok_of_two :
    ∃ r, TikhonovCorrelationEstimator.default.regularizeCorrelationMatrix ![![2, 3], ![0, 1]] = .ok r ∧ IsCorrelation r ∧
      (∀ i j, i ≠ j → |r i j| ≤ 1 - TikhonovCorrelationEstimator.default.ridgeShrinkage) ∧
      ∀ x, TikhonovCorrelationEstimator.default.ridgeShrinkage * ∑ i, x i ^ 2 ≤ quadraticForm r x := by
  have hones : symmetricPart (![![2, 3], ![0, 1]] : Matrix (Fin 2) (Fin 2) ℝ) = ![![1, 1], ![1, 1]] := by
    ext i j
    fin_cases i <;> fin_cases j <;> norm_num [symmetricPart, fillDiagonal, clippedEntries, symmetrized, clip, lit]
  obtain ⟨r, hr, hcorr, hbound, hiff⟩ :=
    regularizeCorrelationMatrix_ok TikhonovCorrelationEstimator.default (by norm_num) ![![2, 3], ![0, 1]]
  refine ⟨r, hr, hcorr, hbound, hiff.2 fun x => ?_⟩
  have hsquare : quadraticForm ![![1, 1], ![1, 1]] x = (x 0 + x 1) ^ 2 := by
    simp [quadraticForm, Fin.sum_univ_two]
    ring
  rw [hones, hsquare]
  exact sq_nonneg _

variable {self} {predictions : Fin N → Fin K → ℝ}

/-- The loop over the flatline models, entry by entry. -/
theorem foldl_isolate_apply (flat : Fin K → Prop) [DecidablePred flat] (l : List (Fin K))
    (c : Matrix (Fin K) (Fin K) ℝ) (i j : Fin K) :
    l.foldl (fun c k => if flat k then isolate c k else c) c i j =
      if ∃ k ∈ l, flat k ∧ (k = i ∨ k = j) then if i = j then 1 else 0 else c i j := by
  induction l generalizing c with
  | nil => simp
  | cons k l ih =>
    have hisolate : isolate c k i j = if k = i ∨ k = j then if i = j then 1 else 0 else c i j := by
      simp only [isolate]
      grind
    rw [List.foldl_cons, ih]
    by_cases hk : flat k
    · rw [if_pos hk, hisolate]
      simp only [List.mem_cons, exists_eq_or_imp, hk, true_and]
      by_cases hrest : ∃ k ∈ l, flat k ∧ (k = i ∨ k = j)
      · simp only [hrest, or_true, if_true]
      · simp only [hrest, or_false, if_false]
    · rw [if_neg hk]
      simp only [List.mem_cons, exists_eq_or_imp, hk, false_and, false_or]

/-- A flatline column is zero, so its products are, and the loop only puts its one on the diagonal. -/
theorem empirical_apply (i j : Fin K) : self.empirical exactMath predictions i j =
    ∑ t, self.unitColumn exactMath predictions i t * self.unitColumn exactMath predictions j t +
      if i = j ∧ self.isFlatline exactMath predictions i then 1 else 0 := by
  have hfold := foldl_isolate_apply (self.isFlatline exactMath predictions) (List.finRange K)
    (fun i j => ∑ t, self.unitColumn exactMath predictions i t * self.unitColumn exactMath predictions j t) i j
  refine hfold.trans ?_
  have hzero : ∀ k, self.isFlatline exactMath predictions k → ∀ t, self.unitColumn exactMath predictions k t = 0 :=
    fun k hk t => if_pos hk
  split_ifs with hflat hij hboth hboth hboth
  · rw [hij]
    obtain ⟨k, -, hk, hkij⟩ := hflat
    obtain rfl : k = j := by
      rcases hkij with rfl | rfl
      · exact hij
      · rfl
    simp [hzero k hk]
  · exact absurd ⟨hij, by grind⟩ hboth
  · exact absurd hboth.1 hij
  · obtain ⟨k, -, hk, rfl | rfl⟩ := hflat
    · simp [hzero k hk]
    · simp [hzero k hk]
  · exact absurd ⟨i, List.mem_finRange i, hboth.2, .inl rfl⟩ hflat
  · rw [add_zero]

/-- The other columns have length one: the floor of the deviations is also one of the lengths. -/
theorem sum_sq_unitColumn (hN : 1 ≤ N) {k : Fin K} (hk : ¬ self.isFlatline exactMath predictions k) :
    ∑ t, self.unitColumn exactMath predictions k t ^ 2 = 1 := by
  set total := ∑ t, centered predictions k t ^ 2 with htotal
  have hnonneg : 0 ≤ total := Finset.sum_nonneg fun t _ => sq_nonneg _
  have hlength : self.minStdDev ≤ Real.sqrt total :=
    calc self.minStdDev ≤ Real.sqrt (total / N) := not_lt.1 hk
      _ ≤ Real.sqrt total := Real.sqrt_le_sqrt (div_le_self hnonneg (by exact_mod_cast hN))
  have hpos : 0 < Real.sqrt total := self.minStdDev_pos.trans_le hlength
  have hcolumn : ∀ t, self.unitColumn exactMath predictions k t = centered predictions k t / Real.sqrt total := fun t => by
    rw [unitColumn, if_neg hk]
    exact if_pos hlength
  have hsquare : ∀ t, self.unitColumn exactMath predictions k t ^ 2 = centered predictions k t ^ 2 * total⁻¹ := fun t => by
    rw [hcolumn, div_pow, Real.sq_sqrt hnonneg, div_eq_mul_inv]
  simp only [hsquare, ← Finset.sum_mul]
  exact mul_inv_cancel₀ (Real.sqrt_pos.1 hpos).ne'

theorem sum_sq_unitColumn_le (self : TikhonovCorrelationEstimator ℝ) (predictions : Fin N → Fin K → ℝ) (hN : 1 ≤ N) (k : Fin K) :
    ∑ t, self.unitColumn exactMath predictions k t ^ 2 ≤ 1 := by
  by_cases hk : self.isFlatline exactMath predictions k
  · have hzero : ∀ t, self.unitColumn exactMath predictions k t = 0 := fun t => if_pos hk
    simp [hzero]
  · exact (sum_sq_unitColumn hN hk).le

/-- What is estimated is a correlation matrix before any of it is clipped. -/
theorem isCorrelation_empirical (self : TikhonovCorrelationEstimator ℝ) (predictions : Fin N → Fin K → ℝ) (hN : 1 ≤ N) :
    IsCorrelation (self.empirical exactMath predictions) := by
  refine ⟨fun i j => ?_, fun i => ?_, fun i j => ?_⟩
  · rw [empirical_apply, empirical_apply]
    congr 1
    · exact Finset.sum_congr rfl fun t _ => mul_comm _ _
    · grind
  · rw [empirical_apply]
    by_cases hi : self.isFlatline exactMath predictions i
    · have hzero : ∀ t, self.unitColumn exactMath predictions i t = 0 := fun t => if_pos hi
      simp [hzero, hi]
    · have hone := sum_sq_unitColumn hN hi
      simp only [sq] at hone
      rw [hone, if_neg fun h => hi h.2, add_zero]
  · rw [empirical_apply]
    by_cases hflat : i = j ∧ self.isFlatline exactMath predictions i
    · have hzero : ∀ t, self.unitColumn exactMath predictions i t = 0 := fun t => if_pos hflat.2
      simp only [hzero, zero_mul, Finset.sum_const_zero, zero_add, if_pos hflat, abs_one, le_refl]
    · rw [if_neg hflat, add_zero]
      have hschwarz := Finset.sum_mul_sq_le_sq_mul_sq Finset.univ (self.unitColumn exactMath predictions i)
        (self.unitColumn exactMath predictions j)
      have hproduct := mul_le_one₀ (sum_sq_unitColumn_le self predictions hN i)
        (Finset.sum_nonneg fun t _ => sq_nonneg (self.unitColumn exactMath predictions j t))
        (sum_sq_unitColumn_le self predictions hN j)
      exact abs_le_one_iff_mul_self_le_one.2 (by rw [← sq]; exact hschwarz.trans hproduct)

/-- Its form is a sum of squares. -/
theorem quadraticForm_empirical_nonneg (x : Fin K → ℝ) : 0 ≤ quadraticForm (self.empirical exactMath predictions) x := by
  have hgram : quadraticForm (self.empirical exactMath predictions) x =
      ∑ t, (∑ i, x i * self.unitColumn exactMath predictions i t) ^ 2 +
      ∑ i, if self.isFlatline exactMath predictions i then x i ^ 2 else 0 := by
    have hterm : ∀ i j, x i * self.empirical exactMath predictions i j * x j =
        ∑ t, (x i * self.unitColumn exactMath predictions i t) * (x j * self.unitColumn exactMath predictions j t) +
          if i = j then if self.isFlatline exactMath predictions i then x i * x j else 0 else 0 := fun i j => by
      rw [empirical_apply, mul_add, add_mul, Finset.mul_sum, Finset.sum_mul]
      congr 1
      · exact Finset.sum_congr rfl fun t _ => by ring
      · split_ifs <;> simp_all
    simp only [quadraticForm, hterm, Finset.sum_add_distrib, Finset.sum_ite_eq, Finset.mem_univ, if_true]
    congr 1
    · simp only [sq, Finset.sum_mul_sum]
      exact (Finset.sum_congr rfl fun i _ => Finset.sum_comm).trans Finset.sum_comm
    · simp only [sq]
  rw [hgram]
  exact add_nonneg (Finset.sum_nonneg fun t _ => sq_nonneg _) (Finset.sum_nonneg fun i _ => by split_ifs <;> positivity)

/-- What the estimator estimates is at least as definite as its ridge, and no two models are correlated beyond the rest. -/
theorem computeCorrelationMatrix_ok (self : TikhonovCorrelationEstimator ℝ) (predictions : Fin N → Fin K → ℝ)
    (hN : 1 ≤ N) (hK : 1 ≤ K) :
    ∃ c, self.computeCorrelationMatrix exactMath predictions = .ok c ∧ IsCorrelation c ∧
      (∀ i j, i ≠ j → |c i j| ≤ 1 - self.ridgeShrinkage) ∧
      ∀ x, self.ridgeShrinkage * ∑ i, x i ^ 2 ≤ quadraticForm c x := by
  have hdelta := self.ridgeShrinkage_mem
  have hrest := (sub_pos.2 hdelta.2).le
  rw [computeCorrelationMatrix, if_neg (by omega)]
  split_ifs
  · exact ⟨1, rfl, isCorrelation_one, fun i j hij => abs_one_apply_le hrest hij, le_quadraticForm_one hdelta.2.le⟩
  · exact ⟨1, rfl, isCorrelation_one, fun i j hij => abs_one_apply_le hrest hij, le_quadraticForm_one hdelta.2.le⟩
  · have hcorr := isCorrelation_empirical self predictions hN
    have hsame : symmetrized (fillDiagonal (clippedEntries (self.empirical exactMath predictions))) =
        self.empirical exactMath predictions := by
      rw [clippedEntries_eq_self hcorr.abs_le, fillDiagonal_eq_self hcorr.diag, symmetrized_eq_self hcorr.symm]
    rw [hsame]
    exact ⟨_, rfl, isCorrelation_ridged hcorr hdelta, fun i j hij => abs_ridged_le hcorr hdelta hij,
      (ridge_le_quadraticForm_iff hcorr hdelta).2 quadraticForm_empirical_nonneg⟩

/-- Two models that move together, over two days. -/
theorem computeCorrelationMatrix_ok_of_two :
    ∃ c, TikhonovCorrelationEstimator.default.computeCorrelationMatrix exactMath ![![0, 1], ![1, 2]] = .ok c ∧
    IsCorrelation c ∧ (∀ i j, i ≠ j → |c i j| ≤ 1 - TikhonovCorrelationEstimator.default.ridgeShrinkage) ∧
      ∀ x, TikhonovCorrelationEstimator.default.ridgeShrinkage * ∑ i, x i ^ 2 ≤ quadraticForm c x :=
  computeCorrelationMatrix_ok TikhonovCorrelationEstimator.default ![![0, 1], ![1, 2]] (by norm_num) (by norm_num)

end TikhonovCorrelationEstimator

end Correlations

/-! ## One update -/

section Update

variable {K : ℕ}

/-- What the engine asks of its arguments. -/
structure EnsembleInput.Valid (x : EnsembleInput K ℝ) : Prop where
  variances_pos : ∀ k, 0 < x.variances k
  realizedVol_pos : 0 < x.realizedVol
  ambiguityBeta_pos : 0 < x.ambiguityBeta
  regimeProbs_nonneg : ∀ r, 0 ≤ x.regimeProbs r
  regimeProbs_sum : IsCloseToOne (∑ r, x.regimeProbs r)
  transitionMatrix_nonneg : ∀ i j, 0 ≤ x.transitionMatrix i j
  transitionMatrix_sum : ∀ r, IsCloseToOne (∑ j, x.transitionMatrix r j)
  one_le_horizons : ∀ horizons ∈ x.forecastHorizons, ∀ k, 1 ≤ horizons k

/-- The forgetting factor is within its bounds, and the baseline stays positive. -/
theorem VolatilityAdaptiveForgetting.computeAlpha_ok (self : VolatilityAdaptiveForgetting ℝ) {realizedVol : ℝ}
    (hvol : 0 < realizedVol) :
    ∃ alpha, self.computeAlpha realizedVol =
      .ok (alpha, (1 - self.smoothing) * self.meanRealizedVol + self.smoothing * realizedVol) ∧
      self.config.minForgettingFactor ≤ alpha ∧ alpha ≤ self.config.maxForgettingFactor ∧
      0 < (1 - self.smoothing) * self.meanRealizedVol + self.smoothing * realizedVol := by
  have hclip := clip_mem (x := self.config.baseForgettingFactor - self.config.volatilitySensitivity *
    ((realizedVol - self.meanRealizedVol) / self.meanRealizedVol)) self.config.forgetting_lt.le
  refine ⟨_, ?_, hclip.1, hclip.2, ?_⟩
  · rw [computeAlpha, if_neg (not_le.2 hvol)]
  · exact add_pos_of_nonneg_of_pos (mul_nonneg (sub_nonneg.2 self.smoothing_mem.2) self.meanRealizedVol_pos.le)
      (mul_pos self.smoothing_mem.1 hvol)

theorem exists_pos_of_sum_pos {n : ℕ} {v : Fin n → ℝ} (h : 0 < ∑ i, v i) : ∃ i, 0 < v i := by
  by_contra! hle
  exact absurd (Finset.sum_nonpos fun i _ => hle i) (not_le.2 h)

/-- Probabilities and rows that are close to one lead to probabilities. -/
theorem predictForwardRegimePrior_ok {x : EnsembleInput K ℝ} (hx : x.Valid) :
    ∃ p, predictForwardRegimePrior x.regimeProbs x.transitionMatrix = .ok p ∧ p ∈ stdSimplex ℝ (Fin 3) := by
  set forwardP : Fin 3 → ℝ := fun j => clip (∑ i, x.transitionMatrix i j * x.regimeProbs i) 0 1 with hforward
  have hnonneg : ∀ j, 0 ≤ forwardP j := fun j => (clip_mem zero_le_one).1
  have hpos : 0 < ∑ j, forwardP j := by
    -- some regime has mass, and some entry of its row does
    obtain ⟨i, hi⟩ := exists_pos_of_sum_pos (pos_of_isCloseToOne hx.regimeProbs_sum)
    obtain ⟨j, hj⟩ := exists_pos_of_sum_pos (pos_of_isCloseToOne (hx.transitionMatrix_sum i))
    have hterm : 0 < ∑ i, x.transitionMatrix i j * x.regimeProbs i :=
      Finset.sum_pos' (fun i _ => mul_nonneg (hx.transitionMatrix_nonneg i j) (hx.regimeProbs_nonneg i))
        ⟨i, Finset.mem_univ i, mul_pos hj hi⟩
    exact Finset.sum_pos' (fun j _ => hnonneg j) ⟨j, Finset.mem_univ j, lt_min one_pos (lt_max_of_lt_right hterm)⟩
  refine ⟨npNormalize forwardP, ?_, npNormalize_mem hnonneg hpos⟩
  rw [predictForwardRegimePrior, if_neg (by simpa using hx.regimeProbs_nonneg), if_neg (not_not.2 hx.regimeProbs_sum),
    if_neg (by simpa using hx.transitionMatrix_nonneg)]
  simp only [unnormalizedRow_eq_none.2 hx.transitionMatrix_sum]
  exact if_neg (not_le.2 hpos)

theorem computeLosses_ok (hK : 1 ≤ K) {x : EnsembleInput K ℝ} (hx : x.Valid) (downsidePenalty : ℝ) :
    computeLosses exactMath downsidePenalty x.predictions x.realizedReturn x.forecastHorizons =
      .ok fun k => asymmetricLoss downsidePenalty x.realizedReturn
      (scaledPredictions exactMath x.predictions x.forecastHorizons k) := by
  rw [computeLosses, if_neg (Nat.not_lt.2 hK), if_neg]
  rintro ⟨horizons, hmem, k, hk⟩
  exact absurd (hx.one_le_horizons horizons hmem k) (not_le.2 hk)

/-- Three regimes that all return. -/
theorem forRegimes_ok {ε β : Type} {f : Fin 3 → Except ε β} {P : Fin 3 → β → Prop} (h : ∀ r, ∃ b, f r = .ok b ∧ P r b) :
    ∃ g, forRegimes f = .ok g ∧ ∀ r, P r (g r) := by
  obtain ⟨a, ha, hPa⟩ := h 0
  obtain ⟨b, hb, hPb⟩ := h 1
  obtain ⟨d, hd, hPd⟩ := h 2
  refine ⟨![a, b, d], by rw [forRegimes, ha, hb, hd]; rfl, fun r => ?_⟩
  fin_cases r
  · exact hPa
  · exact hPb
  · exact hPd

variable [Nonempty (Fin K)]

theorem temperedRow_ok (alphaT : ℝ) (row : Fin K → ℝ) (r : Fin 3) :
    ∃ u, temperedRow exactMath alphaT row r = .ok u ∧ u ∈ stdSimplex ℝ (Fin K) := by
  obtain ⟨m, hm⟩ := expShifted_ok fun k => alphaT * exactMath.log (row k + lit (1 / 10 ^ 30))
  obtain ⟨hpos, hsum⟩ := npNormalize_exp fun k => alphaT * exactMath.log (row k + lit (1 / 10 ^ 30)) - m
  refine ⟨npNormalize (npNormalize fun k => Real.exp (alphaT * exactMath.log (row k + lit (1 / 10 ^ 30)) - m)), ?_, ?_⟩
  · rw [temperedRow, hm]
    change (if _ then _ else _) = _
    rw [if_neg (by rw [hsum]; norm_num)]
  · rw [npNormalize_of_sum hsum]
    exact ⟨fun k => (hpos k).le, hsum⟩

/-- The tempered rows of an accepted state, and the prior they add up to. -/
theorem updateRegimePosteriors_ok (hK : 1 ≤ K) (state : EnsembleState K ℝ) {alphaT alphaMin alphaMax : ℝ}
    (hmem : alphaMin ≤ alphaT ∧ alphaT ≤ alphaMax)
    (hunit : 0 < alphaT ∧ alphaT < 1) {p : Fin 3 → ℝ} (hp : p ∈ stdSimplex ℝ (Fin 3)) :
    ∃ u prior, updateRegimePosteriors exactMath state.regimeConditionalPosteriors alphaT p alphaMin alphaMax =
      .ok (u, prior) := by
  obtain ⟨u, hu, husum⟩ := forRegimes_ok fun r => temperedRow_ok alphaT (state.regimeConditionalPosteriors r) r
  have hterm : ∀ k, 0 ≤ ∑ r, p r * u r k := fun k => Finset.sum_nonneg fun r _ => mul_nonneg (hp.1 r) ((husum r).1 k)
  have htotal : ∑ k, ∑ r, p r * u r k = 1 := by
    rw [Finset.sum_comm]
    simp only [← Finset.mul_sum, (husum _).2, mul_one]
    exact hp.2
  have hle : ∀ k, ∑ r, p r * u r k ≤ 1 := fun k => by
    rw [← htotal]
    exact Finset.single_le_sum (f := fun k => ∑ r, p r * u r k) (fun j _ => hterm j) (Finset.mem_univ k)
  have hclip : ∀ k, clip (∑ r, p r * u r k) 0 1 = ∑ r, p r * u r k := fun k => clip_of_mem ⟨hterm k, hle k⟩
  refine ⟨u, npNormalize fun k => ∑ r, p r * u r k, ?_⟩
  rw [updateRegimePosteriors, if_neg (Nat.not_lt.2 hK), if_neg (by simpa using state.posteriors_nonneg)]
  simp only [unnormalizedRow_eq_none.2 state.posteriors_sum]
  rw [if_neg (not_not.2 ⟨hmem, hunit⟩), if_neg (by simpa using hp.1), if_neg (not_not.2 (isCloseToOne_of_eq hp.2)), hu]
  change (if _ then _ else _) = _
  simp only [hclip]
  rw [if_neg (by rw [htotal]; norm_num)]

end Update

/-! ## The defaults -/

section Defaults

/-- An engine with the defaults. -/
noncomputable def RegimeConditionedDMAEngine.default : RegimeConditionedDMAEngine ℝ where
  config := EnsembleConfig.default
  betaMin := lit 1
  betaMax := lit 5
  vaf := ⟨EnsembleConfig.default, lit (1 / 100), lit (10 / 100), lit_pos.2 (by norm_num), lit_pos.2 (by norm_num),
    lit_le_one.2 (by norm_num)⟩
  estimator := TikhonovCorrelationEstimator.default
  betaMin_pos := lit_pos.2 (by norm_num)
  betaMax_gt := lit_lt_lit.2 (by norm_num)
  vaf_config := rfl

/-- Two models on a day on which nothing moves. -/
noncomputable def calmDay : EnsembleInput 2 ℝ where
  predictions := ![0, 0]
  variances := ![lit 1, lit 2]
  realizedReturn := 0
  realizedVol := 1
  regimeProbs := ![0, 1, 0]
  transitionMatrix := ![![1, 0, 0], ![0, 1, 0], ![0, 0, 1]]
  ambiguityBeta := 1
  forecastHorizons := some ![lit 1, lit 5]

theorem valid_calmDay : calmDay.Valid := by
  refine ⟨fun k => ?_, one_pos, one_pos, fun r => ?_, isCloseToOne_of_eq ?_,
    fun i j => ?_, fun r => isCloseToOne_of_eq ?_, fun h hh k => ?_⟩
  · fin_cases k <;> simp [calmDay, lit]
  · fin_cases r <;> simp [calmDay]
  · simp [calmDay, Fin.sum_univ_three]
  · fin_cases i <;> fin_cases j <;> simp [calmDay]
  · fin_cases r <;> simp [calmDay, Fin.sum_univ_three]
  · obtain rfl := Option.some.inj hh
    fin_cases k <;> simp [lit]

end Defaults

/-! ## The engine -/

section Engine

variable {K : ℕ}

theorem EnsembleStateFields.create_ok {f : EnsembleStateFields K ℝ} (hstep : 0 ≤ f.stepIndex) (hK : 1 ≤ K)
    (hpos : ∀ k, 0 < f.weights k)
    (hsum : ∑ k, f.weights k = 1) (hrows : ∀ r, f.regimeConditionalPosteriors r ∈ stdSimplex ℝ (Fin K))
    (heff : f.effectiveModels = 1 / ∑ k, f.weights k ^ 2) (hvol : 0 < f.meanRealizedVolatility)
    (hlast : 0 < f.lastAmbiguityTemperature) :
    ∃ s, f.create = .ok s ∧ s.toEnsembleStateFields = f := by
  have hmem : f.weights ∈ stdSimplex ℝ (Fin K) := ⟨fun k => (hpos k).le, hsum⟩
  have htol : (0 : ℝ) < lit (1 / 10 ^ 6) := lit_pos.2 (by norm_num)
  have hcard := one_div_sum_sq_le_card hmem
  rw [Fintype.card_fin] at hcard
  have heffective : EffectiveIn K f.effectiveModels := by
    rw [heff]
    exact ⟨by linarith [one_le_one_div_sum_sq hmem], by linarith⟩
  have hnone : unnormalizedRow f.regimeConditionalPosteriors = none :=
    unnormalizedRow_eq_none.2 fun r => isCloseToOne_of_eq (hrows r).2
  rw [create, dif_neg (not_lt.2 hstep), dif_neg (Nat.not_lt.2 hK), dif_neg (by simpa using hpos),
    dif_neg (not_not.2 (isCloseToOne_of_eq hsum)),
    dif_neg (by simpa using fun r => (hrows r).1)]
  split
  · rename_i r hr
    rw [hnone] at hr
    cases hr
  · rw [dif_neg (not_not.2 heffective), dif_neg (not_le.2 hvol), dif_neg (not_le.2 hlast)]
    exact ⟨_, rfl, rfl⟩

theorem EnsemblePredictionFields.create_ok {f : EnsemblePredictionFields K ℝ} (hvar : 0 < f.aleatoricVariance)
    (hepi : 0 ≤ f.epistemicVariance)
    (htotal : f.totalVariance = f.aleatoricVariance + f.epistemicVariance) (hK : 1 ≤ K) (hpos : ∀ k, 0 < f.modelWeights k)
    (hsum : ∑ k, f.modelWeights k = 1) (hprobs : f.regimeProbabilities ∈ stdSimplex ℝ (Fin 3))
    (heff : f.effectiveModels = 1 / ∑ k, f.modelWeights k ^ 2) (halpha : 0 < f.volatilityForgettingFactor ∧
      f.volatilityForgettingFactor < 1)
    (hlambda : 0 ≤ f.ambiguityShrinkageWeight ∧ f.ambiguityShrinkageWeight ≤ 1) :
    ∃ p, f.create = .ok p ∧ p.toEnsemblePredictionFields = f := by
  have hmem : f.modelWeights ∈ stdSimplex ℝ (Fin K) := ⟨fun k => (hpos k).le, hsum⟩
  have htol : (0 : ℝ) < lit (1 / 10 ^ 6) := lit_pos.2 (by norm_num)
  have hcard := one_div_sum_sq_le_card hmem
  rw [Fintype.card_fin] at hcard
  have heffective : EffectiveIn K f.effectiveModels := by
    rw [heff]
    exact ⟨by linarith [one_le_one_div_sum_sq hmem], by linarith⟩
  have hclose : IsClose (lit (1 / 10 ^ 7)) (lit (1 / 10 ^ 10)) f.totalVariance (f.aleatoricVariance + f.epistemicVariance) := by
    rw [htotal]
    exact isClose_self (lit_pos.2 (by norm_num)).le
  rw [create, dif_neg (not_le.2 hvar), dif_neg (not_lt.2 hepi), dif_neg (not_not.2 hclose), dif_neg (Nat.not_lt.2 hK),
    dif_neg (by simpa using hpos), dif_neg (not_not.2 (isCloseToOne_of_eq hsum)), dif_neg (by simpa using hprobs.1),
    dif_neg (not_not.2 (isCloseToOne_of_eq hprobs.2)), dif_neg (not_not.2 heffective), dif_neg (not_not.2 halpha),
    dif_neg (not_not.2 hlambda)]
  exact ⟨_, rfl, rfl⟩

namespace RegimeConditionedDMAEngine

variable (self : RegimeConditionedDMAEngine ℝ)

/-- The floor of the weights and the posteriors. -/
noncomputable def floor (self : RegimeConditionedDMAEngine ℝ) (K : ℕ) : ℝ := epsFloor K self.config.minWeightFloor

theorem floor_mem (hK : 1 ≤ K) : 0 < self.floor K ∧ K * self.floor K < 1 := epsFloor_mem hK self.config.minWeightFloor_pos

theorem betaNorm_mem (x : EnsembleInput K ℝ) : 0 ≤ self.betaNorm x ∧ self.betaNorm x ≤ 1 := by
  unfold betaNorm
  simp only
  split_ifs
  · exact clip_mem zero_le_one
  · exact ⟨zero_le_one, le_rfl⟩
  · exact ⟨le_rfl, zero_le_one⟩

theorem lambdaBeta_mem (x : EnsembleInput K ℝ) :
    0 ≤ self.lambdaBeta x ∧ self.lambdaBeta x ≤ self.config.ambiguityShrinkageCap := by
  obtain ⟨hnonneg, hle⟩ := self.betaNorm_mem x
  have hcap := self.config.ambiguityShrinkageCap_mem.1
  exact ⟨mul_nonneg hnonneg hcap, mul_le_of_le_one_left hcap hle⟩

theorem cReg_ok (hK : 1 ≤ K) (x : EnsembleInput K ℝ) : ∃ c, self.cReg x = .ok c := by
  rw [cReg]
  cases x.correlationMatrix with
  | none => exact ⟨1, rfl⟩
  | some c => exact ⟨_, if_neg (Nat.not_lt.2 hK)⟩

variable [Nonempty (Fin K)]

/-- The shrunk, damped and floored weights. -/
theorem finalWeights_floored (hK : 1 ≤ K) {lambdaBeta : ℝ} (hlambda : 0 ≤ lambdaBeta ∧ lambdaBeta ≤ 1) {wStar : Fin K → ℝ}
    (hstar : wStar ∈ stdSimplex ℝ (Fin K)) {weights : Fin K → ℝ} (hweights : ∀ k, 0 < weights k) :
    Floored (self.floor K) (self.finalWeights lambdaBeta wStar weights) := by
  have huniform : (fun _ : Fin K => 1 / (K : ℝ)) ∈ stdSimplex ℝ (Fin K) := by
    simpa using uniform_mem (ι := Fin K) (α := ℝ)
  have hshrunk := mix_mem hlambda hstar huniform
  obtain ⟨hdamp, hdamp1⟩ := self.config.turnoverDamping_mem
  set wShrunk := npNormalize (mix lambdaBeta wStar fun _ => 1 / (K : ℝ)) with hdef
  have hmem : wShrunk ∈ stdSimplex ℝ (Fin K) := by
    rw [hdef, npNormalize_of_sum hshrunk.2]
    exact hshrunk
  have hnonneg : ∀ k, 0 ≤ mix self.config.turnoverDamping wShrunk weights k := fun k =>
    add_nonneg (mul_nonneg (sub_nonneg.2 hdamp1.le) (hmem.1 k)) (mul_nonneg hdamp (hweights k).le)
  have hpos : 0 < ∑ k, mix self.config.turnoverDamping wShrunk weights k := by
    rw [sum_mix, hmem.2]
    exact add_pos_of_pos_of_nonneg (mul_pos (sub_pos.2 hdamp1) one_pos) (mul_nonneg hdamp (sum_pos_of_forall hweights).le)
  exact floored_laplace (self.floor_mem hK).2.le (npNormalize_mem hnonneg hpos)

theorem posteriorRow_ok (hK : 1 ≤ K) (updated : Fin K → ℝ) (regimeProb : ℝ) (losses : Fin K → ℝ) :
    ∃ row, self.posteriorRow exactMath updated regimeProb losses = .ok row ∧ Floored (self.floor K) row := by
  obtain ⟨m, hm⟩ := expShifted_ok fun k => exactMath.log (max (updated k) (lit (1 / 10 ^ 30))) - regimeProb * losses k
  set v : Fin K → ℝ := fun k => Real.exp (exactMath.log (max (updated k) (lit (1 / 10 ^ 30))) - regimeProb * losses k - m) with hv
  have hpos : ∀ k, 0 < v k := fun k => Real.exp_pos _
  have hsum : 0 < ∑ k, v k := sum_pos_of_forall hpos
  refine ⟨npNormalize (laplace (self.floor K) (npNormalize v)), ?_,
    floored_laplace (self.floor_mem hK).2.le (npNormalize_mem (fun k => (hpos k).le) hsum)⟩
  rw [posteriorRow, hm]
  change Except.ok (npNormalize (laplace (self.floor K) (if ∑ k, v k ≤ 0 then _ else _))) = _
  rw [if_neg (not_le.2 hsum)]

end RegimeConditionedDMAEngine

/-- What an update returns and leaves. -/
structure RegimeConditionedDMAEngine.Updates (engine : RegimeConditionedDMAEngine ℝ) (x : EnsembleInput K ℝ)
    (state : EnsembleState K ℝ)
    (prediction : EnsembleEmission K ℝ) (next : EnsembleState K ℝ) : Prop where
  weights : Floored (engine.floor K) next.weights
  modelWeights : prediction.modelWeights = next.weights
  posteriors : ∀ r, Floored (engine.floor K) (next.regimeConditionalPosteriors r)
  regimeProbabilities : prediction.regimeProbabilities ∈ stdSimplex ℝ (Fin 3)
  forgetting : engine.config.minForgettingFactor ≤ prediction.volatilityForgettingFactor ∧
    prediction.volatilityForgettingFactor ≤ engine.config.maxForgettingFactor
  ambiguity : prediction.ambiguityShrinkageWeight ≤ engine.config.ambiguityShrinkageCap
  totalVariance : prediction.totalVariance =
    ∑ k, next.weights k * (x.variances k + scaledPredictions exactMath x.predictions x.forecastHorizons k ^ 2) -
    prediction.pointPrediction ^ 2
  effectiveModels : 1 ≤ next.effectiveModels ∧ next.effectiveModels ≤ K
  stepIndex : next.stepIndex = state.stepIndex + 1
  cumulativeLosses : ∀ k, next.cumulativeLosses k = state.cumulativeLosses k +
    asymmetricLoss engine.config.downsidePenalty x.realizedReturn (scaledPredictions exactMath x.predictions x.forecastHorizons k)
  meanRealizedVolatility : next.meanRealizedVolatility =
    (1 - engine.vaf.smoothing) * state.meanRealizedVolatility + engine.vaf.smoothing * x.realizedVol

/-- The arguments are all that can fail. -/
theorem RegimeConditionedDMAEngine.predictAndUpdate_ok (self : RegimeConditionedDMAEngine ℝ)
    {x : EnsembleInput K ℝ} (hx : x.Valid)
    (state : EnsembleState K ℝ) :
    ∃ prediction next, self.predictAndUpdate exactMath x state = .ok (prediction, next) ∧
      self.Updates x state prediction next := by
  have hK := state.models_pos
  have hne : Nonempty (Fin K) := Fin.pos_iff_nonempty.1 hK
  set vaf : VolatilityAdaptiveForgetting ℝ := { self.vaf with
    meanRealizedVol := state.meanRealizedVolatility
    meanRealizedVol_pos := state.meanRealizedVolatility_pos } with hvaf
  obtain ⟨alphaT, halpha, hmin, hmax, hvolpos⟩ := vaf.computeAlpha_ok hx.realizedVol_pos
  have hconfig : vaf.config = self.config := self.vaf_config
  rw [hconfig] at hmin hmax
  obtain ⟨pNext, hprior, hpNext⟩ := predictForwardRegimePrior_ok hx
  have hlosses := computeLosses_ok hK hx self.config.downsidePenalty
  set scaled := scaledPredictions exactMath x.predictions x.forecastHorizons with hscaled
  set losses : Fin K → ℝ := fun k => asymmetricLoss self.config.downsidePenalty x.realizedReturn (scaled k) with hlossdef
  have hunit : 0 < alphaT ∧ alphaT < 1 := by
    have hhalf : (0 : ℝ) < lit (1 / 2) := lit_pos.2 (by norm_num)
    exact ⟨hhalf.trans (self.config.minForgettingFactor_mem.1.trans_le hmin), hmax.trans_lt self.config.maxForgettingFactor_mem.2⟩
  obtain ⟨u, prior, hposteriors⟩ := updateRegimePosteriors_ok hK state ⟨hmin, hmax⟩ hunit hpNext
  obtain ⟨cReg, hcReg⟩ := self.cReg_ok hK x
  set scores : Fin K → ℝ := fun k => losses k - exactMath.log (max (prior k) (lit (1 / 10 ^ 30)))
  obtain ⟨wStar, hsolve, hstar⟩ := OrthogonalityRegularizedSolver.solve_ok self.config.solver scores cReg hK
    state.weights_pos
  obtain ⟨hlambda, hcap⟩ := self.lambdaBeta_mem x
  have hlambda1 := hcap.trans self.config.ambiguityShrinkageCap_mem.2
  obtain ⟨hfloor, hroom⟩ := self.floor_mem hK
  have hfinal := self.finalWeights_floored hK ⟨hlambda, hlambda1⟩ (hstar.mem hfloor.le) state.weights_pos
  set wFinal := self.finalWeights (self.lambdaBeta x) wStar state.weights with hwFinal
  have hwpos : ∀ k, 0 < wFinal k := hfinal.pos hfloor
  obtain ⟨rows, hrows, hfloored⟩ := forRegimes_ok fun r => self.posteriorRow_ok hK (u r) (x.regimeProbs r) losses
  have haleatoric : 0 < ∑ k, wFinal k * x.variances k := sum_pos_of_forall fun k => mul_pos (hwpos k) (hx.variances_pos k)
  have hepistemic : 0 ≤ ∑ k, wFinal k * (scaled k - ∑ j, wFinal j * scaled j) ^ 2 :=
    Finset.sum_nonneg fun k _ => mul_nonneg (hwpos k).le (sq_nonneg _)
  obtain ⟨prediction, hcreate, hfields⟩ := EnsemblePredictionFields.create_ok
    (f := { pointPrediction := ∑ k, wFinal k * scaled k
            aleatoricVariance := ∑ k, wFinal k * x.variances k
            epistemicVariance := ∑ k, wFinal k * (scaled k - ∑ j, wFinal j * scaled j) ^ 2
            totalVariance := ∑ k, wFinal k * x.variances k + ∑ k, wFinal k * (scaled k - ∑ j, wFinal j * scaled j) ^ 2
            modelWeights := wFinal
            regimeProbabilities := pNext
            effectiveModels := 1 / ∑ k, wFinal k ^ 2
            volatilityForgettingFactor := alphaT
            ambiguityShrinkageWeight := self.lambdaBeta x })
    haleatoric hepistemic rfl hK hwpos hfinal.2 hpNext rfl hunit ⟨hlambda, hlambda1⟩
  obtain ⟨next, hnext, hnextfields⟩ := EnsembleStateFields.create_ok
    (f := { stepIndex := state.stepIndex + 1
            weights := wFinal
            regimeConditionalPosteriors := rows
            cumulativeLosses := fun k => state.cumulativeLosses k + losses k
            effectiveModels := 1 / ∑ k, wFinal k ^ 2
            meanRealizedVolatility := (1 - vaf.smoothing) * vaf.meanRealizedVol + vaf.smoothing * x.realizedVol
            lastAmbiguityTemperature := x.ambiguityBeta })
    (Int.add_nonneg state.stepIndex_nonneg zero_le_one) hK hwpos hfinal.2 (fun r => (hfloored r).mem hfloor.le) rfl hvolpos
      hx.ambiguityBeta_pos
  refine ⟨prediction, next, ?_, ?_⟩
  · rw [predictAndUpdate, if_neg (by simpa using hx.variances_pos), if_neg (not_le.2 hx.realizedVol_pos),
      if_neg (not_le.2 hx.ambiguityBeta_pos)]
    simp only [← hvaf, halpha, hprior, hlosses, hposteriors, hcReg, bind, Except.bind]
    rw [hsolve]
    simp only [← hwFinal, hrows, ← hscaled]
    rw [hcreate]
    simp only
    rw [hnext]
    rfl
  · have hwnext : next.weights = wFinal := by rw [hnextfields]
    have hmem : wFinal ∈ stdSimplex ℝ (Fin K) := hfinal.mem hfloor.le
    have hcard := one_div_sum_sq_le_card hmem
    rw [Fintype.card_fin] at hcard
    refine ⟨by rw [hwnext]; exact hfinal, by rw [hfields, hwnext], fun r => by rw [hnextfields]; exact hfloored r,
      by rw [hfields]; exact hpNext, by rw [hfields]; exact ⟨hmin, hmax⟩, by rw [hfields]; exact hcap, ?_, ?_,
      by rw [hnextfields], fun k => by rw [hnextfields], by rw [hnextfields]⟩
    · rw [hfields, hwnext]
      simp only
      rw [sum_mul_sub_sq hfinal.2]
      simp only [mul_add, Finset.sum_add_distrib]
      ring
    · rw [hnextfields]
      exact ⟨one_le_one_div_sum_sq hmem, hcard⟩

/-- In every update the descent goes down: the correlations it is given have no entries over one, whatever matrix the caller
passed. -/
theorem RegimeConditionedDMAEngine.descends (self : RegimeConditionedDMAEngine ℝ)
    (hstep : self.config.mirrorDescentLr * self.config.orthogonalityPenalty < 2 * self.config.temperature) (hK : 1 ≤ K)
    (x : EnsembleInput K ℝ)
    (scores : Fin K → ℝ) {w : Fin K → ℝ} (hw : ∀ k, 0 < w k) (hsum : ∑ k, w k = 1) (fuel : ℕ) :
    ∃ c v, self.cReg x = .ok c ∧ self.config.solver.mirrorLoop exactMath scores c fuel w = .ok v ∧
      (quadScore scores self.config.orthogonalityPenalty c v <
        quadScore scores self.config.orthogonalityPenalty c w ∨ v = w) := by
  have hne : Nonempty (Fin K) := Fin.pos_iff_nonempty.1 hK
  obtain ⟨c, hc, hcorr⟩ : ∃ c, self.cReg x = .ok c ∧ IsCorrelation c := by
    rw [cReg]
    cases x.correlationMatrix with
    | none => exact ⟨1, rfl, isCorrelation_one⟩
    | some m =>
      exact ⟨_, if_neg (Nat.not_lt.2 hK), isCorrelation_ridged (isCorrelation_symmetricPart m) self.estimator.ridgeShrinkage_mem⟩
  have hfactor : self.config.solver.stepFactor * self.config.solver.orthogonalityPenalty < 2 := by
    change self.config.mirrorDescentLr / self.config.temperature * self.config.orthogonalityPenalty < 2
    rw [div_mul_eq_mul_div, div_lt_iff₀ self.config.temperature_pos]
    exact hstep
  have hsymm : c.IsSymm := Matrix.ext fun i j => hcorr.symm j i
  obtain ⟨v, hv, hlower⟩ := OrthogonalityRegularizedSolver.quadScore_mirrorLoop_lt scores hsymm hcorr.abs_le hfactor fuel hw hsum
  exact ⟨c, v, hc, hv, hlower⟩

theorem RegimeConditionedDMAEngine.descends_default : ∃ c v, RegimeConditionedDMAEngine.default.cReg calmDay = .ok c ∧
    RegimeConditionedDMAEngine.default.config.solver.mirrorLoop exactMath ![0, 1] c 10 ![1 / 2, 1 / 2] = .ok v ∧
      (quadScore ![0, 1] RegimeConditionedDMAEngine.default.config.orthogonalityPenalty c v <
        quadScore ![0, 1] RegimeConditionedDMAEngine.default.config.orthogonalityPenalty c ![1 / 2, 1 / 2] ∨
        v = ![1 / 2, 1 / 2]) :=
  RegimeConditionedDMAEngine.descends RegimeConditionedDMAEngine.default
    (by simp only [RegimeConditionedDMAEngine.default, EnsembleConfig.default, EnsembleConfigFields.default, lit]; norm_num)
    (by norm_num) calmDay
    ![0, 1] (fun k => by fin_cases k <;> simp) (by norm_num [Fin.sum_univ_two]) 10

/-! ## What is refused, and runs -/

theorem predictForwardRegimePrior_eq_ok {probs : Fin 3 → ℝ} {t : Fin 3 → Fin 3 → ℝ} {p : Fin 3 → ℝ}
    (h : predictForwardRegimePrior probs t = .ok p) :
    (∀ r, 0 ≤ probs r) ∧ IsCloseToOne (∑ r, probs r) ∧ (∀ i j, 0 ≤ t i j) ∧ ∀ r, IsCloseToOne (∑ j, t r j) := by
  rw [predictForwardRegimePrior] at h
  split_ifs at h with hprobs hsum hentries
  split at h
  · cases h
  · rename_i hrows
    push Not at hprobs hentries
    exact ⟨hprobs, hsum, hentries, unnormalizedRow_eq_none.1 hrows⟩

/-- What the engine returned for was valid. -/
theorem RegimeConditionedDMAEngine.valid_of_ok {self : RegimeConditionedDMAEngine ℝ} {x : EnsembleInput K ℝ}
    {state : EnsembleState K ℝ}
    {result : EnsembleEmission K ℝ × EnsembleState K ℝ} (h : self.predictAndUpdate exactMath x state = .ok result) : x.Valid := by
  rw [predictAndUpdate] at h
  split_ifs at h with hvar hvol hbeta
  push Not at hvar hvol hbeta
  obtain ⟨⟨alphaT, newMeanVol⟩, -, h⟩ := exists_of_bind_ok h
  obtain ⟨p, hp, h⟩ := exists_of_bind_ok h
  obtain ⟨losses, hlosses, -⟩ := exists_of_bind_ok h
  obtain ⟨hprobs, hsum, hentries, hrows⟩ := predictForwardRegimePrior_eq_ok hp
  rw [computeLosses] at hlosses
  split_ifs at hlosses with hK hhorizons
  push Not at hhorizons
  exact ⟨hvar, hvol, hbeta, hprobs, hsum, hentries, hrows, hhorizons⟩

/-- The engine accepts what is valid, in every state, and nothing else; and what it returns is an update. -/
theorem RegimeConditionedDMAEngine.predictAndUpdate_isOk_iff (self : RegimeConditionedDMAEngine ℝ) (x : EnsembleInput K ℝ)
    (state : EnsembleState K ℝ) :
    ((self.predictAndUpdate exactMath x state).isOk = true ↔ x.Valid) ∧
      ∀ prediction next, self.predictAndUpdate exactMath x state = .ok (prediction, next) →
        self.Updates x state prediction next := by
  refine ⟨⟨fun h => ?_, fun hx => ?_⟩, fun prediction next h => ?_⟩
  · obtain ⟨result, hresult⟩ := exists_of_isOk h
    exact valid_of_ok hresult
  · obtain ⟨prediction, next, h, -⟩ := self.predictAndUpdate_ok hx state
    rw [h]
    rfl
  · obtain ⟨prediction', next', h', hupdates⟩ := self.predictAndUpdate_ok (valid_of_ok h) state
    obtain ⟨rfl, rfl⟩ := Prod.ext_iff.1 (Except.ok.inj (h.symm.trans h'))
    exact hupdates

/-- The updates, one after the other. -/
noncomputable def RegimeConditionedDMAEngine.updates (self : RegimeConditionedDMAEngine ℝ) (inputs : List (EnsembleInput K ℝ))
    (state : EnsembleState K ℝ) : Except (EnsembleExc ℝ) (EnsembleState K ℝ) :=
  inputs.foldlM (fun s x => (self.predictAndUpdate exactMath x s).map Prod.snd) state

/-- What holds of the state after some updates. -/
structure RegimeConditionedDMAEngine.Reached (engine : RegimeConditionedDMAEngine ℝ) (initialVol : ℝ)
    (inputs : List (EnsembleInput K ℝ))
    (state : EnsembleState K ℝ) : Prop where
  weights : Floored (engine.floor K) state.weights
  posteriors : ∀ r, Floored (engine.floor K) (state.regimeConditionalPosteriors r)
  effectiveModels : 1 ≤ state.effectiveModels ∧ state.effectiveModels ≤ K
  stepIndex : state.stepIndex = inputs.length
  cumulativeLosses : ∀ k, state.cumulativeLosses k = (inputs.map fun x =>
    asymmetricLoss engine.config.downsidePenalty x.realizedReturn
      (scaledPredictions exactMath x.predictions x.forecastHorizons k)).sum
  meanRealizedVolatility : ∀ lo hi, (lo ≤ initialVol ∧ initialVol ≤ hi) →
    (∀ x ∈ inputs, lo ≤ x.realizedVol ∧ x.realizedVol ≤ hi) →
    lo ≤ state.meanRealizedVolatility ∧ state.meanRealizedVolatility ≤ hi

/-- A share of two numbers is between what bounds both. -/
theorem share_mem {s x y lo hi : ℝ} (hs : 0 < s ∧ s ≤ 1) (hx : lo ≤ x ∧ x ≤ hi) (hy : lo ≤ y ∧ y ≤ hi) :
    lo ≤ (1 - s) * x + s * y ∧ (1 - s) * x + s * y ≤ hi := by
  have hrest := sub_nonneg.2 hs.2
  constructor
  · linarith [mul_le_mul_of_nonneg_left hx.1 hrest, mul_le_mul_of_nonneg_left hy.1 hs.1.le]
  · linarith [mul_le_mul_of_nonneg_left hx.2 hrest, mul_le_mul_of_nonneg_left hy.2 hs.1.le]

theorem RegimeConditionedDMAEngine.Updates.reached {self : RegimeConditionedDMAEngine ℝ} {initialVol : ℝ}
    {inputs : List (EnsembleInput K ℝ)}
    {state next : EnsembleState K ℝ} {x : EnsembleInput K ℝ} {prediction : EnsembleEmission K ℝ}
    (h : self.Updates x state prediction next)
    (hstate : self.Reached initialVol inputs state) : self.Reached initialVol (inputs ++ [x]) next where
  weights := h.weights
  posteriors := h.posteriors
  effectiveModels := h.effectiveModels
  stepIndex := by
    rw [h.stepIndex, hstate.stepIndex]
    simp
  cumulativeLosses k := by
    rw [h.cumulativeLosses, hstate.cumulativeLosses]
    simp
  meanRealizedVolatility lo hi hinit hinputs := by
    rw [h.meanRealizedVolatility]
    have hbefore := hstate.meanRealizedVolatility lo hi hinit fun y hy => hinputs y (List.mem_append_left _ hy)
    exact share_mem self.vaf.smoothing_mem hbefore (hinputs x (by simp))

theorem RegimeConditionedDMAEngine.startingWeights_ok (self : RegimeConditionedDMAEngine ℝ) (hK : 1 ≤ K)
    (initialDsr : Option (Fin K → ℝ)) :
    ∃ w, self.startingWeights exactMath initialDsr = .ok w ∧ Floored (self.floor K) w := by
  cases initialDsr with
  | none => exact ⟨_, rfl, floored_uniform hK self.config.minWeightFloor_pos⟩
  | some dsr =>
    have hne : Nonempty (Fin K) := Fin.pos_iff_nonempty.1 hK
    obtain ⟨m, hm⟩ := expShifted_ok dsr
    obtain ⟨hpos, hsum⟩ := npNormalize_exp fun k => dsr k - m
    refine ⟨npNormalize (laplace (self.floor K) (npNormalize fun k => Real.exp (dsr k - m))), ?_,
      floored_laplace (self.floor_mem hK).2.le ⟨fun k => (hpos k).le, hsum⟩⟩
    rw [startingWeights, softmaxStart, hm]
    rfl

/-- The softmax of the deflated Sharpe ratios, or equal weights: the first state is reached by no updates. -/
theorem RegimeConditionedDMAEngine.initializeState_ok (self : RegimeConditionedDMAEngine ℝ) (hK : 1 ≤ K)
    (initialDsr : Option (Fin K → ℝ))
    {initialVol : ℝ} (hvol : 0 < initialVol) :
    ∃ state, self.initializeState exactMath K initialDsr initialVol = .ok state ∧ self.Reached initialVol [] state := by
  have hfloor := (self.floor_mem hK).1
  obtain ⟨w, hw, hfloored⟩ := self.startingWeights_ok hK initialDsr
  have hnormal : npNormalize w = w := npNormalize_of_sum hfloored.2
  have hmem := hfloored.mem hfloor.le
  have hcard := one_div_sum_sq_le_card hmem
  rw [Fintype.card_fin] at hcard
  obtain ⟨state, hcreate, hfields⟩ := EnsembleStateFields.create_ok
    (f := { stepIndex := 0
            weights := w
            regimeConditionalPosteriors := fun _ => w
            cumulativeLosses := fun _ => 0
            effectiveModels := 1 / ∑ k, w k ^ 2
            meanRealizedVolatility := initialVol
            lastAmbiguityTemperature := 1 })
    le_rfl hK (hfloored.pos hfloor) hfloored.2 (fun _ => hmem) rfl hvol one_pos
  refine ⟨state, ?_, ?_⟩
  · rw [initializeState, if_neg (Nat.not_lt.2 hK), if_neg (not_le.2 hvol)]
    change (self.startingWeights exactMath initialDsr).bind _ = _
    rw [hw, Except.bind, hnormal]
    exact hcreate
  · refine ⟨by rw [hfields]; exact hfloored, fun _ => by rw [hfields]; exact hfloored,
      by rw [hfields]; exact ⟨one_le_one_div_sum_sq hmem, hcard⟩, by rw [hfields]; rfl, fun k => by rw [hfields]; rfl, fun lo hi hinit _ => by rw [hfields]; exact hinit⟩

/-- Any run of valid updates from the start goes through. -/
theorem RegimeConditionedDMAEngine.updates_ok (self : RegimeConditionedDMAEngine ℝ) (hK : 1 ≤ K) (initialDsr : Option (Fin K → ℝ))
    {initialVol : ℝ}
    (hvol : 0 < initialVol) {inputs : List (EnsembleInput K ℝ)} (hinputs : ∀ x ∈ inputs, x.Valid) :
    ∃ start state, self.initializeState exactMath K initialDsr initialVol = .ok start ∧ self.updates inputs start = .ok state ∧
      self.Reached initialVol inputs state := by
  obtain ⟨start, hstart, hreached⟩ := self.initializeState_ok hK initialDsr hvol
  obtain ⟨state, hrun, hstate⟩ := foldlM_ok (f := fun s x => (self.predictAndUpdate exactMath x s).map Prod.snd) hreached
    fun done t ht x hx => by
      obtain ⟨prediction, next, hupdate, hnext⟩ := self.predictAndUpdate_ok (hinputs x hx) t
      exact ⟨next, by rw [hupdate]; rfl, hnext.reached ht⟩
  exact ⟨start, state, hstart, hrun, hstate⟩

/-- A day on which the models predict a rise of a hundredth and a fall of as much. -/
noncomputable def movingDay (realizedReturn : ℝ) : EnsembleInput 2 ℝ :=
  { calmDay with
    predictions := ![lit (1 / 100), -lit (1 / 100)]
    realizedReturn := realizedReturn }

theorem valid_movingDay (realizedReturn : ℝ) : (movingDay realizedReturn).Valid :=
  ⟨valid_calmDay.1, valid_calmDay.2, valid_calmDay.3, valid_calmDay.4, valid_calmDay.5, valid_calmDay.6, valid_calmDay.7,
    valid_calmDay.8⟩

/-- A calm day, a rise that the first model predicted, and a fall that neither did. -/
noncomputable def threeDays : List (EnsembleInput 2 ℝ) := [calmDay, movingDay (lit (1 / 100)), movingDay (-lit (5 / 100))]

theorem RegimeConditionedDMAEngine.updates_ok_moving : ∃ start state,
    RegimeConditionedDMAEngine.default.initializeState exactMath 2 (some ![0, 1]) 1 = .ok start ∧
      RegimeConditionedDMAEngine.default.updates threeDays start = .ok state ∧
      RegimeConditionedDMAEngine.default.Reached 1 threeDays state := by
  refine RegimeConditionedDMAEngine.updates_ok RegimeConditionedDMAEngine.default (by norm_num)
    (some ![0, 1]) one_pos fun x hx => ?_
  simp only [threeDays, List.mem_cons, List.not_mem_nil, or_false] at hx
  rcases hx with rfl | rfl | rfl
  · exact valid_calmDay
  · exact valid_movingDay _
  · exact valid_movingDay _

end Engine

end Quant
