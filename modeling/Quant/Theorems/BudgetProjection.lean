import Mathlib.Algebra.Order.Ring.Rat
import Quant.Lemmas.BudgetStages

/-!
# The budget projection

Whatever stage answers, the result is within both budgets, has the signs of the point and is its own projection. It is the nearest
point within the budgets where one constraint is enough or the Newton stage settles, unless the first stage accepts a point that
exceeds the second budget by no more than its tolerance.
-/

namespace Quant

open Pylib

variable {n : ℕ} {α : Type} [Field α] [LinearOrder α] {y c : Fin n → α} {b1 b2 : α}

/-! ## What the projection is for -/

/-- The allocations within the gross leverage. -/
def leverageBall (n : ℕ) (b1 : α) : Set (Fin n → α) := {v | l1Of v ≤ b1}

/-- The allocations within the drawdown budget. -/
def cvarBall (c : Fin n → α) (b2 : α) : Set (Fin n → α) := {v | cvarOf c v ≤ b2}

/-- The allocations within both. -/
def budgetSet (c : Fin n → α) (b1 b2 : α) : Set (Fin n → α) := leverageBall n b1 ∩ cvarBall c b2

instance (v : Fin n → α) (b1 : α) : Decidable (v ∈ leverageBall n b1) := inferInstanceAs (Decidable (l1Of v ≤ b1))

instance (v c : Fin n → α) (b2 : α) : Decidable (v ∈ cvarBall c b2) := inferInstanceAs (Decidable (cvarOf c v ≤ b2))

instance (v c : Fin n → α) (b1 b2 : α) : Decidable (v ∈ budgetSet c b1 b2) := inferInstanceAs (Decidable (_ ∧ _))

/-- Both bounds are positive, and the point is not within them. -/
structure Exceeds (y c : Fin n → α) (b1 b2 : α) : Prop where
  b1_pos : 0 < b1
  b2_pos : 0 < b2
  notMem : y ∉ budgetSet c b1 b2

/-- The first stage accepts a point that exceeds the drawdown budget, by its tolerance at most. -/
structure InTolerance (y c : Fin n → α) (b1 b2 : α) : Prop extends Exceeds y c b1 b2 where
  lt : b2 < ∑ i, c i * softL1 b1 (fun j => |y j|) i
  le : ∑ i, c i * softL1 b1 (fun j => |y j|) i ≤ b2 + lit (1 / 10 ^ 12)

/-- The projection within one budget is within the other. -/
def OneBallSuffices [IsStrictOrderedRing α] (y c : Fin n → α) (b1 b2 : α) : Prop :=
  (∃ p, IsProjection (leverageBall n b1) y p ∧ p ∈ cvarBall c b2) ∨ ∃ p, IsProjection (cvarBall c b2) y p ∧ p ∈ leverageBall n b1

/-- Neither of the two single stages accepts. -/
structure BothActive (y c : Fin n → α) (b1 b2 : α) : Prop where
  first : b2 + lit (1 / 10 ^ 12) < ∑ i, c i * softL1 b1 (fun j => |y j|) i
  second : b1 + lit (1 / 10 ^ 12) < ∑ i, softWeighted c b2 (fun j => |y j|) i

/-- The Newton stage is reached, and stops with an unchanged active set and with multipliers that are not negative. -/
def NewtonSettles (forceDykstra : Bool) (y c : Fin n → α) (b1 b2 : α) : Prop :=
  forceDykstra = false ∧ BothActive y c b1 b2 ∧
    ∃ lam1 lam2 x, newtonStage (fun j => |y j|) c b1 b2 15 0 0 = .converged lam1 lam2 x ∧ 0 ≤ lam1 ∧ 0 ≤ lam2

/-! ## Which stage answers -/

/-- What is put back into the budgets, where the point exceeds them. -/
inductive Answer (forceDykstra : Bool) (y c : Fin n → α) (b1 b2 : α) : (Fin n → α) → Prop where
  | first (hle : ∑ i, c i * softL1 b1 (fun j => |y j|) i ≤ b2 + lit (1 / 10 ^ 12)) :
    Answer forceDykstra y c b1 b2 (softL1 b1 fun j => |y j|)
  | second (hgt : b2 + lit (1 / 10 ^ 12) < ∑ i, c i * softL1 b1 (fun j => |y j|) i)
    (hle : ∑ i, softWeighted c b2 (fun j => |y j|) i ≤ b1 + lit (1 / 10 ^ 12)) :
    Answer forceDykstra y c b1 b2 (softWeighted c b2 fun j => |y j|)
  | converged (hactive : BothActive y c b1 b2) {lam1 lam2 : α} {x : Fin n → α}
    (hnewton : newtonStage (fun j => |y j|) c b1 b2 15 0 0 = .converged lam1 lam2 x) : Answer forceDykstra y c b1 b2 x
  | parallel (hactive : BothActive y c b1 b2) {x : Fin n → α}
    (hnewton : newtonStage (fun j => |y j|) c b1 b2 15 0 0 = .parallel x) : Answer forceDykstra y c b1 b2 x
  | alternating (hactive : BothActive y c b1 b2)
    (hunsolved : forceDykstra = true ∨ newtonStage (fun j => |y j|) c b1 b2 15 0 0 = .unsolved) :
    Answer forceDykstra y c b1 b2 (dykstra c b1 b2 40 (fun j => |y j|) (fun _ => 0) fun _ => 0)

theorem mem_budgetSet {v : Fin n → α} : v ∈ budgetSet c b1 b2 ↔ l1Of v ≤ b1 ∧ cvarOf c v ≤ b2 := Iff.rfl

theorem projectTwoL1_of_mem (forceDykstra : Bool) (hb1 : 0 < b1) (hb2 : 0 < b2) (hy : y ∈ budgetSet c b1 b2) :
    projectTwoL1 forceDykstra y c b1 b2 = y := by
  rw [projectTwoL1, if_neg (by simp [hb1, hb2])]
  exact if_pos hy

theorem projectTwoL1_of_nonpos (forceDykstra : Bool) (h : b1 ≤ 0 ∨ b2 ≤ 0) : projectTwoL1 forceDykstra y c b1 b2 = fun _ => 0 :=
  if_pos h

theorem Exceeds.exists_answer (h : Exceeds y c b1 b2) (forceDykstra : Bool) :
    ∃ x, Answer forceDykstra y c b1 b2 x ∧ projectTwoL1 forceDykstra y c b1 b2 = rescaled y c b1 b2 x := by
  have hpos : ¬ (b1 ≤ 0 ∨ b2 ≤ 0) := by simp [h.b1_pos, h.b2_pos]
  have hnot : ¬ (∑ i, |y i| ≤ b1 ∧ ∑ i, c i * |y i| ≤ b2) := h.notMem
  rw [projectTwoL1, if_neg hpos]
  dsimp only
  rw [if_neg hnot]
  split_ifs with hfirst hsecond hforce
  · exact ⟨_, .first hfirst, rfl⟩
  · exact ⟨_, .second (not_le.1 hfirst) hsecond, rfl⟩
  · exact ⟨_, .alternating ⟨not_le.1 hfirst, not_le.1 hsecond⟩ (.inl hforce), rfl⟩
  · have hactive : BothActive y c b1 b2 := ⟨not_le.1 hfirst, not_le.1 hsecond⟩
    cases hnewton : newtonStage (fun j => |y j|) c b1 b2 15 0 0 with
    | converged lam1 lam2 x => exact ⟨x, .converged hactive hnewton, rfl⟩
    | parallel x => exact ⟨x, .parallel hactive hnewton, rfl⟩
    | unsolved => exact ⟨_, .alternating hactive (.inr hnewton), rfl⟩

/-! ## What the answers are -/

variable [IsStrictOrderedRing α]

omit [IsStrictOrderedRing α] in
theorem Exceeds.n_pos (h : Exceeds y c b1 b2) : 0 < n := by
  refine Nat.pos_of_ne_zero fun hn => h.notMem ?_
  subst hn
  simp [mem_budgetSet, l1Of, cvarOf, h.b1_pos.le, h.b2_pos.le]

omit [IsStrictOrderedRing α] in
theorem Exceeds.lt_cvarOf (h : Exceeds y c b1 b2) (hle : l1Of y ≤ b1) : b2 < cvarOf c y :=
  not_le.1 fun hcvar => h.notMem ⟨hle, hcvar⟩

/-- Where there is less than the leverage, the first stage only adds. -/
theorem Exceeds.le_first (h : Exceeds y c b1 b2) (hc : ∀ i, 0 < c i) (hle : l1Of y ≤ b1) :
    b2 < ∑ i, c i * softL1 b1 (fun j => |y j|) i :=
  (h.lt_cvarOf hle).trans_le <| Finset.sum_le_sum fun i _ =>
    mul_le_mul_of_nonneg_left (le_softL1 h.b1_pos h.n_pos (fun _ => abs_nonneg _) hle i) (hc i).le

theorem Exceeds.le_l1Of (h : Exceeds y c b1 b2) (hc : ∀ i, 0 < c i) (hfirst : ∑ i, c i * softL1 b1 (fun j => |y j|) i ≤ b2) :
    b1 ≤ l1Of y :=
  le_of_not_ge fun hle => absurd hfirst (not_le.2 (h.le_first hc hle))

theorem lt_of_tolerance_lt {b x : α} (h : b + lit (1 / 10 ^ 12) < x) : b < x :=
  (lt_add_of_pos_right b (lit_pos.2 (by norm_num))).trans h

theorem Exceeds.lt_cvarOf_of_first (h : Exceeds y c b1 b2) (hc : ∀ i, 0 < c i)
    (hgt : b2 + lit (1 / 10 ^ 12) < ∑ i, c i * softL1 b1 (fun j => |y j|) i) : b2 < cvarOf c y := by
  rcases le_or_gt (l1Of y) b1 with hle | hlt
  · exact h.lt_cvarOf hle
  · refine (lt_of_tolerance_lt hgt).trans_le (Finset.sum_le_sum fun i _ => ?_)
    exact mul_le_mul_of_nonneg_left (softL1_mem h.b1_pos h.n_pos (fun _ => abs_nonneg _) hlt.le i).2 (hc i).le

theorem BothActive.le_l1Of (hactive : BothActive y c b1 b2) (h : Exceeds y c b1 b2) (hc : ∀ i, 0 < c i) : b1 ≤ l1Of y := by
  have hlt := h.lt_cvarOf_of_first hc hactive.first
  refine (lt_of_tolerance_lt hactive.second).le.trans (Finset.sum_le_sum fun i _ => ?_)
  exact (softWeighted_mem hc h.b2_pos h.n_pos (fun _ => abs_nonneg _) hlt i).2

/-- No answer is larger than the point, if the first stage does not add. -/
theorem Answer.mem {forceDykstra : Bool} {x : Fin n → α} (hx : Answer forceDykstra y c b1 b2 x) (h : Exceeds y c b1 b2)
    (hc : ∀ i, 0 < c i) (htol : InTolerance y c b1 b2 → b1 ≤ l1Of y) (i : Fin n) : 0 ≤ x i ∧ x i ≤ |y i| := by
  have ha : ∀ j, 0 ≤ |y j| := fun j => abs_nonneg _
  cases hx with
  | first hle =>
    have hsum : b1 ≤ l1Of y := by
      by_contra hlt
      exact hlt (htol ⟨h, h.le_first hc (not_le.1 hlt).le, hle⟩)
    exact softL1_mem h.b1_pos h.n_pos ha hsum i
  | second hgt hle =>
    exact softWeighted_mem hc h.b2_pos h.n_pos ha (h.lt_cvarOf_of_first hc hgt) i
  | converged hactive hnewton =>
    have hsound := newtonStage_sound hc h.b1_pos h.b2_pos (a := fun j => |y j|) 15 0 0
    rw [hnewton] at hsound
    rw [hsound.1]
    exact softBoth_mem ha hc (le_max_left _ _) (le_max_left _ _) i
  | parallel hactive hnewton =>
    have hsound := newtonStage_sound hc h.b1_pos h.b2_pos (a := fun j => |y j|) 15 0 0
    rw [hnewton] at hsound
    obtain ⟨b, hb, hle, rfl⟩ := hsound
    exact softL1_mem hb h.n_pos ha (hle.trans (hactive.le_l1Of h hc)) i
  | alternating hactive hunsolved =>
    exact dykstra_mem (a := fun j => |y j|) hc h.b1_pos h.b2_pos h.n_pos 40 ha (fun _ => le_rfl) (fun _ => le_rfl)
      (fun j => by simp) i

/-! ## The nearest point -/

theorem isProjection_leverageBall (hb1 : 0 < b1) (hn : 0 < n) (hsum : b1 ≤ l1Of y) :
    IsProjection (leverageBall n b1) y (withSigns (softL1 b1 fun j => |y j|) y) := by
  have hth := l1Threshold_nonneg hb1 hn (a := fun j => |y j|) hsum
  have hbounds := softL1_mem (a := fun j => |y j|) hb1 hn (fun _ => abs_nonneg _) hsum
  refine isProjection_withSigns (w := fun _ => l1Threshold b1 (sortedDescending fun j => |y j|)) (fun _ => hth) (fun i => rfl)
    ((l1Of_withSigns hbounds).trans (sum_softL1 hb1 hn _)).le fun z hz => ?_
  rw [← Finset.mul_sum, ← Finset.mul_sum, sum_softL1 hb1 hn]
  exact mul_le_mul_of_nonneg_left hz hth

theorem isProjection_cvarBall (hc : ∀ i, 0 < c i) (hb2 : 0 < b2) (hn : 0 < n) (hsum : b2 < cvarOf c y) :
    IsProjection (cvarBall c b2) y (withSigns (softWeighted c b2 fun j => |y j|) y) := by
  have hlam := weightedMultiplier_nonneg hc hb2 hn hsum
  have hbounds := softWeighted_mem (a := fun j => |y j|) hc hb2 hn (fun _ => abs_nonneg _) hsum
  refine isProjection_withSigns (w := fun i => weightedMultiplier c (fun j => |y j|) b2 0 0 (ratioPairs c fun j => |y j|) * c i)
    (fun i => mul_nonneg hlam (hc i).le) (fun i => rfl)
    ((cvarOf_withSigns hbounds).trans (sum_softWeighted hc hb2 hn _)).le fun z hz => ?_
  simp only [mul_assoc, ← Finset.mul_sum]
  rw [sum_softWeighted hc hb2 hn]
  exact mul_le_mul_of_nonneg_left hz hlam

/-- The first answer, where it is within the drawdown budget. -/
theorem Exceeds.first_isProjection (h : Exceeds y c b1 b2) (hc : ∀ i, 0 < c i)
    (hfirst : ∑ i, c i * softL1 b1 (fun j => |y j|) i ≤ b2) :
    IsProjection (budgetSet c b1 b2) y (rescaled y c b1 b2 (softL1 b1 fun j => |y j|)) := by
  have hsum := h.le_l1Of hc hfirst
  have hball := isProjection_leverageBall h.b1_pos h.n_pos hsum
  have hbounds := softL1_mem (a := fun j => |y j|) h.b1_pos h.n_pos (fun _ => abs_nonneg _) hsum
  rw [rescaled_of_le hbounds (sum_softL1 h.b1_pos h.n_pos _).le hfirst]
  exact hball.mono Set.inter_subset_left ⟨hball.mem, (cvarOf_withSigns hbounds).trans_le hfirst⟩

/-- The second answer, where it is within the leverage. -/
theorem Exceeds.second_isProjection (h : Exceeds y c b1 b2) (hc : ∀ i, 0 < c i) (hlt : b2 < cvarOf c y)
    (hsecond : ∑ i, softWeighted c b2 (fun j => |y j|) i ≤ b1) :
    IsProjection (budgetSet c b1 b2) y (rescaled y c b1 b2 (softWeighted c b2 fun j => |y j|)) := by
  have hball := isProjection_cvarBall hc h.b2_pos h.n_pos hlt
  have hbounds := softWeighted_mem (a := fun j => |y j|) hc h.b2_pos h.n_pos (fun _ => abs_nonneg _) hlt
  rw [rescaled_of_le hbounds hsecond (sum_softWeighted hc h.b2_pos h.n_pos _).le]
  exact hball.mono Set.inter_subset_right ⟨(l1Of_withSigns hbounds).trans_le hsecond, hball.mem⟩

/-- The answer of the Newton stage, where its multipliers are not negative. -/
theorem Exceeds.newton_isProjection (h : Exceeds y c b1 b2) (hc : ∀ i, 0 < c i) {lam1 lam2 : α} {x : Fin n → α}
    (hnewton : newtonStage (fun j => |y j|) c b1 b2 15 0 0 = .converged lam1 lam2 x) (h1 : 0 ≤ lam1) (h2 : 0 ≤ lam2) :
    IsProjection (budgetSet c b1 b2) y (rescaled y c b1 b2 x) := by
  have hsound := newtonStage_sound hc h.b1_pos h.b2_pos (a := fun j => |y j|) 15 0 0
  rw [hnewton] at hsound
  obtain ⟨hx, hsums⟩ := hsound
  obtain ⟨hsum1, hsum2⟩ := hsums h1 h2
  rw [max_eq_right h1, max_eq_right h2] at hx
  have hbounds : ∀ i, 0 ≤ x i ∧ x i ≤ |y i| := fun i => by
    rw [hx]
    exact softBoth_mem (fun _ => abs_nonneg _) hc h1 h2 i
  rw [rescaled_of_le hbounds hsum1.le hsum2.le]
  refine isProjection_withSigns (w := fun i => lam1 + lam2 * c i) (fun i => add_nonneg h1 (mul_nonneg h2 (hc i).le)) (fun i => ?_)
    ⟨(l1Of_withSigns hbounds).trans_le hsum1.le, (cvarOf_withSigns hbounds).trans_le hsum2.le⟩ fun z hz => ?_
  · rw [hx, softBoth, sub_sub]
  · have hsplit : ∀ v : Fin n → α, ∑ i, (lam1 + lam2 * c i) * v i = lam1 * ∑ i, v i + lam2 * ∑ i, c i * v i := fun v => by
      simp only [add_mul, mul_assoc, Finset.sum_add_distrib, Finset.mul_sum]
    rw [hsplit, hsplit, hsum1, hsum2]
    exact add_le_add (mul_le_mul_of_nonneg_left hz.1 h1) (mul_le_mul_of_nonneg_left hz.2 h2)

/-- Where one ball is enough, one of the two single thresholds is within both budgets. -/
theorem Exceeds.of_oneBallSuffices (h : Exceeds y c b1 b2) (hc : ∀ i, 0 < c i) (hone : OneBallSuffices y c b1 b2) :
    ∑ i, c i * softL1 b1 (fun j => |y j|) i ≤ b2 ∨ b2 < cvarOf c y ∧ ∑ i, softWeighted c b2 (fun j => |y j|) i ≤ b1 := by
  rcases hone with ⟨p, hp, hmem⟩ | ⟨p, hp, hmem⟩
  · have hconvex : Convex α (leverageBall n b1) := by
      have heq : weightedBall (fun _ => 1) b1 = leverageBall n b1 := by simp [weightedBall, leverageBall, l1Of]
      exact heq ▸ convex_weightedBall (fun _ => zero_le_one) b1
    rcases le_or_gt (l1Of y) b1 with hle | hlt
    · rw [hp.unique hconvex (.self hle)] at hmem
      exact absurd ⟨hle, hmem⟩ h.notMem
    · rw [hp.unique hconvex (isProjection_leverageBall h.b1_pos h.n_pos hlt.le)] at hmem
      exact .inl ((cvarOf_withSigns (softL1_mem h.b1_pos h.n_pos (fun _ => abs_nonneg _) hlt.le)).symm.trans_le hmem)
  · have hconvex : Convex α (cvarBall c b2) := convex_weightedBall (fun i => (hc i).le) b2
    rcases le_or_gt (cvarOf c y) b2 with hle | hlt
    · rw [hp.unique hconvex (.self hle)] at hmem
      exact absurd ⟨hmem, hle⟩ h.notMem
    · rw [hp.unique hconvex (isProjection_cvarBall hc h.b2_pos h.n_pos hlt)] at hmem
      exact .inr ⟨hlt, (l1Of_withSigns (softWeighted_mem hc h.b2_pos h.n_pos (fun _ => abs_nonneg _) hlt)).symm.trans_le hmem⟩

theorem BothActive.not_oneBallSuffices (hactive : BothActive y c b1 b2) (h : Exceeds y c b1 b2) (hc : ∀ i, 0 < c i) :
    ¬ OneBallSuffices y c b1 b2 := by
  intro hone
  rcases h.of_oneBallSuffices hc hone with hfirst | ⟨-, hsecond⟩
  · exact absurd hfirst (not_le.2 (lt_of_tolerance_lt hactive.first))
  · exact absurd hsecond (not_le.2 (lt_of_tolerance_lt hactive.second))

/-- Outside the tolerance, what answers is the nearest point where one ball is enough or the Newton stage settles. -/
theorem Answer.isProjection {forceDykstra : Bool} {x : Fin n → α} (hx : Answer forceDykstra y c b1 b2 x) (h : Exceeds y c b1 b2)
    (hc : ∀ i, 0 < c i) (htol : ¬ InTolerance y c b1 b2)
    (hcase : OneBallSuffices y c b1 b2 ∨ NewtonSettles forceDykstra y c b1 b2) :
    IsProjection (budgetSet c b1 b2) y (rescaled y c b1 b2 x) := by
  cases hx with
  | first hle => exact h.first_isProjection hc (not_lt.1 fun hlt => htol ⟨h, hlt, hle⟩)
  | second hgt hle =>
    rcases hcase with hone | ⟨-, hactive, -⟩
    · rcases h.of_oneBallSuffices hc hone with hfirst | ⟨hlt, hsecond⟩
      · exact absurd hfirst (not_le.2 (lt_of_tolerance_lt hgt))
      · exact h.second_isProjection hc hlt hsecond
    · exact absurd hle (not_le.2 hactive.second)
  | converged hactive hnewton =>
    rcases hcase with hone | ⟨-, -, lam1, lam2, x', hnewton', h1, h2⟩
    · exact absurd hone (hactive.not_oneBallSuffices h hc)
    · rw [hnewton] at hnewton'
      cases hnewton'
      exact h.newton_isProjection hc hnewton h1 h2
  | parallel hactive hnewton =>
    rcases hcase with hone | ⟨-, -, lam1, lam2, x', hnewton', -⟩
    · exact absurd hone (hactive.not_oneBallSuffices h hc)
    · rw [hnewton] at hnewton'
      cases hnewton'
  | alternating hactive hunsolved =>
    rcases hcase with hone | ⟨hforce, -, lam1, lam2, x', hnewton', -⟩
    · exact absurd hone (hactive.not_oneBallSuffices h hc)
    · rcases hunsolved with hforce' | hnewton
      · rw [hforce] at hforce'
        cases hforce'
      · rw [hnewton] at hnewton'
        cases hnewton'

/-! ## The result -/

theorem projectTwoL1_mem (forceDykstra : Bool) (hc : ∀ i, 0 < c i) (hb1 : 0 ≤ b1) (hb2 : 0 ≤ b2) (y : Fin n → α) :
    projectTwoL1 forceDykstra y c b1 b2 ∈ budgetSet c b1 b2 ∧ ∀ i, 0 ≤ projectTwoL1 forceDykstra y c b1 b2 i * y i := by
  by_cases hzero : b1 ≤ 0 ∨ b2 ≤ 0
  · rw [projectTwoL1_of_nonpos forceDykstra hzero]
    exact ⟨by simp [mem_budgetSet, l1Of, cvarOf, hb1, hb2], fun i => (zero_mul _).ge⟩
  · rw [not_or, not_le, not_le] at hzero
    by_cases hy : y ∈ budgetSet c b1 b2
    · rw [projectTwoL1_of_mem forceDykstra hzero.1 hzero.2 hy]
      exact ⟨hy, fun i => mul_self_nonneg _⟩
    · obtain ⟨x, -, heq⟩ := Exceeds.exists_answer ⟨hzero.1, hzero.2, hy⟩ forceDykstra
      obtain ⟨t, ht, -, hscaled, hl1, hcvar⟩ := exists_rescaled hc hzero.1 hzero.2 y x
      rw [heq]
      refine ⟨⟨hl1, hcvar⟩, fun i => ?_⟩
      rw [hscaled, mul_right_comm]
      exact mul_nonneg (withSigns_mul_nonneg x y i) ht

theorem abs_projectTwoL1_le (forceDykstra : Bool) (hc : ∀ i, 0 < c i) (htol : InTolerance y c b1 b2 → b1 ≤ l1Of y) (i : Fin n) :
    |projectTwoL1 forceDykstra y c b1 b2 i| ≤ |y i| := by
  by_cases hzero : b1 ≤ 0 ∨ b2 ≤ 0
  · rw [projectTwoL1_of_nonpos forceDykstra hzero, abs_zero]
    exact abs_nonneg _
  · rw [not_or, not_le, not_le] at hzero
    by_cases hy : y ∈ budgetSet c b1 b2
    · rw [projectTwoL1_of_mem forceDykstra hzero.1 hzero.2 hy]
    · have h : Exceeds y c b1 b2 := ⟨hzero.1, hzero.2, hy⟩
      obtain ⟨x, hx, heq⟩ := h.exists_answer forceDykstra
      rw [heq]
      exact abs_rescaled_le hc hzero.1 hzero.2 (hx.mem h hc htol) i

/-- What is within the budgets is not moved. -/
theorem projectTwoL1_idem (forceDykstra : Bool) (hc : ∀ i, 0 < c i) (hb1 : 0 ≤ b1) (hb2 : 0 ≤ b2) (y : Fin n → α) :
    projectTwoL1 forceDykstra (projectTwoL1 forceDykstra y c b1 b2) c b1 b2 = projectTwoL1 forceDykstra y c b1 b2 := by
  by_cases hzero : b1 ≤ 0 ∨ b2 ≤ 0
  · rw [projectTwoL1_of_nonpos forceDykstra hzero, projectTwoL1_of_nonpos forceDykstra hzero]
  · rw [not_or, not_le, not_le] at hzero
    exact projectTwoL1_of_mem forceDykstra hzero.1 hzero.2 (projectTwoL1_mem forceDykstra hc hb1 hb2 y).1

omit [IsStrictOrderedRing α] in
theorem projectTwoL1Constraints_eq {validate : Bool} (forceDykstra : Bool) (hc : ∀ i, 0 < c i) (hb1 : 0 ≤ b1) (hb2 : 0 ≤ b2)
    (hn : validate = true → n ≠ 0) (y : Fin n → α) :
    projectTwoL1Constraints y c b1 b2 validate forceDykstra = .ok (projectTwoL1 forceDykstra y c b1 b2) := by
  have hweights : ¬ ∃ i, c i ≤ 0 := fun ⟨i, hi⟩ => absurd (hc i) (not_lt.2 hi)
  cases validate with
  | false => rfl
  | true =>
    rw [projectTwoL1Constraints, if_pos rfl, if_neg (hn rfl), if_neg hweights, if_neg (not_lt.2 hb1), if_neg (not_lt.2 hb2)]

/-- The result is within the budgets, has the signs of the point and is its own projection; it is no larger than the point, and
the nearest within the budgets where one ball is enough or the Newton stage settles, apart from the tolerance of the first
stage. -/
theorem budgetProjection {c : Fin n → α} (hc : ∀ i, 0 < c i) {b1 b2 : α} (hb1 : 0 ≤ b1) (hb2 : 0 ≤ b2) (y : Fin n → α)
    {validate : Bool} (hn : validate = true → n ≠ 0) (forceDykstra : Bool) :
    ∃ nu, projectTwoL1Constraints y c b1 b2 validate forceDykstra = .ok nu ∧
      (∑ i, |nu i| ≤ b1 ∧ ∑ i, c i * |nu i| ≤ b2) ∧ (∀ i, 0 ≤ nu i * y i) ∧
      ((InTolerance y c b1 b2 → b1 ≤ l1Of y) → ∀ i, |nu i| ≤ |y i|) ∧
      projectTwoL1Constraints nu c b1 b2 validate forceDykstra = .ok nu ∧
      (Exceeds y c b1 b2 → ¬ InTolerance y c b1 b2 → OneBallSuffices y c b1 b2 ∨ NewtonSettles forceDykstra y c b1 b2 →
        IsProjection (budgetSet c b1 b2) y nu) := by
  obtain ⟨hmem, hsigns⟩ := projectTwoL1_mem forceDykstra hc hb1 hb2 y
  refine ⟨projectTwoL1 forceDykstra y c b1 b2, projectTwoL1Constraints_eq forceDykstra hc hb1 hb2 hn y, hmem, hsigns,
    abs_projectTwoL1_le forceDykstra hc, ?_, fun h htol hcase => ?_⟩
  · rw [projectTwoL1Constraints_eq forceDykstra hc hb1 hb2 hn, projectTwoL1_idem forceDykstra hc hb1 hb2]
  · obtain ⟨x, hx, heq⟩ := h.exists_answer forceDykstra
    rw [heq]
    exact hx.isProjection h hc htol hcase

/-! ## Two assets -/

/-- Two assets of one weight. -/
def evenWeights : Fin 2 → ℚ := fun _ => 1

/-- Two for the one and one for the other. -/
def twoToOne : Fin 2 → ℚ := ![2, 1]

/-- One, and little more. -/
def almostOne : Fin 2 → ℚ := ![1, 1 / 100]

theorem evenWeights_pos (i : Fin 2) : 0 < evenWeights i := zero_lt_one

theorem ok_projectTwoL1 {y : Fin 2 → ℚ} {b1 b2 : ℚ} (hb1 : 0 ≤ b1) (hb2 : 0 ≤ b2) :
    projectTwoL1Constraints y evenWeights b1 b2 true false = .ok (projectTwoL1 false y evenWeights b1 b2) :=
  projectTwoL1Constraints_eq false evenWeights_pos hb1 hb2 (fun _ => two_ne_zero) y

/-- With a leverage of one, what is left is the one asset. -/
theorem budgetProjection_leverage : ∃ nu, projectTwoL1Constraints twoToOne evenWeights 1 10 true false = .ok nu ∧ nu = ![1, 0] ∧
    IsProjection (budgetSet evenWeights 1 10) twoToOne nu := by
  obtain ⟨nu, hnu, -, -, -, -, hnearest⟩ :=
    @budgetProjection 2 ℚ _ _ _ evenWeights evenWeights_pos 1 10 (by norm_num) (by norm_num) twoToOne true
      (fun _ => two_ne_zero) false
  have hexceeds : Exceeds twoToOne evenWeights 1 10 := ⟨by norm_num, by norm_num, by decide +kernel⟩
  have hball : IsProjection (leverageBall 2 1) twoToOne _ := isProjection_leverageBall (by norm_num) two_pos (by decide +kernel)
  refine ⟨nu, hnu, ?_, hnearest hexceeds (fun h => absurd h.lt (by decide +kernel)) (.inl (.inl ⟨_, hball, by decide +kernel⟩))⟩
  rw [ok_projectTwoL1 (by norm_num) (by norm_num)] at hnu
  cases hnu
  decide +kernel

/-- Within the tolerance, the first stage may add to an asset, and what it scales down may not be the nearest point. -/
theorem budgetProjection_counterexample :
    (∃ nu, projectTwoL1Constraints almostOne evenWeights (101 / 100 + 1 / (2 * 10 ^ 12))
      (101 / 100 - 1 / 10 ^ 13) true false = .ok nu ∧
      |almostOne 1| < |nu 1|) ∧
    Exceeds twoToOne evenWeights 2 (2 - 1 / (2 * 10 ^ 12)) ∧ OneBallSuffices twoToOne evenWeights 2 (2 - 1 / (2 * 10 ^ 12)) ∧
    ∃ nu, projectTwoL1Constraints twoToOne evenWeights 2 (2 - 1 / (2 * 10 ^ 12)) true false = .ok nu ∧
      ∃ z ∈ budgetSet evenWeights 2 (2 - 1 / (2 * 10 ^ 12)), sqDist twoToOne z < sqDist twoToOne nu := by
  refine ⟨⟨_, ok_projectTwoL1 (by norm_num) (by norm_num), by decide +kernel⟩, ⟨by norm_num, by norm_num, by decide +kernel⟩, ?_,
    _, ok_projectTwoL1 (by norm_num) (by norm_num), ?_⟩
  · have hball : IsProjection (cvarBall evenWeights (2 - 1 / (2 * 10 ^ 12))) twoToOne _ :=
      isProjection_cvarBall evenWeights_pos (by norm_num) two_pos (by decide +kernel)
    exact .inr ⟨_, hball, by decide +kernel⟩
  · exact ⟨![3 / 2 - 1 / (4 * 10 ^ 12), 1 / 2 - 1 / (4 * 10 ^ 12)], by decide +kernel, by decide +kernel⟩

end Quant
