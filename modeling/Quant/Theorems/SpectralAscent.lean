import Mathlib.Analysis.Convex.Mul
import Mathlib.Tactic.IntervalCases
import Quant.Analytics.ExecutionSizing
import Quant.Pylib.Calculus
import Quant.Pylib.Projection

/-!
# The ascent of the projected gradient

A candidate that the line search accepts does not lower the objective. A round that ends at its trial unchecked may, and it leaves
the value and the gradient of the point before it behind for the next rounds: what they accept is still no worse than the start.
-/

namespace Quant

open Pylib

variable {n : ℕ} {α : Type} [Field α] [LinearOrder α]

namespace SpgProblem

variable (problem : SpgProblem n α)

/-! ## What a round does -/

/-- The point at a part of the way to the trial. -/
def candidate (s : SpgState n α) (beta : α) : Fin n → α := fun i => s.nuCurr i + beta * problem.direction s i

/-- The slope along the direction. -/
def slope (s : SpgState n α) : α := ∑ i, s.gCurr i * problem.direction s i

/-- The Armijo condition, with the value that the loop holds. -/
def Rises (s : SpgState n α) (beta : α) : Prop :=
  s.lCurr + lit (1 / 10 ^ 4) * beta * problem.slope s ≤ problem.objective (problem.candidate s beta)

/-- The round ends at its trial whatever the objective is there: the trial is near, or no candidate rises. -/
def Unchecked (s : SpgState n α) : Prop :=
  maxAbs (problem.direction s) < problem.tolerance ∨ ∀ k < 10, ¬ problem.Rises s (lit (1 / 2) ^ k)

/-- The state before the last round that the loop makes, if it makes one. -/
def beforeLast : ℕ → SpgState n α → Option (SpgState n α)
  | 0, _ => none
  | rounds + 1, s => some (if (problem.round s).2 then s else (beforeLast rounds (problem.round s).1).getD s)

theorem accept_cases (s : SpgState n α) (beta : α) (k : ℕ) :
    (∃ j < k, problem.Rises s (beta * lit (1 / 2) ^ j) ∧
      problem.accept s (problem.direction s) (problem.slope s) k beta = some (problem.candidate s (beta * lit (1 / 2) ^ j))) ∨
    ((∀ j < k, ¬ problem.Rises s (beta * lit (1 / 2) ^ j)) ∧
      problem.accept s (problem.direction s) (problem.slope s) k beta = none) := by
  induction k generalizing beta with
  | zero => exact .inr ⟨fun j hj => absurd hj (Nat.not_lt_zero j), rfl⟩
  | succ k ih =>
    by_cases hrise : problem.Rises s beta
    · refine .inl ⟨0, k.succ_pos, ?_, ?_⟩ <;> rw [pow_zero, mul_one]
      · exact hrise
      · exact if_pos hrise
    · have hnext : problem.accept s (problem.direction s) (problem.slope s) (k + 1) beta =
          problem.accept s (problem.direction s) (problem.slope s) k (beta * lit (1 / 2)) := if_neg hrise
      rw [hnext]
      have hshift : ∀ j, beta * lit (1 / 2) * lit (1 / 2) ^ j = beta * (lit (1 / 2) : α) ^ (j + 1) :=
        fun j => by rw [pow_succ', mul_assoc]
      have hrest := ih (beta * lit (1 / 2))
      simp only [hshift] at hrest
      rcases hrest with ⟨j, hj, h⟩ | ⟨hall, h⟩
      · exact .inl ⟨j + 1, Nat.succ_lt_succ hj, h⟩
      · refine .inr ⟨fun j hj => ?_, h⟩
        cases j with
        | zero => rwa [pow_zero, mul_one]
        | succ j => exact hall j (Nat.lt_of_succ_lt_succ hj)

theorem lineSearch_cases (s : SpgState n α) :
    (∃ j < 10, problem.Rises s (lit (1 / 2) ^ j) ∧ problem.lineSearch s = some (problem.candidate s (lit (1 / 2) ^ j))) ∨
    ((∀ j < 10, ¬ problem.Rises s (lit (1 / 2) ^ j)) ∧ problem.lineSearch s = none) := by
  have hcases := problem.accept_cases s 1 10
  simp only [one_mul] at hcases
  exact hcases

/-- A round ends at its trial with the value of the point before, or at a candidate that rises. -/
theorem round_cases (s : SpgState n α) :
    (problem.Unchecked s ∧ (problem.round s).1.nuCurr = problem.trial s ∧ (problem.round s).1.lCurr = s.lCurr) ∨
    (¬ problem.Unchecked s ∧ ∃ j < 10, problem.Rises s (lit (1 / 2) ^ j) ∧
      (problem.round s).1.nuCurr = problem.candidate s (lit (1 / 2) ^ j) ∧
      (problem.round s).1.lCurr = problem.objective (problem.candidate s (lit (1 / 2) ^ j))) := by
  by_cases hnear : maxAbs (problem.direction s) < problem.tolerance
  · refine .inl ⟨.inl hnear, ?_, ?_⟩ <;> rw [round, if_pos hnear]
  · rcases problem.lineSearch_cases s with ⟨j, hj, hrise, hsearch⟩ | ⟨hnone, hsearch⟩
    · refine .inr ⟨?_, j, hj, hrise, ?_, ?_⟩
      · rintro (h | h)
        · exact hnear h
        · exact h j hj hrise
      all_goals rw [round, if_neg hnear, hsearch]
    · refine .inl ⟨.inr hnone, ?_, ?_⟩ <;> rw [round, if_neg hnear, hsearch]

theorem round_alpha_pos [IsStrictOrderedRing α] {s : SpgState n α} (h : 0 < s.alpha) : 0 < (problem.round s).1.alpha := by
  by_cases hnear : maxAbs (problem.direction s) < problem.tolerance
  · rw [round, if_pos hnear]
    exact h
  · rw [round, if_neg hnear]
    dsimp only
    split_ifs
    · exact (lit_pos.2 (by norm_num)).trans_le (clip_mem (lit_le_lit.2 (by norm_num))).1
    · exact lit_pos.2 (by norm_num)

end SpgProblem

/-! ## What holds along the run -/

namespace SpgState

/-- The point is in the set, the step length is positive and the value that the loop holds is at least the bound. -/
structure Ascends (K : Set (Fin n → α)) (bound : α) (s : SpgState n α) : Prop where
  nuCurr_mem : s.nuCurr ∈ K
  alpha_pos : 0 < s.alpha
  le_lCurr : bound ≤ s.lCurr

variable [IsStrictOrderedRing α] {problem : SpgProblem n α} {K : Set (Fin n → α)} {bound : α} {s : SpgState n α}

theorem half_pow_mem (j : ℕ) : 0 ≤ (lit (1 / 2) : α) ^ j ∧ (lit (1 / 2) : α) ^ j ≤ 1 :=
  ⟨pow_nonneg (lit_pos.2 (by norm_num)).le j, pow_le_one₀ (lit_pos.2 (by norm_num)).le (lit_le_one.2 (by norm_num))⟩

namespace Ascends

/-- What rises is at least the value that the loop holds. -/
theorem lCurr_le (h : s.Ascends K bound) (hK : Convex α K) (hproject : ∀ x, IsProjection K x (problem.project x)) {j : ℕ}
    (hrise : problem.Rises s (lit (1 / 2) ^ j)) : s.lCurr ≤ problem.objective (problem.candidate s (lit (1 / 2) ^ j)) := by
  have hslope : 0 ≤ problem.slope s := (hproject _).dot_nonneg h.alpha_pos hK h.nuCurr_mem
  have hterm : 0 ≤ lit (1 / 10 ^ 4) * lit (1 / 2) ^ j * problem.slope s :=
    mul_nonneg (mul_nonneg (lit_pos.2 (by norm_num)).le (half_pow_mem j).1) hslope
  exact (le_add_of_nonneg_right hterm).trans hrise

/-- One round. -/
theorem round (h : s.Ascends K bound) (hK : Convex α K) (hproject : ∀ x, IsProjection K x (problem.project x)) :
    (problem.round s).1.Ascends K bound := by
  refine ⟨?_, problem.round_alpha_pos h.alpha_pos, ?_⟩
  · rcases problem.round_cases s with ⟨-, hnu, -⟩ | ⟨-, j, -, -, hnu, -⟩ <;> rw [hnu]
    · exact (hproject _).mem
    · exact towards_mem hK h.nuCurr_mem (hproject _).mem (half_pow_mem j).1 (half_pow_mem j).2
  · rcases problem.round_cases s with ⟨-, -, hvalue⟩ | ⟨-, j, -, hrise, -, hvalue⟩ <;> rw [hvalue]
    · exact h.le_lCurr
    · exact h.le_lCurr.trans (h.lCurr_le hK hproject hrise)

/-- The loop ends with a round from a state of which the same holds. -/
theorem beforeLast (hK : Convex α K) (hproject : ∀ x, IsProjection K x (problem.project x)) (rounds : ℕ) (h : s.Ascends K bound) :
    ∃ last, problem.beforeLast (rounds + 1) s = some last ∧ last.Ascends K bound ∧
      problem.loop (rounds + 1) s = (problem.round last).1 := by
  induction rounds generalizing s with
  | zero => exact ⟨s, by simp [SpgProblem.beforeLast], h, by simp [SpgProblem.loop]⟩
  | succ rounds ih =>
    by_cases hstop : (problem.round s).2
    · exact ⟨s, by simp [SpgProblem.beforeLast, hstop], h, by simp [SpgProblem.loop, hstop]⟩
    · obtain ⟨last, hlast, hascends, hloop⟩ := ih (h.round hK hproject)
      refine ⟨last, ?_, hascends, ?_⟩
      · rw [SpgProblem.beforeLast, if_neg hstop, hlast, Option.getD_some]
      · rw [SpgProblem.loop]
        simpa [hstop] using hloop

/-- A round ends no lower than the bound, unless it ends lower unchecked. -/
theorem le_objective_round (h : s.Ascends K bound) (hK : Convex α K) (hproject : ∀ x, IsProjection K x (problem.project x)) :
    bound ≤ problem.objective (problem.round s).1.nuCurr ↔
    (problem.Unchecked s → bound ≤ problem.objective (problem.trial s)) := by
  rcases problem.round_cases s with ⟨hunchecked, hnu, -⟩ | ⟨hchecked, j, -, hrise, hnu, -⟩ <;> rw [hnu]
  · exact ⟨fun hle _ => hle, fun himp => himp hunchecked⟩
  · exact iff_of_true (h.le_lCurr.trans (h.lCurr_le hK hproject hrise)) fun hunchecked => absurd hunchecked hchecked

theorem start (hproject : ∀ x, IsProjection K x (problem.project x)) (nuCand : Fin n → α) :
    (problem.start nuCand).Ascends K (problem.objective (problem.project nuCand)) :=
  ⟨(hproject nuCand).mem, lit_pos.2 (by norm_num), le_rfl⟩

end Ascends

end SpgState

/-! ## The ascent -/

/-- The loop ends no lower than it starts exactly when its last round does not end lower unchecked. -/
theorem spectralAscent [IsStrictOrderedRing α] (problem : SpgProblem n α) {K : Set (Fin n → α)} (hK : Convex α K)
    (hproject : ∀ x, IsProjection K x (problem.project x)) (nuCand : Fin n → α) (maxIterations : ℕ) :
    problem.objective (problem.project nuCand) ≤ problem.objective (problem.solve nuCand maxIterations) ↔
      ∀ s, problem.beforeLast maxIterations (problem.start nuCand) = some s → problem.Unchecked s →
        problem.objective (problem.project nuCand) ≤ problem.objective (problem.trial s) := by
  cases maxIterations with
  | zero => exact iff_of_true le_rfl fun s hs => by cases hs
  | succ rounds =>
    obtain ⟨last, hlast, hascends, hloop⟩ := (SpgState.Ascends.start hproject nuCand).beforeLast hK hproject rounds
    rw [SpgProblem.solve, hloop, hascends.le_objective_round hK hproject, hlast]
    refine ⟨fun h s hs => ?_, fun h => h last rfl⟩
    cases hs
    exact h

/-! ## One asset -/

/-- The objective is minus a multiple of the square, and every allocation is allowed. -/
noncomputable def squareProblem (curvature : ℝ) : SpgProblem 1 ℝ where
  objective := fun x => -curvature * ∑ i, x i ^ 2
  gradient := fun x i => -(lit 2 * curvature) * x i
  project := id
  tolerance := lit (1 / 10 ^ 6)

theorem squareProblem_project (curvature : ℝ) (x : Fin 1 → ℝ) :
    IsProjection Set.univ x ((squareProblem curvature).project x) := by
  refine .of_innerFrom_nonpos (Set.mem_univ _) fun z _ => ?_
  simp [innerFrom, squareProblem]

theorem concaveOn_squareProblem {curvature : ℝ} (h : 0 ≤ curvature) :
    ConcaveOn ℝ Set.univ (squareProblem curvature).objective := by
  have hpow : ConvexOn ℝ Set.univ fun x : ℝ => x ^ 2 := Even.convexOn_pow even_two
  have hsquare : ConvexOn ℝ Set.univ fun x : Fin 1 → ℝ => x 0 ^ 2 := hpow.comp_linearMap (LinearMap.proj 0 : (Fin 1 → ℝ) →ₗ[ℝ] ℝ)
  convert! (hsquare.smul h).neg using 1
  funext x
  simp [squareProblem]

theorem isGradient_squareProblem (curvature : ℝ) (x : Fin 1 → ℝ) :
    IsGradient (squareProblem curvature).objective ((squareProblem curvature).gradient x) x := by
  have hcoord : HasFDerivAt (fun x : Fin 1 → ℝ => x 0) (ContinuousLinearMap.proj 0 : (Fin 1 → ℝ) →L[ℝ] ℝ) x :=
    hasFDerivAt_apply 0 x
  have hobjective : (squareProblem curvature).objective = fun x => -curvature * x 0 ^ 2 := by
    funext z
    simp [squareProblem]
  rw [IsGradient, hobjective]
  refine ((hcoord.pow 2).const_mul (-curvature)).congr_fderiv ?_
  ext v
  simp [dotMap_apply, squareProblem, lit]
  ring

section FirstRound

variable (curvature beta : ℝ)

/-- The state before the first round, from the candidate one. -/
noncomputable def firstState : SpgState 1 ℝ := (squareProblem curvature).start fun _ => 1

theorem direction_firstState : (squareProblem curvature).direction (firstState curvature) = fun _ => -(50 * curvature) := by
  funext i
  norm_num [SpgProblem.direction, SpgProblem.trial, SpgProblem.start, firstState, squareProblem, lit]
  ring

theorem candidate_firstState : (squareProblem curvature).candidate (firstState curvature) beta = fun _ => 1 - 50 *
    curvature * beta := by
  funext i
  rw [SpgProblem.candidate, direction_firstState]
  simp only [firstState, SpgProblem.start, squareProblem, id_eq]
  ring

theorem slope_firstState : (squareProblem curvature).slope (firstState curvature) = 100 * curvature ^ 2 := by
  rw [SpgProblem.slope, direction_firstState, Fin.sum_univ_one]
  simp only [firstState, SpgProblem.start, squareProblem, id_eq, lit]
  push_cast
  ring

theorem rises_firstState : (squareProblem curvature).Rises (firstState curvature) beta ↔
    -curvature + beta * curvature ^ 2 / 100 ≤ -curvature * (1 - 50 * curvature * beta) ^ 2 := by
  rw [SpgProblem.Rises, slope_firstState, candidate_firstState]
  simp only [firstState, SpgProblem.start, squareProblem, id_eq, lit, Fin.sum_univ_one]
  ring_nf

theorem beforeLast_firstState {s : SpgState 1 ℝ} (h : (squareProblem curvature).beforeLast 1 (firstState curvature) = some s) :
    s = firstState curvature := by
  rw [SpgProblem.beforeLast, Option.some_inj] at h
  split_ifs at h
  · exact h.symm
  · exact h.symm

end FirstRound

theorem maxAbs_const (x : ℝ) : maxAbs (fun _ : Fin 1 => x) = |x| := by
  simp [maxAbs]

/-- Where the curvature is small, the one round is accepted. -/
theorem spectralAscent_accepted : (squareProblem (1 / 50)).objective ((squareProblem (1 / 50)).project fun _ => 1) ≤
    (squareProblem (1 / 50)).objective ((squareProblem (1 / 50)).solve (fun _ => 1) 1) := by
  refine (spectralAscent (squareProblem (1 / 50)) convex_univ (squareProblem_project _) (fun _ => 1) 1).2
    fun s hs hunchecked => ?_
  rw [beforeLast_firstState _ hs] at hunchecked
  rcases hunchecked with hnear | hnone
  · rw [direction_firstState, maxAbs_const] at hnear
    norm_num [squareProblem, lit] at hnear
  · have hfirst := hnone 0 (by norm_num)
    rw [rises_firstState] at hfirst
    norm_num at hfirst

/-- Where it is large, no candidate is, and the round ends at its trial. -/
theorem spectralAscent_counterexample : ConcaveOn ℝ Set.univ (squareProblem 500).objective ∧
    (∀ x, IsGradient (squareProblem 500).objective ((squareProblem 500).gradient x) x) ∧
    (∀ x, IsProjection Set.univ x ((squareProblem 500).project x)) ∧
    (squareProblem 500).solve (fun _ => 1) 1 = (fun _ => -24999) ∧
    (squareProblem 500).objective ((squareProblem 500).solve (fun _ => 1) 1) <
      (squareProblem 500).objective ((squareProblem 500).project fun _ => 1) := by
  have hunchecked : (squareProblem 500).Unchecked (firstState 500) := by
    refine .inr fun k hk hrise => ?_
    rw [rises_firstState] at hrise
    interval_cases k <;> norm_num [lit] at hrise
  have hsolve : (squareProblem 500).solve (fun _ => 1) 1 = fun _ => -24999 := by
    have hround : (squareProblem 500).solve (fun _ => 1) 1 = ((squareProblem 500).round (firstState 500)).1.nuCurr := by
      simp [SpgProblem.solve, SpgProblem.loop, firstState]
    rcases (squareProblem 500).round_cases (firstState 500) with ⟨-, hnu, -⟩ | ⟨hchecked, -⟩
    · rw [hround, hnu]
      funext i
      have hdirection := congrFun (direction_firstState 500) i
      norm_num [SpgProblem.direction, firstState, SpgProblem.start, squareProblem] at hdirection ⊢
      linarith
    · exact absurd hunchecked hchecked
  refine ⟨concaveOn_squareProblem (by norm_num), isGradient_squareProblem 500, squareProblem_project 500, hsolve, ?_⟩
  rw [hsolve]
  norm_num [squareProblem]

end Quant
