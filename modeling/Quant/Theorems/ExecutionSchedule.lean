import Mathlib.Analysis.SpecialFunctions.Trigonometric.DerivHyp
import Quant.Analytics.HyperbolicPropagator
import Quant.Theorems.SolverCertificate

/-!
# Execution schedules

The weights of `DiscreteHyperbolicPropagator` split a move into positive parts that do not grow and add up to it, and the slices
and the trajectory that are computed from them apart agree.
-/

namespace Quant

open Pylib

/-! ## The closed form -/

/-- The formula of the schedule, as a difference of hyperbolic sines. -/
noncomputable def sinhWeight (h : ℕ) (kappa : ℝ) (k : ℕ) : ℝ :=
  (Real.sinh (kappa * (h - k + 1)) - Real.sinh (kappa * (h - k))) / Real.sinh (kappa * h)

section ClosedForm

variable {h : ℕ} {kappa : ℝ}

theorem lit_two : (lit 2 : ℝ) = 2 := by
  rw [lit]
  norm_num

/-- The exponentials of the code are the hyperbolic sines, both scaled by `2 * exp (-kappa * h)`. -/
theorem rawWeight_eq_sinhWeight (h : ℕ) (kappa : ℝ) (k : ℕ) : rawWeight exactMath h kappa k = sinhWeight h kappa k := by
  have hscale : (2 * Real.exp (-(kappa * h))) ≠ 0 := mul_ne_zero two_ne_zero (Real.exp_ne_zero _)
  have hsinh (x : ℝ) : 2 * Real.exp (-(kappa * h)) * Real.sinh x = Real.exp (x - kappa * h) - Real.exp (-x - kappa * h) := by
    rw [Real.sinh_eq, sub_eq_add_neg x, Real.exp_add, sub_eq_add_neg (-x), Real.exp_add]
    ring
  rw [sinhWeight, ← mul_div_mul_left _ _ hscale, mul_sub, hsinh, hsinh, hsinh, rawWeight, lit_two]
  dsimp only [exactMath]
  congr 1
  · rw [mul_add, sub_mul, sub_mul, one_mul, one_mul, ← Real.exp_add, ← Real.exp_add]
    ring_nf
  · rw [sub_self, Real.exp_zero]
    ring_nf

/-- The differences telescope. -/
theorem sum_sinhWeight (hh : 0 < h) (hkappa : 0 < kappa) : ((List.range h).map fun i => sinhWeight h kappa (i + 1)).sum = 1 := by
  have hne : Real.sinh (kappa * h) ≠ 0 := (Real.sinh_pos_iff.2 (mul_pos hkappa (Nat.cast_pos.2 hh))).ne'
  have hslices (n : ℕ) : ((List.range n).map fun i => sinhWeight h kappa (i + 1)).sum =
      (Real.sinh (kappa * h) - Real.sinh (kappa * (h - n))) / Real.sinh (kappa * h) := by
    induction n with
    | zero => simp
    | succ n ih =>
      have hprev : (h : ℝ) - ((n + 1 : ℕ) : ℝ) + 1 = h - n := by
        push_cast
        ring
      rw [List.sum_range_succ, ih, sinhWeight, ← add_div, hprev, sub_add_sub_cancel]
  rw [hslices, sub_self, mul_zero, Real.sinh_zero, sub_zero, div_self hne]

/-- The weights do not grow: up to a factor they are hyperbolic cosines of a shrinking argument. -/
theorem rawWeight_antitone (hkappa : 0 < kappa) {k m : ℕ} (hk : k ≤ m) (hm : m ≤ h) :
    rawWeight exactMath h kappa m ≤ rawWeight exactMath h kappa k := by
  have hcosh (k : ℕ) : Real.exp (-kappa * (k - 1)) + Real.exp (-kappa * (2 * h - k)) =
      2 * Real.exp (-(kappa * (h - 1 / 2))) * Real.cosh (kappa * (h - k + 1 / 2)) := by
    rw [Real.cosh_eq, mul_div_assoc', mul_assoc 2, mul_div_cancel_left₀ _ two_ne_zero, mul_add, ← Real.exp_add, ← Real.exp_add]
    congr 2 <;> ring
  have hle : Real.cosh (kappa * (h - m + 1 / 2)) ≤ Real.cosh (kappa * (h - k + 1 / 2)) := by
    have hk' : (k : ℝ) ≤ m := Nat.cast_le.2 hk
    have hm' : (m : ℝ) ≤ h := Nat.cast_le.2 hm
    rw [Real.cosh_le_cosh, abs_of_nonneg (mul_nonneg hkappa.le (by linarith)), abs_of_nonneg (mul_nonneg hkappa.le (by linarith))]
    exact mul_le_mul_of_nonneg_left (by linarith) hkappa.le
  have hnum : 0 ≤ 1 - Real.exp (-kappa) := sub_nonneg.2 (Real.exp_le_one_iff.2 (neg_nonpos.2 hkappa.le))
  have hden : 0 ≤ 1 - Real.exp (-2 * kappa * h) := by
    refine sub_nonneg.2 (Real.exp_le_one_iff.2 ?_)
    exact mul_nonpos_of_nonpos_of_nonneg (by linarith) (Nat.cast_nonneg h)
  rw [rawWeight, rawWeight, lit_two]
  dsimp only [exactMath]
  rw [hcosh, hcosh]
  exact div_le_div_of_nonneg_right
    (mul_le_mul_of_nonneg_left (mul_le_mul_of_nonneg_left hle (mul_pos two_pos (Real.exp_pos _)).le) hnum) hden

end ClosedForm

/-! ## Schedules -/

/-- What the weights of a schedule over some bars are. -/
structure IsSchedule (h : ℕ) (weights : List ℝ) : Prop where
  length_eq : weights.length = h
  pos : ∀ w ∈ weights, 0 < w
  sum_eq : weights.sum = 1
  antitone : weights.Pairwise fun x y => y ≤ x

namespace IsSchedule

theorem single : IsSchedule 1 [1] := ⟨rfl, by simp, by simp, by simp⟩

/-- Equal weights. -/
theorem replicate {h : ℕ} (hh : 0 < h) : IsSchedule h (List.replicate h (1 / (h : ℝ))) := by
  have hpos : (0 : ℝ) < h := Nat.cast_pos.2 hh
  refine ⟨List.length_replicate, ?_, ?_, List.pairwise_replicate.2 (.inr le_rfl)⟩
  · intro w hw
    rw [List.eq_of_mem_replicate hw]
    exact one_div_pos.2 hpos
  · rw [List.sum_replicate, nsmul_eq_mul, mul_one_div_cancel hpos.ne']

/-- Positive weights that do not grow, divided by their sum. -/
theorem normalized {ws : List ℝ} (hne : ws ≠ []) (hpos : ∀ w ∈ ws, 0 < w) (hanti : ws.Pairwise fun x y => y ≤ x) :
    IsSchedule ws.length (ws.map (· / ws.sum)) := by
  have hsum : 0 < ws.sum := List.sum_pos ws hpos hne
  refine ⟨List.length_map _, ?_, ?_, ?_⟩
  · intro x hx
    obtain ⟨w, hw, rfl⟩ := List.mem_map.1 hx
    exact div_pos (hpos w hw) hsum
  · have hdiv : ws.map (· / ws.sum) = ws.map (· * (ws.sum)⁻¹) := by simp only [div_eq_mul_inv]
    rw [hdiv, List.sum_map_mul_right, List.map_id', mul_inv_cancel₀ hsum.ne']
  · exact List.pairwise_map.2 (hanti.imp fun hxy => div_le_div_of_nonneg_right hxy hsum.le)

/-- Positive weights by the hyperbolic schedule, clamped from below. -/
theorem hyperbolic {h : ℕ} (hh : 0 < h) {kappa : ℝ} (hkappa : 0 < kappa) :
    IsSchedule h ((cleanWeights exactMath h kappa).map (· / (cleanWeights exactMath h kappa).sum)) := by
  have hlen : (cleanWeights exactMath h kappa).length = h := by rw [cleanWeights, List.length_map, List.length_range]
  have hne : cleanWeights exactMath h kappa ≠ [] := List.ne_nil_of_length_pos (by omega)
  have hschedule := normalized hne ?_ ?_
  · rwa [hlen] at hschedule
  · intro w hw
    obtain ⟨i, -, rfl⟩ := List.mem_map.1 hw
    exact lt_max_of_lt_right (lit_pos.2 (by norm_num))
  · refine List.pairwise_map.2 (List.pairwise_lt_range.imp_of_mem fun {i j} _ hj hij => ?_)
    exact max_le_max (rawWeight_antitone hkappa (by omega) (by have := List.mem_range.1 hj; omega)) le_rfl

end IsSchedule

namespace DiscreteHyperbolicPropagator

variable (propagator : DiscreteHyperbolicPropagator ℝ) {horizon : Option ℤ} {decayRate : Option ℝ}

/-- The bars of a call. -/
def bars (horizon : Option ℤ) : ℕ := (horizon.getD propagator.config.executionHorizon).toNat

/-- The rate of a call. -/
def rate (decayRate : Option ℝ) : ℝ := decayRate.getD propagator.config.hyperbolicDecayRate

/-- The schedule of a call, and its closed form where nothing is clamped. -/
theorem computeScheduleWeights_spec (hh : 1 ≤ horizon.getD propagator.config.executionHorizon)
    (hkappa : 0 ≤ propagator.rate decayRate) :
    ∃ weights, propagator.computeScheduleWeights exactMath horizon decayRate = .ok weights ∧
      IsSchedule (propagator.bars horizon) weights ∧
      (lit (1 / 10 ^ 5) ≤ propagator.rate decayRate →
        (∀ i < propagator.bars horizon,
          lit (1 / 10 ^ 30) ≤ rawWeight exactMath (propagator.bars horizon) (propagator.rate decayRate) (i + 1)) →
        weights = (List.range (propagator.bars horizon)).map fun i =>
          sinhWeight (propagator.bars horizon) (propagator.rate decayRate) (i + 1)) := by
  simp only [computeScheduleWeights, bars, rate] at hkappa ⊢
  generalize horizon.getD propagator.config.executionHorizon = h at hh ⊢
  generalize decayRate.getD propagator.config.hyperbolicDecayRate = kappa at hkappa ⊢
  have hrate : (0 : ℝ) < lit (1 / 10 ^ 5) := lit_pos.2 (by norm_num)
  rw [if_neg hh.not_gt, if_neg hkappa.not_gt]
  split_ifs with hone hflat
  · subst hone
    refine ⟨[1], rfl, .single, fun hle _ => ?_⟩
    have hsum := sum_sinhWeight one_pos (hrate.trans_le hle)
    simpa using hsum.symm
  · exact ⟨_, rfl, .replicate (by omega), fun hle => absurd hflat hle.not_gt⟩
  · have hpos : 0 < kappa := hrate.trans_le (not_lt.1 hflat)
    refine ⟨_, rfl, .hyperbolic (by omega) hpos, fun _ hclamp => ?_⟩
    have hclean : cleanWeights exactMath h.toNat kappa = (List.range h.toNat).map fun i => sinhWeight h.toNat kappa (i + 1) := by
      refine List.map_congr_left fun i hi => ?_
      rw [max_eq_left (hclamp i (List.mem_range.1 hi)), rawWeight_eq_sinhWeight]
    rw [hclean, sum_sinhWeight (by omega) hpos]
    simp only [div_one, List.map_id']

/-- The trajectory and the slices of a move, from the weights of its schedule. -/
theorem trajectory_slices {current target : List ℝ} (hlen : current.length = target.length) {h : ℕ} (hh : 0 < h)
    {weights : List ℝ}
    (hok : propagator.computeScheduleWeights exactMath horizon none = .ok weights) (hweights : IsSchedule h weights) :
    ∃ slices trajectory, propagator.computeExecutionSlices exactMath current target horizon = .ok slices ∧
      propagator.computeTrajectory exactMath current target horizon = .ok trajectory ∧
      slices = npOuter weights (List.zipWith (fun x y => y - x) current target) ∧
      npSumRows current.length slices = List.zipWith (fun x y => y - x) current target ∧ npDiffRows trajectory = slices ∧
      trajectory.head? = some current ∧ trajectory.getLast? = some target := by
  have hne : weights ≠ [] := List.ne_nil_of_length_pos (hweights.length_eq ▸ hh)
  have hdeltas : current.length = (deltaTotal current target).length := by rw [deltaTotal, List.length_zipWith, hlen, min_self]
  have hdim : checkDimensions current target = .ok () := by rw [checkDimensions, if_neg (not_not.2 hlen)]
  have hlast : (npCumsum weights).getLast? = some 1 := by rw [getLast?_npCumsum hne, hweights.sum_eq]
  have hcum : (npCumsum weights).dropLast ++ [1] = npCumsum weights := List.dropLast_append_getLast? 1 hlast
  have hslices : propagator.computeExecutionSlices exactMath current target horizon =
      .ok (npOuter weights (deltaTotal current target)) := by
    rw [computeExecutionSlices, hdim, hok]
    rfl
  have htrajectory : propagator.computeTrajectory exactMath current target horizon =
      .ok ((0 :: npCumsum weights).map (stateAt current (deltaTotal current target))) := by
    rw [computeTrajectory, hdim, hok, List.map_cons, stateAt_zero hdeltas, ← hcum]
    rfl
  refine ⟨_, _, hslices, htrajectory, rfl, ?_, npDiffRows_stateAt hdeltas 0 weights, ?_, ?_⟩
  · rw [hdeltas, npSumRows_npOuter, hweights.sum_eq]
    simp only [one_mul, List.map_id', deltaTotal]
  · rw [List.map_cons, stateAt_zero hdeltas, List.head?_cons]
  · have hcons : npCumsum weights ≠ [] := by
      intro hnil
      rw [hnil] at hlast
      cases hlast
    rw [List.map_cons, List.getLast?_cons_of_ne_nil (by simpa using hcons), List.getLast?_map, hlast, Option.map_some]
    exact congrArg some (stateAt_one hlen)

/-- For every horizon, rate and move: the weights are a schedule, in closed form where nothing is clamped, and the slices are the
differences of the trajectory and add up to the move. -/
theorem executionSchedule (hh : 1 ≤ horizon.getD propagator.config.executionHorizon)
    (hkappa : 0 ≤ propagator.rate decayRate) :
    (∃ weights, propagator.computeScheduleWeights exactMath horizon decayRate = .ok weights ∧
      IsSchedule (propagator.bars horizon) weights ∧
      (lit (1 / 10 ^ 5) ≤ propagator.rate decayRate →
        (∀ i < propagator.bars horizon,
          lit (1 / 10 ^ 30) ≤ rawWeight exactMath (propagator.bars horizon) (propagator.rate decayRate) (i + 1)) →
        weights = (List.range (propagator.bars horizon)).map fun i =>
          sinhWeight (propagator.bars horizon) (propagator.rate decayRate) (i + 1))) ∧
      ∀ current target : List ℝ, current.length = target.length →
        ∃ weights slices trajectory, propagator.computeScheduleWeights exactMath horizon none = .ok weights ∧
          propagator.computeExecutionSlices exactMath current target horizon = .ok slices ∧
          propagator.computeTrajectory exactMath current target horizon = .ok trajectory ∧
          slices = npOuter weights (List.zipWith (fun x y => y - x) current target) ∧
          npSumRows current.length slices = List.zipWith (fun x y => y - x) current target ∧ npDiffRows trajectory = slices ∧
          trajectory.head? = some current ∧ trajectory.getLast? = some target := by
  refine ⟨propagator.computeScheduleWeights_spec hh hkappa, fun current target hlen => ?_⟩
  have hrate : 0 ≤ propagator.rate none := propagator.config.hyperbolicDecayRate_nonneg
  obtain ⟨weights, hok, hweights, -⟩ := propagator.computeScheduleWeights_spec hh hrate
  have hbars : 0 < propagator.bars horizon := by
    rw [bars]
    omega
  obtain ⟨slices, trajectory, hspec⟩ := propagator.trajectory_slices hlen hbars hok hweights
  exact ⟨weights, slices, trajectory, hok, hspec⟩

/-- The default configuration, over three bars and at its own rate. -/
theorem executionSchedule_default :
    (1 ≤ (some 3 : Option ℤ).getD defaultStackelberg.executionHorizon ∧ 0 ≤ rate ⟨defaultStackelberg⟩ none) ∧
      ∃ weights, computeScheduleWeights exactMath ⟨defaultStackelberg⟩ (some 3) none = .ok weights ∧ IsSchedule 3 weights := by
  have hrate : 0 ≤ rate ⟨defaultStackelberg⟩ none := defaultStackelberg.hyperbolicDecayRate_nonneg
  have hh : 1 ≤ (some 3 : Option ℤ).getD defaultStackelberg.executionHorizon := by decide
  refine ⟨⟨hh, hrate⟩, ?_⟩
  obtain ⟨⟨weights, hok, hweights, -⟩, -⟩ := executionSchedule ⟨defaultStackelberg⟩ hh hrate
  exact ⟨weights, hok, hweights⟩

end DiscreteHyperbolicPropagator

end Quant
