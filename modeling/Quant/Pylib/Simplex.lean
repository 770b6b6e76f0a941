import Mathlib.Algebra.Order.BigOperators.Ring.Finset
import Mathlib.Algebra.Order.Chebyshev
import Mathlib.Analysis.Convex.StdSimplex
import Mathlib.Analysis.SpecialFunctions.Log.Basic
import Mathlib.Data.Matrix.Mul
import Mathlib.LinearAlgebra.Matrix.Symmetric

/-!
# Weights on the simplex

Vectors of weights that sum to one: normalising, mixing and flooring them, the moments of a mixture, and the exponentiated
gradient step with what it takes off a quadratic objective.
-/

namespace Pylib

/-! ## Weights -/

section Weights

variable {ι α : Type*} [Fintype ι] [Field α]

/-- `v / np.sum(v)`. -/
def npNormalize (v : ι → α) : ι → α := fun i => v i / ∑ j, v j

/-- A share `c` of one vector of weights and the rest of another. -/
def mix {ι : Type*} (c : α) (v w : ι → α) : ι → α := fun i => (1 - c) * v i + c * w i

/-- Weights that are lifted off zero by `eps` each. -/
def lift (eps : α) (w : ι → α) : ι → α := fun i => (1 - Fintype.card ι * eps) * w i + eps

variable {v w : ι → α} {eps : α}

theorem npNormalize_of_sum (hw : ∑ i, w i = 1) : npNormalize w = w := by
  funext i
  rw [npNormalize, hw, div_one]

theorem sum_mix (c : α) (v w : ι → α) : ∑ i, mix c v w i = (1 - c) * ∑ i, v i + c * ∑ i, w i := by
  simp only [mix, Finset.sum_add_distrib, ← Finset.mul_sum]

theorem sum_lift (hw : ∑ i, w i = 1) : ∑ i, lift eps w i = 1 := by
  simp only [lift, Finset.sum_add_distrib, ← Finset.mul_sum, hw, Finset.sum_const, nsmul_eq_mul, Finset.card_univ]
  ring

/-- The variance of a mixture around its mean. -/
theorem sum_mul_sub_sq (hw : ∑ i, w i = 1) (y : ι → α) :
    ∑ i, w i * (y i - ∑ j, w j * y j) ^ 2 = ∑ i, w i * y i ^ 2 - (∑ j, w j * y j) ^ 2 := by
  set mu := ∑ j, w j * y j with hmu
  have hexpand : ∀ i, w i * (y i - mu) ^ 2 = w i * y i ^ 2 - 2 * mu * (w i * y i) + mu ^ 2 * w i := fun i => by ring
  simp only [hexpand, Finset.sum_add_distrib, Finset.sum_sub_distrib, ← Finset.mul_sum, hw, ← hmu]
  ring

variable [LinearOrder α] [IsStrictOrderedRing α]

theorem npNormalize_mem (hv : ∀ i, 0 ≤ v i) (hsum : 0 < ∑ i, v i) : npNormalize v ∈ stdSimplex α ι := by
  refine ⟨fun i => div_nonneg (hv i) hsum.le, ?_⟩
  simp only [npNormalize, div_eq_mul_inv, ← Finset.sum_mul]
  exact mul_inv_cancel₀ hsum.ne'

/-- Positive numbers, and at least one of them, have a positive sum. -/
theorem sum_pos_of_forall [Nonempty ι] (hv : ∀ i, 0 < v i) : 0 < ∑ i, v i :=
  Finset.sum_pos (fun i _ => hv i) Finset.univ_nonempty

theorem npNormalize_pos [Nonempty ι] (hv : ∀ i, 0 < v i) (i : ι) : 0 < npNormalize v i := div_pos (hv i) (sum_pos_of_forall hv)

theorem mix_mem {c : α} (hc : 0 ≤ c ∧ c ≤ 1) (hv : v ∈ stdSimplex α ι) (hw : w ∈ stdSimplex α ι) :
    mix c v w ∈ stdSimplex α ι := by
  refine ⟨fun i => add_nonneg (mul_nonneg (sub_nonneg.2 hc.2) (hv.1 i)) (mul_nonneg hc.1 (hw.1 i)), ?_⟩
  rw [sum_mix, hv.2, hw.2]
  ring

/-- Equal weights. -/
theorem uniform_mem [Nonempty ι] : (fun _ => 1 / (Fintype.card ι : α)) ∈ stdSimplex α ι := by
  have hcard : (0 : α) < Fintype.card ι := Nat.cast_pos.2 Fintype.card_pos
  refine ⟨fun _ => (one_div_pos.2 hcard).le, ?_⟩
  rw [Finset.sum_const, nsmul_eq_mul, Finset.card_univ, mul_one_div, div_self hcard.ne']

theorem le_lift (heps : Fintype.card ι * eps ≤ 1) (hw : ∀ i, 0 ≤ w i) (i : ι) : eps ≤ lift eps w i :=
  le_add_of_nonneg_left (mul_nonneg (sub_nonneg.2 heps) (hw i))

/-- The effective number of weights is at least one. -/
theorem one_le_one_div_sum_sq (hw : w ∈ stdSimplex α ι) : 1 ≤ 1 / ∑ i, w i ^ 2 := by
  have hle : ∑ i, w i ^ 2 ≤ 1 := by
    rw [← hw.2]
    refine Finset.sum_le_sum fun i _ => ?_
    rw [sq]
    exact mul_le_of_le_one_left (hw.1 i) ((Finset.single_le_sum (fun j _ => hw.1 j) (Finset.mem_univ i)).trans hw.2.le)
  have hpos : 0 < ∑ i, w i ^ 2 := by
    refine (Finset.sum_nonneg fun i _ => sq_nonneg (w i)).lt_of_ne fun h => ?_
    have hzero : ∀ i, w i = 0 := fun i =>
      sq_eq_zero_iff.1 ((Finset.sum_eq_zero_iff_of_nonneg fun j _ => sq_nonneg (w j)).1 h.symm i (Finset.mem_univ i))
    have hsum := hw.2
    simp only [hzero, Finset.sum_const_zero] at hsum
    exact zero_ne_one hsum
  exact (one_le_div hpos).2 hle

/-- It is at most their number. -/
theorem one_div_sum_sq_le_card (hw : w ∈ stdSimplex α ι) : 1 / ∑ i, w i ^ 2 ≤ Fintype.card ι := by
  have hchebyshev := sq_sum_le_card_mul_sum_sq (s := Finset.univ) (f := w)
  rw [hw.2, one_pow, Finset.card_univ] at hchebyshev
  exact div_le_of_le_mul₀ (Finset.sum_nonneg fun i _ => sq_nonneg _) (Nat.cast_nonneg _) hchebyshev

end Weights

/-! ## Entropy and distance -/

section Divergence

variable {ι : Type*} [Fintype ι] {a b : ι → ℝ}

/-- The logarithm grows at least as a rational function does. -/
theorem two_mul_sq_div_le {x y : ℝ} (hx : 0 < x) (hy : 0 < y) :
    2 * ((x - y) ^ 2 / (x + y)) ≤ (x - y) * (Real.log x - Real.log y) := by
  wlog h : y ≤ x generalizing x y
  · have hswap := this hy hx (le_of_not_ge h)
    rw [add_comm x y, show (x - y) ^ 2 = (y - x) ^ 2 by ring]
    linarith
  have hratio : 0 ≤ (x - y) / y := div_nonneg (sub_nonneg.2 h) hy.le
  have hlog := Real.le_log_one_add_of_nonneg hratio
  have hone : 1 + (x - y) / y = x / y := by
    field_simp
    ring
  have hfrac : 2 * ((x - y) / y) / ((x - y) / y + 2) = 2 * (x - y) / (x + y) := by
    rw [div_eq_div_iff (by positivity) (by positivity)]
    field_simp
    ring
  rw [hone, hfrac, Real.log_div hx.ne' hy.ne'] at hlog
  calc 2 * ((x - y) ^ 2 / (x + y)) = (x - y) * (2 * (x - y) / (x + y)) := by ring
    _ ≤ (x - y) * (Real.log x - Real.log y) := mul_le_mul_of_nonneg_left hlog (sub_nonneg.2 h)

/-- The symmetric divergence of two vectors of weights is at least the square of their distance. -/
theorem sq_sum_abs_sub_le (ha : ∀ i, 0 < a i) (hb : ∀ i, 0 < b i) (hasum : ∑ i, a i = 1) (hbsum : ∑ i, b i = 1) :
    (∑ i, |a i - b i|) ^ 2 ≤ ∑ i, (a i - b i) * (Real.log (a i) - Real.log (b i)) := by
  have hsum : ∑ i, (a i + b i) = 2 := by
    rw [Finset.sum_add_distrib, hasum, hbsum]
    norm_num
  have hsedrakyan := Finset.sq_sum_div_le_sum_sq_div Finset.univ (fun i => |a i - b i|) fun i _ => add_pos (ha i) (hb i)
  rw [hsum] at hsedrakyan
  calc (∑ i, |a i - b i|) ^ 2 ≤ 2 * ∑ i, |a i - b i| ^ 2 / (a i + b i) := by linarith
    _ = ∑ i, 2 * ((a i - b i) ^ 2 / (a i + b i)) := by simp only [Finset.mul_sum, sq_abs]
    _ ≤ ∑ i, (a i - b i) * (Real.log (a i) - Real.log (b i)) := Finset.sum_le_sum fun i _ => two_mul_sq_div_le (ha i) (hb i)

end Divergence

/-! ## The exponentiated gradient step -/

section Step

variable {ι : Type*} [Fintype ι] {v w : ι → ℝ}

/-- Weights that are scaled by exponentials and normalised. -/
noncomputable def expGradStep (v w : ι → ℝ) : ι → ℝ := npNormalize fun i => Real.exp (v i) * w i

/-- The step does not see what all exponents have in common. -/
theorem expGradStep_sub_const (c : ℝ) (v w : ι → ℝ) : expGradStep (fun i => v i - c) w = expGradStep v w := by
  funext i
  have hterm : ∀ j, Real.exp (v j - c) * w j = Real.exp (-c) * (Real.exp (v j) * w j) := fun j => by
    rw [sub_eq_neg_add, Real.exp_add, mul_assoc]
  simp only [expGradStep, npNormalize, hterm, ← Finset.mul_sum]
  exact mul_div_mul_left _ _ (Real.exp_ne_zero _)

variable [Nonempty ι]

theorem expGradStep_pos (hw : ∀ i, 0 < w i) (i : ι) : 0 < expGradStep v w i :=
  npNormalize_pos (fun j => mul_pos (Real.exp_pos (v j)) (hw j)) i

theorem sum_expGradStep (hw : ∀ i, 0 < w i) : ∑ i, expGradStep v w i = 1 :=
  (npNormalize_mem (fun j => (mul_pos (Real.exp_pos (v j)) (hw j)).le)
    (sum_pos_of_forall fun j => mul_pos (Real.exp_pos (v j)) (hw j))).2

/-- The step goes along its exponents, by at least the square of its length. -/
theorem sq_sum_abs_expGradStep_le (hw : ∀ i, 0 < w i) (hsum : ∑ i, w i = 1) :
    (∑ i, |expGradStep v w i - w i|) ^ 2 ≤ ∑ i, v i * (expGradStep v w i - w i) := by
  set z := ∑ j, Real.exp (v j) * w j with hz
  have hzpos : 0 < z := sum_pos_of_forall fun j => mul_pos (Real.exp_pos (v j)) (hw j)
  have hlog : ∀ i, Real.log (expGradStep v w i) - Real.log (w i) = v i - Real.log z := fun i => by
    have hstep : expGradStep v w i = Real.exp (v i) * w i / z := rfl
    rw [hstep, Real.log_div (mul_pos (Real.exp_pos _) (hw i)).ne' hzpos.ne',
      Real.log_mul (Real.exp_ne_zero _) (hw i).ne', Real.log_exp]
    ring
  have hdistance := sq_sum_abs_sub_le (expGradStep_pos (v := v) hw) hw (sum_expGradStep hw) hsum
  refine hdistance.trans_eq ?_
  have hzero : ∑ i, (expGradStep v w i - w i) * Real.log z = 0 := by
    rw [← Finset.sum_mul, Finset.sum_sub_distrib, sum_expGradStep hw, hsum, sub_self, zero_mul]
  calc ∑ i, (expGradStep v w i - w i) * (Real.log (expGradStep v w i) - Real.log (w i))
      = ∑ i, (v i * (expGradStep v w i - w i) - (expGradStep v w i - w i) * Real.log z) :=
        Finset.sum_congr rfl fun i _ => by rw [hlog]; ring
    _ = ∑ i, v i * (expGradStep v w i - w i) := by rw [Finset.sum_sub_distrib, hzero, sub_zero]

end Step

/-! ## Descent on a quadratic objective -/

section Descent

variable {ι : Type*} [Fintype ι] {C : Matrix ι ι ℝ}

/-- A linear score and half a quadratic penalty. -/
noncomputable def quadScore (s : ι → ℝ) (penalty : ℝ) (C : Matrix ι ι ℝ) (w : ι → ℝ) : ℝ :=
  dotProduct s w + (1 / 2 : ℚ) * penalty * dotProduct w (C.mulVec w)

/-- A quadratic form with bounded entries is bounded by the square of the sum of the sizes. -/
theorem dotProduct_mulVec_le {c : ℝ} (hC : ∀ i j, |C i j| ≤ c) (d : ι → ℝ) :
    dotProduct d (C.mulVec d) ≤ c * (∑ i, |d i|) ^ 2 := by
  have hterm : ∀ i j, d i * (C i j * d j) ≤ c * (|d i| * |d j|) := fun i j =>
    calc d i * (C i j * d j) ≤ |d i * (C i j * d j)| := le_abs_self _
      _ = |C i j| * (|d i| * |d j|) := by rw [abs_mul, abs_mul]; ring
      _ ≤ c * (|d i| * |d j|) := mul_le_mul_of_nonneg_right (hC i j) (mul_nonneg (abs_nonneg _) (abs_nonneg _))
  calc dotProduct d (C.mulVec d) = ∑ i, ∑ j, d i * (C i j * d j) := by simp only [dotProduct, Matrix.mulVec, Finset.mul_sum]
    _ ≤ ∑ i, ∑ j, c * (|d i| * |d j|) := Finset.sum_le_sum fun i _ => Finset.sum_le_sum fun j _ => hterm i j
    _ = c * (∑ i, |d i|) ^ 2 := by rw [sq, Finset.sum_mul_sum]; simp only [Finset.mul_sum]

/-- The objective at a second point, around the first. -/
theorem quadScore_sub (s : ι → ℝ) (penalty : ℝ) (hC : C.IsSymm) (u w : ι → ℝ) :
    quadScore s penalty C u - quadScore s penalty C w =
      dotProduct (s + penalty • C.mulVec w) (u - w) + penalty / 2 * dotProduct (u - w) (C.mulVec (u - w)) := by
  have hswap : dotProduct w (C.mulVec u) = dotProduct u (C.mulVec w) := by
    rw [Matrix.dotProduct_mulVec, ← Matrix.mulVec_transpose, hC.eq, dotProduct_comm]
  have hcomm : ∀ x : ι → ℝ, dotProduct (C.mulVec w) x = dotProduct x (C.mulVec w) := fun x => dotProduct_comm _ _
  simp only [quadScore, Matrix.mulVec_sub, add_dotProduct, dotProduct_sub, sub_dotProduct, smul_dotProduct,
    smul_eq_mul, hswap, hcomm]
  push_cast
  ring

/-- A step against the gradient, with entries of the penalty up to `c`, takes a multiple of the square of its length off the
objective. -/
theorem quadScore_expGradStep_le [Nonempty ι] {s w : ι → ℝ} {penalty sigma c : ℝ} (hC : C.IsSymm) (hc : ∀ i j, |C i j| ≤ c)
    (hpenalty : 0 ≤ penalty) (hsigma : 0 < sigma) (hw : ∀ i, 0 < w i) (hsum : ∑ i, w i = 1) :
    quadScore s penalty C (expGradStep (-sigma • (s + penalty • C.mulVec w)) w) +
        (1 / sigma - penalty * c / 2) * (∑ i, |expGradStep (-sigma • (s + penalty • C.mulVec w)) w i - w i|) ^ 2 ≤
      quadScore s penalty C w := by
  set g := s + penalty • C.mulVec w with hg
  set u := expGradStep (-sigma • g) w with hu
  have halong := sq_sum_abs_expGradStep_le (v := -sigma • g) hw hsum
  have hdot : ∑ i, (-sigma • g) i * (u i - w i) = -sigma * dotProduct g (u - w) := by
    simp only [dotProduct, Pi.smul_apply, smul_eq_mul, Pi.sub_apply, Finset.mul_sum, mul_assoc]
  have hgrad : dotProduct g (u - w) ≤ -(1 / sigma) * (∑ i, |u i - w i|) ^ 2 := by
    rw [← hu, hdot] at halong
    have hscaled := mul_le_mul_of_nonneg_left halong (one_div_pos.2 hsigma).le
    rw [show 1 / sigma * (-sigma * dotProduct g (u - w)) = -dotProduct g (u - w) by field_simp] at hscaled
    linarith
  have hquad := mul_le_mul_of_nonneg_left (dotProduct_mulVec_le hc (u - w)) (div_nonneg hpenalty zero_le_two)
  have hexpand := quadScore_sub s penalty hC u w
  simp only [Pi.sub_apply] at hquad
  rw [← hg] at hexpand
  linarith

end Descent

end Pylib
