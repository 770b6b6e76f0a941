import Mathlib.Analysis.Complex.Norm
import Mathlib.Analysis.Convex.Deriv
import Mathlib.Analysis.Convex.SpecificFunctions.Basic
import Mathlib.Analysis.Normed.Module.Convex
import Mathlib.Analysis.SpecialFunctions.ExpDeriv
import Mathlib.Analysis.SpecialFunctions.Log.Deriv
import Mathlib.Data.Matrix.Mul
import Mathlib.LinearAlgebra.Matrix.DotProduct
import Mathlib.LinearAlgebra.Matrix.Symmetric
import Mathlib.Topology.Algebra.Module.ModuleTopology

/-!
# Calculus in several variables

## Convex costs

Sources of convexity, a quadratic form and a power of the distance to a point off the line, and two ways to lose it: a jump where
the cost starts, and a corner at which the slope falls.
-/

namespace Pylib

section Convex

variable {ι : Type*} [Fintype ι]

/-- A quadratic form that is nowhere negative is convex. -/
theorem convexOn_quadratic {A : Matrix ι ι ℝ} (hA : ∀ x : ι → ℝ, 0 ≤ dotProduct x (A.mulVec x)) :
    ConvexOn ℝ Set.univ fun x : ι → ℝ => dotProduct x (A.mulVec x) := by
  refine ⟨convex_univ, fun x _ y _ a b ha hb hab => ?_⟩
  have hdiff := mul_nonneg (mul_nonneg ha hb) (hA (x - y))
  have hone : b = 1 - a := by linarith
  simp only [Matrix.mulVec_add, Matrix.mulVec_sub, Matrix.mulVec_smul, dotProduct_add, add_dotProduct,
    dotProduct_sub, sub_dotProduct,
    dotProduct_smul, smul_dotProduct, smul_eq_mul] at hdiff ⊢
  subst hone
  linarith

/-- The distance from a point of the line to one off it. -/
theorem convexOn_sqrt_sq_add (delta : ℝ) : ConvexOn ℝ Set.univ fun u : ℝ => Real.sqrt (u ^ 2 + delta ^ 2) := by
  have hnorm (u : ℝ) : Real.sqrt (u ^ 2 + delta ^ 2) = ‖(⟨u, delta⟩ : ℂ)‖ := by
    rw [Complex.norm_eq_sqrt_sq_add_sq]
  refine ⟨convex_univ, fun x _ y _ a b ha hb hab => ?_⟩
  have hpoint : (⟨a • x + b • y, delta⟩ : ℂ) = a • (⟨x, delta⟩ : ℂ) + b • (⟨y, delta⟩ : ℂ) := by
    refine Complex.ext ?_ ?_
    · simp
    · simp only [Complex.add_im, Complex.smul_im, smul_eq_mul]
      rw [← add_mul, hab, one_mul]
  have hle := (convexOn_norm (convex_univ : Convex ℝ (Set.univ : Set ℂ))).2 (Set.mem_univ (⟨x, delta⟩ : ℂ))
    (Set.mem_univ (⟨y, delta⟩ : ℂ)) ha hb hab
  simp only [hnorm]
  rwa [hpoint]

/-- A power from one half on of the square of that distance. -/
theorem convexOn_rpow_sq_add (delta : ℝ) {p : ℝ} (hp : 1 / 2 ≤ p) : ConvexOn ℝ Set.univ fun u : ℝ => (u ^ 2 + delta ^ 2) ^ p := by
  have hpow (u : ℝ) : (u ^ 2 + delta ^ 2) ^ p = Real.sqrt (u ^ 2 + delta ^ 2) ^ (2 * p) := by
    rw [Real.sqrt_eq_rpow, ← Real.rpow_mul (by positivity)]
    ring_nf
  simp only [hpow]
  refine ⟨convex_univ, fun x hx y hy a b ha hb hab => ?_⟩
  calc Real.sqrt ((a • x + b • y) ^ 2 + delta ^ 2) ^ (2 * p)
      ≤ (a • Real.sqrt (x ^ 2 + delta ^ 2) + b • Real.sqrt (y ^ 2 + delta ^ 2)) ^ (2 * p) :=
        Real.rpow_le_rpow (Real.sqrt_nonneg _) ((convexOn_sqrt_sq_add delta).2 hx hy ha hb hab) (by linarith)
    _ ≤ a • Real.sqrt (x ^ 2 + delta ^ 2) ^ (2 * p) + b • Real.sqrt (y ^ 2 + delta ^ 2) ^ (2 * p) :=
        (convexOn_rpow (by linarith)).2 (Real.sqrt_nonneg _) (Real.sqrt_nonneg _) ha hb hab

/-- A cost that starts at zero and is above a bound right after is not convex. -/
theorem not_convexOn_of_jump {φ : ℝ → ℝ} {c : ℝ} (hc : 0 < c) (hzero : φ 0 = 0) (hjump : ∀ t, 0 < t → c ≤ φ t) :
    ¬ ConvexOn ℝ Set.univ φ := by
  intro hφ
  have hone : c ≤ φ 1 := hjump 1 one_pos
  have hpos : 0 < φ 1 := hc.trans_le hone
  have ht : 0 < c / (2 * φ 1) := by positivity
  have hle : c / (2 * φ 1) ≤ 1 := by
    rw [div_le_one (by positivity)]
    linarith
  have hconv := hφ.2 (Set.mem_univ (0 : ℝ)) (Set.mem_univ (1 : ℝ)) (sub_nonneg.2 hle) ht.le (sub_add_cancel 1 _)
  have hcost := hjump _ ht
  rw [smul_zero, zero_add, smul_eq_mul, mul_one, hzero, smul_zero, zero_add, smul_eq_mul] at hconv
  have hhalf : c / (2 * φ 1) * φ 1 = c / 2 := by
    field_simp
  linarith

/-- The slope of a convex function does not fall at a corner. -/
theorem slope_le_slope_of_convexOn {φ : ℝ → ℝ} (hφ : ConvexOn ℝ Set.univ φ) {x l r : ℝ} (hl : HasDerivWithinAt φ l (Set.Iio x) x)
    (hr : HasDerivWithinAt φ r (Set.Ioi x) x) : l ≤ r := by
  have hle := hφ.leftDeriv_le_rightDeriv_of_mem_interior (x := x) (by simp)
  rwa [hl.derivWithin (uniqueDiffWithinAt_Iio x), hr.derivWithin (uniqueDiffWithinAt_Ioi x)] at hle

end Convex

/-!
## Gradients of functions of several numbers

The derivative of a function at a point is the dot product with its gradient there. Gradients of sums, of clamped functions and of
the logarithm of a weighted sum of exponentials.
-/

variable {ι τ : Type*} [Fintype ι] {f : (ι → ℝ) → ℝ} {g : ι → ℝ} {a : ι → ℝ}

/-- The dot product with a vector. -/
def dotMap (g : ι → ℝ) : (ι → ℝ) →L[ℝ] ℝ := ∑ i, g i • ContinuousLinearMap.proj i

theorem dotMap_apply (g v : ι → ℝ) : dotMap g v = ∑ i, g i * v i := by
  simp [dotMap]

@[simp] theorem dotMap_zero : dotMap (0 : ι → ℝ) = 0 := by
  ext v
  simp [dotMap_apply]

theorem dotMap_add (g g' : ι → ℝ) : dotMap (g + g') = dotMap g + dotMap g' := by
  ext v
  simp [dotMap_apply, add_mul, Finset.sum_add_distrib]

theorem dotMap_smul (c : ℝ) (g : ι → ℝ) : dotMap (c • g) = c • dotMap g := by
  ext v
  simp [dotMap_apply, Finset.mul_sum, mul_assoc]

theorem dotMap_injective : Function.Injective (dotMap : (ι → ℝ) → _) := by
  classical
  intro g g' h
  funext i
  have hi := congrArg (· (Pi.single i 1)) h
  simpa [dotMap_apply, Pi.single_apply] using hi

/-- `g` is the gradient of `f` at `a`. -/
def IsGradient (f : (ι → ℝ) → ℝ) (g a : ι → ℝ) : Prop := HasFDerivAt f (dotMap g) a

namespace IsGradient

theorem unique {g' : ι → ℝ} (h : IsGradient f g a) (h' : IsGradient f g' a) : g = g' := dotMap_injective (HasFDerivAt.unique h h')

/-- Where a function has a gradient, that is the only one. -/
theorem iff_eq {g' : ι → ℝ} (h : IsGradient f g a) : IsGradient f g' a ↔ g' = g :=
  ⟨fun h' => h'.unique h, fun heq => heq ▸ h⟩

theorem const (c : ℝ) : IsGradient (fun _ => c) (0 : ι → ℝ) a := by
  rw [IsGradient, dotMap_zero]
  exact hasFDerivAt_const c a

theorem add {f' : (ι → ℝ) → ℝ} {g' : ι → ℝ} (h : IsGradient f g a) (h' : IsGradient f' g' a) :
    IsGradient (fun x => f x + f' x) (g + g') a := by
  rw [IsGradient, dotMap_add]
  exact HasFDerivAt.add h h'

theorem const_mul (c : ℝ) (h : IsGradient f g a) : IsGradient (fun x => c * f x) (c • g) a := by
  rw [IsGradient, dotMap_smul]
  exact HasFDerivAt.const_mul h c

/-- A constant less the function. -/
theorem const_sub (c : ℝ) (h : IsGradient f g a) : IsGradient (fun x => c - f x) (-g) a := by
  have hsum := (const c).add (h.const_mul (-1))
  simpa [sub_eq_add_neg] using hsum

theorem exp (h : IsGradient f g a) : IsGradient (fun x => Real.exp (f x)) (Real.exp (f a) • g) a := by
  rw [IsGradient, dotMap_smul]
  exact HasFDerivAt.exp h

theorem log (h : IsGradient f g a) (hpos : 0 < f a) : IsGradient (fun x => Real.log (f x)) ((f a)⁻¹ • g) a := by
  rw [IsGradient, dotMap_smul]
  exact HasFDerivAt.log h hpos.ne'

theorem list_sum {l : List τ} {f : τ → (ι → ℝ) → ℝ} {g : τ → ι → ℝ} (h : ∀ t ∈ l, IsGradient (f t) (g t) a) :
    IsGradient (fun x => (l.map fun t => f t x).sum) (l.map g).sum a := by
  induction l with
  | nil => exact const 0
  | cons t l ih =>
    obtain ⟨ht, hl⟩ := List.forall_mem_cons.1 h
    simpa using ht.add (ih hl)

theorem mul {f' : (ι → ℝ) → ℝ} {g' : ι → ℝ} (h : IsGradient f g a) (h' : IsGradient f' g' a) :
    IsGradient (fun x => f x * f' x) (f a • g' + f' a • g) a := by
  rw [IsGradient, dotMap_add, dotMap_smul, dotMap_smul]
  exact HasFDerivAt.mul h h'

theorem sum [Fintype τ] {f : τ → (ι → ℝ) → ℝ} {g : τ → ι → ℝ} (h : ∀ t, IsGradient (f t) (g t) a) :
    IsGradient (fun x => ∑ t, f t x) (∑ t, g t) a := by
  have hlist := list_sum (l := Finset.univ.toList) fun t _ => h t
  simpa [Finset.sum_toList] using hlist

/-- The dot product with a vector has that vector as its gradient. -/
theorem linear (g a : ι → ℝ) : IsGradient (fun x => ∑ i, g i * x i) g a := by
  have hmap := (dotMap g).hasFDerivAt (x := a)
  rwa [show (dotMap g : (ι → ℝ) → ℝ) = fun x => ∑ i, g i * x i from funext (dotMap_apply g)] at hmap

/-- A function of one of the numbers. -/
theorem of_coord [DecidableEq ι] {i : ι} {φ : ℝ → ℝ} {d : ℝ} (h : HasDerivAt φ d (a i)) :
    IsGradient (fun x => φ (x i)) (Pi.single i d) a := by
  have hmap : dotMap (Pi.single i d) = d • ContinuousLinearMap.proj (R := ℝ) (φ := fun _ : ι => ℝ) i := by
    ext v
    simp [dotMap_apply, Pi.single_apply]
  rw [IsGradient, hmap]
  exact h.comp_hasFDerivAt a (ContinuousLinearMap.proj (R := ℝ) (φ := fun _ : ι => ℝ) i).hasFDerivAt

/-- A sum of functions of one number each. -/
theorem sum_coord {φ : ι → ℝ → ℝ} {d : ι → ℝ} (h : ∀ i, HasDerivAt (φ i) (d i) (a i)) :
    IsGradient (fun x => ∑ i, φ i (x i)) d a := by
  classical
  have hsum := sum fun i => of_coord (h i)
  rwa [Finset.univ_sum_single] at hsum

/-- Half a quadratic form of a symmetric matrix has the product with it as its gradient. -/
theorem half_quadratic {A : Matrix ι ι ℝ} (hA : A.IsSymm) (a : ι → ℝ) :
    IsGradient (fun x => 1 / 2 * dotProduct x (A.mulVec x)) (A.mulVec a) a := by
  classical
  have hterm (i : ι) : IsGradient (fun x => x i * ∑ j, A i j * x j) (a i • A i + (A.mulVec a) i • Pi.single i 1) a :=
    (of_coord (hasDerivAt_id (a i))).mul (linear (A i) a)
  have hgrad : (1 / 2 : ℝ) • ∑ i, (a i • A i + (A.mulVec a) i • Pi.single i (1 : ℝ)) = A.mulVec a := by
    funext i
    have hsymm : ∑ j, a j * A j i = (A.mulVec a) i := by
      exact Finset.sum_congr rfl fun j _ => (mul_comm _ _).trans (congrArg (· * a j) (hA.apply i j))
    have hsingle : ∑ j, (A.mulVec a) j * (Pi.single j (1 : ℝ) : ι → ℝ) i = (A.mulVec a) i := by simp [Pi.single_apply]
    simp only [Pi.smul_apply, Finset.sum_apply, Pi.add_apply, smul_eq_mul]
    rw [Finset.sum_add_distrib, hsymm, hsingle]
    ring
  have hsum := (sum hterm).const_mul (1 / 2)
  rwa [hgrad] at hsum

/-- A function that is near `a` the same has the same gradient. -/
theorem congr {f' : (ι → ℝ) → ℝ} (h : IsGradient f g a) (heq : f' =ᶠ[nhds a] f) : IsGradient f' g a :=
  HasFDerivAt.congr_of_eventuallyEq h heq

/-- Clamped at zero, a function that is not zero there keeps its gradient or loses it. -/
theorem clamped (h : IsGradient f g a) (hne : f a ≠ 0) : IsGradient (fun x => max 0 (f x)) (if f a < 0 then 0 else g) a := by
  have hcont : ContinuousAt f a := HasFDerivAt.continuousAt h
  split_ifs with hneg
  · refine (const 0).congr ?_
    filter_upwards [hcont.eventually_lt_const hneg] with x hx
    exact max_eq_left hx.le
  · refine h.congr ?_
    filter_upwards [hcont.eventually_const_lt (lt_of_le_of_ne (not_lt.1 hneg) hne.symm)] with x hx
    exact max_eq_right hx.le

end IsGradient

/-! ### The logarithm of a sum of exponentials -/

variable {l : List τ} {w : τ → ℝ}

/-- A sum of exponentials with positive weights. -/
theorem sum_exp_pos (hne : l ≠ []) (hw : ∀ t ∈ l, 0 < w t) (r : τ → ℝ) : 0 < (l.map fun t => w t * Real.exp (r t)).sum := by
  refine List.sum_pos _ (fun x hx => ?_) (by simpa using hne)
  obtain ⟨t, ht, rfl⟩ := List.mem_map.1 hx
  exact mul_pos (hw t ht) (Real.exp_pos _)

/-- A shift of the exponents comes out of the sum. -/
theorem sum_exp_shift (l : List τ) (w r : τ → ℝ) (m : ℝ) :
    (l.map fun t => w t * Real.exp (r t - m)).sum = (l.map fun t => w t * Real.exp (r t)).sum * Real.exp (-m) := by
  rw [← List.sum_map_mul_right]
  refine congrArg List.sum (List.map_congr_left fun t _ => ?_)
  rw [sub_eq_add_neg, Real.exp_add, mul_assoc]

/-- The shifted logarithm is the logarithm. -/
theorem log_sum_exp_shift (hne : l ≠ []) (hw : ∀ t ∈ l, 0 < w t) (r : τ → ℝ) (m : ℝ) :
    m + Real.log (l.map fun t => w t * Real.exp (r t - m)).sum = Real.log (l.map fun t => w t * Real.exp (r t)).sum := by
  rw [sum_exp_shift, Real.log_mul (sum_exp_pos hne hw r).ne' (Real.exp_pos _).ne', Real.log_exp]
  ring

/-- So are the shares of the shifted exponentials. -/
theorem share_exp_shift (l : List τ) (w r : τ → ℝ) (m : ℝ) (t : τ) :
    w t * Real.exp (r t - m) / (l.map fun t => w t * Real.exp (r t - m)).sum =
      w t * Real.exp (r t) / (l.map fun t => w t * Real.exp (r t)).sum := by
  rw [sum_exp_shift, sub_eq_add_neg, Real.exp_add, ← mul_assoc]
  exact mul_div_mul_right _ _ (Real.exp_pos _).ne'

/-- The gradient of the logarithm, at a temperature, is the mean of the gradients by the shares. -/
theorem isGradient_logSumExp (hne : l ≠ []) (hw : ∀ t ∈ l, 0 < w t) {f : τ → (ι → ℝ) → ℝ} {g : τ → ι → ℝ} {beta : ℝ}
    (hbeta : beta ≠ 0)
    (hf : ∀ t ∈ l, IsGradient (f t) (g t) a) :
    IsGradient (fun x => beta * Real.log (l.map fun t => w t * Real.exp (f t x / beta)).sum)
      (l.map fun t => (w t * Real.exp (f t a / beta) / (l.map fun t => w t * Real.exp (f t a / beta)).sum) • g t).sum a := by
  have hsum : IsGradient (fun x => (l.map fun t => w t * Real.exp (f t x / beta)).sum)
      (l.map fun t => w t • Real.exp (f t a / beta) • beta⁻¹ • g t).sum a := by
    refine IsGradient.list_sum fun t ht => ?_
    have hscaled : IsGradient (fun x => f t x / beta) (beta⁻¹ • g t) a := by
      simpa [div_eq_inv_mul] using (hf t ht).const_mul beta⁻¹
    exact hscaled.exp.const_mul (w t)
  have hlog := (hsum.log (sum_exp_pos hne hw _)).const_mul beta
  convert hlog using 1
  rw [List.smul_sum, List.smul_sum, List.map_map, List.map_map]
  refine congrArg List.sum (List.map_congr_left fun t _ => ?_)
  simp only [Function.comp_apply, smul_smul]
  congr 1
  field_simp

end Pylib
