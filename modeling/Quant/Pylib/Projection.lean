import Mathlib.Algebra.Order.BigOperators.Ring.Finset
import Mathlib.Algebra.BigOperators.Field
import Mathlib.Algebra.Order.Field.Basic
import Mathlib.Analysis.Convex.Basic
import Mathlib.Tactic.Linarith
import Mathlib.Tactic.Ring

/-!
# Projections onto convex sets

The point of a set that is nearest to a point outside, in the Euclidean distance, over any ordered field. For a convex set it is
the point from which no direction into the set leads towards the point outside.
-/

namespace Pylib

variable {ι : Type*} [Fintype ι] {α : Type*} [Field α] [LinearOrder α] [IsStrictOrderedRing α] {K : Set (ι → α)} {x p z : ι → α}

/-- The square of the Euclidean distance. -/
def sqDist (x y : ι → α) : α := ∑ i, (x i - y i) ^ 2

/-- The dot product of two differences. -/
def innerFrom (p x z : ι → α) : α := ∑ i, (x i - p i) * (z i - p i)

/-- `p` is a point of `K` nearest to `x`. -/
structure IsProjection (K : Set (ι → α)) (x p : ι → α) : Prop where
  mem : p ∈ K
  le : ∀ z ∈ K, sqDist x p ≤ sqDist x z

theorem sqDist_nonneg (x y : ι → α) : 0 ≤ sqDist x y := Finset.sum_nonneg fun _ _ => sq_nonneg _

theorem sqDist_eq_zero : sqDist x z = 0 ↔ x = z := by
  rw [sqDist, Finset.sum_eq_zero_iff_of_nonneg fun _ _ => sq_nonneg _]
  refine ⟨fun h => funext fun i => ?_, fun h i _ => by rw [h, sub_self, zero_pow two_ne_zero]⟩
  exact sub_eq_zero.1 (pow_eq_zero_iff two_ne_zero |>.1 (h i (Finset.mem_univ i)))

omit [LinearOrder α] [IsStrictOrderedRing α] in
/-- The distance to a point on the way from `p` to `z`. -/
theorem sqDist_towards (x p z : ι → α) (t : α) :
    sqDist x (fun i => p i + t * (z i - p i)) = sqDist x p - 2 * t * innerFrom p x z + t ^ 2 * sqDist p z := by
  rw [sqDist, sqDist, sqDist, innerFrom, Finset.mul_sum, Finset.mul_sum, ← Finset.sum_sub_distrib, ← Finset.sum_add_distrib]
  exact Finset.sum_congr rfl fun i _ => by ring

omit [Fintype ι] in
theorem towards_mem (hK : Convex α K) (hp : p ∈ K) (hz : z ∈ K) {t : α} (ht : 0 ≤ t) (ht1 : t ≤ 1) :
    (fun i => p i + t * (z i - p i)) ∈ K := by
  have hmem := hK hp hz (sub_nonneg.2 ht1) ht (sub_add_cancel 1 t)
  convert! hmem using 1
  funext i
  simp only [Pi.add_apply, Pi.smul_apply, smul_eq_mul]
  ring

/-- From the nearest point no direction into a convex set leads towards the point outside. -/
theorem IsProjection.innerFrom_nonpos (h : IsProjection K x p) (hK : Convex α K) (hz : z ∈ K) : innerFrom p x z ≤ 0 := by
  by_contra hpos
  rw [not_le] at hpos
  have hdist := sqDist_nonneg p z
  -- a short enough part of the way to `z` is nearer
  obtain ⟨t, ht, ht1, hshort⟩ : ∃ t : α, 0 < t ∧ t ≤ 1 ∧ t * sqDist p z ≤ innerFrom p x z := by
    refine ⟨innerFrom p x z / (innerFrom p x z + sqDist p z), div_pos hpos (add_pos_of_pos_of_nonneg hpos hdist),
      (div_le_one (add_pos_of_pos_of_nonneg hpos hdist)).2 (le_add_of_nonneg_right hdist), ?_⟩
    rw [div_mul_eq_mul_div, div_le_iff₀ (add_pos_of_pos_of_nonneg hpos hdist)]
    nlinarith
  have hle := h.le _ (towards_mem hK h.mem hz ht.le ht1)
  rw [sqDist_towards] at hle
  nlinarith

/-- And that is enough, for any set. -/
theorem IsProjection.of_innerFrom_nonpos (hp : p ∈ K) (h : ∀ z ∈ K, innerFrom p x z ≤ 0) : IsProjection K x p := by
  refine ⟨hp, fun z hz => ?_⟩
  have hexpand := sqDist_towards x p z 1
  have hz' : (fun i => p i + 1 * (z i - p i)) = z := by
    funext i
    ring
  rw [hz'] at hexpand
  have hdist := sqDist_nonneg p z
  linarith [h z hz]

/-- A step along some direction, projected, does not lead against the direction. -/
theorem IsProjection.dot_nonneg {g : ι → α} {step : α} (hstep : 0 < step) (hK : Convex α K) (hx : x ∈ K)
    (h : IsProjection K (fun i => x i + step * g i) p) : 0 ≤ ∑ i, g i * (p i - x i) := by
  have hinner := h.innerFrom_nonpos hK hx
  have hexpand : innerFrom p (fun i => x i + step * g i) x = sqDist x p - step * ∑ i, g i * (p i - x i) := by
    rw [innerFrom, sqDist, Finset.mul_sum, ← Finset.sum_sub_distrib]
    exact Finset.sum_congr rfl fun i _ => by ring
  rw [hexpand] at hinner
  have hdist := sqDist_nonneg x p
  exact nonneg_of_mul_nonneg_right (by linarith) hstep

theorem IsProjection.self (hx : x ∈ K) : IsProjection K x x := .of_innerFrom_nonpos hx fun z _ => by simp [innerFrom]

omit [IsStrictOrderedRing α] in
/-- A projection that lies in a smaller set is the projection there. -/
theorem IsProjection.mono {L : Set (ι → α)} (h : IsProjection K x p) (hL : L ⊆ K) (hp : p ∈ L) : IsProjection L x p :=
  ⟨hp, fun z hz => h.le z (hL hz)⟩

/-- A convex set has one nearest point at most. -/
theorem IsProjection.unique (hK : Convex α K) (h : IsProjection K x p) (h' : IsProjection K x z) : p = z := by
  have hsum : innerFrom p x z + innerFrom z x p = sqDist p z := by
    rw [innerFrom, innerFrom, sqDist, ← Finset.sum_add_distrib]
    exact Finset.sum_congr rfl fun i _ => by ring
  have hinner := h.innerFrom_nonpos hK h'.mem
  have hinner' := h'.innerFrom_nonpos hK h.mem
  exact sqDist_eq_zero.1 (le_antisymm (by linarith) (sqDist_nonneg p z))

/-! ## Soft thresholds -/

/-- What is above its threshold, with the sign kept. -/
structure IsSoftThreshold (w y p : ι → α) : Prop where
  abs_eq : ∀ i, |p i| = max 0 (|y i| - w i)
  mul_nonneg : ∀ i, 0 ≤ p i * y i

variable {w c y : ι → α} {b : α}

omit [Fintype ι] in
theorem IsSoftThreshold.mul_le (h : IsSoftThreshold w y p) (hw : ∀ i, 0 ≤ w i) (z : ι → α) (i : ι) :
    (y i - p i) * (z i - p i) ≤ w i * |z i| - w i * |p i| := by
  have habs := h.abs_eq i
  have hsign := h.mul_nonneg i
  have hwi := hw i
  rcases le_or_gt |y i| (w i) with hle | hgt
  · rw [max_eq_left (sub_nonpos.2 hle), abs_eq_zero] at habs
    rw [habs, sub_zero, sub_zero, abs_zero, mul_zero, sub_zero]
    calc y i * z i ≤ |y i * z i| := le_abs_self _
      _ = |y i| * |z i| := abs_mul _ _
      _ ≤ w i * |z i| := mul_le_mul_of_nonneg_right hle (abs_nonneg _)
  · rw [max_eq_right (sub_nonneg.2 hgt.le)] at habs
    -- the point and its threshold are on one side of zero
    rcases lt_or_ge (y i) 0 with hneg | hpos
    · have hp : p i ≤ 0 := nonpos_of_mul_nonneg_left hsign hneg
      rw [abs_of_nonpos hp, abs_of_neg hneg] at habs
      have hdiff : y i - p i = -w i := by linarith
      rw [hdiff, abs_of_nonpos hp]
      nlinarith [neg_abs_le (z i)]
    · have hp : 0 ≤ p i := by
        rcases hpos.eq_or_lt with hzero | hlt
        · rw [← hzero, abs_zero] at hgt
          exact absurd hgt (not_lt.2 hwi)
        · exact nonneg_of_mul_nonneg_left hsign hlt
      rw [abs_of_nonneg hp, abs_of_nonneg hpos] at habs
      have hdiff : y i - p i = w i := by linarith
      rw [hdiff, abs_of_nonneg hp]
      nlinarith [le_abs_self (z i)]

/-- Thresholds that no point of the set exceeds in total are those of a projection. -/
theorem IsProjection.of_softThreshold (h : IsSoftThreshold w y p) (hw : ∀ i, 0 ≤ w i) (hp : p ∈ K)
    (hle : ∀ z ∈ K, ∑ i, w i * |z i| ≤ ∑ i, w i * |p i|) : IsProjection K y p := by
  refine .of_innerFrom_nonpos hp fun z hz => ?_
  calc innerFrom p y z ≤ ∑ i, (w i * |z i| - w i * |p i|) := Finset.sum_le_sum fun i _ => h.mul_le hw z i
    _ = ∑ i, w i * |z i| - ∑ i, w i * |p i| := Finset.sum_sub_distrib ..
    _ ≤ 0 := sub_nonpos.2 (hle z hz)

/-- A level above which less is left than there was is not below zero. -/
theorem level_nonneg {t : α} (hc : ∀ i, 0 ≤ c i) (hw : ∀ i, 0 ≤ w i) (hsum : ∑ i, c i * max 0 (y i - t * w i) < ∑ i, c i * y i) :
    0 ≤ t := by
  by_contra hneg
  refine absurd hsum (not_lt.2 (Finset.sum_le_sum fun i _ => mul_le_mul_of_nonneg_left ?_ (hc i)))
  exact le_max_of_le_right (by nlinarith [hw i])

/-! ## Balls -/

/-- The vectors whose sizes, weighted, sum to the budget at most. -/
def weightedBall (c : ι → α) (b : α) : Set (ι → α) := {v | ∑ i, c i * |v i| ≤ b}

theorem convex_weightedBall (hc : ∀ i, 0 ≤ c i) (b : α) : Convex α (weightedBall c b) := by
  intro v hv u hu s t hs ht hst
  calc ∑ i, c i * |s * v i + t * u i| ≤ ∑ i, (s * (c i * |v i|) + t * (c i * |u i|)) := by
        refine Finset.sum_le_sum fun i _ => ?_
        have habs : |s * v i + t * u i| ≤ s * |v i| + t * |u i| := by
          refine (abs_add_le _ _).trans (add_le_add ?_ ?_) <;> rw [abs_mul]
          · rw [abs_of_nonneg hs]
          · rw [abs_of_nonneg ht]
        nlinarith [mul_le_mul_of_nonneg_left habs (hc i)]
    _ = s * ∑ i, c i * |v i| + t * ∑ i, c i * |u i| := by
        rw [Finset.sum_add_distrib, Finset.mul_sum, Finset.mul_sum]
    _ ≤ s * b + t * b := add_le_add (mul_le_mul_of_nonneg_left hv hs) (mul_le_mul_of_nonneg_left hu ht)
    _ = b := by rw [← add_mul, hst, one_mul]

end Pylib
