import Mathlib.Algebra.BigOperators.Ring.List
import Mathlib.Algebra.Order.BigOperators.Group.List
import Mathlib.Data.List.DropRight
import Mathlib.Data.List.Sort
import Quant.Pylib.Decimal

/-!
# Series

What numpy computes of a one-dimensional array, over any ordered field: means, variances, differences, percentiles, and slices
that count from the end. The square root of a standard deviation is an argument.
-/

namespace Pylib

section Series

variable {α : Type*} [Field α]

/-- `np.mean`. -/
def npMean (xs : List α) : α := xs.sum / xs.length

/-- `np.var`. -/
def npVar (xs : List α) : α := npMean (xs.map fun x => (x - npMean xs) ^ 2)

/-- `np.std`. -/
def npStd (sqrt : α → α) (xs : List α) : α := sqrt (npVar xs)

/-- `np.cov(xs, ys)[0, 1]`. -/
def npCov (xs ys : List α) : α := (List.zipWith (fun x y => (x - npMean xs) * (y - npMean ys)) xs ys).sum / (xs.length - 1)

/-- `np.diff`. -/
def npDiff (xs : List α) : List α := List.zipWith (fun x y => y - x) xs xs.tail

/-- `np.dot` of two vectors. -/
def npDotVec (xs ys : List α) : α := (List.zipWith (· * ·) xs ys).sum

variable [LinearOrder α] [FloorRing α]

/-- `np.percentile`, which interpolates linearly between the two nearest ranks. -/
def npPercentile (xs : List α) (q : α) : α :=
  let sorted := xs.insertionSort (· ≤ ·)
  let rank := ((xs.length : α) - 1) * q / ((100 : ℚ) : α)
  let below := sorted.getD ⌊rank⌋.toNat 0
  let above := sorted.getD ⌈rank⌉.toNat 0
  below + (above - below) * (rank - ⌊rank⌋)

end Series

/-- The mean of some numbers exceeds what each of them exceeds. -/
theorem lt_npMean {α : Type*} [Field α] [LinearOrder α] [IsStrictOrderedRing α] {xs : List α} {u : α} (hne : xs ≠ [])
    (h : ∀ x ∈ xs, u < x) : u < npMean xs := by
  cases xs with
  | nil => exact absurd rfl hne
  | cons x xs =>
    obtain ⟨hx, hxs⟩ := List.forall_mem_cons.1 h
    have hrest := List.card_nsmul_le_sum xs u fun y hy => (hxs y hy).le
    have hlen : (0 : α) < ((x :: xs).length : α) := Nat.cast_pos.2 (Nat.succ_pos _)
    rw [nsmul_eq_mul] at hrest
    rw [npMean, lt_div_iff₀ hlen, List.sum_cons, List.length_cons, Nat.cast_succ, mul_add, mul_one, add_comm, mul_comm u]
    exact add_lt_add_of_lt_of_le hx hrest

section Affine

variable {α : Type*} [Field α]

theorem sum_map_affine (a b : α) (xs : List α) : (xs.map fun x => a + b * x).sum = xs.length * a + b * xs.sum := by
  rw [List.sum_map_add, List.map_const', List.sum_replicate, nsmul_eq_mul, List.sum_map_mul_left, List.map_id']

/-- The mean of an affine image. -/
theorem npMean_affine [CharZero α] (a b : α) {xs : List α} (hne : xs ≠ []) :
    npMean (xs.map fun x => a + b * x) = a + b * npMean xs := by
  have hlen : (xs.length : α) ≠ 0 := Nat.cast_ne_zero.2 fun h => hne (List.length_eq_zero_iff.1 h)
  rw [npMean, npMean, sum_map_affine, List.length_map, add_div, mul_div_cancel_left₀ _ hlen, mul_div_assoc]

theorem sum_sq_dev [CharZero α] {xs : List α} (hne : xs ≠ []) :
    (xs.map fun x => (x - npMean xs) ^ 2).sum = xs.length * npVar xs := by
  have hlen : (xs.length : α) ≠ 0 := Nat.cast_ne_zero.2 fun h => hne (List.length_eq_zero_iff.1 h)
  change _ = (xs.length : α) * ((xs.map _).sum / ((xs.map _).length : ℕ))
  rw [List.length_map, mul_div_cancel₀ _ hlen]

/-- The covariance of an affine image with the series: one is divided by `n`, the other by `n - 1`. -/
theorem npCov_affine [CharZero α] (a b : α) {xs : List α} (hne : xs ≠ []) :
    npCov (xs.map fun x => a + b * x) xs = b * npVar xs * (xs.length / (xs.length - 1)) := by
  have hterm (x : α) : (a + b * x - (a + b * npMean xs)) * (x - npMean xs) = b * (x - npMean xs) ^ 2 := by ring
  rw [npCov, npMean_affine a b hne, List.zipWith_map_left, List.zipWith_self, List.length_map]
  simp only [hterm]
  rw [List.sum_map_mul_left, sum_sq_dev hne, mul_div_assoc', mul_assoc b, mul_comm (npVar xs)]

end Affine

/-- `xs[i:]`, where a negative index counts from the end. -/
def sliceFrom {β : Type*} (xs : List β) (i : ℤ) : List β :=
  if 0 ≤ i then xs.drop i.toNat else xs.drop (xs.length - (-i).toNat)

theorem length_sliceFrom {β : Type*} (xs : List β) {i : ℤ} (h : i < 0) : (sliceFrom xs i).length = min xs.length (-i).toNat := by
  rw [sliceFrom, if_neg (not_le.2 h), List.length_drop]
  omega

/-!
## Filters over a series

The valid part of a convolution, and what it becomes when the series grows by one element: a value more, computed of the last
window. A buffer that only keeps the end of a series knows this window.
-/

variable {α : Type*}

/-! ### The end of a list -/

/-- `xs[-n:]` is the last `n` elements, but the whole list where `n` is zero. -/
theorem sliceFrom_neg (xs : List α) (n : ℕ) : sliceFrom xs (-(n : ℤ)) = if n = 0 then xs else xs.rtake n := by
  rcases n with _ | n
  · simp [sliceFrom]
  · simp only [sliceFrom, List.rtake, Nat.succ_ne_zero, if_false]
    rw [if_neg (by omega)]
    congr 2

theorem sliceFrom_neg_succ (xs : List α) (n : ℕ) : sliceFrom xs (-((n + 1 : ℕ) : ℤ)) = xs.rtake (n + 1) := by
  rw [sliceFrom_neg, if_neg (Nat.succ_ne_zero n)]

theorem length_rtake (xs : List α) (n : ℕ) : (xs.rtake n).length = min xs.length n := by
  simp only [List.rtake, List.length_drop]
  omega

/-- The end of the end. -/
theorem rtake_rtake {xs : List α} {m n : ℕ} (h : m ≤ n) : (xs.rtake n).rtake m = xs.rtake m := by
  simp only [List.rtake, List.length_drop, List.drop_drop]
  congr 1
  omega

/-! ### The convolution -/

variable [Field α]

/-- The valid part of the convolution with weights that are not longer than the series: one value for each window. -/
def convolveValid (weights xs : List α) : List α :=
  (List.range (xs.length + 1 - weights.length)).map fun t => npDotVec weights ((xs.drop t).take weights.length).reverse

theorem length_convolveValid (weights xs : List α) : (convolveValid weights xs).length = xs.length + 1 - weights.length := by
  simp [convolveValid]

/-- A series that is too short for one window has no values. -/
theorem convolveValid_of_length_lt {weights xs : List α} (h : xs.length < weights.length) : convolveValid weights xs = [] := by
  rw [convolveValid, show xs.length + 1 - weights.length = 0 by omega, List.range_zero, List.map_nil]

/-- One element more is one value more, of the window that ends with it. -/
theorem convolveValid_concat {weights xs : List α} (x : α) (h : weights.length ≤ xs.length + 1) :
    convolveValid weights (xs ++ [x]) =
      convolveValid weights xs ++ [npDotVec weights ((xs ++ [x]).rtake weights.length).reverse] := by
  have hlen : (xs ++ [x]).length + 1 - weights.length = xs.length + 1 - weights.length + 1 := by
    rw [List.length_append, List.length_singleton]
    omega
  simp only [convolveValid, hlen, List.range_succ, List.map_append, List.map_singleton]
  congr 1
  · refine List.map_congr_left fun t ht => ?_
    -- The windows before the last one lie within the old series.
    have hfit : t + weights.length ≤ xs.length := by
      have := List.mem_range.1 ht
      omega
    rw [List.drop_append_of_le_length (by omega), List.take_append_of_le_length (by rw [List.length_drop]; omega)]
  · rw [List.rtake, List.length_append, List.length_singleton, List.take_of_length_le]
    rw [List.length_drop, List.length_append, List.length_singleton]
    omega

theorem npDotVec_cons (w x : α) (ws xs : List α) : npDotVec (w :: ws) (x :: xs) = w * x + npDotVec ws xs := rfl

end Pylib
