import Mathlib.Algebra.Order.Field.Basic
import Mathlib.Algebra.BigOperators.Group.List.Basic
import Mathlib.Data.List.Basic
import Mathlib.Order.Bounds.Basic
import Mathlib.Tactic.Linarith

/-!
# Running products, running peaks and drawdowns

What a running fold of a series is at each place, and that the deepest drop below a running peak is the deepest drop between any
two places of the series.
-/

namespace Pylib

variable {α : Type*}

/-! ## Running folds -/

/-- The values of a fold after each element. -/
def accumulate (f : α → α → α) (acc : α) : List α → List α
  | [] => []
  | x :: xs => f acc x :: accumulate f (f acc x) xs

theorem length_accumulate (f : α → α → α) (acc : α) (xs : List α) : (accumulate f acc xs).length = xs.length := by
  induction xs generalizing acc with
  | nil => rfl
  | cons x xs ih => rw [accumulate, List.length_cons, ih, List.length_cons]

/-- `np.cumprod`. -/
def npCumprod [MulOneClass α] (xs : List α) : List α := accumulate (· * ·) 1 xs

/-- A running product at a place is the product of what comes up to it. -/
theorem getElem?_accumulate_mul [Monoid α] (acc : α) (xs : List α) {k : ℕ} (hk : k < xs.length) :
    (accumulate (· * ·) acc xs)[k]? = some (acc * (xs.take (k + 1)).prod) := by
  induction xs generalizing acc k with
  | nil => exact absurd hk (Nat.not_lt_zero k)
  | cons x xs ih =>
    cases k with
    | zero => simp [accumulate]
    | succ k =>
      rw [accumulate, List.getElem?_cons_succ, ih (acc * x) (Nat.lt_of_succ_lt_succ hk), List.take_succ_cons,
        List.prod_cons, mul_assoc]

theorem getElem?_npCumprod [Monoid α] (xs : List α) {k : ℕ} (hk : k < xs.length) :
    (npCumprod xs)[k]? = some (xs.take (k + 1)).prod := by
  rw [npCumprod, getElem?_accumulate_mul 1 xs hk, one_mul]

theorem length_npCumprod [MulOneClass α] (xs : List α) : (npCumprod xs).length = xs.length := length_accumulate _ _ _

section Order

variable [LinearOrder α]

/-- `np.maximum.accumulate`. -/
def npMaximumAccumulate : List α → List α
  | [] => []
  | x :: xs => x :: accumulate max x xs

/-- A running maximum is one of the elements up to its place, or what it started with, and none of them is above it. -/
theorem accumulate_max_spec (acc : α) (xs : List α) {k : ℕ} {p : α} (h : (accumulate max acc xs)[k]? = some p) :
    acc ≤ p ∧ (∀ i ≤ k, ∀ x, xs[i]? = some x → x ≤ p) ∧ (p = acc ∨ ∃ i ≤ k, xs[i]? = some p) := by
  induction xs generalizing acc k with
  | nil => simp [accumulate] at h
  | cons x xs ih =>
    cases k with
    | zero =>
      obtain rfl : max acc x = p := by simpa [accumulate] using h
      refine ⟨le_max_left _ _, fun i hi y hy => ?_, ?_⟩
      · obtain rfl := Nat.le_zero.1 hi
        obtain rfl : x = y := by simpa using hy
        exact le_max_right _ _
      · rcases max_choice acc x with hmax | hmax
        · exact .inl hmax
        · exact .inr ⟨0, le_rfl, by rw [hmax]; rfl⟩
    | succ k =>
      obtain ⟨hacc, hall, hone⟩ := ih (max acc x) (by simpa [accumulate] using h)
      refine ⟨(le_max_left _ _).trans hacc, fun i hi y hy => ?_, ?_⟩
      · cases i with
        | zero =>
          obtain rfl : x = y := by simpa using hy
          exact (le_max_right _ _).trans hacc
        | succ i => exact hall i (Nat.le_of_succ_le_succ hi) y hy
      · rcases hone with rfl | ⟨i, hi, hp⟩
        · rcases max_choice acc x with hmax | hmax
          · exact .inl hmax
          · exact .inr ⟨0, Nat.zero_le _, by rw [hmax]; rfl⟩
        · exact .inr ⟨i + 1, Nat.succ_le_succ hi, hp⟩

/-- The peak at a place is the greatest element up to it. -/
theorem npMaximumAccumulate_spec {xs : List α} {k : ℕ} {p : α} (h : (npMaximumAccumulate xs)[k]? = some p) :
    (∀ i ≤ k, ∀ x, xs[i]? = some x → x ≤ p) ∧ ∃ i ≤ k, xs[i]? = some p := by
  cases xs with
  | nil => simp [npMaximumAccumulate] at h
  | cons x xs =>
    cases k with
    | zero =>
      obtain rfl : x = p := by simpa [npMaximumAccumulate] using h
      refine ⟨fun i hi y hy => ?_, 0, le_rfl, rfl⟩
      obtain rfl := Nat.le_zero.1 hi
      exact (Option.some.inj hy).ge
    | succ k =>
      obtain ⟨hacc, hall, hone⟩ := accumulate_max_spec x xs (by simpa [npMaximumAccumulate] using h)
      refine ⟨fun i hi y hy => ?_, ?_⟩
      · cases i with
        | zero => exact (Option.some.inj hy).ge.trans hacc
        | succ i => exact hall i (Nat.le_of_succ_le_succ hi) y hy
      · rcases hone with rfl | ⟨i, hi, hp⟩
        · exact ⟨0, Nat.zero_le _, rfl⟩
        · exact ⟨i + 1, Nat.succ_le_succ hi, hp⟩

theorem length_npMaximumAccumulate (xs : List α) : (npMaximumAccumulate xs).length = xs.length := by
  cases xs with
  | nil => rfl
  | cons x xs => rw [npMaximumAccumulate, List.length_cons, length_accumulate, List.length_cons]

end Order

/-! ## Drawdowns -/

section Drawdowns

variable [Field α] [LinearOrder α]

/-- The drop from a peak, relative to it, or to the floor where the peak is below the floor. -/
def dropFrom (floor peak x : α) : α := (x - peak) / max peak floor

/-- The drops of a series from its running peaks. -/
def drawdowns (floor : α) (xs : List α) : List α := List.zipWith (fun x peak => dropFrom floor peak x) xs (npMaximumAccumulate xs)

/-- `np.min`; of an empty array it would raise. -/
def npMin (xs : List α) : α := xs.min?.getD 0

/-- The drops between two places of a series, the first not after the second. -/
def dropsBetween (floor : α) (xs : List α) : Set α :=
  {d | ∃ (i j : ℕ) (x y : α), i ≤ j ∧ xs[i]? = some x ∧ xs[j]? = some y ∧ d = dropFrom floor x y}

variable [IsStrictOrderedRing α]

/-- The drop to a value that is not negative is deeper from a higher peak. -/
theorem dropFrom_anti {floor x : α} (hfloor : 0 < floor) (hx : 0 ≤ x) {p q : α} (hpq : p ≤ q) :
    dropFrom floor q x ≤ dropFrom floor p x := by
  have hp : 0 < max p floor := lt_max_of_lt_right hfloor
  have hq : 0 < max q floor := lt_max_of_lt_right hfloor
  rw [dropFrom, dropFrom, div_le_div_iff₀ hq hp]
  rcases le_total q floor with hqf | hqf
  · rw [max_eq_right hqf, max_eq_right (hpq.trans hqf)]
    nlinarith
  · rcases le_total p floor with hpf | hpf
    · rw [max_eq_left hqf, max_eq_right hpf]
      nlinarith
    · rw [max_eq_left hqf, max_eq_left hpf]
      nlinarith

/-- The deepest drawdown of a series that is not negative is the deepest drop between two of its places. -/
theorem isLeast_drawdowns {floor : α} (hfloor : 0 < floor) {xs : List α} (hne : xs ≠ []) (hxs : ∀ x ∈ xs, 0 ≤ x) :
    IsLeast (dropsBetween floor xs) (npMin (drawdowns floor xs)) := by
  have hlen : (drawdowns floor xs).length = xs.length := by
    rw [drawdowns, List.length_zipWith, length_npMaximumAccumulate, Nat.min_self]
  obtain ⟨d, hd⟩ : ∃ d, (drawdowns floor xs).min? = some d := by
    refine Option.isSome_iff_exists.1 (List.isSome_min?_iff.2 fun h => hne ?_)
    rw [← List.length_eq_zero_iff, ← hlen, h, List.length_nil]
  obtain ⟨hmem, hmin⟩ := List.min?_eq_some_iff.1 hd
  rw [npMin, hd, Option.getD_some]
  constructor
  · obtain ⟨j, hj⟩ := List.mem_iff_getElem?.1 hmem
    rw [drawdowns, List.getElem?_zipWith_eq_some] at hj
    obtain ⟨y, p, hy, hp, rfl⟩ := hj
    obtain ⟨-, i, hi, hx⟩ := npMaximumAccumulate_spec hp
    exact ⟨i, j, p, y, hi, hx, hy, rfl⟩
  · rintro _ ⟨i, j, x, y, hij, hx, hy, rfl⟩
    have hj : j < (npMaximumAccumulate xs).length := by
      rw [length_npMaximumAccumulate]
      exact (List.getElem?_eq_some_iff.1 hy).1
    have hp := List.getElem?_eq_getElem hj
    have hxp := (npMaximumAccumulate_spec hp).1 i hij x hx
    refine (hmin _ (List.mem_iff_getElem?.2 ⟨j, ?_⟩)).trans (dropFrom_anti hfloor (hxs y (List.mem_of_getElem? hy)) hxp)
    rw [drawdowns, List.getElem?_zipWith_eq_some]
    exact ⟨y, _, hy, hp, rfl⟩

end Drawdowns

end Pylib
