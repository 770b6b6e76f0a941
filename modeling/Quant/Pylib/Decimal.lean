import Mathlib.Data.Rat.Floor
import Mathlib.Tactic.Linarith
import Mathlib.Tactic.FieldSimp
import Mathlib.Tactic.Ring

/-!
# Rounding to decimals

`round(x, n)` of Python on an exact number: the nearest multiple of `10 ^ (-n)`, and of two equally near ones the even one.
-/

namespace Pylib

/-- The nearest integer, ties to even. -/
def roundHalfEven (x : ℚ) : ℤ :=
  let f := ⌊x⌋
  let d := x - f
  if d < 1 / 2 then f else if 1 / 2 < d then f + 1 else if f % 2 = 0 then f else f + 1

/-- `round(x, n)`: the nearest number with `n` decimals, ties to even. -/
def round (x : ℚ) (n : ℕ) : ℚ := roundHalfEven (x * 10 ^ n) / 10 ^ n

/-- A number with `n` decimals. -/
def HasDecimals (n : ℕ) (x : ℚ) : Prop := ∃ k : ℤ, x = k / 10 ^ n

@[simp]
theorem roundHalfEven_intCast (k : ℤ) : roundHalfEven k = k := by
  simp [roundHalfEven]

/-- The nearest integer is at most half away. -/
theorem abs_roundHalfEven_sub_le (x : ℚ) : |(roundHalfEven x : ℚ) - x| ≤ 1 / 2 := by
  have h0 := Int.floor_le x
  have h1 := Int.lt_floor_add_one x
  unfold roundHalfEven
  simp only
  rw [abs_le]
  split_ifs <;> push_cast <;> constructor <;> linarith

/-- The numbers that round to zero are the ones at most half away from it. -/
theorem roundHalfEven_eq_zero_iff (x : ℚ) : roundHalfEven x = 0 ↔ |x| ≤ 1 / 2 := by
  constructor
  · intro h
    have := abs_roundHalfEven_sub_le x
    rw [h] at this
    simpa using this
  · intro h
    obtain ⟨hl, hu⟩ := abs_le.1 h
    have h0 := Int.floor_le x
    have h1 := Int.lt_floor_add_one x
    rcases lt_or_ge x 0 with hx | hx
    · have hf : ⌊x⌋ = -1 := by
        rw [Int.floor_eq_iff]
        push_cast
        constructor <;> linarith
      unfold roundHalfEven
      simp only [hf]
      push_cast
      split_ifs with ha hb
      · linarith
      · rfl
      · rfl
    · have hf : ⌊x⌋ = 0 := by
        rw [Int.floor_eq_iff]
        push_cast
        constructor <;> linarith
      unfold roundHalfEven
      simp only [hf]
      push_cast
      split_ifs with ha hb
      · rfl
      · linarith
      · rfl

/-- A number with `n` decimals rounds to itself. -/
theorem round_of_hasDecimals {n : ℕ} {x : ℚ} (h : HasDecimals n x) : round x n = x := by
  obtain ⟨k, rfl⟩ := h
  have h10 : (10 : ℚ) ^ n ≠ 0 := by positivity
  rw [round, div_mul_cancel₀ _ h10, roundHalfEven_intCast]

theorem hasDecimals_round (x : ℚ) (n : ℕ) : HasDecimals n (round x n) := ⟨_, rfl⟩

theorem round_round (x : ℚ) (n : ℕ) : round (round x n) n = round x n := round_of_hasDecimals (hasDecimals_round x n)

theorem round_eq_zero_iff (x : ℚ) (n : ℕ) : round x n = 0 ↔ |x| ≤ 1 / 2 / 10 ^ n := by
  have h10 : (0 : ℚ) < 10 ^ n := by positivity
  rw [round, div_eq_zero_iff, or_iff_left h10.ne', Int.cast_eq_zero, roundHalfEven_eq_zero_iff, abs_mul, abs_of_pos h10,
    le_div_iff₀ h10]

/-- A rounded number is at most half a unit of its last decimal away. -/
theorem abs_round_sub_le (x : ℚ) (n : ℕ) : |round x n - x| ≤ 1 / 2 / 10 ^ n := by
  have h10 : (0 : ℚ) < 10 ^ n := by positivity
  have he : round x n - x = (roundHalfEven (x * 10 ^ n) - x * 10 ^ n) / 10 ^ n := by
    rw [round]
    field_simp
  rw [he, abs_div, abs_of_pos h10]
  exact div_le_div_of_nonneg_right (abs_roundHalfEven_sub_le _) h10.le

/-- A nonzero number with `n` decimals is at least one unit of the last decimal in size. -/
theorem HasDecimals.le_abs {n : ℕ} {x : ℚ} (h : HasDecimals n x) (hx : x ≠ 0) : 1 / 10 ^ n ≤ |x| := by
  obtain ⟨k, rfl⟩ := h
  have h10 : (0 : ℚ) < 10 ^ n := by positivity
  have hk : k ≠ 0 := by
    rintro rfl
    simp at hx
  rw [abs_div, abs_of_pos h10]
  apply div_le_div_of_nonneg_right _ h10.le
  exact_mod_cast Int.one_le_abs hk

/-- The numbers that round to nothing negative are the ones down to half a unit below zero. -/
theorem round_nonneg_iff (x : ℚ) (n : ℕ) : 0 ≤ round x n ↔ -(1 / 2 / 10 ^ n) ≤ x := by
  have hle := abs_le.1 (abs_round_sub_le x n)
  constructor
  · intro h
    linarith [hle.2]
  · intro h
    by_contra hneg
    rw [not_le] at hneg
    -- a negative rounded number is a whole unit below zero, so the number is a tie, which goes to the even zero
    have hone := HasDecimals.le_abs (hasDecimals_round x n) hneg.ne
    rw [abs_of_neg hneg] at hone
    have hunit : 1 / 2 / 10 ^ n + 1 / 2 / 10 ^ n = (1 : ℚ) / 10 ^ n := by ring
    have hzero := (round_eq_zero_iff x n).2 (abs_le.2 ⟨h, by linarith [hle.1]⟩)
    exact hneg.ne hzero

/-- Of two numbers that differ in sign only the nearest integers do as well: a tie goes to the even one on either side. -/
theorem roundHalfEven_neg (x : ℚ) : roundHalfEven (-x) = -roundHalfEven x := by
  have h0 := Int.floor_le x
  have h1 := Int.lt_floor_add_one x
  rcases h0.eq_or_lt with heq | hlt
  · rw [← heq, ← Int.cast_neg, roundHalfEven_intCast, roundHalfEven_intCast]
  · have hf : ⌊-x⌋ = -⌊x⌋ - 1 := by
      rw [Int.floor_eq_iff]
      push_cast
      constructor <;> linarith
    unfold roundHalfEven
    simp only [hf]
    push_cast
    split_ifs <;> first | omega | (exfalso; linarith)

theorem round_neg (x : ℚ) (n : ℕ) : round (-x) n = -round x n := by
  rw [round, round, neg_mul, roundHalfEven_neg, Int.cast_neg, neg_div]

theorem HasDecimals.zero (n : ℕ) : HasDecimals n 0 := ⟨0, by simp⟩

theorem HasDecimals.add {n : ℕ} {x y : ℚ} (hx : HasDecimals n x) (hy : HasDecimals n y) : HasDecimals n (x + y) := by
  obtain ⟨k, rfl⟩ := hx
  obtain ⟨l, rfl⟩ := hy
  exact ⟨k + l, by push_cast; ring⟩

theorem HasDecimals.sub {n : ℕ} {x y : ℚ} (hx : HasDecimals n x) (hy : HasDecimals n y) : HasDecimals n (x - y) := by
  obtain ⟨k, rfl⟩ := hx
  obtain ⟨l, rfl⟩ := hy
  exact ⟨k - l, by push_cast; ring⟩

theorem HasDecimals.sum {n : ℕ} {l : List ℚ} (h : ∀ x ∈ l, HasDecimals n x) : HasDecimals n l.sum := by
  induction l with
  | nil => exact HasDecimals.zero n
  | cons x l ih =>
    rw [List.forall_mem_cons] at h
    rw [List.sum_cons]
    exact h.1.add (ih h.2)

/-! ## In any field with floors -/

/-! What the numerals of a field rest on, by name. -/

theorem two_atLeastTwo : Nat.AtLeastTwo 2 := ⟨le_rfl⟩

theorem three_atLeastTwo : Nat.AtLeastTwo 3 := ⟨Nat.le_succ 2⟩

theorem four_atLeastTwo : Nat.AtLeastTwo 4 := ⟨Nat.le_add_right 2 2⟩

theorem ten_atLeastTwo : Nat.AtLeastTwo 10 := ⟨Nat.le_add_right 2 8⟩

section Field

attribute [local instance] two_atLeastTwo

variable {α : Type*}

/-- `np.clip`. -/
def clip [LinearOrder α] (x lo hi : α) : α := min hi (max lo x)

theorem clip_of_mem [LinearOrder α] {x lo hi : α} (h : lo ≤ x ∧ x ≤ hi) : clip x lo hi = x := by
  rw [clip, max_eq_right h.1, min_eq_right h.2]

theorem clip_mem [LinearOrder α] {x lo hi : α} (h : lo ≤ hi) : lo ≤ clip x lo hi ∧ clip x lo hi ≤ hi :=
  ⟨le_min h (le_max_left lo x), min_le_left hi _⟩

variable [Field α] [LinearOrder α]

theorem unit_pos [IsStrictOrderedRing α] (n : ℕ) : (0 : α) < ((10 ^ n : ℕ) : α) := Nat.cast_pos.2 (Nat.pow_pos (Nat.succ_pos 9))

/-- Half a unit of the last of some decimals: what is no larger rounds to zero. -/
def halfUnit (n : ℕ) : α := 1 / 2 / ((10 ^ n : ℕ) : α)

theorem halfUnit_pos [IsStrictOrderedRing α] (n : ℕ) : (0 : α) < halfUnit n := div_pos one_half_pos (unit_pos n)

variable [FloorRing α]

/-- The nearest integer, ties to even. -/
def nearestInt (x : α) : ℤ :=
  let f := ⌊x⌋
  let d := x - f
  if d < 1 / 2 then f else if 1 / 2 < d then f + 1 else if f % 2 = 0 then f else f + 1

/-- A literal, in the field. -/
def lit (q : ℚ) : α := q

/-- `round(x, n)` in the field. -/
def roundTo (x : α) (n : ℕ) : α := nearestInt (x * ((10 ^ n : ℕ) : α)) / ((10 ^ n : ℕ) : α)

@[simp]
theorem nearestInt_intCast [IsStrictOrderedRing α] (k : ℤ) : nearestInt (k : α) = k := by
  simp [nearestInt]

variable [IsStrictOrderedRing α]

/-- The nearest integer is one of the two around. -/
theorem nearestInt_mem (x : α) : ⌊x⌋ ≤ nearestInt x ∧ nearestInt x ≤ ⌈x⌉ := by
  have hceil : ⌊x⌋ + 1 ≤ ⌈x⌉ ∨ x = ⌊x⌋ := by
    rcases (Int.floor_le x).lt_or_eq with h | h
    · exact .inl (Int.add_one_le_iff.2 (Int.lt_ceil.2 h))
    · exact .inr h.symm
  have hle : ⌊x⌋ ≤ ⌈x⌉ := Int.floor_le_ceil x
  unfold nearestInt
  dsimp only
  rcases hceil with hlt | heq
  · split_ifs <;> constructor <;> omega
  · have hzero : x - ⌊x⌋ < 1 / 2 := by
      rw [← heq, sub_self]
      positivity
    rw [if_pos hzero]
    exact ⟨le_rfl, hle⟩

/-- A number up to a whole one rounds to at most that. -/
theorem nearestInt_le {x : α} {m : ℤ} (h : x ≤ m) : nearestInt x ≤ m := (nearestInt_mem x).2.trans (Int.ceil_le.2 h)

theorem le_nearestInt {x : α} {m : ℤ} (h : (m : α) ≤ x) : m ≤ nearestInt x := (Int.le_floor.2 h).trans (nearestInt_mem x).1

/-- The nearest integer is at most half away. -/
theorem abs_nearestInt_sub_le (x : α) : |(nearestInt x : α) - x| ≤ 1 / 2 := by
  have h0 := Int.floor_le x
  have h1 := Int.lt_floor_add_one x
  unfold nearestInt
  dsimp only
  rw [abs_le]
  split_ifs <;> push_cast <;> constructor <;> linarith

/-- Rounding keeps the order. -/
theorem nearestInt_mono {x y : α} (h : x ≤ y) : nearestInt x ≤ nearestInt y := by
  rcases (Int.floor_le_floor h).lt_or_eq with hlt | heq
  · have hx := (nearestInt_mem x).2
    have hy := (nearestInt_mem y).1
    have hceil := Int.ceil_le_floor_add_one x
    omega
  · -- Between the same two whole numbers the one further up does not round down where the other rounds up.
    have hd : x - ⌊x⌋ ≤ y - ⌊y⌋ := by
      rw [heq]
      exact sub_le_sub_right h _
    unfold nearestInt
    dsimp only
    rw [heq] at hd ⊢
    split_ifs <;> first | omega | linarith

/-- More than a half rounds to at least one. -/
theorem nearestInt_pos {x : α} (h : 1 / 2 < x) : 0 < nearestInt x := by
  rcases le_or_gt 1 x with hone | hone
  · exact lt_of_lt_of_le Int.one_pos (le_nearestInt (by rwa [Int.cast_one]))
  · have hzero : ⌊x⌋ = 0 := Int.floor_eq_zero_iff.2 ⟨(by positivity : (0 : α) ≤ 1 / 2).trans h.le, hone⟩
    unfold nearestInt
    dsimp only
    rw [hzero, Int.cast_zero, sub_zero, if_neg (not_lt.2 h.le), if_pos h]
    exact Int.one_pos

theorem nearestInt_neg {x : α} (h : x < -(1 / 2)) : nearestInt x < 0 := by
  rcases le_or_gt x (-1) with hone | hone
  · exact lt_of_le_of_lt (nearestInt_le (m := -1) (by rwa [Int.cast_neg, Int.cast_one])) (by decide)
  · have hfloor : ⌊x⌋ = -1 := by
      rw [Int.floor_eq_iff, Int.cast_neg, Int.cast_one]
      exact ⟨hone.le, by linarith⟩
    unfold nearestInt
    dsimp only
    rw [hfloor, Int.cast_neg, Int.cast_one, if_pos (by linarith)]
    decide

theorem roundTo_mono {x y : α} (h : x ≤ y) (n : ℕ) : roundTo x n ≤ roundTo y n := by
  have hu : (0 : α) < ((10 ^ n : ℕ) : α) := unit_pos n
  rw [roundTo, roundTo, div_le_div_iff_of_pos_right hu, Int.cast_le]
  exact nearestInt_mono (mul_le_mul_of_nonneg_right h hu.le)

theorem roundTo_zero (n : ℕ) : roundTo (0 : α) n = 0 := by
  have hzero : nearestInt (0 : α) = 0 := by rw [← Int.cast_zero, nearestInt_intCast]
  rw [roundTo, zero_mul, hzero, Int.cast_zero, zero_div]

/-- Less than half a unit of the last decimal is rounded to zero. -/
theorem roundTo_eq_zero {x : α} {n : ℕ} (h : 0 ≤ x ∧ x < halfUnit n) : roundTo x n = 0 := by
  have hu : (0 : α) < ((10 ^ n : ℕ) : α) := unit_pos n
  have hhalf : x * ((10 ^ n : ℕ) : α) < 1 / 2 := (lt_div_iff₀ hu).1 h.2
  have hfloor : ⌊x * ((10 ^ n : ℕ) : α)⌋ = 0 := Int.floor_eq_zero_iff.2 ⟨mul_nonneg h.1 hu.le, hhalf.trans one_half_lt_one⟩
  have hnearest : nearestInt (x * ((10 ^ n : ℕ) : α)) = 0 := by
    unfold nearestInt
    dsimp only
    rw [hfloor, Int.cast_zero, sub_zero, if_pos hhalf]
  rw [roundTo, hnearest, Int.cast_zero, zero_div]

/-- Rounding keeps a number between whole ones. -/
theorem roundTo_mem {x : α} {lo hi : ℤ} (h : (lo : α) ≤ x ∧ x ≤ hi) (n : ℕ) : (lo : α) ≤ roundTo x n ∧ roundTo x n ≤ hi := by
  have hu : (0 : α) < ((10 ^ n : ℕ) : α) := unit_pos n
  have hcast : ∀ k : ℤ, (k : α) * ((10 ^ n : ℕ) : α) = ((k * (10 ^ n : ℕ) : ℤ) : α) := fun k => by push_cast; ring
  constructor
  · rw [roundTo, le_div_iff₀ hu, hcast, Int.cast_le]
    refine le_nearestInt ?_
    rw [← hcast]
    exact mul_le_mul_of_nonneg_right h.1 hu.le
  · rw [roundTo, div_le_iff₀ hu, hcast, Int.cast_le]
    refine nearestInt_le ?_
    rw [← hcast]
    exact mul_le_mul_of_nonneg_right h.2 hu.le

/-- More than half a unit of the last decimal is rounded to more than that. -/
theorem halfUnit_lt_roundTo {x : α} {n : ℕ} (h : halfUnit n < x) : halfUnit n < roundTo x n := by
  have hu : (0 : α) < ((10 ^ n : ℕ) : α) := unit_pos n
  have hone : (1 : α) ≤ nearestInt (x * ((10 ^ n : ℕ) : α)) := Int.cast_one_le_of_pos (nearestInt_pos ((div_lt_iff₀ hu).1 h))
  exact div_lt_div_of_pos_right (one_half_lt_one.trans_le hone) hu

theorem roundTo_lt_neg_halfUnit {x : α} {n : ℕ} (h : x < -halfUnit n) : roundTo x n < -halfUnit n := by
  have hu : (0 : α) < ((10 ^ n : ℕ) : α) := unit_pos n
  have hneg : x * ((10 ^ n : ℕ) : α) < -(1 / 2) := by
    rw [halfUnit, ← neg_div, lt_div_iff₀ hu] at h
    exact h
  have hone : (nearestInt (x * ((10 ^ n : ℕ) : α)) : α) ≤ -1 := by
    rw [← Int.cast_one, ← Int.cast_neg, Int.cast_le]
    exact Int.le_sub_one_of_lt (nearestInt_neg hneg)
  rw [halfUnit, ← neg_div]
  exact div_lt_div_of_pos_right (hone.trans_lt (neg_lt_neg one_half_lt_one)) hu

end Field

/-! ## Literals -/

section Literals

attribute [local instance] two_atLeastTwo

variable {α : Type*} [Field α]

theorem lit_neg (q : ℚ) : (lit (-q) : α) = -lit q := Rat.cast_neg q

variable [LinearOrder α] [IsStrictOrderedRing α]

theorem lit_lt_lit {p q : ℚ} : (lit p : α) < lit q ↔ p < q := Rat.cast_lt

theorem lit_le_lit {p q : ℚ} : (lit p : α) ≤ lit q ↔ p ≤ q := Rat.cast_le

theorem lit_pos {q : ℚ} : (0 : α) < lit q ↔ 0 < q := Rat.cast_pos

theorem lit_le_one {q : ℚ} : (lit q : α) ≤ 1 ↔ q ≤ 1 := by
  rw [lit, ← Rat.cast_one, Rat.cast_le]

theorem lit_mul (p q : ℚ) : (lit p : α) * lit q = lit (p * q) := (Rat.cast_mul p q).symm

theorem lit_div (p q : ℚ) : (lit p : α) / lit q = lit (p / q) := (Rat.cast_div p q).symm

theorem lit_add (p q : ℚ) : (lit p : α) + lit q = lit (p + q) := (Rat.cast_add p q).symm

theorem halfUnit_eq_lit (n : ℕ) : (halfUnit n : α) = lit (1 / 2 / 10 ^ n) := by
  simp [halfUnit, lit]

end Literals

end Pylib
