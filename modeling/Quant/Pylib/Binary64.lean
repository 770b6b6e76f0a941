import Mathlib.Data.Int.Log
import Quant.Pylib.Decimal

/-!
# Doubles

The rounding of arithmetic in double precision: an exact result goes to the nearest number of 53 significant bits, of two equally
near ones to the one whose last bit is zero, and below the normal range to the nearest multiple of `2 ^ (-1074)`. Results beyond
the largest double are left out.
-/

namespace Pylib

section Field

attribute [local instance] two_atLeastTwo

variable {α : Type*} [Field α]

/-- A power of two. -/
def bit (e : ℤ) : α := ((2 : ℕ) : α) ^ e

variable [LinearOrder α] [FloorRing α] [IsStrictOrderedRing α]

/-- The exponent of the last bit of the doubles around a number. -/
def lastBit (x : α) : ℤ := if x = 0 then -1074 else max (Int.log 2 |x| - 52) (-1074)

/-- The double nearest to a number, ties to even. -/
def toDouble (x : α) : α := nearestInt (x / bit (lastBit x)) * bit (lastBit x)

/-- A number that is a double. -/
def IsDouble (x : α) : Prop := toDouble x = x

instance (x : ℚ) : Decidable (IsDouble x) := inferInstanceAs (Decidable (toDouble x = x))

/-! ## Powers of two -/

omit [FloorRing α] in
theorem bit_pos (e : ℤ) : (0 : α) < bit e := zpow_pos (Nat.cast_pos.2 Nat.two_pos) e

omit [FloorRing α] in
theorem bit_add (e f : ℤ) : (bit (e + f) : α) = bit e * bit f := zpow_add₀ (Nat.cast_pos.2 Nat.two_pos).ne' e f

omit [FloorRing α] in
theorem bit_le {e f : ℤ} : (bit e : α) ≤ bit f ↔ e ≤ f := zpow_le_zpow_iff_right₀ (Nat.one_lt_cast.2 Nat.one_lt_two)

omit [LinearOrder α] [FloorRing α] [IsStrictOrderedRing α] in
theorem bit_natCast (n : ℕ) : (bit n : α) = (((2 ^ n : ℕ) : ℤ) : α) := by
  rw [bit, zpow_natCast, Int.cast_natCast, Nat.cast_pow]

omit [FloorRing α] in
/-- A larger power of two is a multiple of a smaller one. -/
theorem exists_bit_eq {e f : ℤ} (h : e ≤ f) : ∃ k : ℤ, (bit f : α) = k * bit e := by
  refine ⟨((2 ^ (f - e).toNat : ℕ) : ℤ), ?_⟩
  rw [← bit_natCast, ← bit_add, Int.toNat_of_nonneg (sub_nonneg.2 h), sub_add_cancel]

/-! ## The last bit -/

omit [IsStrictOrderedRing α] in
theorem neg_le_lastBit (x : α) : -1074 ≤ lastBit x := by
  unfold lastBit
  split_ifs
  · exact le_rfl
  · exact le_max_right _ _

/-- A number has at most 53 bits down to the last one of the doubles around it. -/
theorem abs_lt_bit (x : α) : |x| < bit (lastBit x + 53) := by
  rcases eq_or_ne x 0 with rfl | hx
  · rw [abs_zero]
    exact bit_pos _
  · have hlog : |x| < bit (Int.log 2 |x| + 1) := Int.lt_zpow_succ_log_self Nat.one_lt_two |x|
    refine hlog.trans_le (bit_le.2 ?_)
    rw [lastBit, if_neg hx]
    omega

/-- Above the least exponent a number has all 53 bits. -/
theorem bit_le_abs {x : α} (h : -1074 < lastBit x) : bit (lastBit x + 52) ≤ |x| := by
  have hx : x ≠ 0 := by
    rintro rfl
    rw [lastBit, if_pos rfl] at h
    exact lt_irrefl _ h
  rw [lastBit, if_neg hx] at h ⊢
  have hmax : max (Int.log 2 |x| - 52) (-1074) + 52 = Int.log 2 |x| := by omega
  rw [hmax]
  exact Int.zpow_log_le_self Nat.one_lt_two (abs_pos.2 hx)

theorem lastBit_le {x : α} {e : ℤ} (he : -1074 ≤ e) (hx : |x| < bit (e + 53)) : lastBit x ≤ e := by
  by_contra hlt
  have hle := (bit_le_abs (he.trans_lt (not_le.1 hlt))).trans_lt hx
  exact hle.not_ge (bit_le.2 (by omega))

/-! ## Rounding -/

@[simp]
theorem toDouble_zero : toDouble (0 : α) = 0 := by
  have hzero : nearestInt (0 : α) = 0 := by rw [← Int.cast_zero, nearestInt_intCast]
  rw [toDouble, zero_div, hzero, Int.cast_zero, zero_mul]

/-- A multiple of the last bit is its own rounding, and a bound of every number on its side. -/
theorem toDouble_le {x c : α} (h : x ≤ c) (hc : ∃ k : ℤ, c = k * bit (lastBit x)) : toDouble x ≤ c := by
  obtain ⟨k, rfl⟩ := hc
  have hdiv : x / bit (lastBit x) ≤ k := (div_le_iff₀ (bit_pos _)).2 h
  exact mul_le_mul_of_nonneg_right (Int.cast_le.2 (nearestInt_le hdiv)) (bit_pos _).le

theorem le_toDouble {x c : α} (h : c ≤ x) (hc : ∃ k : ℤ, c = k * bit (lastBit x)) : c ≤ toDouble x := by
  obtain ⟨k, rfl⟩ := hc
  have hdiv : (k : α) ≤ x / bit (lastBit x) := (le_div_iff₀ (bit_pos _)).2 h
  exact mul_le_mul_of_nonneg_right (Int.cast_le.2 (le_nearestInt hdiv)) (bit_pos _).le

/-- A multiple of a power of two with at most 53 bits is a double. -/
theorem isDouble_mul_bit {k e : ℤ} (he : -1074 ≤ e) (hk : |k| < 2 ^ 53) : IsDouble ((k : α) * bit e) := by
  have hlt : |(k : α) * bit e| < bit (e + 53) := by
    rw [abs_mul, abs_of_pos (show (0 : α) < bit e from bit_pos e), add_comm, bit_add, show (53 : ℤ) = ((53 : ℕ) : ℤ) from rfl,
      bit_natCast, ← Int.cast_abs]
    exact mul_lt_mul_of_pos_right (Int.cast_lt.2 hk) (bit_pos e)
  obtain ⟨m, hm⟩ := exists_bit_eq (α := α) (lastBit_le he hlt)
  have hmul : ∃ l : ℤ, (k : α) * bit e = l * bit (lastBit ((k : α) * bit e)) :=
    ⟨k * m, by rw [Int.cast_mul, mul_assoc, ← hm]⟩
  exact le_antisymm (toDouble_le le_rfl hmul) (le_toDouble le_rfl hmul)

theorem isDouble_of_eq {x : α} {k e : ℤ} (he : -1074 ≤ e) (hk : |k| < 2 ^ 53) (hx : x = k * bit e) : IsDouble x :=
  hx ▸ isDouble_mul_bit he hk

/-- Rounding keeps the order. -/
theorem toDouble_mono {x y : α} (h : x ≤ y) : toDouble x ≤ toDouble y := by
  rcases lt_trichotomy (lastBit x) (lastBit y) with hlt | heq | hgt
  · -- the power of two below the larger number lies between
    have hbit := bit_le_abs ((neg_le_lastBit x).trans_lt hlt)
    have hx : |x| < bit (lastBit y + 52) := (abs_lt_bit x).trans_le (bit_le.2 (by omega))
    have hy : 0 < y := by
      by_contra hneg
      rw [abs_of_nonpos (not_lt.1 hneg)] at hbit
      rw [abs_of_nonpos (h.trans (not_lt.1 hneg))] at hx
      linarith
    rw [abs_of_pos hy] at hbit
    exact (toDouble_le ((le_abs_self x).trans hx.le) (exists_bit_eq (by omega))).trans
      (le_toDouble hbit (exists_bit_eq (by omega)))
  · rw [toDouble, toDouble, heq]
    have hdiv : x / bit (lastBit y) ≤ y / bit (lastBit y) := div_le_div_of_nonneg_right h (bit_pos _).le
    exact mul_le_mul_of_nonneg_right (Int.cast_le.2 (nearestInt_mono hdiv)) (bit_pos _).le
  · have hbit := bit_le_abs ((neg_le_lastBit y).trans_lt hgt)
    have hy : |y| < bit (lastBit x + 52) := (abs_lt_bit y).trans_le (bit_le.2 (by omega))
    have hx : x < 0 := by
      by_contra hpos
      rw [abs_of_nonneg (not_lt.1 hpos)] at hbit
      rw [abs_of_nonneg ((not_lt.1 hpos).trans h)] at hy
      linarith
    have hneg : ∀ e, e ≤ lastBit x + 52 → ∃ k : ℤ, -(bit (lastBit x + 52) : α) = k * bit e := by
      intro e he
      obtain ⟨k, hk⟩ := exists_bit_eq (α := α) he
      exact ⟨-k, by rw [hk, Int.cast_neg, neg_mul]⟩
    rw [abs_of_neg hx] at hbit
    have hle : toDouble x ≤ -bit (lastBit x + 52) := toDouble_le (le_neg_of_le_neg hbit) (hneg _ (by omega))
    exact hle.trans (le_toDouble (neg_le_of_neg_le ((neg_le_abs y).trans hy.le)) (hneg _ (by omega)))

theorem IsDouble.toDouble_le {x c : α} (hc : IsDouble c) (h : x ≤ c) : toDouble x ≤ c := (toDouble_mono h).trans_eq hc

theorem IsDouble.le_toDouble {x c : α} (hc : IsDouble c) (h : c ≤ x) : c ≤ toDouble x := hc.symm.trans_le (toDouble_mono h)

/-- A double is a multiple of the least one. -/
theorem exists_toDouble_eq (x : α) : ∃ k : ℤ, toDouble x = k * bit (-1074) := by
  obtain ⟨m, hm⟩ := exists_bit_eq (α := α) (neg_le_lastBit x)
  exact ⟨nearestInt (x / bit (lastBit x)) * m, by rw [toDouble, Int.cast_mul, mul_assoc, ← hm]⟩

omit [LinearOrder α] [FloorRing α] [IsStrictOrderedRing α] in
theorem half_eq_bit : (1 / 2 : α) = bit (-1) := by
  rw [bit, zpow_neg_one, one_div, Nat.cast_ofNat]

/-- What rounding adds or takes away is less than the 53rd bit, where the last bit is not the least one. -/
theorem abs_toDouble_sub_le {x : α} (h : -1074 < lastBit x ∨ ∃ k : ℤ, x = k * bit (-1074)) :
    |toDouble x - x| ≤ |x| * bit (-53) := by
  by_cases hlast : -1074 < lastBit x
  · have hpos : (0 : α) < bit (lastBit x) := bit_pos _
    have hdiff : toDouble x - x = (nearestInt (x / bit (lastBit x)) - x / bit (lastBit x)) * bit (lastBit x) := by
      rw [sub_mul, div_mul_cancel₀ _ hpos.ne', toDouble]
    have hhalf : (1 / 2 : α) * bit (lastBit x) = bit (lastBit x + 52) * bit (-53) := by
      rw [← bit_add, half_eq_bit, ← bit_add]
      congr 1
      ring
    rw [hdiff, abs_mul, abs_of_pos hpos]
    calc |(nearestInt (x / bit (lastBit x)) : α) - x / bit (lastBit x)| * bit (lastBit x)
        ≤ 1 / 2 * bit (lastBit x) := mul_le_mul_of_nonneg_right (abs_nearestInt_sub_le _) hpos.le
      _ = bit (lastBit x + 52) * bit (-53) := hhalf
      _ ≤ |x| * bit (-53) := mul_le_mul_of_nonneg_right (bit_le_abs hlast) (bit_pos _).le
  · have heq : lastBit x = -1074 := le_antisymm (not_lt.1 hlast) (neg_le_lastBit x)
    have hmul : ∃ k : ℤ, x = k * bit (lastBit x) := by
      rw [heq]
      exact h.resolve_left hlast
    rw [le_antisymm (toDouble_le le_rfl hmul) (le_toDouble le_rfl hmul), sub_self, abs_zero]
    exact mul_nonneg (abs_nonneg x) (bit_pos _).le

/-! ## Floor division -/

/-- The integer a quotient is put on: the one below, or the next where the quotient is closer to it. -/
def snap (div : α) : ℤ := if 1 / 2 < toDouble (div - ⌊div⌋) then ⌊div⌋ + 1 else ⌊div⌋

/-- `x // y` of two doubles, a nonnegative and a positive one: the quotient without the remainder, put on an integer. -/
def floorDiv (x y : α) : ℤ :=
  let mod := x - ⌊x / y⌋ * y
  snap (toDouble (toDouble (x - mod) / y))

omit [FloorRing α] in
/-- Integers in eighths. -/
theorem intCast_eq_eighths (k : ℤ) : (k : α) = ((8 * k : ℤ) : α) * bit (-3) := by
  have hone : (1 : α) = ((2 ^ 3 : ℕ) : ℤ) * bit (-3) := by
    rw [← bit_natCast, ← bit_add]
    exact (zpow_zero _).symm
  calc (k : α) = k * (((2 ^ 3 : ℕ) : ℤ) * bit (-3)) := by rw [← hone, mul_one]
    _ = ((8 * k : ℤ) : α) * bit (-3) := by
      rw [mul_comm (8 : ℤ) k, Int.cast_mul, mul_assoc]
      rfl

theorem le_snap {k : ℤ} {div : α} (h : (k : α) - bit (-3) ≤ div) : k ≤ snap div := by
  have hone := intCast_eq_eighths (α := α) 1
  have heighth : (0 : α) < bit (-3) := bit_pos _
  rw [Int.cast_one, mul_one] at hone
  unfold snap
  rcases le_or_gt (k : α) div with hle | hgt
  · have hfloor : k ≤ ⌊div⌋ := Int.le_floor.2 hle
    split_ifs <;> omega
  · -- less than an eighth below the integer, the quotient is put on it
    have hfloor : ⌊div⌋ = k - 1 := by
      rw [Int.floor_eq_iff, Int.cast_sub, Int.cast_one]
      push_cast at hone
      constructor <;> linarith
    have hup : ((7 : ℤ) : α) * bit (-3) ≤ toDouble (div - ⌊div⌋) := by
      refine (isDouble_mul_bit (by decide) (by decide)).le_toDouble ?_
      rw [hfloor, Int.cast_sub, Int.cast_one]
      push_cast at hone ⊢
      linarith
    have hhalf : (1 / 2 : α) < ((7 : ℤ) : α) * bit (-3) := by
      have hfour : (1 / 2 : α) = ((4 : ℤ) : α) * bit (-3) := by
        rw [half_eq_bit, show (-1 : ℤ) = ((2 : ℕ) : ℤ) + -3 from rfl, bit_add, bit_natCast]
        rfl
      rw [hfour]
      exact mul_lt_mul_of_pos_right (Int.cast_lt.2 (by decide)) heighth
    rw [if_pos (hhalf.trans_le hup), hfloor]
    omega

theorem snap_le {k : ℤ} {div : α} (h : div ≤ k + bit (-3)) : snap div ≤ k := by
  have hone := intCast_eq_eighths (α := α) 1
  have heighth : (0 : α) < bit (-3) := bit_pos _
  rw [Int.cast_one, mul_one] at hone
  unfold snap
  rcases lt_or_ge div (k : α) with hlt | hge
  · have hfloor : ⌊div⌋ < k := Int.floor_lt.2 hlt
    split_ifs <;> omega
  · have hfloor : ⌊div⌋ = k := by
      rw [Int.floor_eq_iff]
      push_cast at hone
      constructor <;> linarith
    have hup : toDouble (div - ⌊div⌋) ≤ ((1 : ℤ) : α) * bit (-3) := by
      refine (isDouble_mul_bit (by decide) (by decide)).toDouble_le ?_
      rw [hfloor, Int.cast_one]
      linarith
    have hhalf : ((1 : ℤ) : α) * bit (-3) < 1 / 2 := by
      rw [half_eq_bit, show (-1 : ℤ) = ((2 : ℕ) : ℤ) + -3 from rfl, bit_add, bit_natCast]
      exact mul_lt_mul_of_pos_right (Int.cast_lt.2 (by decide)) heighth
    rw [if_neg (hup.trans_lt hhalf).not_gt, hfloor]

theorem snap_mono {x y : α} (h : x ≤ y) : snap x ≤ snap y := by
  have hfloor : ⌊x⌋ ≤ ⌊y⌋ := Int.floor_le_floor h
  unfold snap
  rcases hfloor.lt_or_eq with hlt | heq
  · split_ifs <;> omega
  · have hle : toDouble (x - ⌊x⌋) ≤ toDouble (y - ⌊y⌋) := by
      rw [heq]
      exact toDouble_mono (sub_le_sub_right h _)
    split_ifs with hx hy
    · omega
    · exact absurd (hx.trans_le hle) hy
    · omega
    · omega

/-- A floor division keeps the order of the dividends. -/
theorem floorDiv_mono {x x' y : α} (hy : 0 < y) (h : x ≤ x') : floorDiv x y ≤ floorDiv x' y := by
  have hfloor : (⌊x / y⌋ : α) ≤ ⌊x' / y⌋ := Int.cast_le.2 (Int.floor_le_floor (div_le_div_of_nonneg_right h hy.le))
  rw [floorDiv, floorDiv, sub_sub_cancel, sub_sub_cancel]
  refine snap_mono (toDouble_mono (div_le_div_of_nonneg_right (toDouble_mono ?_) hy.le))
  exact mul_le_mul_of_nonneg_right hfloor hy.le

/-- The rounded multiple of a double over the double itself is near the factor. -/
theorem abs_toDouble_mul_div_sub_le {q : ℤ} {y : α} (hq : 0 ≤ q) (hy : 0 < y) (hdouble : IsDouble y) :
    |toDouble (q * y) / y - q| ≤ q * bit (-53) := by
  obtain ⟨m, hm⟩ := exists_toDouble_eq y
  have hround : |toDouble ((q : α) * y) - q * y| ≤ |(q : α) * y| * bit (-53) := by
    refine abs_toDouble_sub_le (.inr ⟨q * m, ?_⟩)
    rw [Int.cast_mul, mul_assoc, ← hm, hdouble]
  have hdiv : toDouble ((q : α) * y) / y - q = (toDouble (q * y) - q * y) / y := by
    rw [sub_div, mul_div_cancel_right₀ _ hy.ne']
  rw [hdiv, abs_div, abs_of_pos hy, div_le_iff₀ hy]
  rw [abs_of_nonneg (mul_nonneg (Int.cast_nonneg hq) hy.le)] at hround
  linarith [mul_right_comm (q : α) y (bit (-53))]

omit [FloorRing α] in
/-- Up to `2 ^ 49`, the 53rd bit of an integer is less than an eighth. -/
theorem mul_bit_le_eighth {j : ℤ} (hj : j ≤ 2 ^ 49) : (j : α) * bit (-53) ≤ bit (-3) := by
  have hle : (j : α) ≤ bit ((49 : ℕ) : ℤ) := by
    rw [bit_natCast]
    exact Int.cast_le.2 hj
  calc (j : α) * bit (-53) ≤ bit ((49 : ℕ) : ℤ) * bit (-53) := mul_le_mul_of_nonneg_right hle (bit_pos _).le
    _ = bit (-4) := by
      rw [← bit_add]
      rfl
    _ ≤ bit (-3) := bit_le.2 (by decide)

/-- Up to `2 ^ 49`, a floor division of doubles counts the whole multiples of the divisor in the dividend. -/
theorem le_floorDiv_iff {k : ℤ} {x y : α} (hk : k ≤ 2 ^ 49) (hx : 0 ≤ x) (hy : 0 < y) (hdouble : IsDouble y) :
    k ≤ floorDiv x y ↔ k * y ≤ x := by
  have hq : 0 ≤ ⌊x / y⌋ := Int.floor_nonneg.2 (div_nonneg hx hy.le)
  obtain ⟨hlow, hup⟩ := abs_le.1 (abs_toDouble_mul_div_sub_le hq hy hdouble)
  rw [floorDiv, sub_sub_cancel, ← le_div_iff₀ hy, ← Int.le_floor]
  generalize ⌊x / y⌋ = q at hq hlow hup ⊢
  constructor
  · intro h
    by_contra hlt
    -- below its bound the quotient is an eighth from an integer at most
    have hq' : q ≤ 2 ^ 49 := by omega
    have heighths : (q : α) + bit (-3) = ((8 * q + 1 : ℤ) : α) * bit (-3) := by
      rw [Int.cast_add, add_mul, ← intCast_eq_eighths, Int.cast_one, one_mul]
    have hdiv : toDouble (toDouble (q * y) / y) ≤ q + bit (-3) := by
      rw [heighths]
      refine (isDouble_mul_bit (by decide) (abs_lt.2 ⟨by omega, by omega⟩)).toDouble_le ?_
      rw [← heighths]
      linarith [mul_bit_le_eighth (α := α) hq']
    have hsnap := snap_le hdiv
    omega
  · intro h
    have hj : max k 0 ≤ 2 ^ 49 := max_le hk (by decide)
    have hjq : ((max k 0 : ℤ) : α) ≤ q := Int.cast_le.2 (max_le h hq)
    have heighths : ((max k 0 : ℤ) : α) - bit (-3) = ((8 * max k 0 - 1 : ℤ) : α) * bit (-3) := by
      rw [Int.cast_sub, sub_mul, ← intCast_eq_eighths, Int.cast_one, one_mul]
    have hdiv : ((max k 0 : ℤ) : α) - bit (-3) ≤ toDouble (toDouble (q * y) / y) := by
      rw [heighths]
      refine (isDouble_mul_bit (by decide) (abs_lt.2 ⟨by omega, by omega⟩)).le_toDouble ?_
      rw [← heighths]
      have hbit : (0 : α) ≤ 1 - bit (-53) := by
        have hone : (bit (-53) : α) ≤ bit 0 := bit_le.2 (by decide)
        have hzero : (bit 0 : α) = 1 := zpow_zero _
        linarith
      have hmul := mul_le_mul_of_nonneg_right hjq hbit
      linarith [mul_bit_le_eighth (α := α) hj]
    exact (le_max_left k 0).trans (le_snap hdiv)

end Field
end Pylib
