import Mathlib.Data.Rat.Floor
import Mathlib.Tactic.Linarith

/-!
# Numbers

Python's integers and floats. The finite floats are exact rationals: rounding is left out, but a result or an integer that is out
of the range of the floats is not one of them.
-/

namespace Pylib

/-- A float. -/
inductive PyFloat where
  | finite (x : ℚ)
  | nan
  | posInf
  | negInf
  deriving DecidableEq

namespace PyFloat

/-- The least number that rounds to no finite float. -/
def limit : ℚ := 2 ^ 1024 - 2 ^ 970

/-- The float of an exact result. -/
def ofRat (x : ℚ) : PyFloat := if limit ≤ x then posInf else if x ≤ -limit then negInf else finite x

/-- The value of a finite float. -/
def value? : PyFloat → Option ℚ
  | finite x => some x
  | _ => none

/-- `x <= y`. -/
def le : PyFloat → PyFloat → Bool
  | finite x, finite y => x ≤ y
  | nan, _ => false
  | _, nan => false
  | negInf, _ => true
  | _, posInf => true
  | _, _ => false

/-- `x < y`. -/
def lt (x y : PyFloat) : Bool := x.le y && !y.le x

/-- `x + y`. -/
def add : PyFloat → PyFloat → PyFloat
  | finite x, finite y => ofRat (x + y)
  | nan, _ => nan
  | _, nan => nan
  | posInf, negInf => nan
  | negInf, posInf => nan
  | finite _, y => y
  | x, _ => x

/-- `x / y`, for a positive divisor. -/
def div : PyFloat → PyFloat → PyFloat
  | finite x, finite y => ofRat (x / y)
  | x, finite _ => x
  | finite _, posInf => finite 0
  | _, _ => nan

/-- `x * y`. -/
def mul : PyFloat → PyFloat → PyFloat
  | finite x, finite y => ofRat (x * y)
  | nan, _ => nan
  | _, nan => nan
  | finite x, y => if x = 0 then nan else if 0 < x then y else if y = posInf then negInf else posInf
  | x, finite y => if y = 0 then nan else if 0 < y then x else if x = posInf then negInf else posInf
  | x, y => if x = y then posInf else negInf

/-- `abs(x)`. -/
def abs : PyFloat → PyFloat
  | finite x => finite |x|
  | negInf => posInf
  | x => x

/-- `np.maximum(x, y)`, which hands a NaN on. -/
def npMax : PyFloat → PyFloat → PyFloat
  | nan, _ => nan
  | _, nan => nan
  | x, y => if x.le y then y else x

/-- `max(x, y)`, which takes the second only where it is larger. -/
def pyMax (x y : PyFloat) : PyFloat := if x.lt y then y else x

/-- `min(x, y)`. -/
def pyMin (x y : PyFloat) : PyFloat := if y.lt x then y else x

/-- `math.isfinite(x)`. -/
def isFinite (x : PyFloat) : Bool := x.value?.isSome

theorem limit_pos : 0 < limit := by
  decide +kernel

/-- A positive result is in range or overflows. -/
theorem ofRat_of_pos {x : ℚ} (hx : 0 < x) : ofRat x = if limit ≤ x then posInf else finite x := by
  have hneg : ¬ x ≤ -limit := by
    have := limit_pos
    linarith
  rw [ofRat, if_neg hneg]

/-- A sum of three positive floats overflows where the exact sum does. -/
theorem add_add_of_pos {x y z : ℚ} (hx : 0 < x) (hy : 0 < y) (hz : 0 < z) :
    ((finite x).add (finite y)).add (finite z) = ofRat (x + y + z) := by
  change (ofRat (x + y)).add (finite z) = _
  rw [ofRat_of_pos (add_pos hx hy)]
  split
  · rename_i hlimit
    rw [ofRat_of_pos (add_pos (add_pos hx hy) hz), if_pos (hlimit.trans (le_add_of_nonneg_right hz.le))]
    rfl
  · rfl

end PyFloat

/-- A number: an integer of any size, or a float. -/
inductive PyNumber where
  | int (n : ℤ)
  | float (x : PyFloat)
  deriving DecidableEq

namespace PyNumber

/-- The number as comparisons take it, an integer at its exact value. -/
def exact : PyNumber → PyFloat
  | int n => .finite n
  | float x => x

/-- Whether `float(x)` overflows. -/
def oversized : PyNumber → Bool
  | int n => PyFloat.limit ≤ |(n : ℚ)|
  | float _ => false

end PyNumber

/-- `int(x)` of a finite number. -/
def truncate (x : ℚ) : ℤ := if 0 ≤ x then ⌊x⌋ else ⌈x⌉

@[simp]
theorem truncate_intCast (n : ℤ) : truncate n = n := by
  simp [truncate]

/-- What is truncated to a positive integer is at least one. -/
theorem truncate_pos_iff {x : ℚ} : 0 < truncate x ↔ 1 ≤ x := by
  rw [truncate]
  split
  · rw [Int.floor_pos]
  · rename_i hx
    rw [not_le] at hx
    have hceil : ⌈x⌉ ≤ 0 := Int.ceil_le.2 (by exact_mod_cast hx.le)
    refine iff_of_false hceil.not_gt ?_
    linarith

end Pylib
