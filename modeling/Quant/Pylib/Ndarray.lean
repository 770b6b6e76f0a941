import Mathlib.Algebra.BigOperators.Group.List.Basic
import Mathlib.Algebra.Order.Ring.Rat

/-!
# Values and arrays as they are passed

An argument of Python before its type was checked, and an array of numpy: its element type, its shape, and its elements row by
row. An element that is `none` is a NaN or an infinity. A row is what indexing the first axis gives.
-/

namespace Pylib

/-- A scalar argument: an integer, a float, a float that is not finite, a text, or a value of another type, known by its type's
name (a boolean is one of these). -/
inductive PyValue where
  | int (n : ℤ)
  | float (x : ℚ)
  | nonFinite (s : String)
  | text (s : String)
  | other (type : String)
  deriving DecidableEq

namespace PyValue

/-- `type(v).__name__`. -/
def typeName : PyValue → String
  | .int _ => "int"
  | .float _ => "float"
  | .nonFinite _ => "float"
  | .text _ => "str"
  | .other type => type

/-- The value of an integer. -/
def toInt : PyValue → ℤ
  | .int n => n
  | _ => 0

/-- The value of a finite number. -/
def toRat : PyValue → ℚ
  | .int n => n
  | .float x => x
  | _ => 0

/-- The value of a text. -/
def toText : PyValue → String
  | .text s => s
  | _ => ""

end PyValue

/-- The element type of an array. -/
inductive DType where
  | number (name : String)
  | bool
  | other (name : String)
  deriving DecidableEq

namespace DType

/-- `str(dtype)`. -/
def name : DType → String
  | .number name => name
  | .bool => "bool"
  | .other name => name

/-- `np.issubdtype(dtype, np.number) and not np.issubdtype(dtype, np.bool_)`. -/
def isNumeric : DType → Bool
  | .number _ => true
  | _ => false

end DType

/-- `np.dot` of two vectors. -/
def dot (xs ys : List ℚ) : ℚ := (List.zipWith (· * ·) xs ys).sum

/-- An array: as many elements as its shape has places, row by row. -/
structure Ndarray where
  dtype : DType
  shape : List ℕ
  data : List (Option ℚ)
  data_length : data.length = shape.prod
  deriving DecidableEq

/-- An argument where an array is expected. -/
inductive PyArray where
  | ndarray (a : Ndarray)
  | other (type : String)

namespace Ndarray

def ndim (a : Ndarray) : ℕ := a.shape.length

/-- `a.shape[i]`. -/
def dim (a : Ndarray) (i : ℕ) : ℕ := a.shape.getD i 0

/-- `np.isfinite(a).all()`. -/
def allFinite (a : Ndarray) : Bool := a.data.all Option.isSome

/-- The elements as numbers; used where all are finite. -/
def values (a : Ndarray) : List ℚ := a.data.filterMap id

/-- The places in one row. -/
def rowSize (a : Ndarray) : ℕ := a.shape.tail.prod

/-- `a[t]`, its elements row by row. -/
def rawRow (a : Ndarray) (t : ℕ) : List (Option ℚ) := (a.data.drop (t * a.rowSize)).take a.rowSize

/-- `a[t]` as numbers. -/
def row (a : Ndarray) (t : ℕ) : List ℚ := (a.rawRow t).filterMap id

/-- All rows. -/
def rows (a : Ndarray) : List (List ℚ) := (List.range (a.dim 0)).map a.row

/-- An array of one dimension. -/
def vector (xs : List ℚ) : Ndarray where
  dtype := .number "float64"
  shape := [xs.length]
  data := xs.map some
  data_length := by simp

/-- Two arrays over time that agree up to row `t`: rows of one shape, and equal ones. -/
structure AgreeTo (t : ℕ) (a b : Ndarray) : Prop where
  dtype_eq : a.dtype = b.dtype
  ndim_eq : a.ndim = b.ndim
  shape_tail : a.shape.tail = b.shape.tail
  rawRow_eq : ∀ s ≤ t, a.rawRow s = b.rawRow s

/-- The elements of an array of one dimension are as many as its first axis has places, where all are finite. -/
theorem length_values {a : Ndarray} (hd : a.ndim = 1) (hf : a.allFinite) : a.values.length = a.dim 0 := by
  obtain ⟨n, hn⟩ := List.length_eq_one_iff.1 hd
  have hl := a.data_length
  simp only [hn, List.prod_singleton] at hl
  have hkeep : ∀ x ∈ a.data, (id x).isSome := by simpa [allFinite] using hf
  rw [values, List.filterMap_length_eq_length.2 hkeep, hl, dim, hn]
  rfl

theorem AgreeTo.row_eq {t s : ℕ} {a b : Ndarray} (h : AgreeTo t a b) (hs : s ≤ t) : a.row s = b.row s := by
  unfold row
  rw [h.rawRow_eq s hs]

/-- The rows up to `t` of what is computed row by row agree where the arrays do. -/
theorem AgreeTo.map_rows {t s : ℕ} {β : Type*} {a b : Ndarray} (f : List ℚ → β) (h : AgreeTo t a b) (hs : s ≤ t)
    (ha : s < a.dim 0) (hb : s < b.dim 0) : (a.rows.map f)[s]? = (b.rows.map f)[s]? := by
  simp only [rows, List.map_map, List.getElem?_map, List.getElem?_range ha, List.getElem?_range hb, Option.map_some,
    Function.comp_apply, h.row_eq hs]

end Ndarray

namespace PyArray

/-- The elements of an array as numbers. -/
def values : PyArray → List ℚ
  | .ndarray a => a.values
  | .other _ => []

end PyArray
end Pylib
