import Mathlib.Data.Rat.Defs

/-!
# JSON values
-/

namespace Quant

/-- A JSON value as Python decodes it. -/
inductive Json where
  | null
  | bool (b : Bool)
  | int (n : ℤ)
  | float (x : ℚ)
  | str (s : String)
  | list (items : List Json)
  | dict (fields : List (String × Json))

/-- `type(value).__name__`. -/
def Json.typeName : Json → String
  | .null => "NoneType"
  | .bool _ => "bool"
  | .int _ => "int"
  | .float _ => "float"
  | .str _ => "str"
  | .list _ => "list"
  | .dict _ => "dict"

/-- A JSON object. -/
abbrev Fields := List (String × Json)

/-- `bool(value)`. -/
def Json.truthy : Json → Bool
  | .null => false
  | .bool b => b
  | .int n => n ≠ 0
  | .float x => x ≠ 0
  | .str s => s ≠ ""
  | .list items => !items.isEmpty
  | .dict fields => !fields.isEmpty

/-- `value == text`. -/
def Json.isText (text : String) : Json → Bool
  | .str s => s = text
  | _ => false

end Quant
