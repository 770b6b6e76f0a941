import Mathlib.Data.List.DropRight
import Mathlib.Data.List.Infix

/-!
# Text

`str.strip()` of Python: remove the blank characters at both ends. The blank characters are the ones `str.isspace` accepts,
Unicode included, so the set is larger than the one `String.trim` of Lean removes. `str.upper()` is here as far as a comparison
with an ASCII word needs it.
-/

namespace Pylib

/-- The characters `str.isspace` accepts. -/
def isspace (c : Char) : Bool :=
  let n := c.toNat
  (0x09 ≤ n && n ≤ 0x0d) || (0x1c ≤ n && n ≤ 0x20) || n == 0x85 || n == 0xa0 || n == 0x1680 ||
    (0x2000 ≤ n && n ≤ 0x200a) || n == 0x2028 || n == 0x2029 || n == 0x202f || n == 0x205f || n == 0x3000

/-- Remove the blank characters at both ends of a list of characters. -/
def stripChars (cs : List Char) : List Char := (cs.dropWhile isspace).rdropWhile isspace

/-- `str.strip()`. -/
def strip (s : String) : String := String.ofList (stripChars s.toList)

/-- The upper case of a character, for the characters whose upper case is made of ASCII letters; the others stay as they
are, so comparing with an ASCII word gives the same answer as after `str.upper`. -/
def upperChar (c : Char) : List Char :=
  if c.toNat = 0x17f then ['S']
  else if c.toNat = 0x131 then ['I']
  else if c.toNat = 0xdf then ['S', 'S']
  else if c.toNat = 0xfb00 then ['F', 'F']
  else if c.toNat = 0xfb01 then ['F', 'I']
  else if c.toNat = 0xfb02 then ['F', 'L']
  else if c.toNat = 0xfb03 then ['F', 'F', 'I']
  else if c.toNat = 0xfb04 then ['F', 'F', 'L']
  else if c.toNat = 0xfb05 ∨ c.toNat = 0xfb06 then ['S', 'T']
  else [c.toUpper]

/-- `str.upper()`, as far as a comparison with an ASCII word can tell. -/
def upper (s : String) : String := String.ofList (s.toList.flatMap upperChar)

/-- `sub in s`. -/
def contains (s sub : String) : Bool := sub.toList <:+: s.toList

theorem toList_strip (s : String) : (strip s).toList = stripChars s.toList := by
  simp [strip]

theorem stripChars_idem (cs : List Char) : stripChars (stripChars cs) = stripChars cs := by
  have hd : (stripChars cs).dropWhile isspace = stripChars cs := by
    unfold stripChars
    rw [List.dropWhile_eq_self_iff]
    intro hl
    have hp : (cs.dropWhile isspace).rdropWhile isspace <+: cs.dropWhile isspace := List.rdropWhile_prefix isspace _
    have hne : cs.dropWhile isspace ≠ [] := fun h => by simp [h] at hl
    have h0 := List.dropWhile_get_zero_not isspace cs (List.length_pos_iff.2 hne)
    simpa [hp.getElem hl] using h0
  calc stripChars (stripChars cs) = ((stripChars cs).dropWhile isspace).rdropWhile isspace := rfl
    _ = (stripChars cs).rdropWhile isspace := by rw [hd]
    _ = stripChars cs := List.rdropWhile_idempotent isspace _

/-- Stripping twice is stripping once. -/
@[simp]
theorem strip_strip (s : String) : strip (strip s) = strip s := by
  rw [strip, toList_strip, stripChars_idem]
  rfl

@[simp]
theorem strip_empty : strip "" = "" := by decide

theorem append_ne_empty {s t : String} (h : s ≠ "") : s ++ t ≠ "" := by
  intro he
  exact h (String.append_eq_empty_iff.1 he).1

/-- A text that begins with a character that is not blank is not blank. -/
theorem strip_ne_empty {s : String} {c : Char} (hc : s.toList.head? = some c) (h : isspace c = false) : strip s ≠ "" := by
  intro hs
  have hlist := congrArg String.toList hs
  obtain ⟨rest, hrest⟩ := List.head?_eq_some_iff.1 hc
  rw [toList_strip, stripChars, hrest, List.dropWhile_cons_of_neg (by simp [h]), String.toList_empty,
    List.rdropWhile_eq_nil_iff] at hlist
  have hblank := hlist c List.mem_cons_self
  rw [h] at hblank
  cases hblank

/-- A text that is not blank is not empty. -/
theorem ne_empty_of_strip_ne {s : String} (h : strip s ≠ "") : s ≠ "" := by
  rintro rfl
  exact h strip_empty

end Pylib
