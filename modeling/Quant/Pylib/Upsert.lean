import Mathlib.Data.List.Induction
import Quant.Pylib.Dict
import Quant.Pylib.Lists

/-!
# Tables with a primary key

A table as the dictionary of its rows by their key. Inserting rows replaces the row of a key that is taken, so the last row of a
key is the one that stays, and inserting what a table holds changes nothing.
-/

namespace Pylib

namespace Dict

variable {κ ν : Type*} [DecidableEq κ]

/-- Insert rows under their keys, one after the other, each in the place of a row with its key. -/
def upsert (d : Dict κ ν) (key : ν → κ) (rows : List ν) : Dict κ ν := rows.foldl (fun d row => d.set (key row) row) d

theorem upsert_concat (d : Dict κ ν) (key : ν → κ) (rows : List ν) (row : ν) :
    d.upsert key (rows ++ [row]) = (d.upsert key rows).set (key row) row := by
  rw [upsert, List.foldl_append]
  rfl

/-- The row of a key is the last one inserted under it. -/
theorem get?_upsert (d : Dict κ ν) (key : ν → κ) (rows : List ν) (k : κ) :
    (d.upsert key rows).get? k = (rows.reverse.find? (fun row => key row = k)).or (d.get? k) := by
  induction rows using List.reverseRecOn with
  | nil => rfl
  | append_singleton rows row ih =>
    rw [upsert_concat, get?_set, List.reverse_concat, List.find?_cons]
    by_cases hk : k = key row
    · rw [if_pos hk]
      simp [hk]
    · rw [if_neg hk, ih]
      simp [Ne.symm hk]

/-- What a table of inserted rows holds is one of them, under its key. -/
theorem mem_of_get?_upsert_empty {key : ν → κ} {rows : List ν} {k : κ} {row : ν}
    (h : ((∅ : Dict κ ν).upsert key rows).get? k = some row) : row ∈ rows ∧ key row = k := by
  rw [get?_upsert, get?_empty, Option.or_none] at h
  exact ⟨List.mem_reverse.1 (List.mem_of_find?_eq_some h), by simpa using List.find?_some h⟩

/-- The row a table holds under a key: it was inserted at some place, and no later one has its key. -/
theorem get?_upsert_empty_iff {key : ν → κ} {rows : List ν} {k : κ} {row : ν} :
    ((∅ : Dict κ ν).upsert key rows).get? k = some row ↔
      ∃ i : ℕ, rows[i]? = some row ∧ key row = k ∧ ∀ (j : ℕ) row', i < j → rows[j]? = some row' → key row' ≠ k := by
  induction rows using List.reverseRecOn with
  | nil => simp [upsert]
  | append_singleton rows last ih =>
    rw [upsert_concat, get?_set]
    split
    · rename_i hk
      constructor
      · intro h
        refine ⟨rows.length, by rw [List.getElem?_concat_length, h], by rw [← Option.some.inj h, hk], fun j row' hj hrow' => ?_⟩
        have hlen := (List.getElem?_eq_some_iff.1 hrow').1
        rw [List.length_append, List.length_singleton] at hlen
        omega
      · rintro ⟨i, hi, -, hlast⟩
        rcases concat_cases hi with hold | ⟨-, rfl⟩
        · have hlt := (List.getElem?_eq_some_iff.1 hold).1
          exact absurd hk.symm (hlast rows.length last hlt List.getElem?_concat_length)
        · rfl
    · rename_i hk
      rw [ih]
      constructor
      · rintro ⟨i, hi, hkey, hlast⟩
        have hlt := (List.getElem?_eq_some_iff.1 hi).1
        refine ⟨i, by rw [List.getElem?_append_left hlt, hi], hkey, fun j row' hj hrow' => ?_⟩
        rcases concat_cases hrow' with hold | ⟨-, rfl⟩
        · exact hlast j row' hj hold
        · exact Ne.symm hk
      · rintro ⟨i, hi, hkey, hlast⟩
        rcases concat_cases hi with hold | ⟨-, rfl⟩
        · refine ⟨i, hold, hkey, fun j row' hj hrow' => hlast j row' hj ?_⟩
          rw [List.getElem?_append_left (List.getElem?_eq_some_iff.1 hrow').1, hrow']
        · exact absurd hkey.symm hk

/-- Of rows with different keys, each is the row of its key. -/
theorem get?_upsert_of_mem (d : Dict κ ν) {key : ν → κ} {rows : List ν} (hn : (rows.map key).Nodup) {row : ν}
    (hrow : row ∈ rows) :
    (d.upsert key rows).get? (key row) = some row := by
  rw [get?_upsert]
  cases hf : rows.reverse.find? (fun r => key r = key row) with
  | none =>
    have := List.find?_eq_none.1 hf row (List.mem_reverse.2 hrow)
    simp at this
  | some r =>
    have hkey : key r = key row := by simpa using List.find?_some hf
    have hmem : r ∈ rows := List.mem_reverse.1 (List.mem_of_find?_eq_some hf)
    rw [List.inj_on_of_nodup_map hn hmem hrow hkey]
    rfl

/-- Storing what is stored changes nothing. -/
theorem set_of_get? {d : Dict κ ν} {k : κ} {v : ν} (h : d.get? k = some v) : d.set k v = d := by
  apply ext
  have hitems : ∀ l : List (κ × ν), l.lookup k = some v → setItems k v l = l := by
    intro l
    induction l with
    | nil =>
      intro hl
      cases hl
    | cons p l ih =>
      obtain ⟨a, b⟩ := p
      intro hl
      rw [lookup_cons_ite] at hl
      unfold setItems
      by_cases hk : a = k
      · subst hk
        simp_all
      · simp_all [Ne.symm hk]
  exact hitems d.items h

theorem upsert_eq_self {d : Dict κ ν} {key : ν → κ} {rows : List ν} (h : ∀ row ∈ rows, d.get? (key row) = some row) :
    d.upsert key rows = d := by
  induction rows with
  | nil => rfl
  | cons row rows ih =>
    rw [upsert, List.foldl_cons, set_of_get? (h row List.mem_cons_self)]
    exact ih fun r hr => h r (List.mem_cons_of_mem row hr)

/-- Inserting rows with different keys twice is inserting them once. -/
theorem upsert_upsert (d : Dict κ ν) {key : ν → κ} {rows : List ν} (hn : (rows.map key).Nodup) :
    (d.upsert key rows).upsert key rows = d.upsert key rows :=
  upsert_eq_self fun _ hrow => get?_upsert_of_mem d hn hrow

end Dict

end Pylib
