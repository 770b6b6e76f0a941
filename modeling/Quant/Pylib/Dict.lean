import Mathlib.Algebra.BigOperators.Group.List.Basic
import Mathlib.Algebra.Order.BigOperators.Group.List
import Mathlib.Data.List.Induction
import Mathlib.Data.List.Nodup
import Mathlib.Data.List.Perm.Basic

/-!
# Insertion-ordered dictionaries

A finite map that keeps its items in the order in which their keys were first set, with no key twice. Setting a key that
is already there replaces its value in place; a key that was erased and is set again goes to the end. This is the
iteration order a `dict` of Python 3.7 and later has, and it differs from `AList.insert`, which moves the key to the front.
-/

namespace Pylib

universe u v

/-- A dictionary: its items in insertion order, no key twice. -/
structure Dict (κ : Type u) (ν : Type v) where
  items : List (κ × ν)
  nodup : (items.map Prod.fst).Nodup

namespace Dict

variable {κ : Type u} {ν : Type v}

@[ext]
theorem ext {d d' : Dict κ ν} (h : d.items = d'.items) : d = d' := by
  cases d
  cases d'
  simp only at h
  subst h
  rfl

instance [DecidableEq κ] [DecidableEq ν] : DecidableEq (Dict κ ν) := fun d d' =>
  decidable_of_iff (d.items = d'.items) ⟨ext, fun h => h ▸ rfl⟩

/-- The dictionary with no items. -/
def empty : Dict κ ν := ⟨[], List.nodup_nil⟩

instance : EmptyCollection (Dict κ ν) := ⟨empty⟩

instance : Inhabited (Dict κ ν) := ⟨empty⟩

/-- The keys, in insertion order. -/
def keys (d : Dict κ ν) : List κ := d.items.map Prod.fst

theorem nodup_keys (d : Dict κ ν) : d.keys.Nodup := d.nodup

/-- The values, in insertion order of their keys. -/
def values (d : Dict κ ν) : List ν := d.items.map Prod.snd

/-- The same keys with other values. -/
def map {μ : Type v} (f : κ → ν → μ) (d : Dict κ ν) : Dict κ μ :=
  ⟨d.items.map (fun p => (p.1, f p.1 p.2)), by
    rw [List.map_map]
    exact d.nodup⟩

variable [DecidableEq κ]

/-- The value at a key. -/
def get? (d : Dict κ ν) (k : κ) : Option ν := d.items.lookup k

/-- The value at a key, or a default. -/
def getD (d : Dict κ ν) (k : κ) (dflt : ν) : ν := (d.get? k).getD dflt

/-- Whether a key is in the dictionary. -/
def contains (d : Dict κ ν) (k : κ) : Bool := (d.get? k).isSome

/-- Set a key in a list of items: in place where the key is there, at the end where it is not. -/
def setItems (k : κ) (v : ν) : List (κ × ν) → List (κ × ν)
  | [] => [(k, v)]
  | (k', v') :: rest => if k' = k then (k, v) :: rest else (k', v') :: setItems k v rest

/-- The keys after setting one: the same keys, with the new one at the end when it was not there. -/
theorem map_fst_setItems (k : κ) (v : ν) (l : List (κ × ν)) :
    (setItems k v l).map Prod.fst = if k ∈ l.map Prod.fst then l.map Prod.fst else l.map Prod.fst ++ [k] := by
  induction l with
  | nil => simp [setItems]
  | cons p rest ih =>
    obtain ⟨k', v'⟩ := p
    by_cases hk : k' = k
    · simp [setItems, hk]
    · have hk' : ¬ k = k' := fun h => hk h.symm
      simp only [setItems, hk, if_false, List.map_cons, ih, List.mem_cons, hk', false_or]
      split <;> simp

theorem nodup_setItems (k : κ) (v : ν) {l : List (κ × ν)} (h : (l.map Prod.fst).Nodup) :
    ((setItems k v l).map Prod.fst).Nodup := by
  rw [map_fst_setItems]
  split
  · exact h
  · rename_i hk
    exact List.nodup_append.2 ⟨h, List.nodup_singleton k, fun a ha b hb hab => hk (by simp_all)⟩

/-- Set a key. -/
def set (d : Dict κ ν) (k : κ) (v : ν) : Dict κ ν := ⟨setItems k v d.items, nodup_setItems k v d.nodup⟩

/-- Remove a key, if it is there. -/
def erase (d : Dict κ ν) (k : κ) : Dict κ ν :=
  ⟨d.items.filter (fun p => p.1 ≠ k), (List.filter_sublist.map Prod.fst).nodup d.nodup⟩

/-! ## What the operations leave at a key -/

theorem lookup_cons_ite (k a : κ) (b : ν) (l : List (κ × ν)) :
    ((a, b) :: l).lookup k = if k = a then some b else l.lookup k := by
  by_cases h : k = a
  · simp [h]
  · have hb : (k == a) = false := beq_eq_false_iff_ne.2 h
    simp [List.lookup_cons, h, hb]

theorem lookup_setItems (k k' : κ) (v : ν) (l : List (κ × ν)) :
    (setItems k v l).lookup k' = if k' = k then some v else l.lookup k' := by
  induction l with
  | nil => simp [setItems, lookup_cons_ite]
  | cons p rest ih =>
    obtain ⟨a, b⟩ := p
    by_cases ha : a = k
    · subst ha
      by_cases hk : k' = a <;> simp [setItems, lookup_cons_ite, hk]
    · simp only [setItems, ha, if_false, lookup_cons_ite, ih]
      by_cases hk : k' = k
      · have hka : ¬ k = a := fun h => ha h.symm
        simp [hk, hka]
      · simp [hk]

theorem lookup_filter_ne (k k' : κ) (l : List (κ × ν)) :
    (l.filter (fun p => p.1 ≠ k)).lookup k' = if k' = k then none else l.lookup k' := by
  induction l with
  | nil => simp
  | cons p rest ih =>
    obtain ⟨a, b⟩ := p
    by_cases ha : a = k
    · subst ha
      by_cases hk : k' = a
      · simpa [hk] using ih
      · simpa [lookup_cons_ite, hk] using ih
    · have hf : ((a, b) :: rest).filter (fun p => p.1 ≠ k) = (a, b) :: rest.filter (fun p => p.1 ≠ k) := by simp [ha]
      rw [hf, lookup_cons_ite, lookup_cons_ite, ih]
      by_cases hk : k' = k
      · have hka : ¬ k = a := fun h => ha h.symm
        simp [hk, hka]
      · simp [hk]

@[simp]
theorem get?_empty (k : κ) : (∅ : Dict κ ν).get? k = none := rfl

@[simp]
theorem getD_empty (k : κ) (x : ν) : (∅ : Dict κ ν).getD k x = x := rfl

theorem get?_set (d : Dict κ ν) (k k' : κ) (v : ν) :
    (d.set k v).get? k' = if k' = k then some v else d.get? k' :=
  lookup_setItems k k' v d.items

@[simp]
theorem get?_set_self (d : Dict κ ν) (k : κ) (v : ν) : (d.set k v).get? k = some v := by
  simp [get?_set]

theorem get?_set_of_ne (d : Dict κ ν) {k k' : κ} (v : ν) (h : k' ≠ k) : (d.set k v).get? k' = d.get? k' := by
  simp [get?_set, h]

/-- A value set at a key can be read off the dictionary. -/
theorem set_inj (d : Dict κ ν) (k : κ) {v v' : ν} : d.set k v = d.set k v' ↔ v = v' := by
  constructor
  · intro h
    have hget := congrArg (fun d => d.get? k) h
    simpa using hget
  · rintro rfl
    rfl

/-- What a dictionary has after a key was set it had before, or it is what was set. -/
theorem get?_set_cases {d : Dict κ ν} {k k' : κ} {v v' : ν} (h : (d.set k v).get? k' = some v') :
    d.get? k' = some v' ∨ k' = k ∧ v' = v := by
  rw [get?_set] at h
  split at h
  · rename_i hk
    exact .inr ⟨hk, (Option.some.inj h).symm⟩
  · exact .inl h

theorem get?_erase (d : Dict κ ν) (k k' : κ) : (d.erase k).get? k' = if k' = k then none else d.get? k' :=
  lookup_filter_ne k k' d.items

@[simp]
theorem get?_erase_self (d : Dict κ ν) (k : κ) : (d.erase k).get? k = none := by
  simp [get?_erase]

theorem get?_erase_of_ne (d : Dict κ ν) {k k' : κ} (h : k' ≠ k) : (d.erase k).get? k' = d.get? k' := by
  simp [get?_erase, h]

/-- What a dictionary has after a key was removed it had before. -/
theorem get?_of_get?_erase {d : Dict κ ν} {k k' : κ} {v : ν} (h : (d.erase k).get? k' = some v) : d.get? k' = some v := by
  rw [get?_erase] at h
  split at h
  · cases h
  · exact h

@[simp]
theorem getD_set_self (d : Dict κ ν) (k : κ) (v x : ν) : (d.set k v).getD k x = v := by
  simp [getD]

theorem getD_set_of_ne (d : Dict κ ν) {k k' : κ} (v x : ν) (h : k' ≠ k) : (d.set k v).getD k' x = d.getD k' x := by
  simp [getD, get?_set_of_ne d v h]

@[simp]
theorem getD_erase_self (d : Dict κ ν) (k : κ) (x : ν) : (d.erase k).getD k x = x := by
  simp [getD]

theorem getD_erase_of_ne (d : Dict κ ν) {k k' : κ} (x : ν) (h : k' ≠ k) : (d.erase k).getD k' x = d.getD k' x := by
  simp [getD, get?_erase_of_ne d h]

theorem getD_of_get?_none {d : Dict κ ν} {k : κ} (x : ν) (h : d.get? k = none) : d.getD k x = x := by
  simp [getD, h]

theorem getD_of_get?_some {d : Dict κ ν} {k : κ} {v : ν} (x : ν) (h : d.get? k = some v) : d.getD k x = v := by
  simp [getD, h]

@[simp]
theorem contains_set_self (d : Dict κ ν) (k : κ) (v : ν) : (d.set k v).contains k = true := by
  simp [contains]

theorem contains_set (d : Dict κ ν) (k k' : κ) (v : ν) :
    (d.set k v).contains k' = true ↔ k' = k ∨ d.contains k' = true := by
  unfold contains
  rw [get?_set]
  split <;> simp_all

theorem contains_erase (d : Dict κ ν) (k k' : κ) : (d.erase k).contains k' = true ↔ k' ≠ k ∧ d.contains k' = true := by
  unfold contains
  rw [get?_erase]
  split <;> simp_all

theorem get?_map {μ : Type v} (f : κ → ν → μ) (d : Dict κ ν) (k : κ) : (d.map f).get? k = (d.get? k).map (f k) := by
  have hmap : ∀ l : List (κ × ν), (l.map (fun p => (p.1, f p.1 p.2))).lookup k = (l.lookup k).map (f k) := by
    intro l
    induction l with
    | nil => rfl
    | cons p rest ih =>
      obtain ⟨a, b⟩ := p
      by_cases ha : k = a
      · simp [ha]
      · simp [lookup_cons_ite, ha, ih]
  exact hmap d.items

theorem contains_map {μ : Type v} (f : κ → ν → μ) (d : Dict κ ν) (k : κ) : (d.map f).contains k = d.contains k := by
  simp [contains, get?_map]

/-- Setting the keys of some list that meet a condition, each to its own value. -/
theorem get?_foldl_set (P : κ → Prop) [DecidablePred P] (f : κ → ν) (l : List κ) (d : Dict κ ν) (k : κ) :
    (l.foldl (fun d x => if P x then d.set x (f x) else d) d).get? k = if k ∈ l ∧ P k then some (f k) else d.get? k := by
  induction l generalizing d with
  | nil => simp
  | cons x l ih =>
    rw [List.foldl_cons, ih]
    by_cases hk : k = x
    · by_cases hP : P x <;> simp [hk, hP]
    · by_cases hP : P x <;> simp [hk, hP, get?_set_of_ne]

/-- Updating values at the keys of some list, where they are there: each value goes through the updates at its own key. -/
theorem get?_foldl_update {β : Type*} (key : β → κ) (f : β → ν → ν) (l : List β) (d : Dict κ ν) (k : κ) :
    (l.foldl (fun d x => (d.get? (key x)).elim d (fun v => d.set (key x) (f x v))) d).get? k =
      (d.get? k).map (fun v => l.foldl (fun v x => if key x = k then f x v else v) v) := by
  induction l generalizing d with
  | nil => simp
  | cons x l ih =>
    rw [List.foldl_cons, ih]
    simp only [List.foldl_cons]
    cases hx : d.get? (key x) with
    | none =>
      by_cases hk : key x = k
      · rw [← hk, Option.elim_none, hx, Option.map_none, Option.map_none]
      · simp only [Option.elim_none, hk, if_false]
    | some v =>
      by_cases hk : key x = k
      · rw [← hk, Option.elim_some, get?_set_self, hx, Option.map_some, Option.map_some, if_pos rfl]
      · simp only [Option.elim_some, get?_set_of_ne d _ (Ne.symm hk), hk, if_false]

/-! ## Items, keys and values -/

/-- An item is in the dictionary exactly when its value is what its key is set to. -/
theorem mem_items_iff (d : Dict κ ν) (k : κ) (v : ν) : (k, v) ∈ d.items ↔ d.get? k = some v := by
  obtain ⟨l, hl⟩ := d
  simp only [get?]
  induction l with
  | nil => simp
  | cons p rest ih =>
    obtain ⟨a, b⟩ := p
    simp only [List.map_cons, List.nodup_cons] at hl
    by_cases ha : k = a
    · subst ha
      have hno : (k, v) ∉ rest := fun h => hl.1 (List.mem_map_of_mem h)
      simp [hno, eq_comm]
    · simp [lookup_cons_ite, ha, ih hl.2]

theorem mem_keys_iff (d : Dict κ ν) (k : κ) : k ∈ d.keys ↔ d.contains k = true := by
  rw [contains, Option.isSome_iff_exists]
  simp only [keys, List.mem_map, Prod.exists, exists_and_right, exists_eq_right, mem_items_iff]

theorem mem_values_iff (d : Dict κ ν) (v : ν) : v ∈ d.values ↔ ∃ k, d.get? k = some v := by
  simp only [values, List.mem_map, Prod.exists, exists_eq_right, mem_items_iff]

theorem contains_eq_false_iff (d : Dict κ ν) (k : κ) : d.contains k = false ↔ d.get? k = none := by
  simp [contains]

theorem get?_eq_none_iff_not_mem (d : Dict κ ν) {k : κ} : d.get? k = none ↔ k ∉ d.keys := by
  rw [mem_keys_iff, contains, Option.isSome_iff_ne_none, not_not]

/-- A new key goes to the end. -/
theorem items_set_of_get?_none {d : Dict κ ν} {k : κ} (v : ν) (h : d.get? k = none) :
    (d.set k v).items = d.items ++ [(k, v)] := by
  have hitems : ∀ l : List (κ × ν), k ∉ l.map Prod.fst → setItems k v l = l ++ [(k, v)] := by
    intro l hl
    induction l with
    | nil => rfl
    | cons p l ih =>
      obtain ⟨a, b⟩ := p
      rw [List.map_cons, List.mem_cons, not_or] at hl
      rw [setItems, if_neg (Ne.symm hl.1), ih hl.2]
      rfl
  exact hitems d.items ((get?_eq_none_iff_not_mem d).1 h)

theorem keys_set_of_get?_none {d : Dict κ ν} {k : κ} (v : ν) (h : d.get? k = none) : (d.set k v).keys = d.keys ++ [k] := by
  rw [keys, items_set_of_get?_none v h, List.map_append]
  rfl

/-- Setting a key to what it has changes nothing. -/
theorem set_of_get?_some {d : Dict κ ν} {k : κ} {v : ν} (h : d.get? k = some v) : d.set k v = d := by
  have hitems : ∀ l : List (κ × ν), l.lookup k = some v → setItems k v l = l := by
    intro l hl
    induction l with
    | nil => cases hl
    | cons p l ih =>
      obtain ⟨a, b⟩ := p
      rw [lookup_cons_ite] at hl
      by_cases hk : k = a
      · rw [if_pos hk] at hl
        rw [setItems, if_pos hk.symm, hk, Option.some.inj hl]
      · rw [if_neg hk] at hl
        rw [setItems, if_neg fun hak => hk hak.symm, ih hl]
  exact ext (hitems d.items h)

/-! ## Several items at once -/

/-- Set some items one after the other. -/
def setAll (d : Dict κ ν) (l : List (κ × ν)) : Dict κ ν := l.foldl (fun d p => d.set p.1 p.2) d

/-- Set the items of another dictionary. -/
def update (d d' : Dict κ ν) : Dict κ ν := d.setAll d'.items

/-- Of items with different keys, each is what its key is set to. -/
theorem get?_setAll (d : Dict κ ν) {l : List (κ × ν)} (hl : (l.map Prod.fst).Nodup) (k : κ) :
    (d.setAll l).get? k = (l.lookup k).or (d.get? k) := by
  induction l generalizing d with
  | nil => rfl
  | cons p l ih =>
    obtain ⟨a, b⟩ := p
    obtain ⟨ha, hl⟩ := List.nodup_cons.1 hl
    rw [setAll, List.foldl_cons, ← setAll, ih _ hl, get?_set, lookup_cons_ite]
    by_cases hk : k = a
    · have hnone : l.lookup k = none := by
        rw [hk]
        exact (get?_eq_none_iff_not_mem ⟨l, hl⟩).2 ha
      rw [hnone, if_pos hk, if_pos hk]
      rfl
    · rw [if_neg hk, if_neg hk]

/-- What a key is set to is one of the items, or was there before. -/
theorem get?_setAll_cases {d : Dict κ ν} {l : List (κ × ν)} {k : κ} {v : ν} (h : (d.setAll l).get? k = some v) :
    (k, v) ∈ l ∨ d.get? k = some v := by
  induction l generalizing d with
  | nil => exact .inr h
  | cons p l ih =>
    rcases ih h with hmem | hset
    · exact .inl (List.mem_cons_of_mem p hmem)
    · rw [get?_set] at hset
      split_ifs at hset with hk
      · cases hset
        exact .inl (hk ▸ List.mem_cons_self)
      · exact .inr hset

/-- A key among the items is set to one of them. -/
theorem exists_get?_setAll (d : Dict κ ν) {l : List (κ × ν)} {k : κ} (h : k ∈ l.map Prod.fst) :
    ∃ v, (d.setAll l).get? k = some v ∧ (k, v) ∈ l := by
  induction l using List.reverseRecOn with
  | nil => cases h
  | append_singleton l p ih =>
    rw [setAll, List.foldl_append, List.foldl_cons, List.foldl_nil, ← setAll, get?_set]
    by_cases hk : k = p.1
    · exact ⟨p.2, if_pos hk, List.mem_append_right l (by rw [hk, List.mem_singleton])⟩
    · rw [List.map_append, List.mem_append, List.map_singleton, List.mem_singleton] at h
      obtain ⟨v, hv, hmem⟩ := ih (h.resolve_right hk)
      exact ⟨v, (if_neg hk).trans hv, List.mem_append_left _ hmem⟩

/-- A dictionary of items with different keys has them in their order. -/
theorem items_setAll_empty {l : List (κ × ν)} (hl : (l.map Prod.fst).Nodup) : ((∅ : Dict κ ν).setAll l).items = l := by
  induction l using List.reverseRecOn with
  | nil => rfl
  | append_singleton l p ih =>
    rw [List.map_append, List.nodup_append] at hl
    have hnone : ((∅ : Dict κ ν).setAll l).get? p.1 = none := by
      rw [get?_eq_none_iff_not_mem, keys, ih hl.1]
      exact fun hmem => hl.2.2 _ hmem _ (List.mem_singleton_self _) rfl
    rw [setAll, List.foldl_append]
    exact (items_set_of_get?_none p.2 hnone).trans (congrArg (· ++ [p]) (ih hl.1))

/-- A dictionary of different keys and as many values holds them in their order. -/
theorem items_setAll_zip {ks : List κ} {vs : List ν} (hn : ks.Nodup) (hlen : ks.length = vs.length) :
    ((∅ : Dict κ ν).setAll (ks.zip vs)).items = ks.zip vs := by
  refine items_setAll_empty ?_
  rw [List.map_fst_zip (Nat.le_of_eq hlen)]
  exact hn

theorem values_setAll_zip {ks : List κ} {vs : List ν} (hn : ks.Nodup) (hlen : ks.length = vs.length) :
    ((∅ : Dict κ ν).setAll (ks.zip vs)).values = vs := by
  rw [values, items_setAll_zip hn hlen, List.map_snd_zip (Nat.le_of_eq hlen.symm)]

theorem get?_update (d d' : Dict κ ν) (k : κ) : (d.update d').get? k = (d'.get? k).or (d.get? k) := get?_setAll d d'.nodup k

/-- Erasing a key that is not there changes nothing. -/
theorem erase_of_get?_none {d : Dict κ ν} {k : κ} (h : d.get? k = none) : d.erase k = d := by
  apply ext
  simp only [erase, List.filter_eq_self, decide_eq_true_eq]
  rintro ⟨a, b⟩ hab rfl
  rw [mem_items_iff, h] at hab
  cases hab

/-- Setting a key before erasing it makes no difference. -/
@[simp]
theorem erase_set (d : Dict κ ν) (k : κ) (v : ν) : (d.set k v).erase k = d.erase k := by
  have hset : ∀ l : List (κ × ν), (setItems k v l).filter (fun p => p.1 ≠ k) = l.filter (fun p => p.1 ≠ k) := by
    intro l
    induction l with
    | nil => simp [setItems]
    | cons p rest ih =>
      obtain ⟨a, b⟩ := p
      by_cases ha : a = k <;> simp_all [setItems]
  exact ext (hset d.items)

/-- Setting a key that was not there and erasing it again changes nothing. -/
theorem erase_set_of_get?_none {d : Dict κ ν} {k : κ} (v : ν) (h : d.get? k = none) : (d.set k v).erase k = d := by
  rw [erase_set, erase_of_get?_none h]

/-- When some function takes each value back to its key, it takes the values to the keys. -/
theorem map_values {d : Dict κ ν} (f : ν → κ) (h : ∀ k v, d.get? k = some v → f v = k) : d.values.map f = d.keys := by
  rw [values, keys, List.map_map]
  refine List.map_congr_left fun p hp => ?_
  exact h p.1 p.2 ((mem_items_iff d p.1 p.2).1 hp)

/-- Then no value occurs twice. -/
theorem values_nodup {d : Dict κ ν} (f : ν → κ) (h : ∀ k v, d.get? k = some v → f v = k) : d.values.Nodup := by
  apply List.Nodup.of_map f
  rw [map_values f h]
  exact d.nodup

/-! ## Sums over the items -/

section Sum

variable {M : Type*} [AddCommMonoid M] {f g : κ → ν → M}

/-- The sum of a function over the items. -/
def sum (f : κ → ν → M) (d : Dict κ ν) : M := (d.items.map (fun p => f p.1 p.2)).sum

/-- Two functions that agree at every key but one: the sums differ by what they have at that key. -/
theorem sum_of_agree (d : Dict κ ν) {k : κ} (h : ∀ k', k' ≠ k → ∀ x, g k' x = f k' x) :
    d.sum g + (d.get? k).elim 0 (f k) = d.sum f + (d.get? k).elim 0 (g k) := by
  obtain ⟨l, hl⟩ := d
  simp only [sum, get?]
  induction l with
  | nil => rfl
  | cons p rest ih =>
    obtain ⟨a, b⟩ := p
    simp only [List.map_cons, List.nodup_cons] at hl
    simp only [List.map_cons, List.sum_cons, lookup_cons_ite]
    by_cases ha : k = a
    · subst ha
      have hrest : rest.map (fun p => g p.1 p.2) = rest.map (fun p => f p.1 p.2) := by
        refine List.map_congr_left fun p hp => h p.1 ?_ p.2
        intro he
        exact hl.1 (he ▸ List.mem_map_of_mem hp)
      simp only [if_true, Option.elim_some, hrest]
      rw [add_right_comm, add_comm (g k b), add_right_comm]
    · simp only [ha, if_false]
      rw [add_assoc, add_assoc, ih hl.2, h a (Ne.symm ha) b]

/-- Setting a key changes the sum by the new item less the one it replaces. -/
theorem sum_set (d : Dict κ ν) (k : κ) (v : ν) : (d.set k v).sum f + (d.get? k).elim 0 (f k) = d.sum f + f k v := by
  obtain ⟨l, hl⟩ := d
  simp only [sum, get?, set]
  clear hl
  induction l with
  | nil => simp [setItems]
  | cons p rest ih =>
    obtain ⟨a, b⟩ := p
    simp only [setItems, lookup_cons_ite]
    by_cases ha : a = k
    · subst ha
      simp only [if_true, Option.elim_some, List.map_cons, List.sum_cons]
      rw [add_right_comm, add_comm (f a v), add_right_comm]
    · simp only [ha, Ne.symm ha, if_false, List.map_cons, List.sum_cons]
      rw [add_assoc, ih, add_assoc]

end Sum

section OrderedSum

variable {M : Type*} [AddCommMonoid M] [PartialOrder M] [IsOrderedAddMonoid M] {f g : κ → ν → M}

theorem sum_le_sum {d : Dict κ ν} (h : ∀ k v, d.get? k = some v → g k v ≤ f k v) : d.sum g ≤ d.sum f :=
  List.sum_le_sum fun p hp => h p.1 p.2 ((d.mem_items_iff p.1 p.2).1 hp)

/-- Without an item the sum of what is not negative is no larger. -/
theorem sum_erase_le (d : Dict κ ν) (k : κ) (h : ∀ k' v, 0 ≤ f k' v) : (d.erase k).sum f ≤ d.sum f := by
  refine (List.filter_sublist.map _).sum_le_sum fun a ha => ?_
  obtain ⟨p, -, rfl⟩ := List.mem_map.1 ha
  exact h p.1 p.2

end OrderedSum

end Dict

end Pylib
