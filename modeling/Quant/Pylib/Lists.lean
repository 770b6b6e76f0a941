import Mathlib.Algebra.BigOperators.Group.List.Basic
import Mathlib.Data.List.Basic
import Mathlib.Data.List.Induction
import Mathlib.Data.List.Nodup
import Mathlib.Data.List.Perm.Basic
import Mathlib.Order.Lattice

/-!
# Positions in a list that changes

What is found at a position of a list after an element was appended or one was changed, as the cases it came from, and what
becomes of a sum over the list; and when two lists give the same list in either order.
-/

namespace Pylib

variable {α β ι : Type*}

/-- An element of a list that has got one more. -/
theorem concat_cases {l : List α} {i : ℕ} {x y : α} (h : (l ++ [x])[i]? = some y) :
    l[i]? = some y ∨ (i = l.length ∧ y = x) := by
  rcases Nat.lt_trichotomy i l.length with hlt | rfl | hgt
  · rw [List.getElem?_append_left hlt] at h
    exact .inl h
  · rw [List.getElem?_concat_length] at h
    exact .inr ⟨rfl, (Option.some.inj h).symm⟩
  · rw [List.getElem?_eq_none (by rw [List.length_append, List.length_singleton]; omega)] at h
    cases h

/-- An element of a list in which one was changed. -/
theorem modify_cases {l : List α} {i j : ℕ} {f : α → α} {x : α} (h : (l.modify i f)[j]? = some x) :
    (i = j ∧ ∃ y, l[j]? = some y ∧ x = f y) ∨ (i ≠ j ∧ l[j]? = some x) := by
  by_cases hij : i = j
  · subst hij
    rw [List.getElem?_modify_eq] at h
    obtain ⟨y, hy, rfl⟩ := Option.map_eq_some_iff.1 h
    exact .inl ⟨rfl, y, hy, rfl⟩
  · rw [List.getElem?_modify_ne _ _ hij] at h
    exact .inr ⟨hij, h⟩

/-- An element of a list in which one was replaced. -/
theorem set_cases {l : List α} {i j : ℕ} {x y : α} (h : (l.set i x)[j]? = some y) :
    (i = j ∧ y = x) ∨ (i ≠ j ∧ l[j]? = some y) := by
  by_cases hij : i = j
  · subst hij
    have hlt : i < l.length := by
      have := (List.getElem?_eq_some_iff.1 h).1
      rwa [List.length_set] at this
    rw [List.getElem?_set_self hlt] at h
    exact .inl ⟨rfl, (Option.some.inj h).symm⟩
  · rw [List.getElem?_set_ne hij] at h
    exact .inr ⟨hij, h⟩

/-- An element that is not replaced stays. -/
theorem mem_set_of_ne {l : List α} {i : ℕ} {c x y : α} (hc : l[i]? = some c) (hx : x ∈ l) (hne : x ≠ c) :
    x ∈ l.set i y := by
  obtain ⟨j, hj⟩ := List.mem_iff_getElem?.1 hx
  have hij : i ≠ j := by
    rintro rfl
    rw [hc] at hj
    exact hne (Option.some.inj hj).symm
  rw [← List.getElem?_set_ne hij] at hj
  exact List.mem_of_getElem? hj

/-- The elements of a list stay when it grows. -/
theorem getElem?_of_prefix {l l' : List α} (h : l <+: l') {i : ℕ} {x : α} (hx : l[i]? = some x) : l'[i]? = some x := by
  obtain ⟨t, rfl⟩ := h
  rw [List.getElem?_append_left (List.getElem?_eq_some_iff.1 hx).1]
  exact hx

/-- A place in part of a strictly increasing list is the place in the whole exactly when nothing smaller is left out. -/
theorem sublist_place [Preorder α] {l l' : List α} (h : l.Sublist l') (hsorted : l'.Pairwise (· < ·)) {n m : ℕ} {x : α}
    (hn : l[n]? = some x) (hm : l'[m]? = some x) : n ≤ m ∧ (n = m ↔ ∀ y ∈ l', y < x → y ∈ l) := by
  induction h generalizing n m with
  | slnil => cases hn
  | cons a hsub ih =>
    obtain ⟨ha, hsorted⟩ := List.pairwise_cons.1 hsorted
    have hx := hsub.subset (List.mem_of_getElem? hn)
    cases m with
    | zero =>
      cases hm
      exact absurd (ha _ hx) (lt_irrefl _)
    | succ m =>
      obtain ⟨hle, -⟩ := ih hsorted hn hm
      refine ⟨by omega, iff_of_false (by omega) fun hall => ?_⟩
      have hmem := hall a List.mem_cons_self (ha _ hx)
      exact lt_irrefl _ (ha _ (hsub.subset hmem))
  | cons_cons a hsub ih =>
    obtain ⟨ha, hsorted⟩ := List.pairwise_cons.1 hsorted
    cases n with
    | zero =>
      cases hn
      cases m with
      | zero =>
        refine ⟨Nat.le_refl 0, iff_of_true rfl fun y hy hlt => ?_⟩
        rcases List.mem_cons.1 hy with rfl | hy
        · exact absurd hlt (lt_irrefl _)
        · exact absurd (hlt.trans (ha y hy)) (lt_irrefl _)
      | succ m => exact absurd (ha _ (List.mem_of_getElem? hm)) (lt_irrefl _)
    | succ n =>
      cases m with
      | zero =>
        cases hm
        exact absurd (ha _ (hsub.subset (List.mem_of_getElem? hn))) (lt_irrefl _)
      | succ m =>
        obtain ⟨hle, hiff⟩ := ih hsorted hn hm
        refine ⟨Nat.succ_le_succ hle, Nat.succ_inj.trans (hiff.trans ⟨fun h y hy hlt => ?_, fun h y hy hlt => ?_⟩)⟩
        · rcases List.mem_cons.1 hy with rfl | hy
          · exact List.mem_cons_self
          · exact List.mem_cons_of_mem _ (h y hy hlt)
        · rcases List.mem_cons.1 (h y (List.mem_cons_of_mem _ hy) hlt) with rfl | hmem
          · exact absurd (ha y hy) (lt_irrefl _)
          · exact hmem

/-- A sum over a list after one entry is replaced. -/
theorem sum_set {M : Type*} [AddCommMonoid M] (f : α → M) {l : List α} {j : ℕ} (x : α) {y : α} (h : l[j]? = some y) :
    ((l.set j x).map f).sum + f y = (l.map f).sum + f x := by
  induction l generalizing j with
  | nil => simp at h
  | cons z l ih =>
    cases j with
    | zero =>
      obtain rfl : z = y := by simpa using h
      simp only [List.set_cons_zero, List.map_cons, List.sum_cons]
      rw [add_right_comm, add_comm (f x), add_assoc, add_comm (f x), add_assoc]
    | succ j =>
      have := ih (by simpa using h)
      simp only [List.set_cons_succ, List.map_cons, List.sum_cons]
      rw [add_assoc, this, add_assoc]

/-! ## Words that commute -/

/-- The entry of a list at a position counted round and round. -/
theorem getElem?_cyclic {E A : List α} (hcycle : ∀ j < A.length, A[j]? = E[j % E.length]?) {i : ℕ}
    (hi : i < (E ++ A).length) : (E ++ A)[i]? = E[i % E.length]? := by
  rw [List.length_append] at hi
  rw [List.getElem?_append]
  split
  · rename_i hlt
    rw [Nat.mod_eq_of_lt hlt]
  · rename_i hge
    rw [hcycle _ (by omega), ← Nat.mod_eq_sub_mod (Nat.not_lt.1 hge)]

/-- Two words commute exactly where the second repeats the first and the first is unchanged by a rotation by the length of the
second. -/
theorem append_comm_iff {E A : List α} (hE : E ≠ []) :
    E ++ A = A ++ E ↔
      (∀ j < A.length, A[j]? = E[j % E.length]?) ∧ ∀ i < E.length, E[(i + A.length) % E.length]? = E[i]? := by
  have hk : 0 < E.length := List.length_pos_iff.2 hE
  constructor
  · intro h
    have hget : ∀ p : ℕ, (E ++ A)[p]? = (A ++ E)[p]? := fun p => by rw [h]
    have hcycle : ∀ j < A.length, A[j]? = E[j % E.length]? := by
      intro j
      induction j using Nat.strongRecOn with
      | ind j ih =>
        intro hj
        have hp := hget j
        rw [List.getElem?_append_left hj, List.getElem?_append] at hp
        split at hp
        · rename_i hlt
          rw [← hp, Nat.mod_eq_of_lt hlt]
        · rename_i hge
          rw [← hp, ih _ (by omega) (by omega), ← Nat.mod_eq_sub_mod (Nat.not_lt.1 hge)]
    refine ⟨hcycle, fun i hi => ?_⟩
    have hp := hget (A.length + i)
    rw [getElem?_cyclic hcycle (by rw [List.length_append]; omega), List.getElem?_append_right (by omega),
      Nat.add_sub_cancel_left] at hp
    rw [Nat.add_comm]
    exact hp
  · rintro ⟨hcycle, hrotate⟩
    refine List.ext_getElem? fun p => ?_
    by_cases hp : p < (E ++ A).length
    · rw [getElem?_cyclic hcycle hp]
      by_cases hlt : p < A.length
      · rw [List.getElem?_append_left hlt, hcycle p hlt]
      · rw [List.length_append] at hp
        rw [List.getElem?_append_right (Nat.not_lt.1 hlt), ← hrotate (p - A.length) (by omega),
          Nat.sub_add_cancel (Nat.not_lt.1 hlt)]
    · have hp' : (A ++ E).length ≤ p := by
        rw [List.length_append] at hp ⊢
        omega
      rw [List.getElem?_eq_none (Nat.not_lt.1 hp), List.getElem?_eq_none hp']

/-! ## Tables changed entry by entry -/

/-- Every entry of the first so many is changed by a function of its own. -/
theorem getElem?_foldl_modify_range (f : ℕ → α → α) (m : ℕ) (l : List α) (j : ℕ) :
    ((List.range m).foldl (fun l p => l.modify p (f p)) l)[j]? = if j < m then l[j]?.map (f j) else l[j]? := by
  induction m with
  | zero => rfl
  | succ m ih =>
    rw [List.range_succ, List.foldl_append, List.foldl_cons, List.foldl_nil]
    by_cases hj : m = j
    · subst hj
      rw [List.getElem?_modify_eq, ih, if_neg (Nat.lt_irrefl _), if_pos (Nat.lt_succ_self _), Option.map_eq_map]
    · rw [List.getElem?_modify_ne _ _ hj, ih]
      by_cases hlt : j < m
      · rw [if_pos hlt, if_pos (Nat.lt_succ_of_lt hlt)]
      · rw [if_neg hlt, if_neg (by omega)]

/-- The entries of a table after passes over the first so many of them. -/
theorem getElem?_foldl_foldl_modify (f : β → ℕ → α → α) (m : ℕ) (passes : List β) (l : List α) (j : ℕ) :
    (passes.foldl (fun l b => (List.range m).foldl (fun l p => l.modify p (f b p)) l) l)[j]? =
      if j < m then l[j]?.map (fun x => passes.foldl (fun x b => f b j x) x) else l[j]? := by
  induction passes generalizing l with
  | nil => simp
  | cons b passes ih =>
    rw [List.foldl_cons, ih, getElem?_foldl_modify_range]
    by_cases hj : j < m
    · rw [if_pos hj, if_pos hj, if_pos hj, Option.map_map]
      rfl
    · rw [if_neg hj, if_neg hj, if_neg hj]

/-- Values appended to the rows their keys name: a row gets the values with its key, in order. -/
theorem getElem?_foldl_group (entries : List (ℕ × α)) (table : List (List α)) (g : ℕ) :
    (entries.foldl (fun table p => table.modify p.1 (· ++ [p.2])) table)[g]? =
      table[g]?.map (· ++ (entries.filter (fun p => p.1 = g)).map Prod.snd) := by
  induction entries generalizing table with
  | nil => simp
  | cons p entries ih =>
    rw [List.foldl_cons, ih]
    by_cases hp : p.1 = g
    · subst hp
      rw [List.getElem?_modify_eq, Option.map_eq_map, Option.map_map, List.filter_cons_of_pos (by simp), List.map_cons]
      congr 1
      funext row
      simp
    · rw [List.getElem?_modify_ne _ _ hp, List.filter_cons_of_neg (by simpa using hp)]

/-- What a filter keeps of a list is what it keeps of the positions. -/
theorem filter_eq_map_range (l : List α) (p : α → Bool) (d : α) :
    l.filter p = ((List.range l.length).filter (fun i => p (l.getD i d))).map (fun i => l.getD i d) := by
  have hl : l = (List.range l.length).map (fun i => l.getD i d) := by
    refine List.ext_getElem (by simp) fun i hi _ => ?_
    simp [hi]
  conv_lhs => rw [hl]
  rw [List.filter_map]
  rfl

/-- Where no key comes twice, what a filter keeps for a key is its one entry. -/
theorem filter_key_eq [DecidableEq ι] {entries : List (ι × α)} (h : (entries.map Prod.fst).Nodup) {k : ι} {x : α}
    (hx : (k, x) ∈ entries) :
    entries.filter (fun p => p.1 = k) = [(k, x)] := by
  induction entries with
  | nil => cases hx
  | cons p entries ih =>
    obtain ⟨hp, h⟩ := List.nodup_cons.1 h
    rcases List.mem_cons.1 hx with rfl | hx
    · rw [List.filter_cons_of_pos (by simp), List.filter_eq_nil_iff.2]
      intro q hq hqk
      exact hp (List.mem_map.2 ⟨q, hq, of_decide_eq_true hqk⟩)
    · have hne : p.1 ≠ k := fun hpk => hp (List.mem_map.2 ⟨(k, x), hx, hpk.symm⟩)
      rw [List.filter_cons_of_neg (by simpa using hne), ih h hx]

/-- Keeping an image where a condition holds, element by element, is filtering and then mapping. -/
theorem flatMap_if_singleton (l : List α) (p : α → Bool) (f : α → β) :
    l.flatMap (fun x => if p x then [f x] else []) = (l.filter p).map f := by
  induction l with
  | nil => rfl
  | cons x l ih =>
    rw [List.flatMap_cons, ih]
    cases hp : p x with
    | true => rw [if_pos rfl, List.filter_cons_of_pos hp, List.map_cons, List.singleton_append]
    | false => rw [if_neg (by simp), List.filter_cons_of_neg (by simp [hp]), List.nil_append]

/-- Pairing what was collected piece by piece is pairing the pieces, where these are equally long. -/
theorem zip_flatMap {keys : List ι} {f : ι → List α} {g : ι → List β} (h : ∀ k ∈ keys, (f k).length = (g k).length) :
    (keys.flatMap f).zip (keys.flatMap g) = keys.flatMap (fun k => (f k).zip (g k)) := by
  induction keys with
  | nil => rfl
  | cons k keys ih =>
    rw [List.flatMap_cons, List.flatMap_cons, List.flatMap_cons, List.zip_append (h k List.mem_cons_self),
      ih fun k' hk' => h k' (List.mem_cons_of_mem k hk')]

/-- Of two equally long lists every element of the first has a partner. -/
theorem exists_mem_zip {l : List α} {l' : List β} (h : l.length = l'.length) {x : α} (hx : x ∈ l) : ∃ y, (x, y) ∈ l.zip l' := by
  obtain ⟨i, hi, rfl⟩ := List.getElem_of_mem hx
  have hi' : i < l'.length := h ▸ hi
  refine ⟨l'[i], List.mem_iff_getElem.2 ⟨i, by rw [List.length_zip]; omega, ?_⟩⟩
  rw [List.getElem_zip]

/-- The first components of a zip are where a list begins. -/
theorem map_fst_zip_isPrefix (l : List α) (l' : List β) : (l.zip l').map Prod.fst <+: l := by
  induction l generalizing l' with
  | nil => exact List.nil_prefix
  | cons x l ih =>
    cases l' with
    | nil => exact List.nil_prefix
    | cons y l' =>
      rw [List.zip_cons_cons, List.map_cons, List.prefix_cons_inj]
      exact ih l'

/-! ## Ranges -/

/-- A search through a range finds what the first place that has something has. -/
theorem findSome?_range'_eq_some {f : ℕ → Option β} {start len : ℕ} {b : β} :
    (List.range' start len).findSome? f = some b ↔
      ∃ k, start ≤ k ∧ k < start + len ∧ (∀ j, start ≤ j → j < k → f j = none) ∧ f k = some b := by
  induction len generalizing start with
  | zero =>
    refine iff_of_false (by simp) ?_
    rintro ⟨k, hle, hlt, -⟩
    omega
  | succ len ih =>
    rw [List.range'_succ, List.findSome?_cons]
    cases hstart : f start with
    | some b' =>
      constructor
      · intro h
        obtain rfl := Option.some.inj h
        exact ⟨start, Nat.le_refl start, by omega, fun j hle hlt => by omega, hstart⟩
      · rintro ⟨k, hle, -, hbefore, hk⟩
        rcases Nat.eq_or_lt_of_le hle with rfl | hlt
        · rw [← hstart, hk]
        · rw [hbefore start (Nat.le_refl start) hlt] at hstart
          cases hstart
    | none =>
      refine ih.trans ⟨?_, ?_⟩
      · rintro ⟨k, hle, hlt, hbefore, hk⟩
        refine ⟨k, by omega, by omega, fun j hj hjk => ?_, hk⟩
        rcases Nat.eq_or_lt_of_le hj with rfl | hj
        · exact hstart
        · exact hbefore j hj hjk
      · rintro ⟨k, hle, hlt, hbefore, hk⟩
        rcases Nat.eq_or_lt_of_le hle with rfl | hle
        · rw [hstart] at hk
          cases hk
        · exact ⟨k, hle, by omega, fun j hj hjk => hbefore j (by omega) hjk, hk⟩

/-- The places of a range between two bounds. -/
theorem filter_range_between {i j n : ℕ} (h : j ≤ n) (p : ℕ → Bool) (hp : ∀ k < n, p k = true ↔ i ≤ k ∧ k < j) :
    (List.range n).filter p = List.range' i (j - i) := by
  induction n generalizing j with
  | zero =>
    obtain rfl := Nat.le_zero.1 h
    simp
  | succ n ih =>
    rw [List.range_succ, List.filter_append]
    rcases Nat.lt_or_ge n j with hlt | hge
    · obtain rfl : j = n + 1 := by omega
      rw [ih (Nat.le_refl n) fun k hk => (hp k (by omega)).trans (and_congr_right fun _ => by omega)]
      rcases Nat.lt_or_ge n i with hni | hin
      · have hout : p n = false := Bool.eq_false_iff.2 fun hn => by have := (hp n (by omega)).1 hn; omega
        rw [List.filter_cons_of_neg (by simp [hout]), show n + 1 - i = 0 by omega, show n - i = 0 by omega]
        rfl
      · have hin' : p n = true := (hp n (by omega)).2 ⟨hin, by omega⟩
        rw [List.filter_cons_of_pos hin', show n + 1 - i = n - i + 1 by omega, List.range'_concat, Nat.one_mul,
          show i + (n - i) = n by omega]
        rfl
    · have hout : p n = false := Bool.eq_false_iff.2 fun hn => by have := (hp n (by omega)).1 hn; omega
      rw [ih hge fun k hk => hp k (by omega), List.filter_cons_of_neg (by simp [hout])]
      exact List.append_nil _

/-- Pairing the rest of a list with what a function has at its places. -/
theorem tail_zip_map_range (l : List α) (d : α) (g : ℕ → β) :
    l.tail.zip ((List.range (l.length - 1)).map g) = (List.range (l.length - 1)).map fun k => (l.getD (k + 1) d, g k) := by
  have htail : l.tail = (List.range (l.length - 1)).map fun k => l.getD (k + 1) d := by
    refine List.ext_getElem (by simp) fun k hk _ => ?_
    rw [List.length_tail] at hk
    rw [List.getElem_tail, List.getElem_map, List.getElem_range, List.getD_eq_getElem?_getD, List.getElem?_eq_getElem (by omega),
      Option.getD_some]
  rw [htail, List.zip_map']

/-- An increasing list is what it has up to a bound and what it has after it. -/
theorem exists_eq_filter_append {T : Type*} [LinearOrder T] {l : List T} (h : l.Pairwise (· < ·)) (u : T) :
    ∃ later, l = l.filter (· ≤ u) ++ later ∧ ∀ t ∈ later, u < t := by
  induction l with
  | nil => exact ⟨[], rfl, nofun⟩
  | cons a l ih =>
    obtain ⟨ha, h⟩ := List.pairwise_cons.1 h
    rcases le_or_gt a u with hle | hgt
    · obtain ⟨later, hl, hlater⟩ := ih h
      refine ⟨later, ?_, hlater⟩
      rw [List.filter_cons_of_pos (by simpa using hle), List.cons_append, ← hl]
    · have hall : ∀ t ∈ a :: l, u < t := by
        intro t ht
        rcases List.mem_cons.1 ht with rfl | ht
        · exact hgt
        · exact hgt.trans (ha t ht)
      have hnone : (a :: l).filter (· ≤ u) = [] := List.filter_eq_nil_iff.2 fun t ht => by simpa using hall t ht
      exact ⟨a :: l, by rw [hnone, List.nil_append], hall⟩

/-- The rest of an increasing list is what has something before it. -/
theorem mem_tail_iff_exists_lt {T : Type*} [LinearOrder T] {l : List T} (h : l.Pairwise (· < ·)) {t : T} :
    t ∈ l.tail ↔ t ∈ l ∧ ∃ s ∈ l, s < t := by
  cases l with
  | nil => simp
  | cons a l =>
    obtain ⟨ha, -⟩ := List.pairwise_cons.1 h
    rw [List.tail_cons]
    constructor
    · intro ht
      exact ⟨List.mem_cons_of_mem a ht, a, List.mem_cons_self, ha t ht⟩
    · rintro ⟨ht, s, hs, hst⟩
      rcases List.mem_cons.1 ht with rfl | ht
      · rcases List.mem_cons.1 hs with rfl | hs
        · exact absurd hst (lt_irrefl _)
        · exact absurd (ha s hs) hst.not_gt
      · exact ht

/-! ## The first with each key -/

/-- Whether an item at some place is the first one with its key. -/
def firstOf {κ : Type*} [DecidableEq κ] (key : α → κ) (l : List α) (x : α × ℕ) : Bool := (l.take x.2).all fun y => key y ≠ key x.1

section First

variable {κ : Type*} [DecidableEq κ] (key : α → κ)

theorem firstOf_eq_true_iff {l : List α} {x : α} {i : ℕ} :
    firstOf key l (x, i) = true ↔ ∀ j < i, ∀ y, l[j]? = some y → key y ≠ key x := by
  simp only [firstOf, List.all_eq_true, decide_eq_true_eq]
  constructor
  · intro h j hj y hy
    exact h y (List.mem_of_getElem? (i := j) (by rw [List.getElem?_take_of_lt hj, hy]))
  · intro h y hy
    obtain ⟨j, hj⟩ := List.mem_iff_getElem?.1 hy
    rw [List.getElem?_take] at hj
    split_ifs at hj with hlt
    exact h j hlt y hj

/-- The firsts of a longer list: those of the list, and the new item where its key is new. -/
theorem filter_firstOf_concat (l : List α) (a : α) :
    (l ++ [a]).zipIdx.filter (firstOf key (l ++ [a])) =
      l.zipIdx.filter (firstOf key l) ++ if key a ∈ l.map key then [] else [(a, l.length)] := by
  have hold : ∀ x ∈ l.zipIdx, firstOf key (l ++ [a]) x = firstOf key l x := by
    intro x hx
    have hlt := List.snd_lt_of_mem_zipIdx hx
    rw [Nat.add_zero] at hlt
    rw [firstOf, firstOf, List.take_append_of_le_length (Nat.le_of_lt hlt)]
  rw [List.zipIdx_append, List.filter_append, List.filter_congr hold, List.zipIdx_singleton, Nat.zero_add]
  congr 1
  by_cases ha : key a ∈ l.map key
  · rw [if_pos ha]
    obtain ⟨y, hy, hkey⟩ := List.mem_map.1 ha
    simpa [firstOf] using ⟨y, hy, hkey⟩
  · rw [if_neg ha]
    simpa [firstOf] using fun y hy hkey => ha (List.mem_map.2 ⟨y, hy, hkey⟩)

/-- The keys of the firsts are the keys of the list, each once. -/
theorem nodup_keys_firsts (l : List α) : ((l.zipIdx.filter (firstOf key l)).map fun x => key x.1).Nodup ∧
    ∀ k, k ∈ (l.zipIdx.filter (firstOf key l)).map (fun x => key x.1) ↔ k ∈ l.map key := by
  induction l using List.reverseRecOn with
  | nil => exact ⟨List.nodup_nil, fun k => Iff.rfl⟩
  | append_singleton l a ih =>
    obtain ⟨hnodup, hmem⟩ := ih
    rw [filter_firstOf_concat]
    by_cases ha : key a ∈ l.map key
    · rw [if_pos ha, List.append_nil]
      refine ⟨hnodup, fun k => ?_⟩
      rw [hmem, List.map_append, List.mem_append, List.map_singleton, List.mem_singleton]
      constructor
      · exact .inl
      · rintro (hk | rfl)
        · exact hk
        · exact ha
    · rw [if_neg ha, List.map_append, List.map_append, List.map_singleton, List.map_singleton]
      refine ⟨List.nodup_append.2 ⟨hnodup, List.nodup_singleton _, ?_⟩, fun k => ?_⟩
      · rintro k hk k' hk' rfl
        rw [List.mem_singleton.1 hk'] at hk
        exact ha ((hmem _).1 hk)
      · rw [List.mem_append, List.mem_append, hmem]

end First

/-- Two lists without repetitions that have the same items of a kind have as many of them. -/
theorem countP_eq_of_mem_iff {l l' : List α} {p : α → Bool} (hl : l.Nodup) (hl' : l'.Nodup)
    (h : ∀ x, p x = true → (x ∈ l ↔ x ∈ l')) : l.countP p = l'.countP p := by
  rw [List.countP_eq_length_filter, List.countP_eq_length_filter]
  refine ((List.perm_ext_iff_of_nodup (hl.filter p) (hl'.filter p)).2 fun x => ?_).length_eq
  rw [List.mem_filter, List.mem_filter]
  exact and_congr_left (h x)

/-! ## Names in parts -/

/-- Where a part ends is told by its last letter, when none of the letters that follow is of its kind. -/
theorem append_inj_of_last (p : α → Bool) {l l' ds ds' : List α} (h : l ++ ds = l' ++ ds') (hl : ∀ a ∈ l.getLast?, p a = false)
    (hl' : ∀ a ∈ l'.getLast?, p a = false) (hds : ∀ a ∈ ds, p a = true) (hds' : ∀ a ∈ ds', p a = true) : l = l' ∧ ds = ds' := by
  have hnil : ∀ {l m ds : List α}, (∀ a ∈ (l ++ m).getLast?, p a = false) → (∀ a ∈ m ++ ds, p a = true) → m = [] :=
    fun {l m ds} hlast hall => by
    cases m using List.reverseRecOn with
    | nil => rfl
    | append_singleton m a =>
      have hfalse := hlast a (by rw [← List.append_assoc, List.getLast?_concat]; rfl)
      rw [hall a (by simp)] at hfalse
      cases hfalse
  rcases List.append_eq_append_iff.1 h with ⟨m, rfl, rfl⟩ | ⟨m, rfl, rfl⟩
  · rw [hnil hl' hds, List.append_nil]
    exact ⟨rfl, rfl⟩
  · rw [hnil hl hds', List.append_nil]
    exact ⟨rfl, rfl⟩

/-- Values that are different for different keys, and for the entries of each key, are all different. -/
theorem nodup_map_of_keys [DecidableEq ι] {f : ι × α → β} (entries : List (ι × α))
    (hkey : ∀ x ∈ entries, ∀ y ∈ entries, f x = f y → x.1 = y.1)
    (h : ∀ k, ((entries.filter (·.1 = k)).map f).Nodup) : (entries.map f).Nodup := by
  induction entries with
  | nil => exact List.nodup_nil
  | cons x entries ih =>
    rw [List.map_cons, List.nodup_cons]
    refine ⟨fun hx => ?_, ih (fun a ha b hb => hkey a (.tail _ ha) b (.tail _ hb)) fun k => ?_⟩
    · obtain ⟨y, hy, hxy⟩ := List.mem_map.1 hx
      have hkeys := hkey y (.tail _ hy) x (.head _) hxy
      have hnodup := h x.1
      rw [List.filter_cons_of_pos (by simp), List.map_cons, List.nodup_cons] at hnodup
      exact hnodup.1 (List.mem_map.2 ⟨y, List.mem_filter.2 ⟨hy, by simpa using hkeys⟩, hxy⟩)
    · exact (h k).sublist (((List.sublist_cons_self x entries).filter _).map f)

end Pylib
