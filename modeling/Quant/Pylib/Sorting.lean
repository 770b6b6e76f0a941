import Mathlib.Data.List.Nodup
import Mathlib.Data.List.Perm.Basic
import Mathlib.Data.List.Sort

/-!
# Stable sorts and their prefixes

A stable sort of a list whose elements carry strictly increasing positions is the sort by the order and then by position. A part
of a list that comes first by a strict order is a prefix of the sorted list.
-/

namespace Pylib

variable {α : Type*}

/-- Two elements of an ordered list come in the order that is not ruled out. -/
theorem pair_sublist_of_pairwise {P : α → α → Prop} {l : List α} (h : l.Pairwise P) {a b : α} (ha : a ∈ l)
    (hb : b ∈ l) (hne : a ≠ b)
    (hnot : ¬ P b a) : [a, b].Sublist l := by
  induction l with
  | nil => cases ha
  | cons x l ih =>
    obtain ⟨hx, h⟩ := List.pairwise_cons.1 h
    rcases List.mem_cons.1 ha with rfl | ha' <;> rcases List.mem_cons.1 hb with rfl | hb'
    · exact absurd rfl hne
    · exact (List.singleton_sublist.2 hb').cons_cons a
    · exact absurd (hx a ha') hnot
    · exact (ih h ha' hb').cons x

/-- Two elements of a list without duplicates come in one order only. -/
theorem not_pair_sublist_swap {l : List α} (hn : l.Nodup) {a b : α} (h : [a, b].Sublist l) : ¬ [b, a].Sublist l := by
  induction l with
  | nil => cases h
  | cons x l ih =>
    obtain ⟨hx, hn⟩ := List.nodup_cons.1 hn
    intro h'
    cases h with
    | cons _ h =>
      cases h' with
      | cons _ h' => exact ih hn h h'
      | cons_cons _ h' => exact hx (h.subset (by simp))
    | cons_cons _ h =>
      cases h' with
      | cons _ h' => exact hx (h'.subset (by simp))
      | cons_cons _ h' => exact hx (List.singleton_sublist.1 h)

/-- A stable sort keeps elements that the order does not tell apart as they were. -/
theorem mergeSort_stable (le : α → α → Bool) (pos : α → ℕ) (htrans : ∀ a b c, le a b = true → le b c = true → le a c = true)
    (htotal : ∀ a b, (le a b || le b a) = true) {l : List α} (h : l.Pairwise (fun a b => pos a < pos b)) :
    (l.mergeSort le).Pairwise (fun a b => le a b = true ∧ (le b a = true → pos a < pos b)) := by
  have hn : (l.mergeSort le).Nodup := by
    refine (List.mergeSort_perm l le).nodup_iff.2 (h.imp fun hab heq => ?_)
    rw [heq] at hab
    exact lt_irrefl _ hab
  refine List.pairwise_of_forall_sublist fun {a b} hab => ?_
  have hle : le a b = true := List.pairwise_iff_forall_sublist.1 (List.pairwise_mergeSort htrans htotal l) hab
  refine ⟨hle, fun hba => ?_⟩
  have ha : a ∈ l := List.mem_mergeSort.1 (hab.subset (by simp))
  have hb : b ∈ l := List.mem_mergeSort.1 (hab.subset (by simp))
  rcases Nat.lt_trichotomy (pos a) (pos b) with hlt | heq | hgt
  · exact hlt
  · -- The positions are different, so this is one element twice.
    have heq' : a = b := List.inj_on_of_nodup_map (List.pairwise_map.2 (h.imp ne_of_lt)) ha hb heq
    rw [heq'] at hab
    exact absurd (List.nodup_iff_sublist.1 hn b) (fun hb => hb hab)
  · have hne : b ≠ a := fun heq => absurd hgt (heq ▸ lt_irrefl _)
    have hsub : [b, a].Sublist l := pair_sublist_of_pairwise h hb ha hne hgt.not_gt
    exact absurd (List.pair_sublist_mergeSort htrans htotal hba hsub) (not_pair_sublist_swap hn hab)

/-- What a strict order puts before the rest is where the sorted list starts. -/
theorem isPrefix_of_pairwise (P : α → α → Prop) (hasymm : ∀ a b, P a b → ¬ P b a) {r rest order : List α}
    (hperm : (r ++ rest).Perm order) (horder : order.Pairwise P) (hr : r.Pairwise P) (hrest : ∀ a ∈ r, ∀ b ∈ rest, P a b) :
    r <+: order := by
  induction r generalizing order with
  | nil => exact List.nil_prefix
  | cons a r ih =>
    obtain ⟨har, hr⟩ := List.pairwise_cons.1 hr
    cases order with
    | nil => exact absurd hperm.length_eq (by simp)
    | cons b order =>
      obtain ⟨hb, horder'⟩ := List.pairwise_cons.1 horder
      have hab : a = b := by
        by_contra hne
        have hba : P b a := hb a ((List.mem_cons.1 (hperm.subset (by simp))).resolve_left hne)
        have hmem : b ∈ r ++ rest := (List.mem_cons.1 (hperm.symm.subset (by simp : b ∈ b :: order))).resolve_left (Ne.symm hne)
        rcases List.mem_append.1 hmem with hbr | hbr
        · exact hasymm b a hba (har b hbr)
        · exact hasymm b a hba (hrest a (by simp) b hbr)
      subst hab
      have hperm' : (r ++ rest).Perm order := by simpa using hperm
      exact (List.prefix_cons_inj a).2 (ih hperm' horder' hr fun x hx => hrest x (List.mem_cons_of_mem a hx))

/-- Two elements of a list whose later one is in a prefix are both in it. -/
theorem pair_sublist_of_isPrefix {l l' : List α} (h : l <+: l') (hn : l'.Nodup) {a b : α} (hab : [a, b].Sublist l') (hb : b ∈ l) :
    [a, b].Sublist l := by
  obtain ⟨t, rfl⟩ := h
  obtain ⟨l₁, l₂, heq, h₁, h₂⟩ := List.sublist_append_iff.1 hab
  have hbt : b ∉ t := fun hbt => (List.nodup_append.1 hn).2.2 b hb b hbt rfl
  rcases List.eq_nil_or_concat l₂ with rfl | ⟨l₂, x, rfl⟩
  · rw [List.append_nil] at heq
    rwa [heq]
  · have hx : x = b := by
      have := congrArg List.getLast? heq
      simpa [eq_comm] using this
    exact absurd (h₂.subset (by simp [hx])) hbt

end Pylib
