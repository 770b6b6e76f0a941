import Mathlib.Data.List.Induction
import Mathlib.Data.List.Sort

/-!
# The latest element of each key

A stable sort by a key leaves the elements of one key as they came. A scan over the sorted list that replaces its last element by
the next one of the same key then keeps, of each key, the element that came last.
-/

namespace Pylib

variable {α K : Type*} [LinearOrder K] {key : α → K}

/-! ## A stable sort -/

theorem filter_orderedInsert (k : K) (a : α) (l : List α) :
    (l.orderedInsert (fun x y => key x ≤ key y) a).filter (key · = k) = (a :: l).filter (key · = k) := by
  induction l with
  | nil => rfl
  | cons b l ih =>
    rw [List.orderedInsert_cons]
    split
    · rfl
    · rename_i hlt
      -- The two change places, and at most one of them has the key.
      have hne : key a ≠ key b := fun heq => hlt heq.le
      rw [List.filter_cons, ih]
      by_cases ha : key a = k
      · have hb : key b ≠ k := fun hb => hne (ha.trans hb.symm)
        simp [ha, hb]
      · simp [ha, List.filter_cons]

/-- The sort leaves the elements of one key as they came. -/
theorem filter_insertionSort (k : K) (l : List α) :
    (l.insertionSort fun x y => key x ≤ key y).filter (key · = k) = l.filter (key · = k) := by
  induction l with
  | nil => rfl
  | cons a l ih => rw [List.insertionSort_cons, filter_orderedInsert, List.filter_cons, List.filter_cons, ih]

/-! ## The scan -/

/-- Puts an element at the end, in the place of the last one where the keys are the same; one of a smaller key is left out. -/
def keepLatest (key : α → K) (kept : List α) (x : α) : List α :=
  match kept.getLast? with
  | none => kept ++ [x]
  | some last =>
    if key last < key x then kept ++ [x]
    else if key x = key last then kept.dropLast ++ [x]
    else kept

/-- Of each key the list holds the element that came last, in the order of the keys. -/
structure IsLatest (key : α → K) (l kept : List α) : Prop where
  increasing : kept.Pairwise fun x y => key x < key y
  mem_iff : ∀ x, x ∈ kept ↔ (l.filter (key · = key x)).getLast? = some x

/-- Of a list that is not empty something is kept. -/
theorem IsLatest.ne_nil {l kept : List α} (h : IsLatest key l kept) (hl : l ≠ []) : kept ≠ [] := by
  obtain ⟨x, hx⟩ := List.exists_mem_of_ne_nil l hl
  have hne : l.filter (key · = key x) ≠ [] := List.ne_nil_of_mem (List.mem_filter.2 ⟨hx, decide_eq_true rfl⟩)
  have hkey : key ((l.filter (key · = key x)).getLast hne) = key x :=
    of_decide_eq_true (List.mem_filter.1 (List.getLast_mem hne)).2
  refine List.ne_nil_of_mem ((h.mem_iff ((l.filter (key · = key x)).getLast hne)).2 ?_)
  rw [hkey]
  exact List.getLast?_eq_some_getLast hne

theorem getLast?_filter_concat (l : List α) (b : α) (k : K) :
    ((l ++ [b]).filter (key · = k)).getLast? = if key b = k then some b else (l.filter (key · = k)).getLast? := by
  by_cases hb : key b = k <;> simp [List.filter_append, hb]

/-- After one more element, the latest of its key is that element, and those of the other keys stay. -/
theorem IsLatest.concat {l kept kept' : List α} (h : IsLatest key l kept) {b : α} (hinc : kept'.Pairwise fun x y => key x < key y)
    (hmem : ∀ x, x ∈ kept' ↔ if key b = key x then b = x else x ∈ kept) : IsLatest key (l ++ [b]) kept' := by
  refine ⟨hinc, fun x => ?_⟩
  rw [hmem, getLast?_filter_concat]
  split
  · rw [Option.some_inj]
  · exact h.mem_iff x

@[simp]
theorem keepLatest_nil (b : α) : keepLatest key [] b = [b] := rfl

@[simp]
theorem keepLatest_concat (init : List α) (last b : α) :
    keepLatest key (init ++ [last]) b =
      if key last < key b then init ++ [last] ++ [b] else if key b = key last then init ++ [b] else init ++ [last] := by
  rw [keepLatest, List.getLast?_concat]
  dsimp only
  rw [List.dropLast_concat]

/-- The scan takes an element whose key no earlier one exceeds. -/
theorem IsLatest.step {l kept : List α} (h : IsLatest key l kept) {b : α} (hb : ∀ x ∈ l, key x ≤ key b) :
    IsLatest key (l ++ [b]) (keepLatest key kept b) := by
  rcases List.eq_nil_or_concat' kept with rfl | ⟨init, last, rfl⟩
  · refine h.concat (List.pairwise_singleton _ b) fun x => ?_
    rw [keepLatest_nil, List.mem_singleton, eq_comm]
    split
    · rfl
    · rename_i hne
      exact iff_of_false (fun hbx => hne (congrArg key hbx)) List.not_mem_nil
  have hlast : last ∈ l :=
    (List.mem_filter.1 (List.mem_of_mem_getLast? ((h.mem_iff last).1 List.mem_concat_self))).1
  obtain ⟨hinit, -, hlt⟩ := List.pairwise_append.1 h.increasing
  replace hlt : ∀ x ∈ init, key x < key last := fun x hx => hlt x hx last (List.mem_singleton_self last)
  rw [keepLatest_concat]
  rcases (hb last hlast).lt_or_eq with hlb | heq
  · rw [if_pos hlb]
    have hnew : ∀ x ∈ init ++ [last], key x < key b := by
      intro x hx
      rcases List.mem_append.1 hx with hx | hx
      · exact (hlt x hx).trans hlb
      · rwa [List.mem_singleton.1 hx]
    refine h.concat (List.pairwise_append.2 ⟨h.increasing, List.pairwise_singleton _ b, ?_⟩) fun x => ?_
    · intro x hx y hy
      rw [List.mem_singleton.1 hy]
      exact hnew x hx
    · rw [List.mem_append, List.mem_singleton]
      split
      · rename_i heq
        rw [or_iff_right fun hx => (hnew x hx).ne heq.symm, eq_comm]
      · rename_i hne
        exact or_iff_left fun hx => hne (congrArg key hx.symm)
  · rw [if_neg heq.not_lt, if_pos heq.symm]
    refine h.concat (List.pairwise_append.2 ⟨hinit, List.pairwise_singleton _ b, ?_⟩) fun x => ?_
    · intro x hx y hy
      rw [List.mem_singleton.1 hy, ← heq]
      exact hlt x hx
    · rw [List.mem_append, List.mem_append, List.mem_singleton, List.mem_singleton]
      split
      · rename_i hx
        rw [or_iff_right fun hx' => (hlt x hx').ne (heq.trans hx).symm, eq_comm]
      · rename_i hne
        refine or_congr_right (iff_of_false (fun hx => hne (congrArg key hx.symm)) fun hx => hne ?_)
        rw [hx, heq]

/-- The scan over a sorted list keeps the latest element of each key. -/
theorem isLatest_foldl {l : List α} (h : l.Pairwise fun x y => key x ≤ key y) : IsLatest key l (l.foldl (keepLatest key) []) := by
  induction l using List.reverseRecOn with
  | nil => exact ⟨List.Pairwise.nil, by simp⟩
  | append_singleton l b ih =>
    obtain ⟨hl, -, hb⟩ := List.pairwise_append.1 h
    rw [List.foldl_concat]
    exact (ih hl).step fun x hx => hb x hx b (List.mem_singleton_self b)

/-- Sorted by the key first, the scan keeps the latest element of each key of any list. -/
theorem isLatest_insertionSort (key : α → K) (l : List α) :
    IsLatest key l ((l.insertionSort fun x y => key x ≤ key y).foldl (keepLatest key) []) := by
  have : Std.Total (fun x y : α => key x ≤ key y) := ⟨fun x y => le_total (key x) (key y)⟩
  have : IsTrans α (fun x y => key x ≤ key y) := ⟨fun _ _ _ => le_trans⟩
  have h := isLatest_foldl (List.pairwise_insertionSort (fun x y => key x ≤ key y) l)
  exact ⟨h.increasing, fun x => by rw [h.mem_iff, filter_insertionSort]⟩

/-! ## Two readings of one list -/

/-- The element of a key that came last. -/
def latestOf (key : α → K) (l : List α) (k : K) : Option α := (l.filter (key · = k)).getLast?

theorem of_latestOf {l : List α} {k : K} {x : α} (h : latestOf key l k = some x) : x ∈ l ∧ key x = k := by
  obtain ⟨hx, hk⟩ := List.mem_filter.1 (List.mem_of_getLast? h)
  exact ⟨hx, of_decide_eq_true hk⟩

theorem latestOf_eq_none {l : List α} {k : K} (h : ∀ x ∈ l, key x ≠ k) : latestOf key l k = none := by
  have hnil : l.filter (key · = k) = [] := List.filter_eq_nil_iff.2 fun x hx => by simpa using h x hx
  rw [latestOf, hnil, List.getLast?_nil]

/-- What stands after the last element of a key does not matter. -/
theorem latestOf_append_of_ne (l : List α) {l' : List α} {k : K} (h : ∀ x ∈ l', key x ≠ k) :
    latestOf key (l ++ l') k = latestOf key l k := by
  have hnil : l'.filter (key · = k) = [] := List.filter_eq_nil_iff.2 fun x hx => by simpa using h x hx
  rw [latestOf, List.filter_append, hnil, List.append_nil, latestOf]

theorem latestOf_concat (l : List α) (x : α) : latestOf key (l ++ [x]) (key x) = some x := by
  rw [latestOf, getLast?_filter_concat, if_pos rfl]

/-- What is kept of one list is what another keeps exactly where the two have the same latest element of each key. -/
theorem IsLatest.isLatest_iff {l l' kept : List α} (h : IsLatest key l kept) :
    IsLatest key l' kept ↔ ∀ k, latestOf key l k = latestOf key l' k := by
  constructor
  · intro h' k
    refine Option.ext fun x => ⟨fun hx => ?_, fun hx => ?_⟩
    · obtain ⟨-, rfl⟩ := of_latestOf hx
      exact (h'.mem_iff x).1 ((h.mem_iff x).2 hx)
    · obtain ⟨-, rfl⟩ := of_latestOf hx
      exact (h.mem_iff x).1 ((h'.mem_iff x).2 hx)
  · intro heq
    refine ⟨h.increasing, fun x => ?_⟩
    rw [h.mem_iff]
    exact iff_of_eq (congrArg (· = some x) (heq (key x)))

theorem exists_last {ρ : Type*} {p : ρ → Prop} {rs : List ρ} (h : ∃ r ∈ rs, p r) :
    ∃ before r after, rs = before ++ r :: after ∧ p r ∧ ∀ r' ∈ after, ¬ p r' := by
  induction rs with
  | nil => simp at h
  | cons r rs ih =>
    by_cases hrs : ∃ r' ∈ rs, p r'
    · obtain ⟨before, r', after, rfl, hr', hafter⟩ := ih hrs
      exact ⟨r :: before, r', after, rfl, hr', hafter⟩
    · refine ⟨[], r, rs, rfl, ?_, fun r' hr' hp => hrs ⟨r', hr', hp⟩⟩
      obtain ⟨r', hr', hp⟩ := h
      rcases List.mem_cons.1 hr' with rfl | hmem
      · exact hp
      · exact absurd ⟨r', hmem, hp⟩ hrs

section Readings

variable {ρ : Type*} {f g : ρ → Option α}

/-- The latest of a key where the last entry that reads as one is known. -/
theorem latestOf_filterMap_of_last {before after : List ρ} {r : ρ} {x : α} (hr : f r = some x)
    (hafter : ∀ r' ∈ after, ¬ ∃ y, f r' = some y ∧ key y = key x) :
    latestOf key ((before ++ r :: after).filterMap f) (key x) = some x := by
  have hne : ∀ y ∈ after.filterMap f, key y ≠ key x := by
    intro y hy hkey
    obtain ⟨r', hr', hfy⟩ := List.mem_filterMap.1 hy
    exact hafter r' hr' ⟨y, hfy, hkey⟩
  rw [List.filterMap_append, List.filterMap_cons_some hr, ← List.singleton_append, ← List.append_assoc,
    latestOf_append_of_ne _ hne,
    latestOf_concat]

/-- A second reading that leaves some entries out comes to the same latest elements exactly where each entry it leaves out is
followed by another of its key, or says what the last one before it says. -/
theorem latestOf_filterMap_iff (hg : ∀ r, g r = f r ∨ g r = none) (rs : List ρ) :
    (∀ k, latestOf key (rs.filterMap f) k = latestOf key (rs.filterMap g) k) ↔
      ∀ before r after x, rs = before ++ r :: after → g r = none → f r = some x →
        (∃ r' ∈ after, ∃ y, f r' = some y ∧ key y = key x) ∨ latestOf key (before.filterMap g) (key x) = some x := by
  have hgf : ∀ r y, g r = some y → f r = some y := by
    intro r y hy
    rcases hg r with h | h
    · rwa [← h]
    · rw [h] at hy
      cases hy
  have hskip : ∀ (before : List ρ) (r : ρ) (after : List ρ) (k : K), g r = none →
      (∀ r' ∈ after, ¬ ∃ y, f r' = some y ∧ key y = k) →
      latestOf key ((before ++ r :: after).filterMap g) k = latestOf key (before.filterMap g) k := by
    intro before r after k hr hafter
    rw [List.filterMap_append, List.filterMap_cons_none hr]
    refine latestOf_append_of_ne _ fun y hy hkey => ?_
    obtain ⟨r', hr', hgy⟩ := List.mem_filterMap.1 hy
    exact hafter r' hr' ⟨y, hgf r' y hgy, hkey⟩
  constructor
  · rintro hall before r after x rfl hgr hfr
    by_cases hafter : ∃ r' ∈ after, ∃ y, f r' = some y ∧ key y = key x
    · exact Or.inl hafter
    · have hnone : ∀ r' ∈ after, ¬ ∃ y, f r' = some y ∧ key y = key x := fun r' hr' hy => hafter ⟨r', hr', hy⟩
      right
      rw [← hskip before r after (key x) hgr hnone, ← hall, latestOf_filterMap_of_last hfr hnone]
  · intro hall k
    by_cases hex : ∃ r ∈ rs, ∃ y, f r = some y ∧ key y = k
    · obtain ⟨before, r, after, rfl, ⟨x, hfr, rfl⟩, hafter⟩ := exists_last hex
      rw [latestOf_filterMap_of_last hfr hafter]
      rcases hg r with hgr | hgr
      · have hafter' : ∀ r' ∈ after, ¬ ∃ y, g r' = some y ∧ key y = key x := by
          rintro r' hr' ⟨y, hy, hkey⟩
          exact hafter r' hr' ⟨y, hgf r' y hy, hkey⟩
        rw [latestOf_filterMap_of_last (hgr.trans hfr) hafter']
      · rw [hskip before r after (key x) hgr hafter]
        exact ((hall before r after x rfl hgr hfr).resolve_left fun ⟨r', hr', hy⟩ => hafter r' hr' hy).symm
    · have hf : ∀ y ∈ rs.filterMap f, key y ≠ k := by
        intro y hy hkey
        obtain ⟨r, hr, hfy⟩ := List.mem_filterMap.1 hy
        exact hex ⟨r, hr, y, hfy, hkey⟩
      have hg' : ∀ y ∈ rs.filterMap g, key y ≠ k := by
        intro y hy hkey
        obtain ⟨r, hr, hgy⟩ := List.mem_filterMap.1 hy
        exact hex ⟨r, hr, y, hgf r y hgy, hkey⟩
      rw [latestOf_eq_none hf, latestOf_eq_none hg']

end Readings

end Pylib
