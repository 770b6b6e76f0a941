import Mathlib.Data.List.Sort
import Mathlib.Order.Basic

/-!
# Sorting into fronts by sequential search

Elements come one after the other, and each goes to the first front none of whose members dominates it. The fronts then hold each
element once, and an element lies behind a dominator from each front before its own. An element is dominated inside its own front
only by one that came later; whether that happens is read off the ranks of the elements: the rank of an element is the least
number that no dominator which came before it has.
-/

namespace Pylib

variable {α : Type*}

/-- Puts an element into the first front without a dominator of it, or into a new one. -/
def placeInFront (dom : α → α → Bool) (x : α) : List (List α) → List (List α)
  | [] => [[x]]
  | front :: fronts => if front.any (dom · x) then front :: placeInFront dom x fronts else (front ++ [x]) :: fronts

/-- The fronts after the elements of a list. -/
def sequentialFronts (dom : α → α → Bool) (fronts : List (List α)) : List α → List (List α)
  | [] => fronts
  | x :: xs => sequentialFronts dom (placeInFront dom x fronts) xs

/-- The members of front number `k`. -/
def frontAt (fronts : List (List α)) (k : ℕ) : List α := fronts.getD k []

/-- Ranks: those of the dominators which came before are different, and all smaller numbers are among them. -/
def IsRanking (dom : α → α → Bool) (before : α → α → Prop) (s : α → Prop) (rank : α → ℕ) : Prop :=
  ∀ x, s x → (∀ y, s y → before y x → dom y x = true → rank y ≠ rank x) ∧
    ∀ r < rank x, ∃ y, s y ∧ before y x ∧ dom y x = true ∧ rank y = r

/-! ## Where an element is put -/

theorem frontAt_cons_succ (front : List α) (fronts : List (List α)) (k : ℕ) :
    frontAt (front :: fronts) (k + 1) = frontAt fronts k := by
  simp [frontAt]

theorem mem_flatten_iff {fronts : List (List α)} {x : α} : x ∈ fronts.flatten ↔ ∃ k, x ∈ frontAt fronts k := by
  induction fronts with
  | nil => simp [frontAt]
  | cons front fronts ih =>
    rw [List.flatten_cons, List.mem_append, ih]
    constructor
    · rintro (h | ⟨k, hk⟩)
      · exact ⟨0, h⟩
      · exact ⟨k + 1, by rwa [frontAt_cons_succ]⟩
    · rintro ⟨k, hk⟩
      cases k with
      | zero => exact .inl hk
      | succ k => exact .inr ⟨k, by rwa [frontAt_cons_succ] at hk⟩

/-- The front an element is put into: the ones before it hold a dominator, it holds none, and only it changes. -/
theorem placeInFront_spec (dom : α → α → Bool) (x : α) (fronts : List (List α)) :
    ∃ k, (∀ r < k, ∃ y ∈ frontAt fronts r, dom y x = true) ∧ (∀ y ∈ frontAt fronts k, dom y x = false) ∧
      ∀ r y, y ∈ frontAt (placeInFront dom x fronts) r ↔ y ∈ frontAt fronts r ∨ (r = k ∧ y = x) := by
  induction fronts with
  | nil =>
    refine ⟨0, by simp, by simp [frontAt], fun r y => ?_⟩
    cases r <;> simp [placeInFront, frontAt]
  | cons front fronts ih =>
    obtain ⟨k, hbefore, hnone, hmem⟩ := ih
    rw [placeInFront]
    split
    · rename_i hany
      obtain ⟨y, hy, hdom⟩ := List.any_eq_true.1 hany
      refine ⟨k + 1, fun r hr => ?_, fun y hy => hnone y (by rwa [frontAt_cons_succ] at hy), fun r z => ?_⟩
      · cases r with
        | zero => exact ⟨y, hy, hdom⟩
        | succ r =>
          rw [frontAt_cons_succ]
          exact hbefore r (by omega)
      · cases r with
        | zero => simp [frontAt]
        | succ r =>
          rw [frontAt_cons_succ, frontAt_cons_succ, hmem]
          simp
    · rename_i hany
      refine ⟨0, fun r hr => absurd hr (Nat.not_lt_zero r), fun y hy => ?_, fun r z => ?_⟩
      · rw [Bool.not_eq_true, List.any_eq_false] at hany
        simpa using hany y hy
      · cases r <;> simp [frontAt]

theorem placeInFront_perm (dom : α → α → Bool) (x : α) (fronts : List (List α)) :
    (placeInFront dom x fronts).flatten.Perm (x :: fronts.flatten) := by
  induction fronts with
  | nil => simp [placeInFront]
  | cons front fronts ih =>
    rw [placeInFront]
    split
    · rw [List.flatten_cons, List.flatten_cons]
      exact (ih.append_left front).trans List.perm_middle
    · rw [List.flatten_cons, List.flatten_cons, List.append_assoc]
      exact List.perm_middle

/-! ## The fronts of a list -/

/-- What the fronts of the elements of a list satisfy. -/
structure Layered (dom : α → α → Bool) (before : α → α → Prop) (l : List α) (fronts : List (List α)) : Prop where
  perm : fronts.flatten.Perm l
  no_dominator : ∀ k, ∀ x ∈ frontAt fronts k, ∀ y ∈ frontAt fronts k, before y x → dom y x = false
  dominated : ∀ k, ∀ x ∈ frontAt fronts k, ∀ r < k, ∃ y ∈ frontAt fronts r, before y x ∧ dom y x = true

theorem layered_nil (dom : α → α → Bool) (before : α → α → Prop) : Layered dom before [] [] where
  perm := by simp
  no_dominator := by simp [frontAt]
  dominated := by simp [frontAt]

variable {dom : α → α → Bool} {before : α → α → Prop}

theorem Layered.mem_iff {l : List α} {fronts : List (List α)} (h : Layered dom before l fronts) {x : α} :
    x ∈ l ↔ ∃ k, x ∈ frontAt fronts k := by
  rw [← mem_flatten_iff, h.perm.mem_iff]

/-- One more element, which comes after the others. -/
theorem Layered.place {l : List α} {fronts : List (List α)} {x : α} (h : Layered dom before l fronts)
    (hx : ∀ y ∈ l, before y x ∧ ¬ before x y) (hself : ¬ before x x) :
    Layered dom before (l ++ [x]) (placeInFront dom x fronts) := by
  obtain ⟨k, hbefore, hnone, hmem⟩ := placeInFront_spec dom x fronts
  refine ⟨?_, fun r z hz y hy hyz => ?_, fun r z hz r' hr' => ?_⟩
  · exact (placeInFront_perm dom x fronts).trans ((h.perm.cons x).trans (List.perm_append_singleton x l).symm)
  · rcases (hmem r z).1 hz with hzold | ⟨hr, hzx⟩ <;> rcases (hmem r y).1 hy with hyold | ⟨hr', hyx⟩
    · exact h.no_dominator r z hzold y hyold hyz
    · rw [hyx] at hyz
      exact absurd hyz (hx z (h.mem_iff.2 ⟨r, hzold⟩)).2
    · rw [hzx]
      rw [hr] at hyold
      exact hnone y hyold
    · rw [hzx, hyx] at hyz
      exact absurd hyz hself
  · obtain hz | ⟨rfl, rfl⟩ := (hmem r z).1 hz
    · obtain ⟨y, hy, hyz⟩ := h.dominated r z hz r' hr'
      exact ⟨y, (hmem r' y).2 (.inl hy), hyz⟩
    · obtain ⟨y, hy, hdom⟩ := hbefore r' hr'
      exact ⟨y, (hmem r' y).2 (.inl hy), (hx y (h.mem_iff.2 ⟨r', hy⟩)).1, hdom⟩

/-- The fronts after all elements of a list. -/
theorem Layered.sequential {l : List α} {fronts : List (List α)} (h : Layered dom before l fronts) (xs : List α)
    (hxs : (l ++ xs).Pairwise before) (hasymm : ∀ x y, before x y → ¬ before y x) :
    Layered dom before (l ++ xs) (sequentialFronts dom fronts xs) := by
  induction xs generalizing l fronts with
  | nil => simpa [sequentialFronts] using h
  | cons x xs ih =>
    have hassoc : l ++ x :: xs = l ++ [x] ++ xs := by simp
    have hx : ∀ y ∈ l, before y x ∧ ¬ before x y := by
      intro y hy
      have hyx := (List.pairwise_append.1 hxs).2.2 y hy x List.mem_cons_self
      exact ⟨hyx, hasymm y x hyx⟩
    rw [sequentialFronts, hassoc]
    exact ih (h.place hx fun hxx => hasymm x x hxx hxx) (hassoc ▸ hxs)

/-! ## Ranks -/

/-- In distinct elements a front number belongs to one element. -/
theorem frontAt_unique {fronts : List (List α)} (h : fronts.flatten.Nodup) {x : α} {j k : ℕ} (hj : x ∈ frontAt fronts j)
    (hk : x ∈ frontAt fronts k) : j = k := by
  induction fronts generalizing j k with
  | nil => simp [frontAt] at hj
  | cons front fronts ih =>
    rw [List.flatten_cons, List.nodup_append] at h
    obtain ⟨-, hrest, hdisj⟩ := h
    have hapart : ∀ i, x ∈ front → x ∈ frontAt fronts i → False := by
      intro i h0 hi
      exact hdisj x h0 x (mem_flatten_iff.2 ⟨i, hi⟩) rfl
    cases j with
    | zero =>
      cases k with
      | zero => rfl
      | succ k => exact (hapart k hj (frontAt_cons_succ front fronts k ▸ hk)).elim
    | succ j =>
      rw [frontAt_cons_succ] at hj
      cases k with
      | zero => exact (hapart j hk hj).elim
      | succ k =>
        rw [frontAt_cons_succ] at hk
        rw [ih hrest hj hk]

/-- The front numbers are a ranking. -/
theorem Layered.exists_ranking {l : List α} {fronts : List (List α)} (h : Layered dom before l fronts) (hl : l.Nodup) :
    ∃ rank, IsRanking dom before (· ∈ l) rank ∧ ∀ k, ∀ x ∈ frontAt fronts k, rank x = k := by
  classical
  have hnodup : fronts.flatten.Nodup := h.perm.nodup_iff.2 hl
  let rank : α → ℕ := fun x => if hx : ∃ k, x ∈ frontAt fronts k then hx.choose else 0
  have hrank : ∀ k, ∀ x ∈ frontAt fronts k, rank x = k := by
    intro k x hx
    have hex : ∃ k, x ∈ frontAt fronts k := ⟨k, hx⟩
    rw [show rank x = hex.choose from dif_pos hex]
    exact frontAt_unique hnodup hex.choose_spec hx
  refine ⟨rank, fun x hx => ?_, hrank⟩
  obtain ⟨k, hk⟩ := h.mem_iff.1 hx
  refine ⟨fun y hy hyx hdom heq => ?_, fun r hr => ?_⟩
  · obtain ⟨j, hj⟩ := h.mem_iff.1 hy
    rw [hrank j y hj, hrank k x hk] at heq
    subst heq
    rw [h.no_dominator j x hk y hj hyx] at hdom
    cases hdom
  · rw [hrank k x hk] at hr
    obtain ⟨y, hy, hyx, hdom⟩ := h.dominated k x hk r hr
    exact ⟨y, h.mem_iff.2 ⟨r, hy⟩, hyx, hdom, hrank r y hy⟩

/-- A ranking gives each element the number of its front. -/
theorem Layered.rank_eq {l : List α} {fronts : List (List α)} (h : Layered dom before l fronts) {rank : α → ℕ}
    (hrank : IsRanking dom before (· ∈ l) rank) (hwf : ∀ l' : List α, l'.Sublist l → l' ≠ [] → ∃ x ∈ l', ∀ y ∈ l', ¬ before y x) :
    ∀ k, ∀ x ∈ frontAt fronts k, rank x = k := by
  classical
  -- the elements of another rank than their front; the first of them cannot be
  let wrong := l.filter fun x => decide (∃ k, x ∈ frontAt fronts k ∧ rank x ≠ k)
  have hwrong : ∀ x, x ∈ wrong ↔ ∃ k, x ∈ frontAt fronts k ∧ rank x ≠ k := by
    intro x
    simp only [wrong, List.mem_filter, decide_eq_true_eq, and_iff_right_iff_imp]
    rintro ⟨k, hk, -⟩
    exact h.mem_iff.2 ⟨k, hk⟩
  by_cases hempty : wrong = []
  · intro k x hx
    by_contra hne
    have hmem := (hwrong x).2 ⟨k, hx, hne⟩
    rw [hempty] at hmem
    cases hmem
  · obtain ⟨x, hx, hfirst⟩ := hwf wrong List.filter_sublist hempty
    obtain ⟨k, hk, hne⟩ := (hwrong x).1 hx
    have hright : ∀ y, before y x → ∀ j, y ∈ frontAt fronts j → rank y = j := by
      intro y hyx j hj
      by_contra hyne
      exact hfirst y ((hwrong y).2 ⟨j, hj, hyne⟩) hyx
    obtain ⟨hapart, hbelow⟩ := hrank x (h.mem_iff.2 ⟨k, hk⟩)
    rcases Nat.lt_or_gt_of_ne hne with hlt | hgt
    · obtain ⟨y, hy, hyx, hdom⟩ := h.dominated k x hk (rank x) hlt
      exact absurd (hright y hyx _ hy) (hapart y (h.mem_iff.2 ⟨_, hy⟩) hyx hdom)
    · obtain ⟨y, hy, hyx, hdom, hyk⟩ := hbelow k hgt
      obtain ⟨j, hj⟩ := h.mem_iff.1 hy
      rw [hright y hyx j hj] at hyk
      subst hyk
      rw [h.no_dominator j x hk y hj hyx] at hdom
      cases hdom

/-- A list in an order has a first element in each of its parts. -/
theorem exists_first {l : List α} (hl : l.Pairwise before) (hasymm : ∀ x y, before x y → ¬ before y x) (l' : List α)
    (hsub : l'.Sublist l) (hne : l' ≠ []) : ∃ x ∈ l', ∀ y ∈ l', ¬ before y x := by
  cases l' with
  | nil => exact absurd rfl hne
  | cons x xs =>
    have hpair := List.pairwise_cons.1 (hl.sublist hsub)
    refine ⟨x, List.mem_cons_self, fun y hy hyx => ?_⟩
    obtain rfl | hy := List.mem_cons.1 hy
    · exact hasymm y y hyx hyx
    · exact hasymm y x hyx (hpair.1 y hy)

/-- No member of a front dominates another one exactly when no element dominates one that came before it and has its rank. -/
theorem Layered.nonDominated_iff {l : List α} {fronts : List (List α)} (h : Layered dom before l fronts) (hl : l.Pairwise before)
    (hasymm : ∀ x y, before x y → ¬ before y x) (htotal : ∀ x ∈ l, ∀ y ∈ l, x ≠ y → before x y ∨ before y x) :
    (∀ k, ∀ x ∈ frontAt fronts k, ∀ y ∈ frontAt fronts k, y ≠ x → dom y x = false) ↔
      ∀ rank, IsRanking dom before (· ∈ l) rank → ∀ x ∈ l, ∀ y ∈ l, before x y → dom y x = true → rank y ≠ rank x := by
  have hirrefl : ∀ x, ¬ before x x := fun x hx => hasymm x x hx hx
  constructor
  · intro hnone rank hrank x hx y hy hxy hdom heq
    have hfront := h.rank_eq hrank (exists_first hl hasymm)
    obtain ⟨j, hj⟩ := h.mem_iff.1 hx
    obtain ⟨k, hk⟩ := h.mem_iff.1 hy
    rw [hfront j x hj, hfront k y hk] at heq
    subst heq
    have hne : y ≠ x := by
      rintro rfl
      exact hirrefl y hxy
    rw [hnone k x hj y hk hne] at hdom
    cases hdom
  · intro hlater k x hx y hy hne
    have hnodup : l.Nodup := hl.imp fun {a b} hab => by
      rintro rfl
      exact hirrefl a hab
    obtain ⟨rank, hrank, hfront⟩ := h.exists_ranking hnodup
    have hxl := h.mem_iff.2 ⟨k, hx⟩
    have hyl := h.mem_iff.2 ⟨k, hy⟩
    rcases htotal y hyl x hxl hne with hyx | hxy
    · exact h.no_dominator k x hx y hy hyx
    · by_contra hdom
      rw [Bool.not_eq_false] at hdom
      exact hlater rank hrank x hxl y hyl hxy hdom (by rw [hfront k y hy, hfront k x hx])

/-! ## The order of a stable sort -/

variable {K : Type*} [LinearOrder K]

theorem pairwise_orderedInsert (key : α → K) {r : α → α → Prop} {a : α} {l : List α} (ha : ∀ b ∈ l, r a b)
    (h : l.Pairwise fun x y => key x < key y ∨ key x = key y ∧ r x y) :
    (l.orderedInsert (fun x y => key x ≤ key y) a).Pairwise fun x y => key x < key y ∨ key x = key y ∧ r x y := by
  induction l with
  | nil => simp
  | cons b l ih =>
    obtain ⟨hb, hl⟩ := List.pairwise_cons.1 h
    rw [List.orderedInsert]
    split
    · rename_i hab
      refine List.pairwise_cons.2 ⟨fun x hx => ?_, h⟩
      have hax : key a ≤ key x := by
        obtain rfl | hx := List.mem_cons.1 hx
        · exact hab
        · rcases hb x hx with hlt | ⟨heq, -⟩
          · exact hab.trans hlt.le
          · exact hab.trans heq.le
      rcases hax.lt_or_eq with hlt | heq
      · exact .inl hlt
      · exact .inr ⟨heq, ha x hx⟩
    · rename_i hab
      refine List.pairwise_cons.2 ⟨fun x hx => ?_, ih (fun x hx => ha x (List.mem_cons_of_mem b hx)) hl⟩
      obtain rfl | hx := List.mem_cons.1 ((List.perm_orderedInsert _ a l).mem_iff.1 hx)
      · exact .inl (not_le.1 hab)
      · exact hb x hx

/-- A stable sort by a key: of two elements the one with the smaller key comes first, of two with one key the one that came
first. -/
theorem pairwise_insertionSort_key (key : α → K) {r : α → α → Prop} {l : List α} (h : l.Pairwise r) :
    (l.insertionSort fun x y => key x ≤ key y).Pairwise fun x y => key x < key y ∨ key x = key y ∧ r x y := by
  induction l with
  | nil => simp
  | cons a l ih =>
    obtain ⟨ha, hl⟩ := List.pairwise_cons.1 h
    rw [List.insertionSort_cons]
    exact pairwise_orderedInsert key (fun b hb => ha b ((List.mem_insertionSort _).1 hb)) (ih hl)

end Pylib
