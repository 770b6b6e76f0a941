import Mathlib.Data.List.Forall2

/-!
# A step for each element

What a loop that takes a step for each element of a list, and stops at the first that raises, returns: the results one by one.
-/

namespace Pylib

variable {ε α β : Type*} {f : α → Except ε β}

/-- Where the loop returns, each result is of its element. -/
theorem forall₂_of_mapM_ok {l : List α} {ys : List β} (h : l.mapM f = .ok ys) : List.Forall₂ (fun x y => f x = .ok y) l ys := by
  induction l generalizing ys with
  | nil =>
    cases h
    exact .nil
  | cons x l ih =>
    rw [List.mapM_cons] at h
    cases hx : f x with
    | error exc =>
      rw [hx] at h
      cases h
    | ok y =>
      cases hl : l.mapM f with
      | error exc =>
        rw [hx, hl] at h
        cases h
      | ok ys' =>
        rw [hx, hl] at h
        cases h
        exact .cons hx (ih hl)

/-- Where every step returns, the loop does. -/
theorem mapM_ok_of_forall {l : List α} (h : ∀ x ∈ l, ∃ y, f x = .ok y) : ∃ ys, l.mapM f = .ok ys := by
  induction l with
  | nil => exact ⟨[], rfl⟩
  | cons x l ih =>
    obtain ⟨y, hy⟩ := h x List.mem_cons_self
    obtain ⟨ys, hys⟩ := ih fun x' hx' => h x' (List.mem_cons_of_mem x hx')
    refine ⟨y :: ys, ?_⟩
    rw [List.mapM_cons, hy, hys]
    rfl

/-- Where the loop raises, a step raised. -/
theorem exists_of_mapM_error {l : List α} {exc : ε} (h : l.mapM f = .error exc) : ∃ x ∈ l, f x = .error exc := by
  induction l with
  | nil => cases h
  | cons x l ih =>
    rw [List.mapM_cons] at h
    cases hx : f x with
    | error exc' =>
      rw [hx] at h
      cases h
      exact ⟨x, List.mem_cons_self, hx⟩
    | ok y =>
      cases hl : l.mapM f with
      | error exc' =>
        rw [hx, hl] at h
        cases h
        obtain ⟨x', hx', hf⟩ := ih hl
        exact ⟨x', List.mem_cons_of_mem x hx', hf⟩
      | ok ys =>
        rw [hx, hl] at h
        cases h

theorem mapM_congr {g : α → Except ε β} {l : List α} (h : ∀ x ∈ l, f x = g x) : l.mapM f = l.mapM g := by
  induction l with
  | nil => rfl
  | cons x l ih => rw [List.mapM_cons, List.mapM_cons, h x List.mem_cons_self, ih fun y hy => h y (List.mem_cons_of_mem x hy)]

/-- The loop stops at the first element whose step raises. -/
theorem mapM_error_of_find? {p : α → Bool} {l : List α} {x : α} {exc : ε} (hpass : ∀ y ∈ l, p y = false → ∃ z, f y = .ok z)
    (hfind : l.find? p = some x) (hx : f x = .error exc) : l.mapM f = .error exc := by
  induction l with
  | nil => cases hfind
  | cons y l ih =>
    rw [List.mapM_cons]
    cases hy : p y with
    | true =>
      rw [List.find?_cons_of_pos hy, Option.some_inj] at hfind
      rw [hfind, hx]
      rfl
    | false =>
      rw [List.find?_cons_of_neg (by simp [hy])] at hfind
      obtain ⟨z, hz⟩ := hpass y List.mem_cons_self hy
      rw [hz, ih (fun y' hy' => hpass y' (List.mem_cons_of_mem y hy')) hfind]
      rfl

/-- Where every step returns, the results are those of the steps. -/
theorem mapM_eq_ok_map {g : α → β} {l : List α} (h : ∀ x ∈ l, f x = .ok (g x)) : l.mapM f = .ok (l.map g) := by
  induction l with
  | nil => rfl
  | cons x l ih =>
    rw [List.mapM_cons, h x List.mem_cons_self, ih fun y hy => h y (List.mem_cons_of_mem x hy)]
    rfl

/-- The results are those of the elements. -/
theorem mem_iff_of_forall₂ {l : List α} {ys : List β} (h : List.Forall₂ (fun x y => f x = .ok y) l ys) (y : β) :
    y ∈ ys ↔ ∃ x ∈ l, f x = .ok y := by
  induction h with
  | nil => simp
  | cons hxy _ ih =>
    rw [List.mem_cons, ih]
    constructor
    · rintro (rfl | ⟨x', hx', hf⟩)
      · exact ⟨_, List.mem_cons_self, hxy⟩
      · exact ⟨x', List.mem_cons_of_mem _ hx', hf⟩
    · rintro ⟨x', hx', hf⟩
      rcases List.mem_cons.1 hx' with rfl | hx'
      · rw [hxy] at hf
        exact .inl (Except.ok.inj hf).symm
      · exact .inr ⟨x', hx', hf⟩

/-- Lists related by a function on either side have the same images. -/
theorem map_eq_of_forall₂ {γ : Type*} {f : α → γ} {g : β → γ} {l : List α} {ys : List β}
    (h : List.Forall₂ (fun x y => f x = g y) l ys) : l.map f = ys.map g := by
  rw [← List.forall₂_eq_eq_eq, List.forall₂_map_left_iff, List.forall₂_map_right_iff]
  exact h

/-- The result at a position is of the element there. -/
theorem getElem?_of_forall₂ {R : α → β → Prop} {l : List α} {ys : List β} (h : List.Forall₂ R l ys) {i : ℕ} {x : α}
    (hx : l[i]? = some x) : ∃ y, ys[i]? = some y ∧ R x y := by
  induction h generalizing i with
  | nil => cases hx
  | cons hxy _ ih =>
    cases i with
    | zero =>
      cases hx
      exact ⟨_, rfl, hxy⟩
    | succ i => exact ih hx

theorem exists_of_forall₂_right {R : α → β → Prop} {l : List α} {ys : List β} (h : List.Forall₂ R l ys) {y : β} (hy : y ∈ ys) :
    ∃ x ∈ l, R x y := by
  induction h with
  | nil => cases hy
  | cons hxy _ ih =>
    rcases List.mem_cons.1 hy with rfl | hy
    · exact ⟨_, List.mem_cons_self, hxy⟩
    · obtain ⟨x, hx, hR⟩ := ih hy
      exact ⟨x, List.mem_cons_of_mem _ hx, hR⟩

/-- One changed element is one step, and the others none. -/
theorem forall₂_modify {R : α → α → Prop} (hrefl : ∀ x, R x x) {g : α → α} (hg : ∀ x, R x (g x)) (l : List α) (i : ℕ) :
    List.Forall₂ R l (l.modify i g) := by
  induction l generalizing i with
  | nil =>
    rw [List.modify_nil]
    exact .nil
  | cons x l ih =>
    cases i with
    | zero => exact .cons (hg x) (List.forall₂_same.2 fun y _ => hrefl y)
    | succ i => exact .cons (hrefl x) (ih i)

end Pylib
