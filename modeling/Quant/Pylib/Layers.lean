import Mathlib.Data.Fintype.Card
import Mathlib.Data.List.Chain
import Mathlib.Data.List.Induction
import Mathlib.Order.WellFounded
import Mathlib.Data.Fintype.Order

/-!
# Levels of a finite order

Each element of a finite strict order has a level: one more than the highest level among the elements that dominate it. The level
is the length of the longest chains that end at the element.
-/

namespace Pylib

variable {β : Type*} {dom : β → β → Prop} {level : β → ℕ}

/-- The longest chains of successive dominations that end at `x` have `k` of them. -/
structure IsLongestChain (dom : β → β → Prop) (x : β) (k : ℕ) : Prop where
  exists_chain : ∃ c : List β, (c ++ [x]).IsChain dom ∧ c.length = k
  length_le : ∀ c : List β, (c ++ [x]).IsChain dom → c.length ≤ k

/-- A level is above the levels of all dominators, and just above one of them where it is not the lowest. -/
structure IsLevel (dom : β → β → Prop) (level : β → ℕ) : Prop where
  lt_of_dom : ∀ {x y}, dom x y → level x < level y
  exists_below : ∀ {y k}, level y = k + 1 → ∃ x, dom x y ∧ level x = k

theorem isChain_concat_concat {c : List β} {x y : β} : (c ++ [x] ++ [y]).IsChain dom ↔ (c ++ [x]).IsChain dom ∧ dom x y := by
  rw [List.isChain_append]
  simp

theorem IsLongestChain.unique {x : β} {j k : ℕ} (hj : IsLongestChain dom x j) (hk : IsLongestChain dom x k) : j = k := by
  obtain ⟨c, hc, rfl⟩ := hj.exists_chain
  obtain ⟨c', hc', rfl⟩ := hk.exists_chain
  exact le_antisymm (hk.length_le c hc) (hj.length_le c' hc')

namespace IsLevel

theorem exists_chain (h : IsLevel dom level) {k : ℕ} {x : β} (hx : level x = k) : ∃ c :
    List β, (c ++ [x]).IsChain dom ∧ c.length = k := by
  induction k generalizing x with
  | zero => exact ⟨[], by simp, rfl⟩
  | succ k ih =>
    obtain ⟨y, hyx, hy⟩ := h.exists_below hx
    obtain ⟨c, hc, hlen⟩ := ih hy
    exact ⟨c ++ [y], isChain_concat_concat.2 ⟨hc, hyx⟩, by simp [hlen]⟩

theorem length_le (h : IsLevel dom level) (c : List β) {x : β} (hc : (c ++ [x]).IsChain dom) : c.length ≤ level x := by
  induction c using List.reverseRecOn generalizing x with
  | nil => exact Nat.zero_le _
  | append_singleton c y ih =>
    obtain ⟨hy, hyx⟩ := isChain_concat_concat.1 hc
    rw [List.length_append, List.length_singleton]
    exact (ih hy).trans_lt (h.lt_of_dom hyx)

/-- The level of an element is the length of its longest chains. -/
theorem isLongestChain (h : IsLevel dom level) (x : β) : IsLongestChain dom x (level x) :=
  ⟨h.exists_chain rfl, fun c => h.length_le c⟩

theorem isLongestChain_iff (h : IsLevel dom level) {x : β} {k : ℕ} : IsLongestChain dom x k ↔ level x = k := by
  constructor
  · exact fun hk => (h.isLongestChain x).unique hk
  · rintro rfl
    exact h.isLongestChain x

/-- A chain of a strict order does not come back, so the levels stay below the number of elements. -/
theorem lt_card [Fintype β] (h : IsLevel dom level) (hirrefl : ∀ x, ¬ dom x x)
    (htrans : ∀ x y z, dom x y → dom y z → dom x z) (x : β) :
    level x < Fintype.card β := by
  obtain ⟨c, hc, hlen⟩ := h.exists_chain (rfl : level x = level x)
  have : IsTrans β dom := ⟨htrans⟩
  have hnodup : (c ++ [x]).Nodup := by
    refine hc.pairwise.imp fun hab => ?_
    rintro rfl
    exact hirrefl _ hab
  have hcard := hnodup.length_le_card
  rw [List.length_append, List.length_singleton, hlen] at hcard
  exact hcard

end IsLevel

/-- A finite strict order has levels. -/
theorem exists_isLevel [Fintype β] (hirrefl : ∀ x, ¬ dom x x) (htrans : ∀ x y z, dom x y → dom y z → dom x z) :
    ∃ level : β → ℕ, IsLevel dom level := by
  classical
  have htr : IsTrans β dom := ⟨htrans⟩
  have hir : Std.Irrefl dom := ⟨hirrefl⟩
  have hwf : WellFounded dom := Finite.wellFounded_of_trans_of_irrefl dom
  let above (y : β) (rec : ∀ x, dom x y → ℕ) (x : β) : ℕ := if h : dom x y then rec x h + 1 else 0
  let level : β → ℕ := hwf.fix fun y rec => Finset.univ.sup (above y rec)
  have hlevel : ∀ y, level y = Finset.univ.sup fun x => if dom x y then level x + 1 else 0 := fun y => hwf.fix_eq _ y
  refine ⟨level, ?_, ?_⟩
  · intro x y hxy
    have hle := Finset.le_sup (f := fun x => if dom x y then level x + 1 else 0) (Finset.mem_univ x)
    rw [← hlevel y] at hle
    exact Nat.lt_of_succ_le (by simpa [hxy] using hle)
  · intro y k hk
    have hne : (Finset.univ : Finset β).Nonempty := ⟨y, Finset.mem_univ y⟩
    obtain ⟨x, -, hx⟩ := Finset.exists_mem_eq_sup _ hne fun x => if dom x y then level x + 1 else 0
    rw [← hlevel y, hk] at hx
    by_cases hxy : dom x y
    · rw [if_pos hxy] at hx
      exact ⟨x, hxy, (Nat.succ.inj hx).symm⟩
    · rw [if_neg hxy] at hx
      cases hx

end Pylib
