import Mathlib.Algebra.BigOperators.Group.List.Basic
import Mathlib.Algebra.Order.BigOperators.Group.List
import Mathlib.Tactic.Linarith

/-!
# Cheapest fillings

Amounts put into places that have each a capacity and a unit cost. A filling with a threshold, all below it full and all above it
empty, costs no more than any other filling of the same total; filling the places in the order of their costs gives one.
-/

namespace Pylib

variable {ι : Type*} {K : Type*} [Field K] [LinearOrder K]

/-- Places that cost less than a threshold are full, places that cost more are empty. -/
structure Threshold (l : List ι) (cost cap x : ι → K) (φ : K) : Prop where
  full : ∀ i ∈ l, cost i < φ → x i = cap i
  empty : ∀ i ∈ l, φ < cost i → x i = 0

namespace Threshold

variable {l : List ι} {cost cap x y : ι → K} {φ : K}

/-- A full place in front of a filling with a threshold, where it costs no more than the others. -/
theorem cons_full {i : ι} (h : Threshold l cost cap x φ) (hle : ∀ j ∈ l, cost i ≤ cost j) (hfull : x i = cap i) :
    Threshold (i :: l) cost cap x (max φ (cost i)) := by
  constructor
  · intro j hj hlt
    obtain rfl | hj := List.mem_cons.1 hj
    · exact hfull
    · obtain hφ | hi := lt_max_iff.1 hlt
      · exact h.full j hj hφ
      · exact absurd hi (not_lt.2 (hle j hj))
  · intro j hj hlt
    obtain ⟨hφ, hi⟩ := max_lt_iff.1 hlt
    obtain rfl | hj := List.mem_cons.1 hj
    · exact absurd hi (lt_irrefl _)
    · exact h.empty j hj hφ

/-- Any place in front of empty ones, where it costs no more than these. -/
theorem cons_empty {i : ι} (hle : ∀ j ∈ l, cost i ≤ cost j) (hempty : ∀ j ∈ l, x j = 0) :
    Threshold (i :: l) cost cap x (cost i) := by
  constructor
  · intro j hj hlt
    obtain rfl | hj := List.mem_cons.1 hj
    · exact absurd hlt (lt_irrefl _)
    · exact absurd hlt (not_lt.2 (hle j hj))
  · intro j hj hlt
    obtain rfl | hj := List.mem_cons.1 hj
    · exact absurd hlt (lt_irrefl _)
    · exact hempty j hj

theorem nil (cost cap x : ι → K) (φ : K) : Threshold [] cost cap x φ := by
  constructor <;> intro i hi <;> cases hi

variable [IsStrictOrderedRing K]

/-- Moving an amount across the threshold does not pay. -/
theorem exchange (h : Threshold l cost cap x φ) {i : ι} (hi : i ∈ l) (hy : 0 ≤ y i ∧ y i ≤ cap i) :
    φ * (y i - x i) ≤ (y i - x i) * cost i := by
  obtain hlt | heq | hgt := lt_trichotomy (cost i) φ
  · have hx := h.full i hi hlt
    nlinarith [mul_nonneg (sub_nonneg.2 hlt.le) (sub_nonneg.2 hy.2)]
  · rw [heq, mul_comm]
  · have hx := h.empty i hi hgt
    nlinarith [mul_nonneg (sub_nonneg.2 hgt.le) hy.1]

/-- A filling with a threshold is the cheapest of its total. -/
theorem minimal (h : Threshold l cost cap x φ) (hy : ∀ i ∈ l, 0 ≤ y i ∧ y i ≤ cap i) (htotal : (l.map y).sum = (l.map x).sum) :
    (l.map (fun i => x i * cost i)).sum ≤ (l.map (fun i => y i * cost i)).sum := by
  have hdiff : ∀ l' : List ι, (∀ i ∈ l', i ∈ l) →
      φ * ((l'.map y).sum - (l'.map x).sum) ≤
        (l'.map (fun i => y i * cost i)).sum - (l'.map (fun i => x i * cost i)).sum := by
    intro l'
    induction l' with
    | nil =>
      intro _
      simp
    | cons i l' ih =>
      intro hsub
      have hi := h.exchange (hsub i List.mem_cons_self) (hy i (hsub i List.mem_cons_self))
      have hrest := ih (fun j hj => hsub j (List.mem_cons_of_mem i hj))
      simp only [List.map_cons, List.sum_cons]
      linarith
  have hall := hdiff l (fun _ hi => hi)
  rw [htotal, sub_self, mul_zero] at hall
  exact sub_nonneg.1 hall

end Threshold

end Pylib
