import Mathlib.Algebra.BigOperators.Ring.List
import Mathlib.Algebra.Order.BigOperators.Group.List
import Mathlib.Algebra.Order.Field.Basic
import Mathlib.Tactic.Linarith

/-!
# Capped proportional division

An amount is divided over a list of places in order: each place asks for the part of what is left that its weight is of the
weights that are left, and gets it up to its cap. What a cap keeps back goes to the places after it.
-/

namespace Pylib

variable {α : Type} [Field α] [LinearOrder α]

/-- What each place asks for. -/
def demands : α → List α → List α → List α
  | left, w :: ws, cap :: caps =>
    left * (w / (w :: ws).sum) :: demands (left - min (left * (w / (w :: ws).sum)) cap) ws caps
  | _, _, _ => []

/-- What each place gets. -/
def prorate : α → List α → List α → List α
  | left, w :: ws, cap :: caps =>
    min (left * (w / (w :: ws).sum)) cap :: prorate (left - min (left * (w / (w :: ws).sum)) cap) ws caps
  | _, _, _ => []

/-- The cap of place `k` keeps back some of what the place asks for. -/
def CapBinds (left : α) (ws caps : List α) (k : ℕ) : Prop :=
  ∃ demand ∈ (demands left ws caps)[k]?, ∃ cap ∈ caps[k]?, cap < demand

/-- Place `k` has weight, and no place after it has. -/
def LastWeighted (ws : List α) (k : ℕ) : Prop := (∃ w ∈ ws[k]?, 0 < w) ∧ ∀ w ∈ ws.drop (k + 1), w = 0

theorem capBinds_succ {left w cap : α} {ws caps : List α} {k : ℕ} :
    CapBinds left (w :: ws) (cap :: caps) (k + 1) ↔ CapBinds (left - min (left * (w / (w :: ws).sum)) cap) ws caps k := Iff.rfl

theorem capBinds_zero {left w cap : α} {ws caps : List α} :
    CapBinds left (w :: ws) (cap :: caps) 0 ↔ cap < left * (w / (w :: ws).sum) := by
  constructor
  · rintro ⟨_, ⟨⟩, _, ⟨⟩, h⟩
    exact h
  · intro h
    exact ⟨_, rfl, _, rfl, h⟩

/-- No place gets more than its cap. -/
theorem prorate_le_cap (left : α) {ws caps : List α} (hlength : ws.length = caps.length) :
    List.Forall₂ (· ≤ ·) (prorate left ws caps) caps := by
  induction ws generalizing left caps with
  | nil =>
    cases caps with
    | nil => exact .nil
    | cons => cases hlength
  | cons w ws ih =>
    cases caps with
    | nil => cases hlength
    | cons cap caps => exact .cons (min_le_right _ _) (ih _ (Nat.succ.inj hlength))

/-- Places without weight get nothing. -/
theorem prorate_sum_eq_zero {left : α} {ws caps : List α} (hws : ∀ w ∈ ws, w = 0) (hcaps : ∀ cap ∈ caps, 0 ≤ cap) :
    (prorate left ws caps).sum = 0 := by
  induction ws generalizing left caps with
  | nil => rfl
  | cons w ws ih =>
    cases caps with
    | nil => rfl
    | cons cap caps =>
      obtain ⟨hw, hws⟩ := List.forall_mem_cons.1 hws
      obtain ⟨hcap, hcaps⟩ := List.forall_mem_cons.1 hcaps
      rw [prorate, List.sum_cons, ih hws hcaps, hw, zero_div, mul_zero, min_eq_left hcap, add_zero]

variable [IsStrictOrderedRing α]

/-- Of weights that come to something, one is the last that is positive. -/
theorem exists_lastWeighted {ws : List α} (hws : ∀ w ∈ ws, 0 ≤ w) (hsum : 0 < ws.sum) : ∃ k, LastWeighted ws k := by
  induction ws with
  | nil => exact absurd hsum (lt_irrefl _)
  | cons w ws ih =>
    obtain ⟨hw, hws⟩ := List.forall_mem_cons.1 hws
    rcases (List.sum_nonneg hws).eq_or_lt with hzero | hpos
    · rw [List.sum_cons, ← hzero, add_zero] at hsum
      exact ⟨0, ⟨w, rfl, hsum⟩, fun v hv => List.all_zero_of_le_zero_le_of_sum_eq_zero hws hzero.symm hv⟩
    · obtain ⟨k, hk⟩ := ih hws hpos
      exact ⟨k + 1, hk⟩

/-- A place asks for a part of what is left. -/
theorem demand_bounds {left w : α} {ws : List α} (hleft : 0 ≤ left) (hws : ∀ v ∈ w :: ws, 0 ≤ v) :
    0 ≤ left * (w / (w :: ws).sum) ∧ left * (w / (w :: ws).sum) ≤ left := by
  obtain ⟨hw, hws'⟩ := List.forall_mem_cons.1 hws
  have hsum : w ≤ (w :: ws).sum := by
    rw [List.sum_cons]
    exact le_add_of_nonneg_right (List.sum_nonneg hws')
  exact ⟨mul_nonneg hleft (div_nonneg hw (hw.trans hsum)), mul_le_of_le_one_right hleft (div_le_one_of_le₀ hsum (hw.trans hsum))⟩

/-- What is left after a place is not negative. -/
theorem left_nonneg {left w cap : α} {ws : List α} (hleft : 0 ≤ left) (hws : ∀ v ∈ w :: ws, 0 ≤ v) :
    0 ≤ left - min (left * (w / (w :: ws).sum)) cap :=
  sub_nonneg.2 ((min_le_left _ _).trans (demand_bounds hleft hws).2)

/-- No place gets a negative amount. -/
theorem prorate_nonneg {left : α} {ws caps : List α} (hleft : 0 ≤ left) (hws : ∀ w ∈ ws, 0 ≤ w) (hcaps : ∀ cap ∈ caps, 0 ≤ cap) :
    ∀ q ∈ prorate left ws caps, 0 ≤ q := by
  induction ws generalizing left caps with
  | nil => exact fun q hq => absurd hq List.not_mem_nil
  | cons w ws ih =>
    cases caps with
    | nil => exact fun q hq => absurd hq List.not_mem_nil
    | cons cap caps =>
      obtain ⟨hcap, hcaps⟩ := List.forall_mem_cons.1 hcaps
      exact List.forall_mem_cons.2 ⟨le_min (demand_bounds hleft hws).1 hcap,
        ih (left_nonneg hleft hws) (List.forall_mem_cons.1 hws).2 hcaps⟩

/-- The places get no more than the amount. -/
theorem prorate_sum_le {left : α} {ws caps : List α} (hleft : 0 ≤ left) (hws : ∀ w ∈ ws, 0 ≤ w) :
    (prorate left ws caps).sum ≤ left := by
  induction ws generalizing left caps with
  | nil => exact hleft
  | cons w ws ih =>
    cases caps with
    | nil => exact hleft
    | cons cap caps =>
      rw [prorate, List.sum_cons]
      have hrest : (prorate (left - min (left * (w / (w :: ws).sum)) cap) ws caps).sum ≤ left -
          min (left * (w / (w :: ws).sum)) cap :=
        ih (left_nonneg hleft hws) (List.forall_mem_cons.1 hws).2
      linarith

/-- The amount is divided whole exactly where the last place with weight is not capped. -/
theorem prorate_sum_eq_iff {left : α} {ws caps : List α} {m : ℕ} (hleft : 0 < left) (hws : ∀ w ∈ ws, 0 ≤ w)
    (hcaps : ∀ cap ∈ caps, 0 ≤ cap) (hlength : ws.length = caps.length) (hm : LastWeighted ws m) :
    (prorate left ws caps).sum = left ↔ ¬ CapBinds left ws caps m := by
  induction ws generalizing left caps m with
  | nil =>
    obtain ⟨⟨_, ⟨⟩, _⟩, _⟩ := hm
  | cons w ws ih =>
    cases caps with
    | nil => cases hlength
    | cons cap caps =>
      obtain ⟨hw, hws'⟩ := List.forall_mem_cons.1 hws
      obtain ⟨hcap, hcaps⟩ := List.forall_mem_cons.1 hcaps
      rw [prorate, List.sum_cons]
      cases m with
      | zero =>
        -- the place asks for all that is left, and those after it for nothing
        obtain ⟨⟨_, ⟨⟩, hpos⟩, hzero : ∀ v ∈ ws, v = 0⟩ := hm
        have hask : left * (w / (w :: ws).sum) = left := by
          rw [List.sum_cons, List.sum_eq_zero hzero, add_zero, div_self hpos.ne', mul_one]
        rw [capBinds_zero, prorate_sum_eq_zero hzero hcaps, hask, add_zero, min_eq_left_iff, not_lt]
      | succ m =>
        -- a place with weight comes after this one, so something is left for it
        have htail : 0 < ws.sum := by
          obtain ⟨⟨v, hv, hpos⟩, _⟩ := hm
          exact hpos.trans_le (List.single_le_sum hws' v (List.mem_of_getElem? hv))
        have hlt : left * (w / (w :: ws).sum) < left := by
          refine mul_lt_of_lt_one_right hleft ((div_lt_one ?_).2 ?_) <;> rw [List.sum_cons] <;> linarith
        have hleft' : 0 < left - min (left * (w / (w :: ws).sum)) cap := sub_pos.2 ((min_le_left _ _).trans_lt hlt)
        rw [capBinds_succ, ← ih hleft' hws' hcaps (Nat.succ.inj hlength) hm, eq_sub_iff_add_eq']

/-- Where no cap binds, each place gets its part of the whole. -/
theorem prorate_eq_map (amount : α) {ws caps : List α} (hws : ∀ w ∈ ws, 0 ≤ w) (hlength : ws.length = caps.length)
    (h : ∀ k, ¬ CapBinds (amount * ws.sum) ws caps k) : prorate (amount * ws.sum) ws caps = ws.map (amount * ·) := by
  induction ws generalizing caps with
  | nil => rfl
  | cons w ws ih =>
    cases caps with
    | nil => cases hlength
    | cons cap caps =>
      obtain ⟨hw, hws'⟩ := List.forall_mem_cons.1 hws
      have hask : amount * (w :: ws).sum * (w / (w :: ws).sum) = amount * w := by
        rcases (List.sum_nonneg hws).eq_or_lt with hzero | hpos
        · have hw0 : w = 0 := List.all_zero_of_le_zero_le_of_sum_eq_zero hws hzero.symm List.mem_cons_self
          rw [hw0, zero_div, mul_zero, mul_zero]
        · rw [mul_assoc, mul_div_cancel₀ _ hpos.ne']
      have hmin : min (amount * (w :: ws).sum * (w / (w :: ws).sum)) cap = amount * w := by
        rw [← hask]
        exact min_eq_left (not_lt.1 fun hlt => h 0 (capBinds_zero.2 hlt))
      have hleft : amount * (w :: ws).sum - amount * w = amount * ws.sum := by
        rw [List.sum_cons, mul_add, add_sub_cancel_left]
      rw [prorate, hmin, hleft, List.map_cons]
      refine congrArg _ (ih hws' (Nat.succ.inj hlength) fun k hk => h (k + 1) ?_)
      rwa [capBinds_succ, hmin, hleft]

end Pylib
