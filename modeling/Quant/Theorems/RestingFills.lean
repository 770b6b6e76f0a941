import Mathlib.Tactic.Linarith
import Mathlib.Tactic.Ring
import Quant.Lemmas.Risk
import Quant.Services.LiveSession
import Quant.Theorems.LeavesAccounting

namespace Quant

open Pylib

/-! ## Fills of resting orders against `update_fill`

A live session books the fills its gateway matches by itself. It never moves cash, so the two agree only on reports without a
quantity.
-/

/-- Two dictionaries that are equal as such, whatever the order of their entries. -/
def SameEntries (d d' : Dict String ℚ) : Prop := ∀ k, d.get? k = d'.get? k

theorem sameEntries_set_set {d : Dict String ℚ} {k : String} {v v' : ℚ} : SameEntries (d.set k v) (d.set k v') ↔ v = v' := by
  constructor
  · intro h
    have hk := h k
    rw [Dict.get?_set_self, Dict.get?_set_self] at hk
    exact Option.some.inj hk
  · rintro rfl k'
    rfl

theorem sameEntries_set_self {d : Dict String ℚ} {k : String} {v : ℚ} : SameEntries (d.set k v) d ↔ d.get? k = some v := by
  constructor
  · intro h
    rw [← h k, Dict.get?_set_self]
  · intro h k'
    by_cases hk : k' = k
    · rw [hk, Dict.get?_set_self, h]
    · rw [Dict.get?_set_of_ne d v hk]

/-- An entry that is set, and one that `update_fill` sets or drops. -/
theorem sameEntries_set_putLeaves {d : Dict String ℚ} {k : String} {v x : ℚ} :
    SameEntries (d.set k v) (PortfolioRiskState.putLeaves d k x) ↔ v = x ∧ 1 / 10 ^ 12 < |x| := by
  rw [PortfolioRiskState.putLeaves]
  by_cases htiny : tiny x
  · rw [if_pos htiny]
    rw [PortfolioRiskState.tiny_iff] at htiny
    refine iff_of_false (fun h => ?_) fun h => absurd h.2 (not_lt.2 htiny)
    have hk := h k
    rw [Dict.get?_set_self, Dict.get?_erase_self] at hk
    cases hk
  · rw [if_neg htiny, sameEntries_set_set]
    rw [PortfolioRiskState.tiny_iff, not_le] at htiny
    exact (and_iff_left htiny).symm

namespace PortfolioRiskState

variable {s : PortfolioRiskState} {sym : String} {qty price : ℚ} {side : OrderSide}

/-- A fill that `update_fill` does not accept changes nothing. -/
theorem updateFill_refused (h : sym = "" ∨ qty ≤ 0 ∨ price ≤ 0) : (s.updateFill sym qty price side).2 = s := by
  unfold updateFill
  by_cases hsym : sym = ""
  · rw [if_pos hsym]
  · rw [if_neg hsym]
    rcases h with h | h | h
    · exact absurd h hsym
    · rw [positiveFault, if_pos h]
    · rw [show positiveFault price "fill_price" = some _ from if_pos h]
      cases positiveFault qty "filled_qty" <;> rfl

/-- Cash, positions and leaves after a fill that `update_fill` accepts. -/
theorem updateFill_accepted (s : PortfolioRiskState) (side : OrderSide) (hsym : sym ≠ "") (hqty : 0 < qty) (hprice : 0 < price) :
    (s.updateFill sym qty price side).2.cash = (s.book sym qty price side).cash ∧
      (s.updateFill sym qty price side).2.positions = (s.book sym qty price side).positions ∧
      (s.updateFill sym qty price side).2.pendingLeaves = (s.book sym qty price side).pendingLeaves := by
  unfold updateFill
  rw [if_neg hsym, positiveFault_eq_none.2 hqty, positiveFault_eq_none.2 hprice]
  dsimp only
  cases (s.book sym qty price side).currentEquity with
  | error exc => exact ⟨rfl, rfl, rfl⟩
  | ok eq =>
    dsimp only [raisePeak]
    split <;> exact ⟨rfl, rfl, rfl⟩

end PortfolioRiskState

/-! ### What the session books -/

section

variable {s : PortfolioRiskState} {sym : String} {rep : ExecutionReport} {fillsCount : ℕ}

/-- The leaves the session writes. -/
def matchedLeaves (side : OrderSide) (leaves qty : ℚ) : ℚ := if side = .buy then max 0 (leaves - qty) else min 0 (leaves + qty)

theorem bookMatchedReport_skip (h : ¬ (rep.execType = .filled ∨ rep.execType = .partiallyFilled ∨ 0 < rep.lastQuantity)) :
    (bookMatchedReport sym rep fillsCount s).2 = s := by
  rw [bookMatchedReport, if_neg h]

theorem bookMatchedReport_booked (h : rep.execType = .filled ∨ rep.execType = .partiallyFilled ∨ 0 < rep.lastQuantity) :
    (bookMatchedReport sym rep fillsCount s).2 = { s with
      positions := s.positions.set sym (s.positions.getD sym 0 + rep.side.signed rep.lastQuantity)
      pendingLeaves := s.pendingLeaves.set sym (matchedLeaves rep.side (s.pendingLeaves.getD sym 0) rep.lastQuantity) } := by
  rw [bookMatchedReport, if_pos h]
  cases hside : rep.side <;> simp [matchedLeaves, OrderSide.signed]

/-- Leaves on which both agree for a fill: on the side of the fill with more than the tolerance left after it, or an entry of zero
for a purchase. -/
def LeavesAgree (side : OrderSide) (leaves qty : ℚ) : Prop :=
  match side with
  | .buy => 1 / 10 ^ 12 < leaves - qty ∨ leaves = 0
  | .sell => leaves + qty < -(1 / 10 ^ 12)

/-- The leaves the session and `update_fill` write for a fill. -/
theorem sameEntries_leaves_iff {leaves : Dict String ℚ} {side : OrderSide} {qty : ℚ} (hqty : 0 < qty) :
    SameEntries (leaves.set sym (matchedLeaves side (leaves.getD sym 0) qty))
      (PortfolioRiskState.reconcileLeaves leaves sym qty side) ↔
      ∃ l, leaves.get? sym = some l ∧ LeavesAgree side l qty := by
  have htol : (0 : ℚ) < 1 / 10 ^ 12 := by norm_num
  cases hl : leaves.get? sym with
  | none =>
    have hrec : PortfolioRiskState.reconcileLeaves leaves sym qty side = leaves := by
      simp [PortfolioRiskState.reconcileLeaves, hl]
    rw [hrec, sameEntries_set_self, hl]
    simp
  | some l =>
    have hex : (∃ l', some l = some l' ∧ LeavesAgree side l' qty) ↔ LeavesAgree side l qty := by simp
    rw [hex, Dict.getD_of_get?_some 0 hl]
    cases side with
    | buy =>
      simp only [PortfolioRiskState.reconcileLeaves, hl, matchedLeaves, if_true, LeavesAgree]
      by_cases hpos : 0 < l
      · rw [if_pos hpos, sameEntries_set_putLeaves, abs_of_nonneg (le_max_left _ _), lt_max_iff]
        simp only [true_and, not_lt.2 htol.le, false_or, hpos.ne', or_false]
      · rw [if_neg hpos, sameEntries_set_self, hl, max_eq_left (by linarith), Option.some.injEq]
        refine ⟨.inr, ?_⟩
        rintro (h | h)
        · linarith
        · exact h
    | sell =>
      simp only [PortfolioRiskState.reconcileLeaves, hl, matchedLeaves,
        if_neg (show ¬ OrderSide.sell = .buy by decide), LeavesAgree]
      rw [sameEntries_set_putLeaves]
      rcases lt_trichotomy l 0 with hneg | rfl | hpos
      · rw [if_pos hneg, abs_of_nonpos (min_le_left _ _), lt_neg, min_lt_iff]
        simp only [true_and, not_lt.2 (neg_nonpos.2 htol.le), false_or]
      · rw [if_neg (lt_irrefl _), if_neg (lt_irrefl _), abs_zero]
        exact iff_of_false (fun h => absurd h.2 (not_lt.2 htol.le)) (by linarith)
      · rw [if_neg hpos.not_gt, if_pos hpos, min_eq_left (by linarith)]
        refine iff_of_false (fun h => ?_) (by linarith)
        rw [← h.1, abs_zero] at h
        exact absurd h.2 (not_lt.2 htol.le)

/-- On a fill that `update_fill` accepts, the session does not move cash, and keeps a position and leaves that `update_fill`
cleans. -/
theorem bookMatchedReport_accepted (s : PortfolioRiskState) (fillsCount : ℕ) (hsym : sym ≠ "") (hqty : 0 < rep.lastQuantity)
    (hprice : 0 < rep.lastPrice) :
    (bookMatchedReport sym rep fillsCount s).2.cash =
        (s.updateFill sym rep.lastQuantity rep.lastPrice rep.side).2.cash + rep.side.signed (rep.lastQuantity * rep.lastPrice) ∧
      (SameEntries (bookMatchedReport sym rep fillsCount s).2.positions
          (s.updateFill sym rep.lastQuantity rep.lastPrice rep.side).2.positions ↔
        s.positions.getD sym 0 + rep.side.signed rep.lastQuantity = 0 ∨
          1 / 10 ^ 12 ≤ |s.positions.getD sym 0 + rep.side.signed rep.lastQuantity|) ∧
      (SameEntries (bookMatchedReport sym rep fillsCount s).2.pendingLeaves
          (s.updateFill sym rep.lastQuantity rep.lastPrice rep.side).2.pendingLeaves ↔
        ∃ l, s.pendingLeaves.get? sym = some l ∧ LeavesAgree rep.side l rep.lastQuantity) := by
  obtain ⟨hcash, hpos, hleaves⟩ := PortfolioRiskState.updateFill_accepted s rep.side hsym hqty hprice
  rw [hcash, hpos, hleaves, bookMatchedReport_booked (.inr (.inr hqty))]
  refine ⟨?_, ?_, sameEntries_leaves_iff hqty⟩
  · rw [PortfolioRiskState.book]
    ring
  · simp only [PortfolioRiskState.book, sameEntries_set_set, PortfolioRiskState.cleaned]
    split
    · rename_i hsmall
      rw [or_iff_left (not_le.2 hsmall)]
    · rename_i hlarge
      exact iff_of_true rfl (.inr (not_lt.1 hlarge))

theorem signed_eq_zero {side : OrderSide} {x : ℚ} (h : side.signed x = 0) : x = 0 := by
  cases side with
  | buy => exact h
  | sell => exact neg_eq_zero.1 h

/-- Leaves that a fill of nothing leaves as they are. -/
theorem matchedLeaves_zero {side : OrderSide} {l : ℚ} : matchedLeaves side l 0 = l ↔ 0 ≤ side.signed l := by
  cases side with
  | buy => simp [matchedLeaves, OrderSide.signed]
  | sell => simp [matchedLeaves, OrderSide.signed]

/-- The session books a report as `update_fill` books its quantity, price and side exactly where the report has no quantity, and
is not of an execution or finds entries of the symbol that it does not change. On the executions that `update_fill` accepts cash
always differs. -/
theorem bookMatchedReport_agrees_iff (s : PortfolioRiskState) (sym : String) (rep : ExecutionReport) (fillsCount : ℕ) :
    ((bookMatchedReport sym rep fillsCount s).2.cash = (s.updateFill sym rep.lastQuantity rep.lastPrice rep.side).2.cash ∧
        SameEntries (bookMatchedReport sym rep fillsCount s).2.positions
          (s.updateFill sym rep.lastQuantity rep.lastPrice rep.side).2.positions ∧
        SameEntries (bookMatchedReport sym rep fillsCount s).2.pendingLeaves
          (s.updateFill sym rep.lastQuantity rep.lastPrice rep.side).2.pendingLeaves) ↔
      rep.lastQuantity = 0 ∧ ((rep.execType ≠ .filled ∧ rep.execType ≠ .partiallyFilled) ∨
        (s.positions.contains sym = true ∧ ∃ l, s.pendingLeaves.get? sym = some l ∧ 0 ≤ rep.side.signed l)) := by
  rcases rep.lastQuantity_nonneg.lt_or_eq with hqty | hzero
  · refine iff_of_false (fun ⟨hcash, hpos, _⟩ => ?_) fun h => hqty.ne' h.1
    by_cases haccepted : sym ≠ "" ∧ 0 < rep.lastPrice
    · have hdiff := (bookMatchedReport_accepted s fillsCount haccepted.1 hqty haccepted.2).1
      rw [hcash, left_eq_add] at hdiff
      exact (mul_pos hqty haccepted.2).ne' (signed_eq_zero hdiff)
    · have hrefused : sym = "" ∨ rep.lastQuantity ≤ 0 ∨ rep.lastPrice ≤ 0 := by
        by_cases hsym : sym = ""
        · exact .inl hsym
        · exact .inr (.inr (not_lt.1 fun hprice => haccepted ⟨hsym, hprice⟩))
      rw [PortfolioRiskState.updateFill_refused hrefused, bookMatchedReport_booked (.inr (.inr hqty)),
        sameEntries_set_self] at hpos
      have hsame := Dict.getD_of_get?_some 0 hpos
      exact hqty.ne' (signed_eq_zero (left_eq_add.1 hsame))
  · rw [← hzero, PortfolioRiskState.updateFill_refused (.inr (.inl le_rfl))]
    by_cases hexec : rep.execType = .filled ∨ rep.execType = .partiallyFilled
    · have hbooked : rep.execType = .filled ∨ rep.execType = .partiallyFilled ∨ 0 < rep.lastQuantity := by
        rw [← or_assoc]
        exact .inl hexec
      rw [bookMatchedReport_booked hbooked, ← hzero]
      have hnot : ¬ (rep.execType ≠ .filled ∧ rep.execType ≠ .partiallyFilled) := by
        rw [← not_or, not_not]
        exact hexec
      have hsigned : rep.side.signed 0 = 0 := by cases rep.side <;> simp [OrderSide.signed]
      simp only [sameEntries_set_self, hsigned, add_zero, true_and, hnot, false_or]
      refine and_congr ?_ ?_
      · rw [Dict.contains, Dict.getD]
        cases s.positions.get? sym <;> simp
      · rw [Dict.getD]
        cases s.pendingLeaves.get? sym with
        | none => simp
        | some l => simp [← matchedLeaves_zero, eq_comm]
    · rw [not_or] at hexec
      rw [bookMatchedReport_skip (by simp [hexec, ← hzero])]
      exact iff_of_true ⟨rfl, fun _ => rfl, fun _ => rfl⟩ ⟨rfl, .inl hexec⟩

/-! A resting purchase of one share, filled at one hundred. -/

def restingPurchase : ExecutionReport := reportAtHundred .buy .filled 1 Literal.one_nonneg

/-- The portfolio while the order rests. -/
def restingState : PortfolioRiskState where
  cash := 1000
  pendingLeaves := (∅ : Dict String ℚ).set "AAPL" 1
  peakEquity := 1000
  initialEquity := 1000

theorem bookMatchedReport_restingPurchase :
    (bookMatchedReport "AAPL" restingPurchase 0 restingState).2.cash = 1000 ∧
      (restingState.updateFill "AAPL" restingPurchase.lastQuantity restingPurchase.lastPrice restingPurchase.side).1 = .ok () ∧
      (restingState.updateFill "AAPL" restingPurchase.lastQuantity restingPurchase.lastPrice restingPurchase.side).2.cash =
      900 := by
  decide +kernel

end
end Quant
