import Mathlib.Tactic.Linarith
import Quant.Execution.Risk

/-!
# The portfolio under fills and checks

What the firewall leaves of a portfolio it clears, when a fill can be booked, and the leaves each operation leaves at a symbol.
-/

namespace Quant

open Pylib

namespace PortfolioRiskState

/-! ## Valuation -/

/-- Every position that counts has a valuation price. -/
def Valued (s : PortfolioRiskState) : Prop := ∃ eq, s.currentEquity = .ok eq

theorem addValues_ok_iff {price : String → Except Exc ℚ} {l : List (String × ℚ)} {c : ℚ} :
    (∃ eq, addValues price l c = .ok eq) ↔ ∀ p ∈ l, tiny p.2 = true ∨ ∃ x, price p.1 = .ok x := by
  induction l generalizing c with
  | nil => simp [addValues]
  | cons p l ih =>
    obtain ⟨sym, pos⟩ := p
    simp only [addValues, List.forall_mem_cons]
    by_cases ht : tiny pos = true
    · simp only [ht, if_true, true_or, true_and]
      exact ih
    · simp only [ht, Bool.false_eq_true, if_false, false_or]
      cases hp : price sym with
      | error exc => simp
      | ok x => simpa using ih

theorem priceOf_ok_iff {s : PortfolioRiskState} {sym : String} :
    (∃ x, s.priceOf sym = .ok x) ↔ ∃ x, s.currentPrices.get? sym = some x ∧ 0 < x := by
  unfold priceOf
  split
  · simp [*]
  · split <;> simp_all

theorem valued_iff {s : PortfolioRiskState} :
    s.Valued ↔ ∀ sym pos, s.positions.get? sym = some pos → tiny pos = true ∨
      ∃ x, s.currentPrices.get? sym = some x ∧ 0 < x := by
  unfold Valued currentEquity
  rw [addValues_ok_iff]
  constructor
  · intro h sym pos hp
    exact (h (sym, pos) ((Dict.mem_items_iff _ _ _).2 hp)).imp_right priceOf_ok_iff.1
  · rintro h ⟨sym, pos⟩ hp
    exact (h sym pos ((Dict.mem_items_iff _ _ _).1 hp)).imp_right priceOf_ok_iff.2

/-- A fill at a positive price keeps the portfolio valued. -/
theorem Valued.book {s : PortfolioRiskState} (h : s.Valued) (sym : String) (qty : ℚ) {price : ℚ} (hp : 0 < price)
    (side : OrderSide) : (s.book sym qty price side).Valued := by
  rw [valued_iff] at h ⊢
  intro sym' pos hpos
  simp only [PortfolioRiskState.book, Dict.get?_set] at hpos ⊢
  by_cases hs : sym' = sym
  · exact .inr ⟨price, by simp [hs], hp⟩
  · simp only [hs, if_false] at hpos ⊢
    exact h sym' pos hpos

@[simp]
theorem raisePeak_positions (s : PortfolioRiskState) (eq : ℚ) : (s.raisePeak eq).positions = s.positions := by
  unfold raisePeak
  split <;> rfl

@[simp]
theorem raisePeak_pendingLeaves (s : PortfolioRiskState) (eq : ℚ) : (s.raisePeak eq).pendingLeaves = s.pendingLeaves := by
  unfold raisePeak
  split <;> rfl

@[simp]
theorem raisePeak_currentPrices (s : PortfolioRiskState) (eq : ℚ) : (s.raisePeak eq).currentPrices = s.currentPrices := by
  unfold raisePeak
  split <;> rfl

@[simp]
theorem raisePeak_cash (s : PortfolioRiskState) (eq : ℚ) : (s.raisePeak eq).cash = s.cash := by
  unfold raisePeak
  split <;> rfl

/-- Only positions and prices decide whether a portfolio is valued. -/
theorem Valued.congr {s s' : PortfolioRiskState} (h : s.Valued) (hp : s'.positions = s.positions)
    (hc : s'.currentPrices = s.currentPrices) : s'.Valued := by
  rw [valued_iff] at h ⊢
  rwa [hp, hc]

/-- A fill of a valued portfolio is booked. -/
theorem updateFill_ok {s : PortfolioRiskState} (h : s.Valued) {sym : String} (hs : sym ≠ "") {qty price : ℚ}
    (hq : 0 < qty) (hp : 0 < price) (side : OrderSide) :
    ∃ eq, s.updateFill sym qty price side = (.ok (), (s.book sym qty price side).raisePeak eq) := by
  obtain ⟨eq, heq⟩ := h.book sym qty hp side
  refine ⟨eq, ?_⟩
  simp only [updateFill, hs, if_false, positiveFault_eq_none.2 hq, positiveFault_eq_none.2 hp, heq]

/-! ## Leaves -/

theorem putLeaves_self (d : Dict String ℚ) (sym : String) (x : ℚ) :
    (putLeaves d sym x).getD sym 0 = if tiny x then 0 else x := by
  unfold putLeaves
  split <;> simp

theorem putLeaves_of_ne (d : Dict String ℚ) {sym sym' : String} (x : ℚ) (h : sym' ≠ sym) :
    (putLeaves d sym x).getD sym' 0 = d.getD sym' 0 := by
  unfold putLeaves
  split
  · exact Dict.getD_erase_of_ne d 0 h
  · exact Dict.getD_set_of_ne d x 0 h

theorem reconcileLeaves_of_ne (d : Dict String ℚ) {sym sym' : String} (qty : ℚ) (side : OrderSide) (h : sym' ≠ sym) :
    (reconcileLeaves d sym qty side).getD sym' 0 = d.getD sym' 0 := by
  unfold reconcileLeaves
  split
  · rfl
  · split
    · exact putLeaves_of_ne d _ h
    · rfl
  · exact putLeaves_of_ne d _ h

theorem updateFill_leaves_of_ne (s : PortfolioRiskState) {sym sym' : String} (qty price : ℚ) (side : OrderSide) (h : sym' ≠ sym) :
    (s.updateFill sym qty price side).2.pendingLeaves.getD sym' 0 = s.pendingLeaves.getD sym' 0 := by
  have hbook : (s.book sym qty price side).pendingLeaves.getD sym' 0 = s.pendingLeaves.getD sym' 0 :=
    reconcileLeaves_of_ne _ _ _ h
  unfold updateFill
  split
  · rfl
  · split
    · rfl
    · rfl
    · simp only
      split
      · exact hbook
      · rw [raisePeak_pendingLeaves]
        exact hbook

theorem tiny_iff {x : ℚ} : tiny x = true ↔ |x| ≤ 1 / 10 ^ 12 := by simp [tiny]

/-- Leaves that survive being written back: nothing at all, or more than a negligible amount. -/
def Survives (l : ℚ) : Prop := l = 0 ∨ 1 / 10 ^ 12 < |l|

theorem putLeaves_eq_iff (d : Dict String ℚ) (sym : String) (l : ℚ) :
    (putLeaves d sym l).getD sym 0 = l ↔ Survives l := by
  rw [putLeaves_self]
  unfold Survives
  by_cases ht : tiny l = true
  · have hle := not_lt.2 (tiny_iff.1 ht)
    simp only [ht, if_true, hle, or_false]
    exact eq_comm
  · have hlt : 1 / 10 ^ 12 < |l| := not_le.1 fun h => ht (tiny_iff.2 h)
    simp only [ht, Bool.false_eq_true, if_false, hlt, or_true]

/-- Leaves on the side of an order, beyond a negligible amount, or none. -/
def OnSide (side : OrderSide) (l : ℚ) : Prop := l = 0 ∨ 1 / 10 ^ 12 < side.signed l

theorem tiny_zero : tiny 0 = true := by decide +kernel

/-- What is written back of leaves that may not be negative. -/
theorem putLeaves_max_eq_iff (d : Dict String ℚ) (sym : String) (l : ℚ) :
    (putLeaves d sym (max 0 l)).getD sym 0 = l ↔ l = 0 ∨ 1 / 10 ^ 12 < l := by
  rcases le_or_gt l 0 with hl | hl
  · rw [max_eq_left hl, putLeaves_self, if_pos tiny_zero]
    constructor
    · exact fun h => .inl h.symm
    · rintro (h | h)
      · exact h.symm
      · linarith
  · rw [max_eq_right hl.le, putLeaves_eq_iff, Survives, abs_of_pos hl]

/-- The same for leaves that may not be positive. -/
theorem putLeaves_min_eq_iff (d : Dict String ℚ) (sym : String) (l : ℚ) :
    (putLeaves d sym (min 0 l)).getD sym 0 = l ↔ l = 0 ∨ 1 / 10 ^ 12 < -l := by
  rcases le_or_gt 0 l with hl | hl
  · rw [min_eq_left hl, putLeaves_self, if_pos tiny_zero]
    constructor
    · exact fun h => .inl h.symm
    · rintro (h | h)
      · exact h.symm
      · linarith
  · rw [min_eq_right hl.le, putLeaves_eq_iff, Survives, abs_of_neg hl]

/-- A full purchase takes its reservation back exactly when the other leaves of the symbol are purchases. -/
theorem reconcileLeaves_buy_iff (d : Dict String ℚ) (sym : String) {l qty : ℚ} (hq : 0 < qty) :
    (reconcileLeaves (d.set sym (l + qty)) sym qty .buy).getD sym 0 = l ↔ OnSide .buy l := by
  simp only [reconcileLeaves, Dict.get?_set_self, OnSide, OrderSide.signed]
  by_cases hpos : 0 < l + qty
  · rw [if_pos hpos, add_sub_cancel_right]
    exact putLeaves_max_eq_iff _ sym l
  · rw [if_neg hpos, Dict.getD_set_self]
    constructor
    · intro h
      linarith
    · rintro (h | h) <;> linarith

/-- A full sale takes its reservation back exactly when the other leaves of the symbol are sales. -/
theorem reconcileLeaves_sell_iff (d : Dict String ℚ) (sym : String) {l qty : ℚ} (hq : 0 < qty) :
    (reconcileLeaves (d.set sym (l - qty)) sym qty .sell).getD sym 0 = l ↔ OnSide .sell l := by
  simp only [reconcileLeaves, Dict.get?_set_self, OnSide, OrderSide.signed]
  rcases lt_trichotomy (l - qty) 0 with hneg | hzero | hpos
  · rw [if_pos hneg, sub_add_cancel]
    exact putLeaves_min_eq_iff _ sym l
  · -- the leaves cancel out and the entry is dropped, although the sale never rested
    rw [hzero, if_neg (lt_irrefl 0), if_neg (lt_irrefl 0), putLeaves_self, if_pos tiny_zero]
    constructor
    · intro h
      linarith
    · rintro (h | h) <;> linarith
  · rw [if_neg hpos.not_gt, if_pos hpos, putLeaves_self]
    constructor
    · intro h
      split at h
      · linarith
      · rcases max_cases 0 (l - qty - qty) with ⟨hm, -⟩ | ⟨hm, -⟩ <;> rw [hm] at h <;> linarith
    · rintro (h | h) <;> linarith

/-- A full fill takes its reservation back exactly when the other leaves of the symbol are on its side. -/
theorem reconcileLeaves_eq_iff (d : Dict String ℚ) (sym : String) {l qty : ℚ} (hq : 0 < qty) (side : OrderSide) :
    (reconcileLeaves (d.set sym (l + side.signed qty)) sym qty side).getD sym 0 = l ↔ OnSide side l := by
  cases side with
  | buy => exact reconcileLeaves_buy_iff d sym hq
  | sell => exact (sub_eq_add_neg l qty) ▸ reconcileLeaves_sell_iff d sym hq

end PortfolioRiskState

/-! ## The firewall -/

namespace PreTradeRiskFirewall

open PortfolioRiskState

/-- What a cleared order says of the portfolio and of the prices: only the peak has changed, the portfolio is valued, and some
reference price is positive. -/
structure Cleared (s : PortfolioRiskState) (o : Order) (currentPrice : Option ℚ) (s' : PortfolioRiskState) : Prop where
  peak : ∃ eq, s' = s.raisePeak eq
  valued : s.Valued
  given_pos : ∀ p ∈ currentPrice, 0 < p
  ref_pos : ∀ p, refPrice s' o currentPrice = some p → 0 < p
  ref_some : (refPrice s' o currentPrice).isSome = true

theorem intradayDrawdown_ok {s s' : PortfolioRiskState} {drawdown : ℚ} (h : s.intradayDrawdown = .ok (drawdown, s')) :
    ∃ eq, s.currentEquity = .ok eq ∧ s' = s.raisePeak eq := by
  unfold intradayDrawdown at h
  split at h
  · simp at h
  · rename_i eq heq
    refine ⟨eq, heq, ?_⟩
    by_cases hpeak : (s.raisePeak eq).peakEquity ≤ 0 <;> simp only [hpeak, if_true, if_false] at h <;> cases h <;> rfl

theorem validateOrder_ok {limits : RiskLimits} {s s' : PortfolioRiskState} {o : Order} {currentPrice : Option ℚ}
    (h : validateOrder limits s o currentPrice = (.ok (), s')) : Cleared s o currentPrice s' := by
  unfold validateOrder at h
  split at h
  · simp at h
  · rename_i hin
    split at h
    · simp at h
    · rename_i drawdown s₁ hdd
      split at h
      · simp at h
      · rename_i hlim
        obtain rfl : s₁ = s' := by simpa using h
        have hgiven : ∀ p ∈ currentPrice, 0 < p := by
          unfold inputFault at hin
          repeat' split at hin
          all_goals simp_all
        have href : ∃ p, (refPrice s₁ o currentPrice).filter (fun p => 0 < p) = some p := by
          unfold limitFault at hlim
          repeat' split at hlim
          all_goals simp_all
        obtain ⟨p, hp⟩ := href
        obtain ⟨hsome, hpos⟩ := Option.filter_eq_some_iff.1 hp
        obtain ⟨eq, heq, hpeak⟩ := intradayDrawdown_ok hdd
        exact ⟨⟨eq, hpeak⟩, ⟨eq, heq⟩, hgiven, fun p' hp' => by simp_all, by simp [hsome]⟩

/-- Whatever it decides, the firewall changes nothing but the peak. -/
theorem validateOrder_snd (limits : RiskLimits) (s : PortfolioRiskState) (o : Order) (currentPrice : Option ℚ) :
    (validateOrder limits s o currentPrice).2 = s ∨ ∃ eq, (validateOrder limits s o currentPrice).2 = s.raisePeak eq := by
  unfold validateOrder
  split
  · exact .inl rfl
  · split
    · exact .inl rfl
    · rename_i drawdown s₁ hdd
      obtain ⟨eq, -, rfl⟩ := intradayDrawdown_ok hdd
      split <;> exact .inr ⟨eq, rfl⟩

theorem validateOrder_pendingLeaves (limits : RiskLimits) (s : PortfolioRiskState) (o : Order) (currentPrice : Option ℚ) :
    (validateOrder limits s o currentPrice).2.pendingLeaves = s.pendingLeaves := by
  rcases validateOrder_snd limits s o currentPrice with h | ⟨eq, h⟩ <;> rw [h]
  exact raisePeak_pendingLeaves s eq

end PreTradeRiskFirewall

end Quant
