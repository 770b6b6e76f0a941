import Mathlib.Tactic.NormNum
import Quant.Lemmas.Leverage

namespace Quant

open Pylib

/-! ## Equity over runs of fills and prices

A fill moves cash, position and stored price at once. What is left of it in the equity is the old position at the change of the
price: value is neither made nor lost, apart from positions too small to be counted.
-/

/-- A call on the portfolio. -/
inductive PortfolioCall where
  | fill (sym : String) (qty price : ℚ) (side : OrderSide)
  | tick (sym : String) (price : ℚ)

namespace PortfolioCall

/-- The symbol of a call. -/
def symbol : PortfolioCall → String
  | .fill sym _ _ _ => sym
  | .tick sym _ => sym

/-- The price a call stores. -/
def price : PortfolioCall → ℚ
  | .fill _ _ price _ => price
  | .tick _ price => price

/-- The arguments are valid: a symbol, and numbers above zero. -/
def Valid : PortfolioCall → Prop
  | .fill sym qty price _ => sym ≠ "" ∧ 0 < qty ∧ 0 < price
  | .tick sym price => sym ≠ "" ∧ 0 < price

end PortfolioCall

namespace PortfolioRiskState

/-- A call on the portfolio: its result, and the portfolio it leaves. -/
def call (s : PortfolioRiskState) : PortfolioCall → Except Exc Unit × PortfolioRiskState
  | .fill sym qty price side => s.updateFill sym qty price side
  | .tick sym price => s.updatePrice sym price

/-- The portfolio after a sequence of calls. -/
def play (s : PortfolioRiskState) : List PortfolioCall → PortfolioRiskState
  | [] => s
  | c :: cs => (s.call c).2.play cs

/-- The equity after each call of a sequence. -/
def equities (s : PortfolioRiskState) : List PortfolioCall → List (Except Exc ℚ)
  | [] => []
  | c :: cs => (s.call c).2.currentEquity :: (s.call c).2.equities cs

/-- A call returns, and changes the equity by the position before it at the change of the stored price, up to the tolerance below
which a position is not counted. -/
def SelfFinanced (s : PortfolioRiskState) (c : PortfolioCall) : Prop :=
  ∃ eq eq', (s.call c).1 = .ok () ∧ s.currentEquity = .ok eq ∧ (s.call c).2.currentEquity = .ok eq' ∧
    |eq' - eq - s.positions.getD c.symbol 0 * (c.price - s.currentPrices.getD c.symbol 0)| ≤
      1 / 10 ^ 12 * (s.currentPrices.getD c.symbol 0 + c.price)

/-! ### Equity as a sum -/

/-- What a position counts for in the equity. -/
def counted (pos : ℚ) : ℚ := if tiny pos then 0 else pos

theorem abs_counted_sub_le (pos : ℚ) : |counted pos - pos| ≤ 1 / 10 ^ 12 := by
  unfold counted
  split
  · rename_i h
    rw [zero_sub, abs_neg]
    exact tiny_iff.1 h
  · rw [sub_self, abs_zero]
    positivity

theorem abs_counted_cleaned_sub_le (pos : ℚ) : |counted (cleaned pos) - pos| ≤ 1 / 10 ^ 12 := by
  unfold cleaned
  split
  · rename_i h
    have h0 : counted 0 = 0 := if_pos tiny_zero
    rw [h0, zero_sub, abs_neg]
    exact h.le
  · exact abs_counted_sub_le pos

/-- The value of a position at a table of prices. -/
def valueAt (prices : Dict String ℚ) (sym : String) (pos : ℚ) : ℚ := counted pos * prices.getD sym 0

theorem addValues_eq_ok {s : PortfolioRiskState} {l : List (String × ℚ)} {c eq : ℚ} (h : addValues s.priceOf l c = .ok eq) :
    eq = c + (l.map (fun p => valueAt s.currentPrices p.1 p.2)).sum := by
  induction l generalizing c with
  | nil =>
    cases h
    simp
  | cons p l ih =>
    obtain ⟨sym, pos⟩ := p
    simp only [addValues] at h
    simp only [List.map_cons, List.sum_cons]
    by_cases ht : tiny pos = true
    · have hv : valueAt s.currentPrices sym pos = 0 := by simp [valueAt, counted, ht]
      rw [if_pos ht] at h
      rw [ih h, hv, zero_add]
    · rw [if_neg ht] at h
      cases hp : s.priceOf sym with
      | error exc => simp [hp] at h
      | ok x =>
        have hv : valueAt s.currentPrices sym pos = pos * x := by
          rw [valueAt, counted, if_neg ht, getD_of_priceOf hp]
        rw [hp] at h
        rw [ih h, hv, add_assoc]

/-- The equity of a valued portfolio: its cash and the value of its positions. -/
theorem currentEquity_of_valued {s : PortfolioRiskState} (h : s.Valued) :
    s.currentEquity = .ok (s.cash + s.positions.sum (valueAt s.currentPrices)) := by
  obtain ⟨eq, heq⟩ := h
  rw [heq, addValues_eq_ok heq]
  rfl

/-- What a symbol has in the sum, whether it has an entry or not. -/
theorem elim_valueAt (s : PortfolioRiskState) (prices : Dict String ℚ) (sym : String) :
    (s.positions.get? sym).elim 0 (valueAt prices sym) = counted (s.positions.getD sym 0) * prices.getD sym 0 := by
  cases h : s.positions.get? sym with
  | none =>
    have h0 : counted 0 = 0 := if_pos tiny_zero
    rw [Dict.getD_of_get?_none 0 h, h0, zero_mul, Option.elim_none]
  | some pos =>
    rw [Dict.getD_of_get?_some 0 h]
    rfl

theorem valueAt_set_of_ne (prices : Dict String ℚ) (sym : String) (price : ℚ) :
    ∀ sym', sym' ≠ sym → ∀ pos, valueAt (prices.set sym price) sym' pos = valueAt prices sym' pos := by
  intro sym' hs pos
  rw [valueAt, valueAt, Dict.getD_set_of_ne _ _ _ hs]

/-- The value of the positions after one price was stored. -/
theorem sum_revalued (s : PortfolioRiskState) (sym : String) (price : ℚ) :
    s.positions.sum (valueAt (s.currentPrices.set sym price)) =
      s.positions.sum (valueAt s.currentPrices) +
        counted (s.positions.getD sym 0) * (price - s.currentPrices.getD sym 0) := by
  have h := Dict.sum_of_agree s.positions (valueAt_set_of_ne s.currentPrices sym price)
  rw [elim_valueAt, elim_valueAt, Dict.getD_set_self] at h
  linarith

/-- The value of the positions after a fill. -/
theorem sum_booked (s : PortfolioRiskState) (sym : String) (pos price : ℚ) :
    (s.positions.set sym pos).sum (valueAt (s.currentPrices.set sym price)) =
      s.positions.sum (valueAt s.currentPrices) + counted pos * price -
        counted (s.positions.getD sym 0) * s.currentPrices.getD sym 0 := by
  have h := Dict.sum_set (f := valueAt (s.currentPrices.set sym price)) s.positions sym pos
  have hv : valueAt (s.currentPrices.set sym price) sym pos = counted pos * price := by
    rw [valueAt, Dict.getD_set_self]
  rw [elim_valueAt, Dict.getD_set_self, sum_revalued, hv] at h
  linarith

/-! ### One call -/

/-- What every call keeps: stored prices are positive, and a symbol without one has no position. -/
structure Priced (s : PortfolioRiskState) : Prop where
  pos : ∀ sym p, s.currentPrices.get? sym = some p → 0 < p
  flat : ∀ sym, s.currentPrices.get? sym = none → s.positions.getD sym 0 = 0

theorem Priced.valued {s : PortfolioRiskState} (h : s.Priced) : s.Valued := by
  rw [valued_iff]
  intro sym pos hpos
  cases hp : s.currentPrices.get? sym with
  | none =>
    left
    have h0 := h.flat sym hp
    rw [Dict.getD_of_get?_some 0 hpos] at h0
    rw [h0]
    exact tiny_zero
  | some p => exact Or.inr ⟨p, rfl, h.pos sym p hp⟩

theorem Priced.getD_nonneg {s : PortfolioRiskState} (h : s.Priced) (sym : String) : 0 ≤ s.currentPrices.getD sym 0 := by
  cases hp : s.currentPrices.get? sym with
  | none => rw [Dict.getD_of_get?_none 0 hp]
  | some p =>
    rw [Dict.getD_of_get?_some 0 hp]
    exact (h.pos sym p hp).le

/-- Storing a positive price keeps the portfolio priced, whatever becomes of the position of that symbol. -/
theorem Priced.store {s s' : PortfolioRiskState} (h : s.Priced) {sym : String} {price : ℚ} (hprice : 0 < price)
    (hp : s'.currentPrices = s.currentPrices.set sym price)
    (hpos : ∀ sym', sym' ≠ sym → s'.positions.getD sym' 0 = s.positions.getD sym' 0) : s'.Priced := by
  refine ⟨fun sym' p hget => ?_, fun sym' hget => ?_⟩
  · rw [hp, Dict.get?_set] at hget
    split at hget
    · exact Option.some.inj hget ▸ hprice
    · exact h.pos sym' p hget
  · rw [hp, Dict.get?_set] at hget
    split at hget
    · cases hget
    · rename_i hs
      rw [hpos sym' hs]
      exact h.flat sym' hget

theorem Priced.raisePeak {s : PortfolioRiskState} (h : s.Priced) (eq : ℚ) : (s.raisePeak eq).Priced :=
  ⟨by rw [raisePeak_currentPrices]; exact h.pos, by rw [raisePeak_currentPrices, raisePeak_positions]; exact h.flat⟩

theorem peakEquity_raisePeak (s : PortfolioRiskState) (eq : ℚ) : (s.raisePeak eq).peakEquity = max s.peakEquity eq := by
  unfold PortfolioRiskState.raisePeak
  split
  · rename_i h
    exact (max_eq_right h.le).symm
  · rename_i h
    exact (max_eq_left (not_lt.1 h)).symm

/-- The error of counting a position before and after a fill or a tick, at two prices. -/
theorem abs_mul_add_mul_le {a b p q ε : ℚ} (ha : |a| ≤ ε) (hb : |b| ≤ ε) (hp : 0 ≤ p) (hq : 0 ≤ q) :
    |a * p + b * q| ≤ ε * (q + p) := by
  have h1 : |a * p| ≤ ε * p := by
    rw [abs_mul, abs_of_nonneg hp]
    exact mul_le_mul_of_nonneg_right ha hp
  have h2 : |b * q| ≤ ε * q := by
    rw [abs_mul, abs_of_nonneg hq]
    exact mul_le_mul_of_nonneg_right hb hq
  calc |a * p + b * q| ≤ |a * p| + |b * q| := abs_add_le _ _
    _ ≤ ε * p + ε * q := add_le_add h1 h2
    _ = ε * (q + p) := by ring

/-- A valid call returns, raises the peak to the new equity, and finances itself. -/
theorem call_of_priced {s : PortfolioRiskState} (h : s.Priced) {c : PortfolioCall} (hc : c.Valid) :
    s.SelfFinanced c ∧ (s.call c).2.Priced ∧
      ∃ eq', (s.call c).2.currentEquity = .ok eq' ∧ (s.call c).2.peakEquity = max s.peakEquity eq' := by
  have hold := h.getD_nonneg c.symbol
  have heq := currentEquity_of_valued h.valued
  cases c with
  | fill sym qty price side =>
    obtain ⟨hs, hq, hp⟩ := hc
    have hpriced : (s.book sym qty price side).Priced :=
      h.store hp rfl fun sym' hs' => Dict.getD_set_of_ne _ _ _ hs'
    have heq' := currentEquity_of_valued hpriced.valued
    have hcall : s.call (.fill sym qty price side) =
        (.ok (), (s.book sym qty price side).raisePeak ((s.book sym qty price side).cash +
          (s.book sym qty price side).positions.sum (valueAt (s.book sym qty price side).currentPrices))) := by
      simp only [call, updateFill, hs, if_false, positiveFault_eq_none.2 hq, positiveFault_eq_none.2 hp, heq']
    rw [SelfFinanced, hcall]
    simp only [currentEquity_raisePeak, heq, heq', Except.ok.injEq, peakEquity_raisePeak]
    refine ⟨⟨_, _, trivial, rfl, rfl, ?_⟩, hpriced.raisePeak _, _, rfl, rfl⟩
    -- the cash pays for the quantity at the fill price, so only the positions left out of the count remain
    have hsum := sum_booked s sym (cleaned (s.positions.getD sym 0 + side.signed qty)) price
    have hsigned : side.signed (qty * price) = side.signed qty * price := by cases side <;> simp [OrderSide.signed]
    simp only [book, PortfolioCall.symbol, PortfolioCall.price, hsum, hsigned] at hold ⊢
    have herr := abs_mul_add_mul_le (abs_counted_cleaned_sub_le (s.positions.getD sym 0 + side.signed qty))
      (by rw [abs_sub_comm]; exact abs_counted_sub_le (s.positions.getD sym 0)) hp.le hold
    refine le_trans (le_of_eq ?_) herr
    congr 1
    ring
  | tick sym price =>
    obtain ⟨hs, hp⟩ := hc
    have hpriced : ({ s with currentPrices := s.currentPrices.set sym price } : PortfolioRiskState).Priced :=
      h.store hp rfl fun _ _ => rfl
    have heq' := currentEquity_of_valued hpriced.valued
    have hcall : s.call (.tick sym price) =
        (.ok (), ({ s with currentPrices := s.currentPrices.set sym price } : PortfolioRiskState).raisePeak
          (s.cash + s.positions.sum (valueAt (s.currentPrices.set sym price)))) := by
      simp only [call, updatePrice, hs, if_false, positiveFault_eq_none.2 hp, heq']
    rw [SelfFinanced, hcall]
    simp only [currentEquity_raisePeak, heq, heq', Except.ok.injEq, peakEquity_raisePeak]
    refine ⟨⟨_, _, trivial, rfl, rfl, ?_⟩, hpriced.raisePeak _, _, rfl, rfl⟩
    simp only [PortfolioCall.symbol, PortfolioCall.price, sum_revalued] at hold ⊢
    have herr := abs_mul_add_mul_le (abs_counted_sub_le (s.positions.getD sym 0))
      (by rw [abs_sub_comm]; exact abs_counted_sub_le (s.positions.getD sym 0)) hp.le hold
    refine le_trans (le_of_eq ?_) herr
    congr 1
    ring

/-! ### Runs -/

/-- Through a sequence of valid calls the portfolio stays priced, and its peak is the highest equity seen. -/
theorem play_of_priced {s : PortfolioRiskState} (h : s.Priced) {calls : List PortfolioCall} (hv : ∀ c ∈ calls, c.Valid) :
    (s.play calls).Priced ∧
      ∃ eqs : List ℚ, s.equities calls = eqs.map Except.ok ∧ (s.play calls).peakEquity = eqs.foldl max s.peakEquity := by
  induction calls generalizing s with
  | nil => exact ⟨h, [], rfl, rfl⟩
  | cons c cs ih =>
    rw [List.forall_mem_cons] at hv
    obtain ⟨-, hpriced, eq', heq', hpeak⟩ := call_of_priced h hv.1
    obtain ⟨hplay, eqs, heqs, hmax⟩ := ih hpriced hv.2
    refine ⟨hplay, eq' :: eqs, ?_, ?_⟩
    · rw [equities, heq', heqs, List.map_cons]
    · rw [play, hmax, hpeak, List.foldl_cons]

/-- The prices of a portfolio its constructor accepted are positive. -/
theorem Priced.of_create {s₀ s : PortfolioRiskState} (h : s₀.create = .ok s) (hp : s₀.positions = ∅) : s.Priced := by
  unfold create at h
  split at h
  · cases h
  split at h
  · cases h
  split at h
  · cases h
  · cases h
  · rename_i hfault _
    split at h
    · cases h
    · cases h
      refine ⟨fun sym p hget => ?_, fun sym _ => ?_⟩
      · have hent := List.findSome?_eq_none_iff.1 hfault (sym, p) ((Dict.mem_items_iff _ _ _).2 hget)
        by_contra hle
        simp only [priceEntryFault, not_lt.1 hle, if_true] at hent
        split at hent <;> cases hent
      · simp [hp]

/-- From a new portfolio without positions: after any valid calls the next valid one returns and finances itself, and the peak is
the highest of its initial value and the equities after each call. -/
theorem selfFinanced_play {s₀ s : PortfolioRiskState} (hnew : s₀.create = .ok s) (hflat : s₀.positions = ∅)
    {calls : List PortfolioCall} (hv : ∀ c ∈ calls, c.Valid) :
    (∀ c : PortfolioCall, c.Valid → (s.play calls).SelfFinanced c) ∧
      ∃ eqs : List ℚ, s.equities calls = eqs.map Except.ok ∧ (s.play calls).peakEquity = eqs.foldl max s.peakEquity := by
  obtain ⟨hpriced, hpeak⟩ := play_of_priced (Priced.of_create hnew hflat) hv
  exact ⟨fun c hc => (call_of_priced hpriced hc).1, hpeak⟩

/-- A thousand in cash, nothing else. -/
def thousandCash : PortfolioRiskState := { cash := 1000, peakEquity := 1000, initialEquity := 1000 }

theorem thousandCash_create : thousandCash.create = .ok thousandCash := by decide

/-- A purchase of twenty at one hundred, then a sale of fifty at fifty, which flips the position. -/
theorem selfFinanced_play_flip :
    (∀ c : PortfolioCall, c.Valid →
      (thousandCash.play [.fill "AAPL" 20 100 .buy, .fill "AAPL" 50 50 .sell]).SelfFinanced c) ∧
    ∃ eqs : List ℚ, thousandCash.equities [.fill "AAPL" 20 100 .buy, .fill "AAPL" 50 50 .sell] = eqs.map Except.ok ∧
      (thousandCash.play [.fill "AAPL" 20 100 .buy, .fill "AAPL" 50 50 .sell]).peakEquity =
        eqs.foldl max thousandCash.peakEquity := by
  refine selfFinanced_play thousandCash_create rfl ?_
  intro c hc
  simp only [List.mem_cons, List.not_mem_nil, or_false] at hc
  rcases hc with rfl | rfl
  · exact ⟨Literal.aapl_ne, Literal.twenty_pos, Literal.hundred_pos⟩
  · exact ⟨Literal.aapl_ne, Literal.fifty_pos, Literal.fifty_pos⟩

end PortfolioRiskState

end Quant
