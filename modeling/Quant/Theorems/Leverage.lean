import Mathlib.Algebra.Order.Group.MinMax
import Quant.Lemmas.Leverage
import Quant.Lemmas.RiskOrchestrator

/-!
# Leverage before and after an order

The leverage the firewall projects for an order against the leverage the portfolio reports once the order is reserved, and the
orders that reduce a position, which the firewall must let through.
-/

namespace Quant

open Pylib PortfolioRiskState PreTradeRiskFirewall RiskOrchestrator

/-! ## The firewall and the portfolio agree -/

/-- Limits of a fully invested portfolio whose net exposure is a quarter of its equity. -/
def quarterNet : RiskLimits where
  maxOrderNotional := 1000
  maxOrderQty := 1000
  maxGrossLeverage := 1
  maxNetLeverage := 1 / 4
  maxConcentrationNavPct := 1
  maxIntradayDrawdownPct := 1 / 2
  maxOrderNotional_pos := by norm_num
  maxOrderQty_pos := by norm_num
  maxGrossLeverage_pos := Literal.one_pos
  maxNetLeverage_pos := by norm_num
  maxConcentrationNavPct_pos := Literal.one_pos
  maxIntradayDrawdownPct_pos := Literal.half_pos
  minFreeMargin_nonneg := Literal.zero_nonneg

/-- A portfolio worth one hundred, in two stocks at a price of one. -/
def twoStocks (cash aapl msft : ℚ) : PortfolioRiskState where
  cash := cash
  positions := (Dict.set ∅ "AAPL" aapl).set "MSFT" msft
  currentPrices := (Dict.set ∅ "AAPL" 1).set "MSFT" 1
  peakEquity := 100
  initialEquity := 100

/-- A limit order in the first stock at a price of one. -/
def atOne (side : OrderSide) (qty : ℚ) (h : 0 < qty) : Order where
  clOrdId := "order"
  symbol := "AAPL"
  side := side
  orderType := .limit
  quantity := qty
  price := some 1
  clOrdId_ne := Literal.order_ne
  symbol_ne := Literal.aapl_ne
  quantity_pos := h
  price_pos := by simp
  stopPrice_pos := Literal.none_pos
  filledQuantity_nonneg := Literal.zero_nonneg
  filledQuoteAmount_nonneg := Literal.zero_nonneg
  averagePrice_nonneg := Literal.zero_nonneg
  feesPaid_nonneg := Literal.zero_nonneg

/-- A quantity in whole millionths. -/
def Micro (x : ℚ) : Prop := ∃ n : ℤ, x = n / 10 ^ 6

/-- A portfolio whose positions and working orders are in whole millionths. -/
structure PortfolioRiskState.InMicros (s : PortfolioRiskState) : Prop where
  positions : ∀ sym q, s.positions.get? sym = some q → Micro q
  pendingLeaves : ∀ sym q, s.pendingLeaves.get? sym = some q → Micro q

theorem micro_getD {d : Dict String ℚ} (h : ∀ sym q, d.get? sym = some q → Micro q) (sym : String) : Micro (d.getD sym 0) := by
  cases hd : d.get? sym with
  | none =>
    rw [Dict.getD_of_get?_none 0 hd]
    exact ⟨0, by norm_num⟩
  | some q =>
    rw [Dict.getD_of_get?_some 0 hd]
    exact h sym q hd

theorem Micro.add {x y : ℚ} (hx : Micro x) (hy : Micro y) : Micro (x + y) := by
  obtain ⟨n, rfl⟩ := hx
  obtain ⟨m, rfl⟩ := hy
  exact ⟨n + m, by push_cast; ring⟩

theorem Micro.neg {x : ℚ} (hx : Micro x) : Micro (-x) := by
  obtain ⟨n, rfl⟩ := hx
  exact ⟨-n, by push_cast; ring⟩

/-- In whole millionths only zero is negligible. -/
theorem Micro.eq_zero_of_tiny {x : ℚ} (hx : Micro x) (h : tiny x = true) : x = 0 := by
  obtain ⟨n, rfl⟩ := hx
  rw [tiny_iff, abs_div, abs_of_pos (by norm_num : (0 : ℚ) < 10 ^ 6), div_le_iff₀ (by norm_num)] at h
  have hlt : |(n : ℚ)| < 1 := h.trans_lt (by norm_num)
  have hn : n = 0 := Int.abs_lt_one_iff.1 (by exact_mod_cast hlt)
  rw [hn]
  norm_num

theorem Micro.signed {x : ℚ} (hx : Micro x) (side : OrderSide) : Micro (side.signed x) := by
  cases side with
  | buy => exact hx
  | sell => exact hx.neg

/-- Reserving an order makes every symbol add what the firewall projected for it. -/
theorem term_reserve {s : PortfolioRiskState} {o : Order} {ref : ℚ} (hprice : s.currentPrices.get? o.symbol = some ref)
    (hs : s.InMicros) (hq : Micro o.quantity) {units : ℚ → ℚ → ℚ} {units' : ℚ → ℚ → ℚ → ℚ}
    (hunits : ∀ pos leaves delta, units' pos leaves delta = units pos leaves) (hzero : units 0 0 = 0) (sym : String) :
    (reserve s o).term units sym = projectedTerm s o.symbol ref o.signedQuantity units' sym := by
  by_cases hsym : sym = o.symbol
  · subst hsym
    rw [projectedTerm, if_pos rfl, term, hunits, ← reserve_self, 
      show (reserve s o).currentPrices.getD o.symbol 0 = ref from Dict.getD_of_get?_some 0 hprice]
    split
    · rename_i hidle
      -- negligible amounts are zero, so what the firewall counts of them is zero too
      have hpos := (micro_getD hs.positions o.symbol).eq_zero_of_tiny hidle.1
      have hleaves : Micro ((reserve s o).pendingLeaves.getD o.symbol 0) := by
        rw [reserve_self]
        exact (micro_getD hs.pendingLeaves o.symbol).add (hq.signed o.side)
      rw [hpos, hleaves.eq_zero_of_tiny hidle.2, hzero, zero_mul]
    · rfl
  · rw [projectedTerm, if_neg hsym]
    exact term_congr rfl (reserve_of_ne s hsym) rfl fun pos leaves => (hunits pos leaves 0).symm

theorem mem_symbols_reserve (s : PortfolioRiskState) (o : Order) (sym : String) :
    sym ∈ (reserve s o).symbols ↔ sym ∈ allSymbols s o.symbol := by
  rw [mem_allSymbols_iff, mem_symbols_iff, mem_symbols_iff, reserve, Dict.contains_set]
  exact or_left_comm

/-- At the stored price of its symbol an order's projection values the portfolio as the portfolio values itself. -/
theorem projectedPrice_eq {s : PortfolioRiskState} {sym : String} {ref : ℚ} (hprice : s.currentPrices.get? sym = some ref)
    (href : 0 < ref) (sym' : String) : projectedPrice s sym ref sym' = s.priceOf sym' := by
  unfold projectedPrice
  split
  · rename_i h
    rw [h, priceOf, hprice]
    simp only [href.not_ge, if_false]
  · rfl

/-- A reserved order leaves the leverage that was projected. -/
theorem leverage_reserve {s : PortfolioRiskState} {o : Order} {ref equity gross net : ℚ}
    (hprice : s.currentPrices.get? o.symbol = some ref) (href : 0 < ref) (hs : s.InMicros) (hq : Micro o.quantity)
    (hequity : addValues (projectedPrice s o.symbol ref) s.positions.items s.cash = .ok equity) (hpos : 0 < equity)
    (hnotional : addNotionals s o.symbol ref o.signedQuantity (allSymbols s o.symbol) (0, 0) = .ok (gross, net)) :
    (reserve s o).grossLeverage = .ok ((gross / equity : ℚ) : WithTop ℚ) ∧
      (reserve s o).netLeverage = .ok ((|net| / equity : ℚ) : WithTop ℚ) := by
  obtain ⟨hpriced, hsum⟩ := addNotionals_eq_ok_iff.1 hnotional
  obtain ⟨rfl, rfl⟩ := Prod.mk.inj hsum
  have heq : (reserve s o).currentEquity = .ok equity := by
    rw [← hequity]
    exact addValues_congr fun p _ => (projectedPrice_eq hprice href p.1).symm
  have hpriced' : ∀ sym ∈ (reserve s o).symbols, (reserve s o).Idle sym ∨ ∃ p, (reserve s o).priceOf sym = .ok p := by
    intro sym hsym
    change _ ∨ ∃ p, s.priceOf sym = .ok p
    by_cases hown : sym = o.symbol
    · rw [hown, ← projectedPrice_eq hprice href, projectedPrice, if_pos rfl]
      exact Or.inr ⟨ref, rfl⟩
    · rcases hpriced sym ((mem_symbols_reserve s o sym).1 hsym) with h | hidle | hp
      · exact absurd h hown
      · left
        rw [Idle, reserve_of_ne s hown]
        exact hidle
      · exact Or.inr hp
  have hterms : ∀ (units : ℚ → ℚ → ℚ) (units' : ℚ → ℚ → ℚ → ℚ),
      (∀ pos leaves delta, units' pos leaves delta = units pos leaves) → units 0 0 = 0 →
      ((reserve s o).symbols.map ((reserve s o).term units)).sum =
        ((allSymbols s o.symbol).map (projectedTerm s o.symbol ref o.signedQuantity units')).sum := by
    intro units units' hunits hzero
    have hperm := sum_symbols (nodup_symbols (reserve s o)) (nodup_allSymbols s o.symbol) (mem_symbols_reserve s o)
    rw [hperm ((reserve s o).term units)]
    exact congrArg List.sum (List.map_congr_left fun sym _ => term_reserve hprice hs hq hunits hzero sym)
  constructor
  · rw [grossLeverage, leverage_eq_ok heq hpos hpriced', hterms _ exposure ?_ ?_, zero_add, id]
    · intro pos leaves delta
      rw [exposure_eq_max, nettedExposure_eq_max]
    · rw [nettedExposure_eq_max]
      simp
  · rw [netLeverage, leverage_eq_ok heq hpos hpriced', hterms _ netUnits ?_ ?_, zero_add]
    · exact fun _ _ _ => rfl
    · exact add_zero 0

/-- An accepted order at the stored price of its symbol: once it is reserved, the portfolio's own leverage is what the firewall
projected, and within the limits. -/
theorem leverage_of_accepted {limits : RiskLimits} {s s' : PortfolioRiskState} {o : Order} {currentPrice : Option ℚ} {ref : ℚ}
    (hs : s.InMicros) (hq : Micro o.quantity) (h : validateOrder limits s o currentPrice = (.ok (), s'))
    (href : refPrice s' o currentPrice = some ref) (hprice : s.currentPrices.get? o.symbol = some ref) :
    ∃ gross net, projectedLeverage s' o ref = .ok (gross, net) ∧
      (reserve s' o).grossLeverage = .ok (gross : WithTop ℚ) ∧ (reserve s' o).netLeverage = .ok (net : WithTop ℚ) ∧
      gross ≤ limits.maxGrossLeverage ∧ net ≤ limits.maxNetLeverage := by
  have hc := validateOrder_ok h
  obtain ⟨equity, gross, net, hequity, hpos, hnotional, hgross, hnet⟩ :=
    leverageFault_eq_none (leverageFault_of_accepted h href)
  obtain ⟨eq, hpeak⟩ := hc.peak
  have hs' : s'.InMicros := by
    rw [hpeak]
    constructor
    · rw [raisePeak_positions]
      exact hs.positions
    · rw [raisePeak_pendingLeaves]
      exact hs.pendingLeaves
  have hprice' : s'.currentPrices.get? o.symbol = some ref := by rw [hpeak, raisePeak_currentPrices, hprice]
  obtain ⟨hg, hn⟩ := leverage_reserve hprice' (hc.ref_pos ref href) hs' hq hequity hpos hnotional
  exact ⟨_, _, projectedLeverage_eq_ok hequity hnotional, hg, hn, hgross, hnet⟩

/-- Twenty long in one stock and twenty short in the other, of which five more are being sold. -/
def longShort : PortfolioRiskState := { twoStocks 100 20 (-20) with pendingLeaves := Dict.set ∅ "MSFT" (-5) }

theorem inMicros_longShort : longShort.InMicros := by
  have hmicro : Micro 20 ∧ Micro (-20) ∧ Micro (-5) :=
    ⟨⟨20000000, by norm_num⟩, ⟨-20000000, by norm_num⟩, ⟨-5000000, by norm_num⟩⟩
  constructor
  · intro sym q h
    simp only [longShort, twoStocks, Dict.get?_set, Dict.get?_empty] at h
    split at h
    · exact Option.some.inj h ▸ hmicro.2.1
    · split at h
      · exact Option.some.inj h ▸ hmicro.1
      · cases h
  · intro sym q h
    simp only [longShort, Dict.get?_set, Dict.get?_empty] at h
    split at h
    · exact Option.some.inj h ▸ hmicro.2.2
    · cases h

/-- Buying twenty more of the first stock. -/
theorem leverage_twenty :
    ∃ gross net, projectedLeverage longShort (atOne .buy 20 Literal.twenty_pos) 1 = .ok (gross, net) ∧
      (reserve longShort (atOne .buy 20 Literal.twenty_pos)).grossLeverage = .ok (gross : WithTop ℚ) ∧
      (reserve longShort (atOne .buy 20 Literal.twenty_pos)).netLeverage = .ok (net : WithTop ℚ) ∧
      gross ≤ 1 ∧ net ≤ 1 / 4 := by
  have hval : validateOrder quarterNet longShort (atOne .buy 20 Literal.twenty_pos) none = (.ok (), longShort) := by
    decide +kernel
  exact leverage_of_accepted inMicros_longShort ⟨20000000, by norm_num [atOne]⟩ hval rfl (by decide)

example : projectedLeverage longShort (atOne .buy 20 Literal.twenty_pos) 1 = .ok (65 / 100, 15 / 100) := by decide +kernel

/-! ## Orders that reduce a position -/

/-- A portfolio with positive equity at a price of a symbol, within the limit of gross leverage, and within that of concentration
for the symbol. -/
structure WithinLimits (limits : RiskLimits) (s : PortfolioRiskState) (sym : String) (ref eq : ℚ) : Prop where
  equity : (s.revalued sym ref).currentEquity = .ok eq
  equity_pos : 0 < eq
  gross : ∃ x, (s.revalued sym ref).grossLeverage = .ok x ∧ x ≤ (limits.maxGrossLeverage : WithTop ℚ)
  concentration : nettedExposure (s.positions.getD sym 0) (s.pendingLeaves.getD sym 0) * ref / eq ≤ limits.maxConcentrationNavPct

theorem WithinLimits.raisePeak {limits : RiskLimits} {s : PortfolioRiskState} {sym : String} {ref eq : ℚ}
    (h : WithinLimits limits s sym ref eq) (eq' : ℚ) : WithinLimits limits (s.raisePeak eq') sym ref eq where
  equity := by
    rw [revalued_raisePeak, currentEquity_raisePeak]
    exact h.equity
  equity_pos := h.equity_pos
  gross := by
    rw [revalued_raisePeak, grossLeverage, leverage_raisePeak]
    exact h.gross
  concentration := by
    rw [raisePeak_positions, raisePeak_pendingLeaves]
    exact h.concentration

/-- The text of a rejection for the net leverage. -/
def netLeverageText : String := "Projected net leverage % exceeds limit %"

/-- An exception of the margin check, or of the leverage and concentration checks other than the one of the net leverage. -/
def LockedOut (limits : RiskLimits) (s : PortfolioRiskState) (o : Order) (ref : ℚ) (exc : Exc) : Prop :=
  marginFault limits s o ref = some exc ∨ (leverageFault limits s o ref = some exc ∧ exc.text ≠ netLeverageText)

end Quant
