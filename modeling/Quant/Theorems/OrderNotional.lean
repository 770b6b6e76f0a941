import Mathlib.Tactic.Linarith
import Quant.Lemmas.Risk

/-!
# The notional of a limit order

`validate_order` caps the notional of an order at the price it is given for the market, before it looks at the order's own limit.
The order may execute at its limit, so the cap holds there only where the market price is not the lower of the two.
-/

namespace Quant

open Pylib PortfolioRiskState

namespace PreTradeRiskFirewall

/-! ## What an accepted order passed -/

/-- An accepted order is within the quantity limit, and its notional at the reference price within the cap. -/
theorem notional_of_accepted {limits : RiskLimits} {s : PortfolioRiskState} {o : Order} {currentPrice : Option ℚ}
    (h : (validateOrder limits s o currentPrice).1 = .ok ()) :
    (∀ c ∈ currentPrice, 0 < c) ∧ o.quantity ≤ limits.maxOrderQty ∧
      ∀ ref, (∀ s', refPrice s' o currentPrice = some ref) → o.quantity * ref ≤ limits.maxOrderNotional := by
  have hok : validateOrder limits s o currentPrice = (.ok (), (validateOrder limits s o currentPrice).2) := Prod.ext h rfl
  refine ⟨(validateOrder_ok hok).given_pos, ?_⟩
  unfold validateOrder at h
  split at h
  · cases h
  · split at h
    · cases h
    · split at h
      · cases h
      · rename_i hlim
        unfold limitFault at hlim
        split at hlim
        · cases hlim
        · split at hlim
          · cases hlim
          · rename_i hqty
            refine ⟨not_lt.1 hqty, fun ref href => ?_⟩
            split at hlim
            · cases hlim
            · rename_i ref' hfilter
              obtain rfl : ref' = ref := by
                have hsome := (Option.filter_eq_some_iff.1 hfilter).1
                rw [href] at hsome
                exact (Option.some.inj hsome).symm
              split at hlim
              · cases hlim
              · rename_i hcap
                exact not_lt.1 hcap

/-! ## A portfolio that nothing else refuses -/

/-- An amount of cash with nothing bought and nothing working. -/
def cashOnly (cash : ℚ) : PortfolioRiskState := { cash, peakEquity := cash, initialEquity := cash }

/-- A limit order to buy. -/
def limitPurchase {quantity price : ℚ} (hq : 0 < quantity) (hp : 0 < price) : Order where
  clOrdId := "order"
  symbol := "AAPL"
  side := .buy
  orderType := .limit
  quantity := quantity
  price := some price
  clOrdId_ne := Literal.order_ne
  symbol_ne := Literal.aapl_ne
  quantity_pos := hq
  price_pos := fun _ h => Option.some.inj h ▸ hp
  stopPrice_pos := Literal.none_pos
  filledQuantity_nonneg := Literal.zero_nonneg
  filledQuoteAmount_nonneg := Literal.zero_nonneg
  averagePrice_nonneg := Literal.zero_nonneg
  feesPaid_nonneg := Literal.zero_nonneg

theorem intradayDrawdown_cashOnly {cash : ℚ} (h : 0 < cash) : (cashOnly cash).intradayDrawdown = .ok (0, cashOnly cash) := by
  have hpeak : (cashOnly cash).raisePeak cash = cashOnly cash := if_neg (lt_irrefl cash)
  have heq : (cashOnly cash).currentEquity = .ok cash := rfl
  have hnot : ¬ (cashOnly cash).peakEquity ≤ 0 := not_le.2 h
  simp only [intradayDrawdown, heq, hpeak, hnot, if_false]
  simp [cashOnly]

section Purchase

variable {q p c : ℚ} (hq : 0 < q) (hp : 0 < p)

theorem inputFault_purchase (hc : 0 < c) : inputFault (limitPurchase hq hp) (some c) = none := by
  simp [inputFault, limitPurchase, hq.not_ge, hp.not_ge, hc.not_ge]

/-- A purchase within the free margin passes the margin check. -/
theorem marginFault_purchase {limits : RiskLimits} {cash : ℚ} (h : limits.minFreeMargin ≤ cash - q * c) :
    marginFault limits (cashOnly cash) (limitPurchase hq hp) c = none := by
  have hopen : openingUnits (cashOnly cash) (limitPurchase hq hp) = q := by
    simp [openingUnits, limitPurchase, cashOnly, hq.le]
  have hfree : (cashOnly cash).freeMargin = .ok cash := by
    change Except.ok (cash - 0) = _
    rw [sub_zero]
  simp only [marginFault, hopen, hfree, not_lt.2 h, if_false, ite_self]

/-- A purchase whose notional is within each limit of its share of the cash passes the leverage and concentration checks. -/
theorem leverageFault_purchase {limits : RiskLimits} {cash : ℚ} (hc : 0 < c) (hcash : 0 < cash)
    (hg : q * c / cash ≤ limits.maxGrossLeverage) (hn : q * c / cash ≤ limits.maxNetLeverage)
    (hk : q * c / cash ≤ limits.maxConcentrationNavPct) :
    leverageFault limits (cashOnly cash) (limitPurchase hq hp) c = none := by
  have hvalue : addValues (projectedPrice (cashOnly cash) (limitPurchase hq hp).symbol c) (cashOnly cash).positions.items
      (cashOnly cash).cash = .ok cash := rfl
  have hexp : exposure 0 (0 + q) q = q := by
    simp [exposure, abs_of_pos hq]
  have hnotional : addNotionals (cashOnly cash) (limitPurchase hq hp).symbol c (limitPurchase hq hp).signedQuantity
      (allSymbols (cashOnly cash) (limitPurchase hq hp).symbol) (0, 0) = .ok (q * c, q * c) := by
    change Except.ok (0 + exposure 0 (0 + q) q * c, 0 + (0 + (0 + q)) * c) = _
    rw [hexp, zero_add, zero_add, zero_add, zero_add]
  have hasset : exposure ((cashOnly cash).positions.getD (limitPurchase hq hp).symbol 0)
      ((cashOnly cash).pendingLeaves.getD (limitPurchase hq hp).symbol 0 + (limitPurchase hq hp).signedQuantity)
      (limitPurchase hq hp).signedQuantity * c = q * c := by
    change exposure 0 (0 + q) q * c = q * c
    rw [hexp]
  unfold leverageFault
  simp only [hvalue, hnotional, hasset, hcash.not_ge, abs_of_pos (mul_pos hq hc), hg.not_gt, hn.not_gt, hk.not_gt, if_false]

end Purchase

/-- Cash that no margin, leverage or concentration limit objects to for a notional. -/
def ampleCash (limits : RiskLimits) (notional : ℚ) : ℚ :=
  notional + limits.minFreeMargin + notional / limits.maxGrossLeverage + notional / limits.maxNetLeverage +
    notional / limits.maxConcentrationNavPct

theorem div_le_of_div_le {x y k : ℚ} (hk : 0 < k) (hy : 0 < y) (h : x / k ≤ y) : x / y ≤ k := by
  rw [div_le_iff₀ hk] at h
  rw [div_le_iff₀ hy, mul_comm]
  exact h

/-- With ample cash a purchase within the quantity limit and the cap, at the market price it is given, is accepted. -/
theorem accepted_of_ampleCash (limits : RiskLimits) {q p c : ℚ} (hq : 0 < q) (hp : 0 < p) (hc : 0 < c)
    (hqty : q ≤ limits.maxOrderQty) (hcap : q * c ≤ limits.maxOrderNotional) :
    (validateOrder limits (cashOnly (ampleCash limits (q * c))) (limitPurchase hq hp) (some c)).1 = .ok () := by
  have hn : 0 < q * c := mul_pos hq hc
  have hm := limits.minFreeMargin_nonneg
  have hgross := div_pos hn limits.maxGrossLeverage_pos
  have hnet := div_pos hn limits.maxNetLeverage_pos
  have hconc := div_pos hn limits.maxConcentrationNavPct_pos
  have hcash : ampleCash limits (q * c) = q * c + limits.minFreeMargin + q * c / limits.maxGrossLeverage +
    q * c / limits.maxNetLeverage + q * c / limits.maxConcentrationNavPct := rfl
  generalize ampleCash limits (q * c) = cash at hcash ⊢
  have hpos : 0 < cash := by linarith
  have hlev := leverageFault_purchase hq hp hc hpos (div_le_of_div_le limits.maxGrossLeverage_pos hpos (by linarith))
    (div_le_of_div_le limits.maxNetLeverage_pos hpos (by linarith))
    (div_le_of_div_le limits.maxConcentrationNavPct_pos hpos (by linarith))
  have hmargin : marginFault limits (cashOnly cash) (limitPurchase hq hp) c = none :=
    marginFault_purchase hq hp (by linarith)
  have href : (refPrice (cashOnly cash) (limitPurchase hq hp) (some c)).filter (fun p => 0 < p) = some c :=
    Option.filter_eq_some_iff.2 ⟨rfl, decide_eq_true hc⟩
  have hquantity : (limitPurchase hq hp).quantity = q := rfl
  have hlim : limitFault limits (cashOnly cash) (limitPurchase hq hp) (some c) 0 = none := by
    simp only [limitFault, limits.maxIntradayDrawdownPct_pos.not_ge, hquantity, hqty.not_gt, href, hcap.not_gt, hmargin, hlev,
      if_false]
  simp only [validateOrder, inputFault_purchase hq hp hc, intradayDrawdown_cashOnly hpos, hlim]

/-! ## The cap at the limit price -/

/-- The cap holds at a limit price, for every portfolio and every order at that price, exactly where no market price is given, or
one no lower, or where even the largest quantity allowed is within the cap. -/
theorem limitNotional_iff (limits : RiskLimits) (currentPrice : Option ℚ) (p : ℚ) :
    (∀ (s : PortfolioRiskState) (o : Order), o.orderType = .limit → o.price = some p →
        (validateOrder limits s o currentPrice).1 = .ok () → o.quantity * p ≤ limits.maxOrderNotional) ↔
      ∀ c ∈ currentPrice, c ≤ 0 ∨ p ≤ c ∨ limits.maxOrderQty * p ≤ limits.maxOrderNotional := by
  constructor
  · intro h c hc
    by_contra hnot
    obtain ⟨hc0, hpc, hbig⟩ : 0 < c ∧ c < p ∧ limits.maxOrderNotional < limits.maxOrderQty * p := by
      simpa [not_or] using hnot
    have hp : 0 < p := hc0.trans hpc
    -- the largest quantity that both the quantity limit and the cap at the market price allow
    set q := min limits.maxOrderQty (limits.maxOrderNotional / c) with hq
    have hqpos : 0 < q := lt_min limits.maxOrderQty_pos (div_pos limits.maxOrderNotional_pos hc0)
    have hcap : q * c ≤ limits.maxOrderNotional := (le_div_iff₀ hc0).1 (min_le_right _ _)
    have hacc := accepted_of_ampleCash limits hqpos hp hc0 (min_le_left _ _) hcap
    rw [Option.mem_def] at hc
    have hle : q * p ≤ limits.maxOrderNotional := h _ (limitPurchase hqpos hp) rfl rfl (hc ▸ hacc)
    rcases min_choice limits.maxOrderQty (limits.maxOrderNotional / c) with hmin | hmin
    · rw [hq, hmin] at hle
      exact absurd hle (not_le.2 hbig)
    · rw [hq, hmin, div_mul_eq_mul_div, div_le_iff₀ hc0] at hle
      exact absurd (le_of_mul_le_mul_left hle limits.maxOrderNotional_pos) (not_le.2 hpc)
  · intro h s o _ hprice hacc
    obtain ⟨hgiven, hqty, hcap⟩ := notional_of_accepted hacc
    have hp : 0 < p := o.price_pos p hprice
    cases hcp : currentPrice with
    | none =>
      refine hcap p fun s' => ?_
      rw [hcp, refPrice, hprice]
      rfl
    | some c =>
      have hc := hgiven c hcp
      have hcapc : o.quantity * c ≤ limits.maxOrderNotional := by
        refine hcap c fun s' => ?_
        rw [hcp, refPrice]
        rfl
      rcases h c hcp with hneg | hle | hmax
      · exact absurd hc (not_lt.2 hneg)
      · exact (mul_le_mul_of_nonneg_left hle o.quantity_pos.le).trans hcapc
      · exact (mul_le_mul_of_nonneg_right hqty hp.le).trans hmax

/-- Limits with a cap of a thousand. -/
def thousandCap : RiskLimits where
  maxOrderNotional := 1000
  maxOrderQty := 1000
  maxGrossLeverage := 1
  maxNetLeverage := 1
  maxConcentrationNavPct := 1
  maxIntradayDrawdownPct := 1 / 2
  maxOrderNotional_pos := Literal.thousand_pos
  maxOrderQty_pos := Literal.thousand_pos
  maxGrossLeverage_pos := Literal.one_pos
  maxNetLeverage_pos := Literal.one_pos
  maxConcentrationNavPct_pos := Literal.one_pos
  maxIntradayDrawdownPct_pos := Literal.half_pos
  minFreeMargin_nonneg := Literal.zero_nonneg

/-- Twenty shares at a limit of a hundred, with the market given at fifty, are accepted under a cap of a thousand. -/
theorem limitNotional_aboveMarket :
    ¬ ∀ (limits : RiskLimits) (s : PortfolioRiskState) (o : Order) (currentPrice : Option ℚ), o.orderType = .limit →
      (validateOrder limits s o currentPrice).1 = .ok () → ∀ p ∈ o.price, o.quantity * p ≤ limits.maxOrderNotional := by
  intro h
  have hle := h thousandCap (cashOnly 10000) (limitPurchase Literal.twenty_pos Literal.hundred_pos) (some 50) rfl
    (by decide +kernel) 100 rfl
  exact absurd hle (by decide +kernel)

end PreTradeRiskFirewall
end Quant
