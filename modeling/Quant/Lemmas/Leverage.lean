import Mathlib.Algebra.Order.BigOperators.Group.List
import Mathlib.Data.List.Dedup
import Mathlib.Tactic.Ring
import Quant.Execution.RiskOrchestrator
import Quant.Lemmas.Risk

/-!
# Leverage as a sum

The loops of the leverage properties and of the firewall's projection as sums over the symbols of the portfolio, in whatever order
the symbols come, and the exposure of one symbol before and after an order.
-/

namespace Quant

open Pylib

namespace PortfolioRiskState

/-! ## The sums -/

/-- A symbol whose position and working orders are both negligible. -/
abbrev Idle (s : PortfolioRiskState) (sym : String) : Prop :=
  tiny (s.positions.getD sym 0) = true ∧ tiny (s.pendingLeaves.getD sym 0) = true

/-- What a symbol adds to a notional. -/
def term (s : PortfolioRiskState) (units : ℚ → ℚ → ℚ) (sym : String) : ℚ :=
  if s.Idle sym then 0
  else units (s.positions.getD sym 0) (s.pendingLeaves.getD sym 0) * s.currentPrices.getD sym 0

/-- The quantities and the price of a symbol decide what it adds. -/
theorem term_congr {s s' : PortfolioRiskState} {units units' : ℚ → ℚ → ℚ} {sym : String}
    (hpos : s.positions.getD sym 0 = s'.positions.getD sym 0)
    (hleaves : s.pendingLeaves.getD sym 0 = s'.pendingLeaves.getD sym 0)
    (hprice : s.currentPrices.getD sym 0 = s'.currentPrices.getD sym 0)
    (hunits : ∀ pos leaves, units pos leaves = units' pos leaves) : s.term units sym = s'.term units' sym := by
  have hidle : s.Idle sym ↔ s'.Idle sym := by rw [Idle, Idle, hpos, hleaves]
  exact if_congr hidle rfl (by rw [hpos, hleaves, hprice, hunits])

theorem getD_of_priceOf {s : PortfolioRiskState} {sym : String} {p : ℚ} (h : s.priceOf sym = .ok p) :
    s.currentPrices.getD sym 0 = p := by
  unfold priceOf at h
  split at h
  · cases h
  · rename_i q hq
    split at h
    · cases h
    · cases h
      exact Dict.getD_of_get?_some 0 hq

theorem addExposures_eq_ok_iff {s : PortfolioRiskState} {units : ℚ → ℚ → ℚ} {l : List String} {total x : ℚ} :
    s.addExposures units l total = .ok x ↔
      (∀ sym ∈ l, s.Idle sym ∨ ∃ p, s.priceOf sym = .ok p) ∧ x = total + (l.map (s.term units)).sum := by
  induction l generalizing total with
  | nil => simp [addExposures, eq_comm]
  | cons sym rest ih =>
    simp only [addExposures, List.forall_mem_cons, List.map_cons, List.sum_cons]
    by_cases hidle : s.Idle sym
    · have hterm : s.term units sym = 0 := if_pos hidle
      rw [if_pos hidle, ih, hterm, zero_add]
      exact and_congr_left' (by simp only [iff_and_self]; exact fun _ => Or.inl hidle)
    · rw [if_neg hidle]
      cases hp : s.priceOf sym with
      | error exc => simp [hidle]
      | ok p =>
        have hterm : s.term units sym = units (s.positions.getD sym 0) (s.pendingLeaves.getD sym 0) * p := by
          rw [term, if_neg hidle, getD_of_priceOf hp]
        simp only [ih, hidle, hterm, add_assoc, false_or, Except.ok.injEq, exists_eq', true_and]

theorem addValues_congr {price price' : String → Except Exc ℚ} {l : List (String × ℚ)} {c : ℚ}
    (h : ∀ p ∈ l, price p.1 = price' p.1) : addValues price l c = addValues price' l c := by
  induction l generalizing c with
  | nil => rfl
  | cons p l ih =>
    obtain ⟨sym, pos⟩ := p
    rw [List.forall_mem_cons] at h
    simp only [addValues, h.1, ih h.2]

theorem mem_symbols_iff {s : PortfolioRiskState} {sym : String} :
    sym ∈ s.symbols ↔ s.positions.contains sym = true ∨ s.pendingLeaves.contains sym = true := by
  simp [symbols, Dict.mem_keys_iff]

theorem nodup_symbols (s : PortfolioRiskState) : s.symbols.Nodup := List.nodup_dedup _

/-- Leverage when the equity is positive and every symbol that counts has a price. -/
theorem leverage_eq_ok {s : PortfolioRiskState} {units : ℚ → ℚ → ℚ} {measure : ℚ → ℚ} {eq : ℚ} (heq : s.currentEquity = .ok eq)
    (hpos : 0 < eq) (hpriced : ∀ sym ∈ s.symbols, s.Idle sym ∨ ∃ p, s.priceOf sym = .ok p) :
    s.leverage units measure = .ok ((measure (s.symbols.map (s.term units)).sum / eq : ℚ) : WithTop ℚ) := by
  have hsum : s.addExposures units s.symbols 0 = .ok (0 + (s.symbols.map (s.term units)).sum) :=
    addExposures_eq_ok_iff.2 ⟨hpriced, rfl⟩
  rw [leverage, heq]
  simp only [hpos.not_ge, if_false, hsum, zero_add]

/-- The portfolio with another valuation price of one symbol. -/
def revalued (s : PortfolioRiskState) (sym : String) (price : ℚ) : PortfolioRiskState :=
  { s with currentPrices := s.currentPrices.set sym price }

theorem revalued_raisePeak (s : PortfolioRiskState) (sym : String) (price eq : ℚ) :
    (s.raisePeak eq).revalued sym price = (s.revalued sym price).raisePeak eq := by
  unfold raisePeak revalued
  split <;> rfl

theorem currentEquity_raisePeak (s : PortfolioRiskState) (eq : ℚ) : (s.raisePeak eq).currentEquity = s.currentEquity := by
  unfold raisePeak
  split <;> rfl

theorem leverage_raisePeak (s : PortfolioRiskState) (eq : ℚ) (units : ℚ → ℚ → ℚ) (measure : ℚ → ℚ) :
    (s.raisePeak eq).leverage units measure = s.leverage units measure := by
  have hsum : ∀ l total, (s.raisePeak eq).addExposures units l total = s.addExposures units l total := by
    intro l
    induction l with
    | nil => exact fun _ => rfl
    | cons sym rest ih =>
      intro total
      simp only [addExposures, ih, raisePeak_positions, raisePeak_pendingLeaves, priceOf, raisePeak_currentPrices]
  rw [leverage, leverage, currentEquity_raisePeak, symbols, raisePeak_positions, raisePeak_pendingLeaves]
  simp only [hsum]
  rfl

end PortfolioRiskState

namespace PreTradeRiskFirewall

open PortfolioRiskState

/-! ## The projection -/

/-- The two cases of the firewall's rule agree where they meet: the exposure is the larger of the position now and with its
working orders done, whatever the order does. -/
theorem exposure_eq_max (pos leaves delta : ℚ) : exposure pos leaves delta = max |pos| |pos + leaves| := by
  unfold exposure
  split
  · rfl
  · rename_i h
    rw [not_or, not_and_or, not_and_or, not_or, not_or, not_lt, not_lt, not_lt, not_lt, not_lt, not_lt] at h
    have hsame : |pos + leaves| = |pos| + |leaves| := by
      rw [abs_add_eq_add_abs_iff]
      rcases lt_trichotomy pos 0 with hneg | rfl | hpos
      · have := h.2.resolve_left hneg.not_ge
        exact Or.inr ⟨hneg.le, this.2⟩
      · rcases le_total 0 leaves with hl | hl
        · exact Or.inl ⟨le_refl 0, hl⟩
        · exact Or.inr ⟨le_refl 0, hl⟩
      · have := h.1.resolve_left hpos.not_ge
        exact Or.inl ⟨hpos.le, this.2⟩
    rw [hsame, max_eq_right]
    linarith [abs_nonneg leaves]

theorem exposure_zero (pos leaves : ℚ) : exposure pos leaves 0 = nettedExposure pos leaves := by
  simp [exposure, nettedExposure]

theorem nettedExposure_eq_max (pos leaves : ℚ) : nettedExposure pos leaves = max |pos| |pos + leaves| := by
  rw [← exposure_zero, exposure_eq_max]

/-- What a symbol adds to a projected notional. -/
def projectedTerm (s : PortfolioRiskState) (sym : String) (ref delta : ℚ) (units : ℚ → ℚ → ℚ → ℚ) (sym' : String) : ℚ :=
  if sym' = sym then units (s.positions.getD sym' 0) (s.pendingLeaves.getD sym' 0 + delta) delta * ref
  else s.term (fun pos leaves => units pos leaves 0) sym'

/-- The units of the net notional. -/
def netUnits (pos leaves _delta : ℚ) : ℚ := pos + leaves

theorem addNotionals_eq_ok_iff {s : PortfolioRiskState} {sym : String} {ref delta : ℚ} {l : List String} {acc out : ℚ × ℚ} :
    addNotionals s sym ref delta l acc = .ok out ↔
      (∀ sym' ∈ l, sym' = sym ∨ s.Idle sym' ∨ ∃ p, s.priceOf sym' = .ok p) ∧
      out = (acc.1 + (l.map (projectedTerm s sym ref delta exposure)).sum,
        acc.2 + (l.map (projectedTerm s sym ref delta netUnits)).sum) := by
  induction l generalizing acc with
  | nil => simp [addNotionals, eq_comm]
  | cons sym' rest ih =>
    obtain ⟨gross, net⟩ := acc
    simp only [addNotionals, List.forall_mem_cons, List.map_cons, List.sum_cons]
    by_cases hsym : sym' = sym
    · subst hsym
      simp only [if_true, ih, projectedTerm, netUnits, add_assoc, true_or, true_and]
    · by_cases hidle : s.Idle sym'
      · have hterm : ∀ units : ℚ → ℚ → ℚ → ℚ, projectedTerm s sym ref delta units sym' = 0 := by
          intro units
          rw [projectedTerm, if_neg hsym, term, if_pos hidle]
        rw [if_neg hsym, if_pos hidle, ih, hterm, hterm, zero_add, zero_add]
        exact and_congr_left' (by simp only [iff_and_self]; exact fun _ => Or.inr (Or.inl hidle))
      · rw [if_neg hsym, if_neg hidle]
        cases hp : s.priceOf sym' with
        | error exc => simp [hsym, hidle]
        | ok p =>
          have hterm : ∀ units : ℚ → ℚ → ℚ → ℚ, projectedTerm s sym ref delta units sym' =
              units (s.positions.getD sym' 0) (s.pendingLeaves.getD sym' 0) 0 * p := by
            intro units
            rw [projectedTerm, if_neg hsym, term, if_neg hidle, getD_of_priceOf hp]
          simp only [ih, hterm, netUnits, add_assoc, Except.ok.injEq, exists_eq', or_true, true_and]

theorem mem_allSymbols_iff {s : PortfolioRiskState} {sym sym' : String} :
    sym' ∈ allSymbols s sym ↔ sym' = sym ∨ sym' ∈ s.symbols := by
  rw [mem_symbols_iff]
  simp only [allSymbols, List.mem_dedup, List.mem_append, Dict.mem_keys_iff, List.mem_singleton]
  exact or_comm

theorem nodup_allSymbols (s : PortfolioRiskState) (sym : String) : (allSymbols s sym).Nodup := List.nodup_dedup _

/-- Sums over two lists of the same symbols, none of them twice, agree. -/
theorem sum_symbols {l l' : List String} (hl : l.Nodup) (hl' : l'.Nodup) (h : ∀ sym, sym ∈ l ↔ sym ∈ l') (f : String → ℚ) :
    (l.map f).sum = (l'.map f).sum :=
  (((List.perm_ext_iff_of_nodup hl hl').2 h).map f).sum_eq

/-! ## The checks -/

/-- What passing the leverage and concentration checks says. -/
theorem leverageFault_eq_none {limits : RiskLimits} {s : PortfolioRiskState} {o : Order} {ref : ℚ}
    (h : leverageFault limits s o ref = none) :
    ∃ equity gross net, addValues (projectedPrice s o.symbol ref) s.positions.items s.cash = .ok equity ∧ 0 < equity ∧
      addNotionals s o.symbol ref o.signedQuantity (allSymbols s o.symbol) (0, 0) = .ok (gross, net) ∧
      gross / equity ≤ limits.maxGrossLeverage ∧ |net| / equity ≤ limits.maxNetLeverage := by
  unfold leverageFault at h
  split at h
  · cases h
  · rename_i equity hequity
    split at h
    · cases h
    · rename_i hpos
      split at h
      · cases h
      · rename_i gross net hnotional
        split at h
        · cases h
        · rename_i hgross
          split at h
          · cases h
          · rename_i hnet
            exact ⟨equity, gross, net, hequity, not_le.1 hpos, hnotional, not_lt.1 hgross, not_lt.1 hnet⟩

theorem projectedLeverage_eq_ok {s : PortfolioRiskState} {o : Order} {ref equity gross net : ℚ}
    (h : addValues (projectedPrice s o.symbol ref) s.positions.items s.cash = .ok equity)
    (h' : addNotionals s o.symbol ref o.signedQuantity (allSymbols s o.symbol) (0, 0) = .ok (gross, net)) :
    projectedLeverage s o ref = .ok (gross / equity, |net| / equity) := by
  simp only [projectedLeverage, h, h']

/-- An accepted order passed the leverage checks at its reference price. -/
theorem leverageFault_of_accepted {limits : RiskLimits} {s s' : PortfolioRiskState} {o : Order} {currentPrice : Option ℚ}
    {ref : ℚ} (h : validateOrder limits s o currentPrice = (.ok (), s')) (href : refPrice s' o currentPrice = some ref) :
    leverageFault limits s' o ref = none := by
  unfold validateOrder at h
  split at h
  · cases h
  · split at h
    · cases h
    · split at h
      · cases h
      · rename_i hlim
        obtain rfl := (Prod.mk.inj h).2
        unfold limitFault at hlim
        split at hlim
        · cases hlim
        · split at hlim
          · cases hlim
          · split at hlim
            · cases hlim
            · rename_i ref' hfilter
              obtain rfl : ref' = ref := by
                have := (Option.filter_eq_some_iff.1 hfilter).1
                rw [href] at this
                exact (Option.some.inj this).symm
              split at hlim
              · cases hlim
              · split at hlim
                · cases hlim
                · exact hlim

end PreTradeRiskFirewall

end Quant
