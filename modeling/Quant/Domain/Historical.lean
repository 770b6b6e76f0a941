import Mathlib.Algebra.Order.Ring.Int
import Mathlib.Algebra.Order.Ring.Rat
import Mathlib.Data.List.Chain
import Quant.Exceptions

/-!
# Historical bars

`HistoricalPriceBar` and `HistoricalBarBatch` of `domain/historical.py`, with the checks of their constructors. Prices are exact
and finite, so the checks for types and for `NaN` have no case here; a batch's corporate actions are not part of it, and stand
beside it where the code makes any.
-/

namespace Quant

/-- `Resolution`. -/
inductive Resolution where
  | oneSecond
  | oneMinute
  | fiveMinutes
  | fifteenMinutes
  | oneHour
  | oneDay
  deriving DecidableEq, Repr

/-- `str(resolution)`. -/
def Resolution.str : Resolution → String
  | .oneSecond => "1s"
  | .oneMinute => "1m"
  | .fiveMinutes => "5m"
  | .fifteenMinutes => "15m"
  | .oneHour => "1h"
  | .oneDay => "1d"

theorem Resolution.str_injective {r r' : Resolution} (h : r.str = r'.str) : r = r' := by
  revert h
  cases r <;> cases r' <;> decide

/-- How far the vwap may lie outside the range of the bar. -/
def vwapTolerance : ℚ := 1 / 10 ^ 4

/-- The fields of a bar, with their defaults. -/
structure HistoricalBarFields where
  assetId : String
  timestamp : ℤ
  openPrice : ℚ
  high : ℚ
  low : ℚ
  close : ℚ
  volume : ℚ
  vwap : ℚ
  resolution : Resolution := .oneDay
  adjClose : Option ℚ := none
  splitFactor : ℚ := 1
  dividendAmount : ℚ := 0
  deriving DecidableEq

/-- A bar its constructor accepted. -/
structure HistoricalPriceBar extends HistoricalBarFields where
  assetId_ne : assetId ≠ ""
  timestamp_pos : 0 < timestamp
  prices_pos : 0 < openPrice ∧ 0 < high ∧ 0 < low ∧ 0 < close
  high_ge : max openPrice close ≤ high
  low_le : low ≤ min openPrice close
  volume_nonneg : 0 ≤ volume
  vwap_pos : 0 < volume → 0 < vwap
  vwap_mem : 0 < volume → low - vwapTolerance ≤ vwap ∧ vwap ≤ high + vwapTolerance
  adjClose_pos : ∀ a ∈ adjClose, 0 < a
  splitFactor_pos : 0 < splitFactor
  dividendAmount_nonneg : 0 ≤ dividendAmount
  deriving DecidableEq

/-- `HistoricalPriceBar.__post_init__`. -/
def HistoricalBarFields.create (f : HistoricalBarFields) : Except Exc HistoricalPriceBar :=
  if h1 : f.assetId = "" then .error ⟨.nonFiniteHistoricalInput, "asset_id must be non-empty string", []⟩
  else if h2 : f.timestamp ≤ 0 then
    .error ⟨.nonFiniteHistoricalInput, "timestamp must be positive integer nanoseconds, got %", [.num f.timestamp]⟩
  else if h3 : ¬ (0 < f.openPrice ∧ 0 < f.high ∧ 0 < f.low ∧ 0 < f.close) then
    .error ⟨.invalidBarGeometry, "All OHLC price components must be strictly positive: O=%, H=%, L=%, C=%",
      [.num f.openPrice, .num f.high, .num f.low, .num f.close]⟩
  else if h4 : f.high < max f.openPrice f.close then
    .error ⟨.invalidBarGeometry, "High (%) cannot be strictly less than max(Open, Close) (%)",
      [.num f.high, .num (max f.openPrice f.close)]⟩
  else if h5 : min f.openPrice f.close < f.low then
    .error ⟨.invalidBarGeometry, "Low (%) cannot be strictly greater than min(Open, Close) (%)",
      [.num f.low, .num (min f.openPrice f.close)]⟩
  else if h6 : f.volume < 0 then .error ⟨.invalidBarGeometry, "Traded volume cannot be negative, got %", [.num f.volume]⟩
  else if h7 : 0 < f.volume ∧ f.vwap ≤ 0 then
    .error ⟨.invalidBarGeometry, "VWAP must be positive when volume > 0, got %", [.num f.vwap]⟩
  else if h8 : 0 < f.volume ∧ ¬ (f.low - vwapTolerance ≤ f.vwap ∧ f.vwap ≤ f.high + vwapTolerance) then
    .error ⟨.invalidBarGeometry, "VWAP (%) must lie within bar price envelope [%, %] when volume > 0",
      [.num f.vwap, .num f.low, .num f.high]⟩
  else if h9 : ∃ a ∈ f.adjClose, a ≤ 0 then
    .error ⟨.invalidBarGeometry, "adj_close must be strictly positive finite float, got %", [.num (f.adjClose.getD 0)]⟩
  else if h10 : f.splitFactor ≤ 0 then
    .error ⟨.invalidCorporateAction, "split_factor must be strictly positive, got %", [.num f.splitFactor]⟩
  else if h11 : f.dividendAmount < 0 then
    .error ⟨.invalidCorporateAction, "dividend_amount cannot be negative, got %", [.num f.dividendAmount]⟩
  else .ok
    { f with
      assetId_ne := h1
      timestamp_pos := not_le.1 h2
      prices_pos := not_not.1 h3
      high_ge := not_lt.1 h4
      low_le := not_lt.1 h5
      volume_nonneg := not_lt.1 h6
      vwap_pos := fun hv => not_le.1 fun hw => h7 ⟨hv, hw⟩
      vwap_mem := fun hv => not_not.1 fun hw => h8 ⟨hv, hw⟩
      adjClose_pos := fun a ha => not_le.1 fun hle => h9 ⟨a, ha, hle⟩
      splitFactor_pos := not_le.1 h10
      dividendAmount_nonneg := not_lt.1 h11 }

/-- The constructor accepts the fields of a bar it has accepted. -/
theorem HistoricalPriceBar.create_fields (b : HistoricalPriceBar) : b.toHistoricalBarFields.create = .ok b := by
  unfold HistoricalBarFields.create
  rw [dif_neg b.assetId_ne, dif_neg (not_le.2 b.timestamp_pos), dif_neg (not_not.2 b.prices_pos), dif_neg (not_lt.2 b.high_ge),
    dif_neg (not_lt.2 b.low_le), dif_neg (not_lt.2 b.volume_nonneg), dif_neg (fun h => h.2.not_gt (b.vwap_pos h.1)),
    dif_neg (fun h => h.2 (b.vwap_mem h.1)), dif_neg (fun ⟨a, ha, hle⟩ => hle.not_gt (b.adjClose_pos a ha)),
    dif_neg (not_le.2 b.splitFactor_pos), dif_neg (not_lt.2 b.dividendAmount_nonneg)]

/-- A bar has the fields it was created from. -/
theorem HistoricalBarFields.fields_of_create {f : HistoricalBarFields} {b : HistoricalPriceBar} (h : f.create = .ok b) :
    b.toHistoricalBarFields = f := by
  unfold create at h
  obtain ⟨_, h⟩ := of_check_ok h
  obtain ⟨_, h⟩ := of_check_ok h
  obtain ⟨_, h⟩ := of_check_ok h
  obtain ⟨_, h⟩ := of_check_ok h
  obtain ⟨_, h⟩ := of_check_ok h
  obtain ⟨_, h⟩ := of_check_ok h
  obtain ⟨_, h⟩ := of_check_ok h
  obtain ⟨_, h⟩ := of_check_ok h
  obtain ⟨_, h⟩ := of_check_ok h
  obtain ⟨_, h⟩ := of_check_ok h
  obtain ⟨_, h⟩ := of_check_ok h
  cases h
  rfl

/-- `math.isclose(factor, 1.0, rel_tol=1e-9)`. -/
def isUnitFactor (factor : ℚ) : Bool := |factor - 1| ≤ max (1 / 10 ^ 9 * max |factor| |1|) 0

/-- The fields of a bar scaled by its split factor. -/
def HistoricalPriceBar.adjustedFields (b : HistoricalPriceBar) : HistoricalBarFields :=
  let factor := b.splitFactor
  { assetId := b.assetId
    timestamp := b.timestamp
    openPrice := b.openPrice * factor
    high := b.high * factor
    low := b.low * factor
    close := b.close * factor
    volume := if 0 < factor then b.volume / factor else b.volume
    vwap := b.vwap * factor
    resolution := b.resolution
    adjClose := b.adjClose
    splitFactor := 1
    dividendAmount := b.dividendAmount * factor }

/-- `to_adjusted_bar`. -/
def HistoricalPriceBar.toAdjustedBar (b : HistoricalPriceBar) : Except Exc HistoricalPriceBar :=
  if isUnitFactor b.splitFactor then .ok b else b.adjustedFields.create

/-- The adjusted close with `close` in the place of none, as the readers take it. -/
def HistoricalPriceBar.filled (b : HistoricalPriceBar) : HistoricalPriceBar :=
  { b with
    adjClose := some (b.adjClose.getD b.close)
    adjClose_pos := by
      intro a ha
      rw [Option.mem_some_iff] at ha
      rw [← ha]
      cases hadj : b.adjClose with
      | none => exact b.prices_pos.2.2.2
      | some c => exact b.adjClose_pos c hadj }

/-! ## Batches -/

/-- A batch its constructor accepted: at least one bar, at increasing times. -/
structure HistoricalBarBatch where
  symbol : String
  resolution : Resolution
  bars : List HistoricalPriceBar
  symbol_ne : symbol ≠ ""
  bars_ne : bars ≠ []
  bars_increasing : bars.Pairwise (fun b b' => b.timestamp < b'.timestamp)

/-- The first two neighbours that are not in order, from a position on. -/
def monotonicFault (symbol : String) : ℕ → HistoricalPriceBar → List HistoricalPriceBar → Option Exc
  | _, _, [] => none
  | i, prev, b :: bars =>
    if b.timestamp ≤ prev.timestamp then
      some ⟨.nonMonotonicTimestamp, "Temporal monotonicity violation in '%' at index %: bar[%] ts=% >= bar[%] ts=%",
        [.str symbol, .num i, .num (i - 1 : ℤ), .num prev.timestamp, .num i, .num b.timestamp]⟩
    else monotonicFault symbol (i + 1) b bars

theorem increasing_of_monotonicFault {symbol : String} {i : ℕ} {b : HistoricalPriceBar} {bars : List HistoricalPriceBar}
    (h : monotonicFault symbol i b bars = none) : (b :: bars).Pairwise (fun b b' => b.timestamp < b'.timestamp) := by
  have : IsTrans HistoricalPriceBar (fun b b' => b.timestamp < b'.timestamp) := ⟨fun _ _ _ => lt_trans⟩
  rw [← List.isChain_iff_pairwise]
  induction bars generalizing i b with
  | nil => exact List.isChain_singleton b
  | cons b' bars ih =>
    rw [monotonicFault] at h
    split at h
    · cases h
    · rename_i hlt
      exact List.isChain_cons_cons.2 ⟨not_le.1 hlt, ih h⟩

theorem monotonicFault_of_increasing {symbol : String} {i : ℕ} {b : HistoricalPriceBar} {bars : List HistoricalPriceBar}
    (h : (b :: bars).Pairwise (fun b b' => b.timestamp < b'.timestamp)) : monotonicFault symbol i b bars = none := by
  induction bars generalizing i b with
  | nil => rfl
  | cons b' bars ih =>
    obtain ⟨hb, h⟩ := List.pairwise_cons.1 h
    rw [monotonicFault, if_neg (not_le.2 (hb b' List.mem_cons_self))]
    exact ih h

/-- `HistoricalBarBatch.__post_init__`. -/
def HistoricalBarBatch.create (symbol : String) (resolution : Resolution) :
    List HistoricalPriceBar → Except Exc HistoricalBarBatch
  | [] =>
    if symbol = "" then .error ⟨.nonFiniteHistoricalInput, "symbol must be non-empty string", []⟩
    else .error ⟨.emptyHistoricalBatch, "HistoricalBarBatch for symbol '%' cannot be empty", [.str symbol]⟩
  | b :: bars =>
    if h1 : symbol = "" then .error ⟨.nonFiniteHistoricalInput, "symbol must be non-empty string", []⟩
    else
      match h2 : monotonicFault symbol 1 b bars with
      | some exc => .error exc
      | none => .ok
        { symbol := symbol
          resolution := resolution
          bars := b :: bars
          symbol_ne := h1
          bars_ne := List.cons_ne_nil b bars
          bars_increasing := increasing_of_monotonicFault h2 }

theorem HistoricalBarBatch.of_create {symbol : String} {resolution : Resolution} {bars : List HistoricalPriceBar}
    {batch : HistoricalBarBatch}
    (h : create symbol resolution bars = .ok batch) : batch.symbol = symbol ∧ batch.resolution = resolution := by
  cases bars with
  | nil =>
    rw [create] at h
    split at h <;> cases h
  | cons b bars =>
    simp only [create] at h
    split at h
    · cases h
    · split at h
      · cases h
      · cases h
        exact ⟨rfl, rfl⟩

/-- The constructor takes bars at increasing times. -/
theorem HistoricalBarBatch.create_eq_ok {symbol : String} (resolution : Resolution) {bars : List HistoricalPriceBar}
    (hsym : symbol ≠ "") (hne : bars ≠ []) (hinc : bars.Pairwise (fun b b' => b.timestamp < b'.timestamp)) :
    ∃ batch, HistoricalBarBatch.create symbol resolution bars = .ok batch ∧ batch.symbol = symbol ∧
      batch.resolution = resolution ∧ batch.bars = bars := by
  cases bars with
  | nil => exact absurd rfl hne
  | cons b bars =>
    simp only [create, dif_neg hsym]
    split
    · rename_i exc hfault
      rw [monotonicFault_of_increasing hinc] at hfault
      cases hfault
    · exact ⟨_, rfl, rfl, rfl, rfl⟩

end Quant
