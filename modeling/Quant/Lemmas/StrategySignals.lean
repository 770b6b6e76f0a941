import Mathlib.Algebra.BigOperators.Ring.List
import Quant.Analytics.Strategies.Base
import Quant.Pylib.Steps

/-!
# Signals that are accepted

What a signal's constructor accepts, and what the template does with accepted signals: the leverage it enforces keeps every one of
them acceptable, whatever they are.
-/

namespace Quant

open Pylib

section Signals

variable {α : Type} [Field α] [LinearOrder α] [FloorRing α]

/-- What the constructor checks. -/
structure StrategySignalFields.Valid (f : StrategySignalFields α) : Prop where
  symbol_ne : f.symbol ≠ ""
  targetWeight_mem : -1 ≤ f.targetWeight ∧ f.targetWeight ≤ 1
  conviction_mem : 0 ≤ f.conviction ∧ f.conviction ≤ 1
  targetHorizonBars_pos : 0 < f.targetHorizonBars
  long_pos : f.direction = .long → 0 < f.targetWeight
  short_neg : f.direction = .short → f.targetWeight < 0
  flat_zero : f.direction = .flat → IsCloseToZero f.targetWeight
  stopLossPct_pos : PositiveIfSome f.stopLossPct
  takeProfitPct_pos : PositiveIfSome f.takeProfitPct

/-- Valid fields are accepted as they are. -/
theorem StrategySignalFields.create_of_valid {f : StrategySignalFields α} (h : f.Valid) :
    ∃ sig, f.create = .ok sig ∧ sig.toStrategySignalFields = f := by
  refine ⟨{ f with
    symbol_ne := h.symbol_ne
    targetWeight_mem := h.targetWeight_mem
    conviction_mem := h.conviction_mem
    targetHorizonBars_pos := h.targetHorizonBars_pos
    long_pos := h.long_pos
    short_neg := h.short_neg
    flat_zero := h.flat_zero
    stopLossPct_pos := h.stopLossPct_pos
    takeProfitPct_pos := h.takeProfitPct_pos }, ?_, rfl⟩
  rw [create, dif_neg h.symbol_ne, dif_neg (not_not.2 h.targetWeight_mem), dif_neg (not_not.2 h.conviction_mem),
    dif_neg (not_le.2 h.targetHorizonBars_pos), dif_neg fun hd => not_le.2 (h.long_pos hd.1) hd.2,
    dif_neg fun hd => not_le.2 (h.short_neg hd.1) hd.2, dif_neg fun hd => hd.2 (h.flat_zero hd.1),
    dif_neg (not_not.2 h.stopLossPct_pos), dif_neg (not_not.2 h.takeProfitPct_pos)]

theorem StrategySignal.valid (sig : StrategySignal α) : sig.toStrategySignalFields.Valid :=
  ⟨sig.symbol_ne, sig.targetWeight_mem, sig.conviction_mem, sig.targetHorizonBars_pos, sig.long_pos, sig.short_neg, sig.flat_zero,
    sig.stopLossPct_pos, sig.takeProfitPct_pos⟩

/-- The stops and targets there are exceed `u`. -/
def StrategySignalFields.StopsAbove (u : α) (f : StrategySignalFields α) : Prop :=
  (∀ y, f.stopLossPct = some y → u < y) ∧ ∀ y, f.takeProfitPct = some y → u < y

/-- The stops and targets do not round to zero. -/
abbrev StrategySignal.StopsRound (sig : StrategySignal α) : Prop := sig.StopsAbove (halfUnit 4)

theorem StrategySignal.stopsRound_of {sig : StrategySignal α} {stop take : α}
    (h : sig.stopLossPct = some stop ∧ sig.takeProfitPct = some take) (hstop : halfUnit 4 < stop) (htake : halfUnit 4 < take) :
    sig.StopsRound := by
  refine ⟨fun y hy => ?_, fun y hy => ?_⟩
  · rw [h.1] at hy
    exact Option.some.inj hy ▸ hstop
  · rw [h.2] at hy
    exact Option.some.inj hy ▸ htake

/-- Where each symbol's signal is accepted, so are all. -/
theorem collectSignals_ok {symbols : List String} {f : String → Except (StrategyExc α) (StrategySignal α)}
    {P : StrategySignal α → Prop} (h : ∀ sym ∈ symbols, ∃ sig, f sym = .ok sig ∧ P sig) :
    ∃ signals, collectSignals symbols f = .ok signals ∧ ∀ sig ∈ signals.values, P sig := by
  obtain ⟨made, hmade⟩ := mapM_ok_of_forall fun sym hsym => (h sym hsym).imp fun _ hsig => hsig.1
  refine ⟨(∅ : Signals α).setAll (symbols.zip made), by rw [collectSignals, hmade]; rfl, ?_⟩
  intro sig hsig
  obtain ⟨sym, hget⟩ := (Dict.mem_values_iff _ _).1 hsig
  rcases Dict.get?_setAll_cases hget with hmem | hnone
  · obtain ⟨sym', hsym', hf⟩ := (mem_iff_of_forall₂ (forall₂_of_mapM_ok hmade) sig).1 (List.of_mem_zip hmem).2
    obtain ⟨sig', hsig', hP⟩ := h sym' hsym'
    rw [hf] at hsig'
    cases hsig'
    exact hP
  · cases hnone

end Signals

/-! ## Weights and directions -/

section Directions

variable {α : Type} [Field α] [LinearOrder α] [IsStrictOrderedRing α]

/-- A weight is on the side of its direction, by more than `u`. -/
def Suits (u : α) : SignalDirection → α → Prop
  | .long, w => u < w
  | .short, w => w < -u
  | .flat, w => w = 0

theorem isCloseToZero_iff {x : α} : IsCloseToZero x ↔ |x| ≤ lit (1 / 10 ^ 7) := by
  have hsmall : (lit (1 / 10 ^ 9) : α) < lit 1 := lit_lt_lit.2 (by norm_num)
  have hone : (lit 1 : α) = 1 := Rat.cast_one
  rw [IsCloseToZero, le_max_iff]
  constructor
  · rintro (h | h)
    · -- a number at most a part of itself is zero
      have hx : |x| = 0 := by
        rcases (abs_nonneg x).lt_or_eq with hpos | hzero
        · have := mul_lt_mul_of_pos_right hsmall hpos
          rw [hone, one_mul] at this
          exact absurd h (not_le.2 this)
        · exact hzero.symm
      rw [hx]
      exact (lit_pos.2 (by norm_num)).le
    · exact h
  · exact .inr

theorem isCloseToZero_zero : IsCloseToZero (0 : α) := by
  rw [isCloseToZero_iff, abs_zero]
  exact (lit_pos.2 (by norm_num)).le

/-- A weight on its side fits the direction. -/
theorem Suits.directions {d : SignalDirection} {w u : α} (hu : 0 ≤ u) (h : Suits u d w) :
    (d = .long → 0 < w) ∧ (d = .short → w < 0) ∧ (d = .flat → IsCloseToZero w) := by
  refine ⟨?_, ?_, ?_⟩
  · rintro rfl
    exact hu.trans_lt h
  · rintro rfl
    exact lt_of_lt_of_le h (neg_nonpos.2 hu)
  · rintro rfl
    rw [show w = 0 from h]
    exact isCloseToZero_zero

variable [FloorRing α]

/-- A weight on its side by more than half a unit stays there when it is rounded. -/
theorem Suits.roundTo {d : SignalDirection} {w : α} {n : ℕ} (h : Suits (halfUnit n) d w) :
    Suits (halfUnit n) d (roundTo w n) := by
  cases d with
  | long => exact halfUnit_lt_roundTo h
  | short => exact roundTo_lt_neg_halfUnit h
  | flat =>
    rw [show w = 0 from h]
    exact roundTo_zero n

/-- A size between 0 and 1 is rounded to one. -/
theorem roundTo_unit {x : α} (h : 0 ≤ x ∧ x ≤ 1) (n : ℕ) : 0 ≤ roundTo x n ∧ roundTo x n ≤ 1 := by
  have hmem : ((0 : ℤ) : α) ≤ x ∧ x ≤ ((1 : ℤ) : α) := by rwa [Int.cast_zero, Int.cast_one]
  simpa only [Int.cast_zero, Int.cast_one] using roundTo_mem hmem n

theorem roundTo_weight {x : α} (h : |x| ≤ 1) (n : ℕ) : -1 ≤ roundTo x n ∧ roundTo x n ≤ 1 := by
  have hmem : ((-1 : ℤ) : α) ≤ x ∧ x ≤ ((1 : ℤ) : α) := by
    rw [Int.cast_neg, Int.cast_one]
    exact abs_le.1 h
  simpa only [Int.cast_neg, Int.cast_one] using roundTo_mem hmem n

/-- A signal whose weight and conviction are rounded is valid, where the weight is far enough on its side. -/
theorem valid_rounded {symbol : String} (hsymbol : symbol ≠ "") {d : SignalDirection} {w : α} {n : ℕ}
    (hw : Suits (halfUnit n) d w ∧ |w| ≤ 1) {conviction : α} (hc : 0 ≤ conviction ∧ conviction ≤ 1) {horizon : ℤ}
    (hh : 0 < horizon)
    {stop take : α} (hstop : 0 < stop) (htake : 0 < take) (diagnostics : Dict String (DiagValue α)) (timestamp : ℤ) :
    StrategySignalFields.Valid
      { symbol := symbol
        direction := d
        targetWeight := roundTo w n
        conviction := roundTo conviction 4
        targetHorizonBars := horizon
        stopLossPct := some stop
        takeProfitPct := some take
        diagnostics := diagnostics
        timestamp := timestamp } := by
  obtain ⟨hlong, hshort, hflat⟩ := hw.1.roundTo.directions (halfUnit_pos n).le
  exact
    { symbol_ne := hsymbol
      targetWeight_mem := roundTo_weight hw.2 n
      conviction_mem := roundTo_unit hc 4
      targetHorizonBars_pos := hh
      long_pos := hlong
      short_neg := hshort
      flat_zero := hflat
      stopLossPct_pos := fun y hy => Option.some.inj hy ▸ hstop
      takeProfitPct_pos := fun y hy => Option.some.inj hy ▸ htake }

/-- Such a signal is accepted with its stops. -/
theorem create_rounded {symbol : String} (hsymbol : symbol ≠ "") {d : SignalDirection} {w : α} {n : ℕ}
    (hw : Suits (halfUnit n) d w ∧ |w| ≤ 1) {conviction : α} (hc : 0 ≤ conviction ∧ conviction ≤ 1) {horizon : ℤ}
    (hh : 0 < horizon)
    {stop take : α} (hstop : 0 < stop) (htake : 0 < take) (diagnostics : Dict String (DiagValue α)) (timestamp : ℤ) :
    ∃ sig, StrategySignalFields.create
        { symbol := symbol
          direction := d
          targetWeight := roundTo w n
          conviction := roundTo conviction 4
          targetHorizonBars := horizon
          stopLossPct := some stop
          takeProfitPct := some take
          diagnostics := diagnostics
          timestamp := timestamp } = .ok sig ∧ sig.stopLossPct = some stop ∧ sig.takeProfitPct = some take := by
  obtain ⟨sig, hcreate, hfields⟩ :=
    StrategySignalFields.create_of_valid (valid_rounded hsymbol hw hc hh hstop htake diagnostics timestamp)
  exact ⟨sig, hcreate, by rw [hfields], by rw [hfields]⟩

end Directions

/-! ## The leverage -/

section Template

variable {α : Type} [Field α] [LinearOrder α] [IsStrictOrderedRing α] [FloorRing α]

/-- A weight scaled down is still valid. -/
theorem StrategySignal.valid_scaled (sig : StrategySignal α) {scale : α} (h : 0 < scale ∧ scale ≤ 1) :
    { sig.toStrategySignalFields with targetWeight := sig.targetWeight * scale : StrategySignalFields α }.Valid := by
  have habs : |sig.targetWeight * scale| ≤ |sig.targetWeight| := by
    rw [abs_mul, abs_of_pos h.1]
    exact mul_le_of_le_one_right (abs_nonneg _) h.2
  refine
    { sig.valid with
      targetWeight_mem := abs_le.1 (habs.trans (abs_le.2 sig.targetWeight_mem))
      long_pos := fun hd => mul_pos (sig.long_pos hd) h.1
      short_neg := fun hd => mul_neg_of_neg_of_pos (sig.short_neg hd) h.1
      flat_zero := fun hd => isCloseToZero_iff.2 (habs.trans (isCloseToZero_iff.1 (sig.flat_zero hd))) }

/-- The signals with their weights scaled down, and all else as it was. -/
def Scaled (scale : α) (sig sig' : StrategySignal α) : Prop :=
  sig'.toStrategySignalFields = { sig.toStrategySignalFields with targetWeight := sig.targetWeight * scale }

/-- Accepted signals are accepted with their weights scaled down. -/
theorem scaled_ok {scale : α} (h : 0 < scale ∧ scale ≤ 1) (sigs : List (StrategySignal α)) :
    ∃ scaled, (sigs.mapM fun sig => { sig.toStrategySignalFields with targetWeight := sig.targetWeight * scale }.create) =
      .ok scaled ∧
      List.Forall₂ (Scaled scale) sigs scaled := by
  have hcreate := fun sig : StrategySignal α => StrategySignalFields.create_of_valid (sig.valid_scaled h)
  obtain ⟨scaled, hscaled⟩ := mapM_ok_of_forall (l := sigs) fun sig _ => (hcreate sig).imp fun _ h => h.1
  refine ⟨scaled, hscaled, (forall₂_of_mapM_ok hscaled).imp fun sig sig' h => ?_⟩
  obtain ⟨made, hmade, hfields⟩ := hcreate sig
  rw [hmade] at h
  cases h
  exact hfields

theorem sum_abs_scaled {scale : α} (h : 0 < scale) {sigs scaled : List (StrategySignal α)}
    (heach : List.Forall₂ (Scaled scale) sigs scaled) :
    (scaled.map fun sig => |sig.targetWeight|).sum = (sigs.map fun sig => |sig.targetWeight|).sum * scale := by
  induction heach with
  | nil => simp
  | cons hsig _ ih =>
    rw [List.map_cons, List.sum_cons, List.map_cons, List.sum_cons, ih, hsig, abs_mul, abs_of_pos h, add_mul]

namespace BaseAlphaStrategy

/-- Accepted signals stay accepted when the leverage is enforced, their stops stay, and the weights are within the leverage. -/
theorem enforceLeverage_ok (base : BaseAlphaStrategy α) (signals : Signals α) :
    ∃ out, base.enforceLeverage signals = .ok out ∧ totalAbsWeight out ≤ base.maxLeverage + lit (1 / 10 ^ 6) ∧
      ∀ u, (∀ sig ∈ signals.values, sig.StopsAbove u) → ∀ sig ∈ out.values, sig.StopsAbove u := by
  by_cases hover : base.maxLeverage + lit (1 / 10 ^ 6) < totalAbsWeight signals
  · have hmargin : (0 : α) < lit (1 / 10 ^ 6) := lit_pos.2 (by norm_num)
    have hlt : base.maxLeverage < totalAbsWeight signals := (lt_add_of_pos_right _ hmargin).trans hover
    have htotal : 0 < totalAbsWeight signals := base.maxLeverage_pos.trans hlt
    have hscale : 0 < base.maxLeverage / totalAbsWeight signals ∧ base.maxLeverage / totalAbsWeight signals ≤ 1 :=
      ⟨div_pos base.maxLeverage_pos htotal, (div_le_one htotal).2 hlt.le⟩
    generalize hs : base.maxLeverage / totalAbsWeight signals = scale at hscale
    obtain ⟨scaled, hscaled, heach⟩ := scaled_ok hscale signals.values
    have hlen : signals.keys.length = scaled.length := by
      rw [← heach.length_eq, Dict.keys, Dict.values, List.length_map, List.length_map]
    have hvalues : ((∅ : Signals α).setAll (signals.keys.zip scaled)).values = scaled := Dict.values_setAll_zip signals.nodup hlen
    refine ⟨(∅ : Signals α).setAll (signals.keys.zip scaled), ?_, ?_, ?_⟩
    · rw [enforceLeverage]
      dsimp only
      rw [if_pos hover, hs, hscaled]
      rfl
    · have hsum : totalAbsWeight ((∅ : Signals α).setAll (signals.keys.zip scaled)) = totalAbsWeight signals * scale := by
        rw [totalAbsWeight, totalAbsWeight, hvalues, sum_abs_scaled hscale.1 heach]
      rw [hsum, ← hs, mul_div_cancel₀ _ htotal.ne']
      exact (lt_add_of_pos_right _ hmargin).le
    · intro u hu sig hsig
      rw [hvalues] at hsig
      obtain ⟨sig', hmem, hfields⟩ := exists_of_forall₂_right heach hsig
      rw [hfields]
      exact hu sig' hmem
  · refine ⟨signals, ?_, not_lt.1 hover, fun u hu => hu⟩
    rw [enforceLeverage]
    dsimp only
    rw [if_neg hover]

end BaseAlphaStrategy

end Template

end Quant
