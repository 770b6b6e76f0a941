import Mathlib.Algebra.Order.BigOperators.Group.List
import Quant.Analytics.Strategies.SwarmMeta
import Quant.Lemmas.StrategySignals

/-!
# What each strategy generates

For each kind of strategy, the settings under which all the signals it generates are accepted, on any history that passed the
warm-up and whatever the strategy remembers.
-/

namespace Quant

open Pylib

section Bars

variable {α : Type} [Field α]

theorem highLowDiff_ok {highs lows : List α} (h : highs.length = lows.length) : ∃ diff, highLowDiff highs lows = .ok diff :=
  ⟨_, if_pos h⟩

variable [LinearOrder α] {history : BarHistoryWindow α}

/-- A strategy that passed the warm-up has the bars of all its symbols. -/
theorem BaseAlphaStrategy.le_barCount {base : BaseAlphaStrategy α} (h : base.validateWarmup history = .ok ()) {sym : String}
    (hsym : sym ∈ base.monitoredSymbols) : base.minWarmupBars ≤ history.barCount sym := by
  rw [validateWarmup] at h
  split at h
  · cases h
  · rename_i hnone
    have := List.find?_eq_none.1 hnone sym hsym
    rwa [decide_eq_true_eq, not_lt] at this

theorem KalmanFilterState.length_run (s : KalmanFilterState α) (prices : List (α × α)) :
    (s.run prices).2.length = prices.length := by
  induction prices generalizing s with
  | nil => rfl
  | cons p prices ih => exact congrArg (· + 1) (ih _)

theorem VolatilityBreakoutConfig.bandwidths_ok [FloorRing α] {cfg : VolatilityBreakoutConfig α} (h : 0 < cfg.squeezeLookback)
    (M : StrategyMath α) (closes : List α) :
    ∃ bands b, cfg.bandwidths M closes = .ok bands ∧ bands.getLast? = some b := by
  rw [bandwidths, if_neg (not_lt.2 h.le)]
  refine ⟨_, _, rfl, List.getLast?_eq_some_getLast ?_⟩
  rw [Ne, List.map_eq_nil_iff, List.range_eq_nil]
  omega

end Bars

/-! ## Kalman pairs -/

namespace KalmanPairsConfig

section Weights

variable {α : Type} [Field α] [LinearOrder α] [IsStrictOrderedRing α]

/-- The settings under which a pair's signals are accepted. -/
structure Sound (cfg : KalmanPairsConfig α) : Prop where
  symbols_ne : ∀ sym ∈ cfg.monitoredSymbols, sym ≠ ""
  delta_ne : cfg.delta ≠ 1
  maxLeverage_le : cfg.maxLeverage ≤ 1

theorem signed_suits {w : α} (h : 0 < w) (side : SignalDirection) : Suits 0 side (signed side w) := by
  cases side with
  | long => exact h
  | short => exact neg_lt_neg h
  | flat => rfl

theorem signed_mem {w : α} (h : 0 ≤ w ∧ w ≤ 1) (side : SignalDirection) : -1 ≤ signed side w ∧ signed side w ≤ 1 := by
  cases side with
  | long => exact ⟨(neg_nonpos.2 zero_le_one).trans h.1, h.2⟩
  | short => exact ⟨neg_le_neg h.2, (neg_nonpos.2 h.1).trans zero_le_one⟩
  | flat => exact ⟨neg_nonpos.2 zero_le_one, zero_le_one⟩

theorem dollarBeta_pos (beta pY pX : α) : 0 < dollarBeta beta pY pX :=
  lt_of_lt_of_le (lit_pos.2 (by norm_num)) (le_max_left _ _)

/-- A part of the leverage is positive and at most 1. -/
theorem share_mem {cfg : KalmanPairsConfig α} (h : cfg.Sound) {x d : α} (hx : 0 < x) (hxd : x ≤ d) :
    0 < x / d * cfg.maxLeverage ∧ x / d * cfg.maxLeverage ≤ 1 := by
  have hd : 0 < d := hx.trans_le hxd
  exact ⟨mul_pos (div_pos hx hd) cfg.maxLeverage_pos,
    mul_le_one₀ ((div_le_one hd).2 hxd) cfg.maxLeverage_pos.le h.maxLeverage_le⟩

theorem half_conviction_mem {x : α} (h : 0 ≤ x) :
    0 ≤ lit (1 / 2) + lit (1 / 2) * min 1 x ∧ lit (1 / 2) + lit (1 / 2) * min 1 x ≤ 1 := by
  have hhalf : (0 : α) ≤ lit (1 / 2) := (lit_pos.2 (by norm_num)).le
  have hmin : 0 ≤ min 1 x ∧ min 1 x ≤ 1 := ⟨le_min zero_le_one h, min_le_left 1 x⟩
  have hsum : (lit (1 / 2) : α) + lit (1 / 2) = 1 := by
    rw [lit_add, lit]
    norm_num
  constructor
  · exact add_nonneg hhalf (mul_nonneg hhalf hmin.1)
  · calc lit (1 / 2) + lit (1 / 2) * min 1 x ≤ lit (1 / 2) + lit (1 / 2) * 1 := by gcongr; exact hmin.2
      _ = 1 := by rw [mul_one, hsum]

theorem heldStance_conviction (position : ℤ) :
    0 ≤ (heldStance position : Stance α).conviction ∧ (heldStance position : Stance α).conviction ≤ 1 := by
  have hhalf : (0 : α) ≤ lit (1 / 2) ∧ (lit (1 / 2) : α) ≤ 1 := ⟨(lit_pos.2 (by norm_num)).le, lit_le_one.2 (by norm_num)⟩
  unfold heldStance
  split_ifs
  · exact hhalf
  · exact hhalf
  · exact ⟨le_rfl, zero_le_one⟩

/-- Whatever the bands decide, the conviction is between 0 and 1. -/
theorem stance_conviction (cfg : KalmanPairsConfig α) (z : Option α) (position : ℤ) :
    0 ≤ (cfg.stance z position).conviction ∧ (cfg.stance z position).conviction ≤ 1 := by
  have htwo : (0 : α) < lit 2 := lit_pos.2 (by norm_num)
  cases z with
  | none => exact heldStance_conviction position
  | some z =>
    unfold stance
    dsimp only
    split_ifs with _ hrich hcheap
    · exact ⟨le_rfl, zero_le_one⟩
    · exact half_conviction_mem (div_nonneg (sub_nonneg.2 hrich) htwo.le)
    · have habs : cfg.zEntry ≤ |z| := (le_neg.1 hcheap).trans (neg_le_abs z)
      exact half_conviction_mem (div_nonneg (sub_nonneg.2 habs) htwo.le)
    · exact ⟨le_rfl, zero_le_one⟩
    · exact heldStance_conviction position

end Weights

end KalmanPairsConfig

section Specs

variable {α : Type} [Field α] [LinearOrder α] [IsStrictOrderedRing α] [FloorRing α] {M : StrategyMath α}
    {history : BarHistoryWindow α}

namespace KalmanPairsConfig

variable {cfg : KalmanPairsConfig α}

/-- The signal of a leg is accepted, whatever the side and the part of the leverage. -/
theorem create_legFields (h : cfg.Sound) {symbol : String} (hsym : symbol ∈ cfg.monitoredSymbols)
    (side : SignalDirection) {x d : α}
    (hx : 0 < x) (hxd : x ≤ d) {conviction : α} (hc : 0 ≤ conviction ∧ conviction ≤ 1) {horizon : ℤ} (hh : 0 < horizon)
    (diagnostics : Dict String (DiagValue α)) :
    ∃ sig, (cfg.legFields symbol side (x / d) conviction horizon diagnostics).create = .ok sig ∧ sig.StopsRound := by
  obtain ⟨hlong, hshort, hflat⟩ := (signed_suits (share_mem h hx hxd).1 side).directions le_rfl
  have hvalid : (cfg.legFields symbol side (x / d) conviction horizon diagnostics).Valid := by
    refine ⟨h.symbols_ne symbol hsym, signed_mem ((share_mem h hx hxd).imp_left le_of_lt) side, hc, hh, hlong,
      hshort, hflat, ?_, ?_⟩
    · rintro y ⟨⟩
      exact lit_pos.2 (by norm_num)
    · rintro y ⟨⟩
      exact lit_pos.2 (by norm_num)
  obtain ⟨sig, hcreate, hfields⟩ := StrategySignalFields.create_of_valid hvalid
  refine ⟨sig, hcreate, ?_⟩
  rw [StrategySignal.StopsRound, hfields, halfUnit_eq_lit]
  constructor
  · rintro y ⟨⟩
    exact lit_lt_lit.2 (by norm_num)
  · rintro y ⟨⟩
    exact lit_lt_lit.2 (by norm_num)

/-- Both legs are accepted, whatever the filter gives. -/
theorem pairSignals_ok (h : cfg.Sound) (last : KalmanFilterState α) (spreads : List α) (currentSpread pY pX : α) (position : ℤ) :
    ∃ signals, (cfg.pairSignals M last spreads currentSpread pY pX position).1 = .ok signals ∧
      ∀ sig ∈ signals.values, sig.StopsRound := by
  have hy : cfg.assetY ∈ cfg.monitoredSymbols := by simp [cfg.monitoredSymbols_eq]
  have hx : cfg.assetX ∈ cfg.monitoredSymbols := by simp [cfg.monitoredSymbols_eq]
  have hbeta := dollarBeta_pos last.beta pY pX
  unfold pairSignals
  dsimp only
  generalize estimateHalfLife M _ = halfLife
  generalize hst : cfg.stance _ position = st
  have hst : 0 ≤ st.conviction ∧ st.conviction ≤ 1 := hst ▸ cfg.stance_conviction _ position
  have hconviction : 0 ≤ (if halfLife.any fun h => h ≤ lit 45 then st.conviction else st.conviction * lit (1 / 2)) ∧
      (if halfLife.any fun h => h ≤ lit 45 then st.conviction else st.conviction * lit (1 / 2)) ≤ 1 := by
    split_ifs
    · exact hst
    · exact ⟨mul_nonneg hst.1 (lit_pos.2 (by norm_num)).le,
        mul_le_one₀ hst.2 (lit_pos.2 (by norm_num)).le (lit_le_one.2 (by norm_num))⟩
  have hhorizon : (0 : ℤ) < halfLife.elim 10 fun h => max 5 ⌊h * lit 2⌋ := by
    cases halfLife with
    | none => exact (by decide : (0 : ℤ) < 10)
    | some h => exact lt_of_lt_of_le (by decide) (le_max_left 5 _)
  refine exists_bind_ok (create_legFields h hy st.side zero_lt_one (le_add_of_nonneg_right hbeta.le) hconviction hhorizon _)
    fun signalY hsigY => ?_
  refine exists_bind_ok (create_legFields h hx _ hbeta (le_add_of_nonneg_left zero_le_one) hconviction hhorizon _)
    fun signalX hsigX => ?_
  refine ⟨_, rfl, fun sig hsig => ?_⟩
  obtain ⟨sym, hget⟩ := (Dict.mem_values_iff _ _).1 hsig
  rcases Dict.get?_setAll_cases hget with hmem | hnone
  · rcases List.mem_cons.1 hmem with heq | hmem
    · cases heq
      exact hsigY
    · cases List.mem_singleton.1 hmem
      exact hsigX
  · cases hnone

/-- A pair that passed the warm-up generates both signals, whatever its position. -/
theorem generateSignals_ok (h : cfg.Sound) (hwarm : cfg.validateWarmup history = .ok ()) (position : ℤ) :
    ∃ signals, (cfg.generateSignals M history position).1 = .ok signals ∧ ∀ sig ∈ signals.values, sig.StopsRound := by
  have hbars : ∀ sym ∈ [cfg.assetY, cfg.assetX], 1 ≤ (history.series sym .close).length := fun sym hsym => by
    have hle := BaseAlphaStrategy.le_barCount hwarm (cfg.monitoredSymbols_eq ▸ hsym)
    have hpos := cfg.minWarmupBars_pos
    rw [BarHistoryWindow.barCount] at hle
    omega
  have hdelta : 1 - cfg.delta ≠ 0 := fun hzero => h.delta_ne (sub_eq_zero.1 hzero).symm
  unfold generateSignals
  dsimp only
  rw [initKalmanState, if_neg hdelta]
  dsimp only
  have hn : 1 ≤ min (history.series cfg.assetY .close).length (history.series cfg.assetX .close).length :=
    le_min (hbars _ (by simp)) (hbars _ (by simp))
  generalize min (history.series cfg.assetY .close).length (history.series cfg.assetX .close).length = n at hn
  have hlen : ∀ xs : List α, 1 ≤ xs.length → 1 ≤ (sliceFrom xs (-(n : ℤ))).length := fun xs hxs => by
    rw [length_sliceFrom xs (by omega)]
    omega
  have hy := hlen _ (hbars cfg.assetY (by simp))
  have hx := hlen _ (hbars cfg.assetX (by simp))
  generalize sliceFrom (history.series cfg.assetY .close) (-(n : ℤ)) = ySeries at hy
  generalize sliceFrom (history.series cfg.assetX .close) (-(n : ℤ)) = xSeries at hx
  generalize hrun : KalmanFilterState.run _ (ySeries.zip xSeries) = run
  have hspreads : 1 ≤ run.2.length := by
    rw [← hrun, KalmanFilterState.length_run, List.length_zip]
    exact le_min hy hx
  rw [List.getLast?_eq_some_getLast (List.ne_nil_of_length_pos hspreads),
    List.getLast?_eq_some_getLast (List.ne_nil_of_length_pos hy),
    List.getLast?_eq_some_getLast (List.ne_nil_of_length_pos hx)]
  exact pairSignals_ok h _ _ _ _ _ position

end KalmanPairsConfig

/-! ## Momentum -/

namespace FracDiffMomentumConfig

variable {cfg : FracDiffMomentumConfig α}

/-- The settings under which the momentum signals are accepted. -/
structure Sound (cfg : FracDiffMomentumConfig α) : Prop where
  symbols_ne : ∀ sym ∈ cfg.monitoredSymbols, sym ≠ ""
  maxLeverage_le : cfg.maxLeverage ≤ 1

/-- The share of a symbol in the scores is at most all of them. -/
theorem abs_targetWeight_le (h : cfg.Sound) (invVolScores : Dict String α) (sym : String) :
    |cfg.targetWeight invVolScores sym| ≤ 1 := by
  have hsmall : (0 : α) < lit (1 / 10 ^ 8) := lit_pos.2 (by norm_num)
  unfold targetWeight
  dsimp only
  split_ifs with hsum
  · have hpos := hsmall.trans hsum
    have hle : |invVolScores.getD sym 0| ≤ (invVolScores.values.map fun v => |v|).sum := by
      cases hget : invVolScores.get? sym with
      | none =>
        rw [Dict.getD_of_get?_none 0 hget, abs_zero]
        exact hpos.le
      | some v =>
        rw [Dict.getD_of_get?_some 0 hget]
        refine List.single_le_sum ?_ _ (List.mem_map_of_mem ((Dict.mem_values_iff _ _).2 ⟨sym, hget⟩))
        intro x hx
        obtain ⟨v', _, rfl⟩ := List.mem_map.1 hx
        exact abs_nonneg v'
    rw [abs_mul, abs_div, abs_of_pos hpos, abs_of_pos cfg.maxLeverage_pos]
    exact mul_le_one₀ ((div_le_one hpos).2 hle) cfg.maxLeverage_pos.le h.maxLeverage_le
  · rw [abs_zero]
    exact zero_le_one

/-- The volatility of a symbol is never below five percent. -/
theorem scoreOf_vol (M : StrategyMath α) (cfg : FracDiffMomentumConfig α) (history : BarHistoryWindow α) (sym : String) :
    lit (5 / 100) ≤ (scoreOf (cfg.scores M history) sym).vol := by
  have hdefault : (lit (5 / 100) : α) ≤ lit (20 / 100) := lit_le_lit.2 (by norm_num)
  cases hget : (cfg.scores M history).get? sym with
  | none => rwa [scoreOf, Dict.getD_of_get?_none _ hget]
  | some s =>
    rw [scoreOf, Dict.getD_of_get?_some _ hget]
    rcases Dict.get?_setAll_cases hget with hmem | hnone
    · obtain ⟨sym', _, heq⟩ := List.mem_map.1 hmem
      cases heq
      unfold analyze
      dsimp only
      unfold estimateAnnualizedVol
      dsimp only
      split_ifs
      · exact hdefault
      · exact le_max_right _ _
    · cases hnone

/-- A weight that counts is far enough on its side. -/
theorem directionalAssignment_suits {w : α} (hw : |w| ≤ 1) :
    Suits (halfUnit 5) (directionalAssignment w).1 (directionalAssignment w).2 ∧ |(directionalAssignment w).2| ≤ 1 := by
  have hsmall : (halfUnit 5 : α) < lit (1 / 100) := by
    rw [halfUnit_eq_lit]
    exact lit_lt_lit.2 (by norm_num)
  unfold directionalAssignment
  split_ifs with hlong hshort
  · exact ⟨hsmall.trans hlong, hw⟩
  · rw [neg_div, lit_neg] at hshort
    exact ⟨hshort.trans (neg_lt_neg hsmall), hw⟩
  · exact ⟨rfl, abs_zero.trans_le zero_le_one⟩

/-- The signal of a symbol is accepted, whatever its score. -/
theorem signalOf_ok (h : cfg.Sound) (hsqrt : 0 < M.sqrt (lit 252) ∧ M.sqrt (lit 252) ≤ lit 16) {sym : String}
    (hsym : sym ∈ cfg.monitoredSymbols) {s : MomentumScore α} (hvol : lit (5 / 100) ≤ s.vol) {w : α} (hw : |w| ≤ 1) :
    ∃ sig, cfg.signalOf M sym s w = .ok sig ∧ sig.StopsRound := by
  have hhorizon : 0 < cfg.slowSpan := by
    have := cfg.fastSpan_mem
    omega
  have hdaily : lit (5 / 100) / lit 16 ≤ s.vol / M.sqrt (lit 252) :=
    div_le_div₀ ((lit_pos.2 (by norm_num)).le.trans hvol) hvol hsqrt.1 hsqrt.2
  have hmult : ∀ q : ℚ, 2 ≤ q → halfUnit 4 < roundTo (lit q * (s.vol / M.sqrt (lit 252))) 4 := fun q hq => by
    refine halfUnit_lt_roundTo ?_
    calc halfUnit 4 < lit 2 * (lit (5 / 100) / lit 16) := by
          rw [halfUnit_eq_lit, lit_div, lit_mul]
          exact lit_lt_lit.2 (by norm_num)
      _ ≤ lit q * (s.vol / M.sqrt (lit 252)) :=
          mul_le_mul (lit_le_lit.2 hq) hdaily (div_nonneg (lit_pos.2 (by norm_num)).le (lit_pos.2 (by norm_num)).le)
            ((lit_pos.2 (by norm_num)).le.trans (lit_le_lit.2 hq))
  have hstop := hmult 2 le_rfl
  have htake := hmult 4 (by norm_num)
  have hscore : 0 ≤ min 1 |s.score| ∧ min 1 |s.score| ≤ 1 := ⟨le_min zero_le_one (abs_nonneg _), min_le_left _ _⟩
  obtain ⟨sig, hcreate, hstops⟩ := create_rounded (h.symbols_ne sym hsym) (directionalAssignment_suits hw) hscore hhorizon
    ((halfUnit_pos 4).trans hstop) ((halfUnit_pos 4).trans htake) _ 0
  exact ⟨sig, hcreate, sig.stopsRound_of hstops hstop htake⟩

/-- Every symbol gets its signal. -/
theorem generateSignals_ok (h : cfg.Sound) (hsqrt : 0 < M.sqrt (lit 252) ∧ M.sqrt (lit 252) ≤ lit 16) :
    ∃ signals, cfg.generateSignals M history = .ok signals ∧ ∀ sig ∈ signals.values, sig.StopsRound :=
  collectSignals_ok fun sym hsym => signalOf_ok h hsqrt hsym (scoreOf_vol M cfg history sym) (abs_targetWeight_le h _ sym)

end FracDiffMomentumConfig

/-! ## Sentiment -/

namespace SentimentConfig

variable {cfg : SentimentConfig α}

/-- The settings under which the sentiment signals are accepted: a shock at the threshold does not round to zero. -/
structure Sound (cfg : SentimentConfig α) : Prop where
  symbols_ne : ∀ sym ∈ cfg.monitoredSymbols, sym ≠ ""
  maxLeverage_le : cfg.maxLeverage ≤ 1
  threshold_lt : halfUnit 4 < cfg.polarityThreshold * cfg.maxLeverage
  tauFast_pos : 0 < cfg.tauFast
  stopLoss_pos : 0 < cfg.stopLoss
  takeProfit_pos : 0 < cfg.takeProfit

theorem computeDecayKernel_ok (M : StrategyMath α) (deltaTSeconds urgency tauFast : α) {tauSlow : α} (h : 0 < tauSlow) :
    ∃ weight, computeDecayKernel M deltaTSeconds urgency tauFast tauSlow = .ok weight := by
  unfold computeDecayKernel
  dsimp only
  split_ifs with hneg _ hzero hbase
  · exact ⟨_, rfl⟩
  · exact ⟨_, rfl⟩
  · exact absurd hzero h.ne'
  · have hpos : 0 < 1 + deltaTSeconds / tauSlow :=
      zero_lt_one.trans_le (le_add_of_nonneg_right (div_nonneg (not_lt.1 hneg) h.le))
    exact absurd hbase hpos.ne'
  · exact ⟨_, rfl⟩
  · exact ⟨_, rfl⟩

theorem cumulativeShock_ok (h : cfg.Sound) (currentTsNs : ℤ) (events : List (NewsSentimentEvent α)) :
    ∃ shock, cfg.cumulativeShock M currentTsNs events = .ok shock := by
  have hslow : 0 < cfg.tauFast * lit 10 := mul_pos h.tauFast_pos (lit_pos.2 (by norm_num))
  induction events with
  | nil => exact ⟨_, rfl⟩
  | cons ev events ih =>
    obtain ⟨weight, hweight⟩ := computeDecayKernel_ok M
      (max 0 (((currentTsNs - ev.timestampNs : ℤ) : α) / lit (10 ^ 9))) ev.urgency
      cfg.tauFast hslow
    obtain ⟨shock, hshock⟩ := ih
    rw [cumulativeShock, hweight, hshock]
    exact ⟨_, rfl⟩

/-- A shock past the threshold is far enough on its side. -/
theorem directionalThresholding_suits (h : cfg.Sound) {c : α} (hc : |c| ≤ 1) :
    (Suits (halfUnit 4) (cfg.directionalThresholding c).1 (cfg.directionalThresholding c).2.1 ∧
      |(cfg.directionalThresholding c).2.1| ≤ 1) ∧
    0 ≤ (cfg.directionalThresholding c).2.2 ∧ (cfg.directionalThresholding c).2.2 ≤ 1 := by
  have hweight : |c * cfg.maxLeverage| ≤ 1 := by
    rw [abs_mul, abs_of_pos cfg.maxLeverage_pos]
    exact mul_le_one₀ hc cfg.maxLeverage_pos.le h.maxLeverage_le
  have hconviction : 0 ≤ min 1 |c| ∧ min 1 |c| ≤ 1 := ⟨le_min zero_le_one (abs_nonneg c), min_le_left 1 _⟩
  unfold directionalThresholding
  split_ifs with hlong hshort
  · exact ⟨⟨h.threshold_lt.trans_le (mul_le_mul_of_nonneg_right hlong cfg.maxLeverage_pos.le), hweight⟩, hconviction⟩
  · refine ⟨⟨?_, hweight⟩, hconviction⟩
    calc c * cfg.maxLeverage ≤ -cfg.polarityThreshold * cfg.maxLeverage :=
      mul_le_mul_of_nonneg_right hshort cfg.maxLeverage_pos.le
      _ < -halfUnit 4 := by rw [neg_mul]; exact neg_lt_neg h.threshold_lt
  · exact ⟨⟨rfl, abs_zero.trans_le zero_le_one⟩, le_rfl, zero_le_one⟩

/-- The signal of a symbol is accepted, whatever the events. -/
theorem signalOf_ok (h : cfg.Sound) (buffer : EventBuffer α) (currentTsNs : ℤ) {sym : String}
    (hsym : sym ∈ cfg.monitoredSymbols) :
    ∃ sig, cfg.signalOf M buffer currentTsNs sym = .ok sig ∧
      sig.stopLossPct = some cfg.stopLoss ∧ sig.takeProfitPct = some cfg.takeProfit := by
  obtain ⟨shock, hshock⟩ := cumulativeShock_ok (M := M) h currentTsNs
    ((buffer.getD sym []).filter fun e => e.timestampNs ≤ currentTsNs)
  have hclamped : |max (-1) (min 1 shock.1)| ≤ 1 :=
    abs_le.2 ⟨le_max_left _ _, max_le ((neg_nonpos.2 zero_le_one).trans zero_le_one) (min_le_left _ _)⟩
  obtain ⟨hw, hc⟩ := directionalThresholding_suits h hclamped
  unfold signalOf
  dsimp only
  rw [hshock]
  exact create_rounded (h.symbols_ne sym hsym) hw hc (by decide) h.stopLoss_pos h.takeProfit_pos _ currentTsNs

/-- Every symbol gets its signal, whatever was recorded. -/
theorem generateSignals_ok (h : cfg.Sound) (context : Option (StrategyContext α)) (buffer : EventBuffer α) :
    ∃ signals, (cfg.generateSignals M history context buffer).1 = .ok signals ∧
      ∀ sig ∈ signals.values, sig.stopLossPct = some cfg.stopLoss ∧ sig.takeProfitPct = some cfg.takeProfit :=
  collectSignals_ok fun _ hsym => signalOf_ok h _ _ hsym

end SentimentConfig

/-! ## Volatility breakouts -/

namespace VolatilityBreakoutConfig

variable {cfg : VolatilityBreakoutConfig α}

/-- The settings under which the breakout signals are accepted: neither conviction puts a weight past 1 or rounds it to zero. -/
structure Sound (cfg : VolatilityBreakoutConfig α) : Prop where
  symbols_ne : ∀ sym ∈ cfg.monitoredSymbols, sym ≠ ""
  squeezeLookback_pos : 0 < cfg.squeezeLookback
  weight_lt : halfUnit 4 < cfg.maxLeverage / cfg.monitoredSymbols.length * lit (6 / 10)
  weight_le : cfg.maxLeverage / cfg.monitoredSymbols.length * lit (9 / 10) ≤ 1

/-- A breakout's weight is far enough on its side. -/
theorem breakout_suits (h : cfg.Sound) (closes : List α) (ratio : α) (confirmed : Bool) :
    (Suits (halfUnit 4) (cfg.breakout M closes ratio confirmed).1 (cfg.breakout M closes ratio confirmed).2.1 ∧
      |(cfg.breakout M closes ratio confirmed).2.1| ≤ 1) ∧
    0 ≤ (cfg.breakout M closes ratio confirmed).2.2 ∧ (cfg.breakout M closes ratio confirmed).2.2 ≤ 1 := by
  have hpart : (0 : α) ≤ cfg.maxLeverage / cfg.monitoredSymbols.length := div_nonneg cfg.maxLeverage_pos.le (Nat.cast_nonneg _)
  unfold breakout
  dsimp only
  generalize hc : (min 1 (lit (6 / 10) + if confirmed then lit (3 / 10) else 0) : α) = conviction
  have hmem : lit (6 / 10) ≤ conviction ∧ conviction ≤ lit (9 / 10) := by
    rw [← hc]
    cases confirmed with
    | true =>
      have hsum : (lit (6 / 10) : α) + lit (3 / 10) = lit (9 / 10) := by
        rw [lit_add]
        norm_num
      rw [if_pos rfl, hsum, min_eq_right (lit_le_one.2 (by norm_num))]
      exact ⟨lit_le_lit.2 (by norm_num), le_rfl⟩
    | false =>
      rw [if_neg Bool.false_ne_true, add_zero, min_eq_right (lit_le_one.2 (by norm_num))]
      exact ⟨le_rfl, lit_le_lit.2 (by norm_num)⟩
  have hunit : 0 ≤ conviction ∧ conviction ≤ 1 :=
    ⟨(lit_pos.2 (by norm_num)).le.trans hmem.1, hmem.2.trans (lit_le_one.2 (by norm_num))⟩
  have hlt : halfUnit 4 < cfg.maxLeverage / cfg.monitoredSymbols.length * conviction :=
    h.weight_lt.trans_le (mul_le_mul_of_nonneg_left hmem.1 hpart)
  have hle : |cfg.maxLeverage / cfg.monitoredSymbols.length * conviction| ≤ 1 := by
    rw [abs_of_nonneg (mul_nonneg hpart hunit.1)]
    exact (mul_le_mul_of_nonneg_left hmem.2 hpart).trans h.weight_le
  split_ifs
  · exact ⟨⟨hlt, hle⟩, hunit⟩
  · exact ⟨⟨neg_lt_neg hlt, (abs_neg _).trans_le hle⟩, hunit⟩
  · exact ⟨⟨rfl, abs_zero.trans_le zero_le_one⟩, le_rfl, zero_le_one⟩

/-- A stop by the range of the bars is at least its floor. -/
theorem halfUnit_lt_rangeStop (diff : List α) (currentPrice mult : α) {q : ℚ} (hq : 1 / 100 ≤ q) :
    halfUnit 4 < roundTo (rangeStop diff currentPrice (lit q) mult) 4 := by
  refine halfUnit_lt_roundTo ?_
  have hfloor : (halfUnit 4 : α) < lit q := by
    rw [halfUnit_eq_lit]
    exact lit_lt_lit.2 (lt_of_lt_of_le (by norm_num) hq)
  unfold rangeStop
  split_ifs
  · exact hfloor
  · exact hfloor.trans_le (le_max_left _ _)

/-- The signal of a symbol is accepted, where its highs and lows are as many. -/
theorem signalOf_ok (h : cfg.Sound) {sym : String} (hsym : sym ∈ cfg.monitoredSymbols)
    (haligned : (history.series sym .high).length = (history.series sym .low).length) :
    ∃ sig, cfg.signalOf M history sym = .ok sig ∧ sig.StopsRound := by
  have hperiod := cfg.bbPeriod_le
  have hlens : (sliceFrom (history.series sym .high) (-cfg.bbPeriod)).length =
      (sliceFrom (history.series sym .low) (-cfg.bbPeriod)).length := by
    rw [length_sliceFrom _ (by omega), length_sliceFrom _ (by omega), haligned]
  obtain ⟨bands, band, hbands, hlast⟩ := bandwidths_ok h.squeezeLookback_pos M (history.series sym .close)
  obtain ⟨diff, hdiff⟩ := highLowDiff_ok hlens
  unfold signalOf
  dsimp only
  rw [hbands]
  dsimp only [bind, Except.bind]
  rw [hlast, hdiff]
  dsimp only
  generalize cfg.volExpansion M _ _ _ _ = expansion
  obtain ⟨hw, hc⟩ := breakout_suits (M := M) h (history.series sym .close) expansion.2
    (decide (cfg.VolumeConfirmed (history.series sym .volume)))
  have hstop := halfUnit_lt_rangeStop diff ((history.series sym .close).getLastD 0) (lit 2) le_rfl
  have htake := halfUnit_lt_rangeStop diff ((history.series sym .close).getLastD 0) (lit (35 / 10)) (q := 2 / 100) (by norm_num)
  obtain ⟨sig, hcreate, hstops⟩ := create_rounded (h.symbols_ne sym hsym) hw hc (by decide : (0 : ℤ) < 10)
    ((halfUnit_pos 4).trans hstop)
    ((halfUnit_pos 4).trans htake) _ 0
  exact ⟨sig, hcreate, sig.stopsRound_of hstops hstop htake⟩

/-- Every symbol with the bars of the warm-up gets its signal. -/
theorem generateSignals_ok (h : cfg.Sound)
    (haligned : ∀ sym, (history.series sym .high).length = (history.series sym .low).length) :
    ∃ signals, cfg.generateSignals M history = .ok signals ∧ ∀ sig ∈ signals.values, sig.StopsRound :=
  collectSignals_ok fun sym hsym => signalOf_ok h (List.mem_of_mem_filter hsym) (haligned sym)

end VolatilityBreakoutConfig

end Specs

/-! ## Swarms -/

section Contributions

variable {α : Type} [Field α] [LinearOrder α] [FloorRing α]

theorem SwarmMetaConfig.stopsRound_of_mem {activeWeights : List α} {allSignals : List (Signals α)}
    (h : ∀ signals ∈ allSignals, ∀ sig ∈ signals.values, sig.StopsRound) {sym : String} {p : α × StrategySignal α}
    (hp : p ∈ contributions activeWeights allSignals sym) : p.2.StopsRound := by
  obtain ⟨⟨w, d⟩, hmem, heq⟩ := List.mem_filterMap.1 hp
  obtain ⟨sig, hget, rfl⟩ := Option.map_eq_some_iff.1 heq
  exact h d (List.of_mem_zip hmem).2 sig ((Dict.mem_values_iff _ _).2 ⟨sym, hget⟩)

end Contributions

section Priors

variable {α : Type} [Field α] [LinearOrder α] [IsStrictOrderedRing α]

theorem regimePriors_nonneg {regime : String} {prior : List α} (h : regimePriors.get? regime = some prior) :
    ∀ w ∈ prior, 0 ≤ w := by
  rcases Dict.get?_setAll_cases h with hmem | hnone
  · have hlit : ∀ q : ℚ, 0 < q → (0 : α) ≤ lit q := fun q hq => (lit_pos.2 hq).le
    simp only [List.mem_cons, List.not_mem_nil, or_false, Prod.mk.injEq] at hmem
    rcases hmem with ⟨-, rfl⟩ | ⟨-, rfl⟩ | ⟨-, rfl⟩ | ⟨-, rfl⟩ | ⟨-, rfl⟩ | ⟨-, rfl⟩ <;>
      simp only [List.forall_mem_cons, List.not_mem_nil] <;>
      refine ⟨hlit _ (by norm_num), hlit _ (by norm_num), hlit _ (by norm_num), hlit _ (by norm_num), fun _ h => h.elim⟩
  · cases hnone

end Priors

section Swarms

variable {α : Type} [Field α] [LinearOrder α] [IsStrictOrderedRing α] [FloorRing α] {M : StrategyMath α}

/-- Weights that are not negative and sum to at most 1. -/
def Allocation (ws : List α) : Prop := (∀ w ∈ ws, 0 ≤ w) ∧ ws.sum ≤ 1

theorem allocation_normalized {ws : List α} (h : ∀ w ∈ ws, 0 ≤ w) : Allocation (normalized ws) := by
  have hsum : 0 ≤ ws.sum := List.sum_nonneg h
  constructor
  · intro w hw
    obtain ⟨v, hv, rfl⟩ := List.mem_map.1 hw
    exact div_nonneg (h v hv) hsum
  · simp only [normalized, div_eq_mul_inv]
    rw [List.sum_map_mul_right, List.map_id', ← div_eq_mul_inv]
    exact div_self_le_one _

theorem allocation_uniform (n : ℕ) : Allocation (List.replicate n (1 / (n : α))) := by
  constructor
  · intro w hw
    rw [List.eq_of_mem_replicate hw]
    exact div_nonneg zero_le_one (Nat.cast_nonneg n)
  · rw [List.sum_replicate, nsmul_eq_mul, mul_one_div]
    exact div_self_le_one _

namespace SwarmMetaConfig

variable {cfg : SwarmMetaConfig α}

/-- The settings under which the composite signals are accepted. -/
structure Sound (cfg : SwarmMetaConfig α) : Prop where
  symbols_ne : ∀ sym ∈ cfg.monitoredSymbols, sym ≠ ""
  maxLeverage_lt : halfUnit 4 < cfg.maxLeverage
  maxLeverage_le : cfg.maxLeverage ≤ 1 ∨ (0 ≤ cfg.priorWeight ∧ cfg.priorWeight ≤ 1)

/-- Weights moved towards a prior are an allocation again. -/
theorem allocation_blended (hprior : 0 ≤ cfg.priorWeight ∧ cfg.priorWeight ≤ 1) {weights prior : List α}
    (hw : ∀ w ∈ weights, 0 ≤ w)
    (hp : ∀ p ∈ prior, 0 ≤ p) : Allocation (cfg.blended weights prior) := by
  refine allocation_normalized fun x hx => ?_
  obtain ⟨w, hwmem, p, hpmem, rfl⟩ : ∃ w ∈ weights, ∃ p ∈ prior, (1 - cfg.priorWeight) * w + cfg.priorWeight * p = x := by
    rw [← List.map_uncurry_zip_eq_zipWith] at hx
    obtain ⟨⟨w, p⟩, hmem, heq⟩ := List.mem_map.1 hx
    exact ⟨w, (List.of_mem_zip hmem).1, p, (List.of_mem_zip hmem).2, heq⟩
  exact add_nonneg (mul_nonneg (sub_nonneg.2 hprior.2) (hw w hwmem)) (mul_nonneg hprior.1 (hp p hpmem))

theorem allocation_activeWeights (hprior : 0 ≤ cfg.priorWeight ∧ cfg.priorWeight ≤ 1) {weights : List α} (hw : Allocation weights)
    (subCount : ℕ) (regime : String) : Allocation (cfg.activeWeights weights subCount regime) := by
  unfold activeWeights
  split_ifs
  · cases hget : (regimePriors.get? regime : Option (List α)) with
    | none => exact hw
    | some prior => exact allocation_blended hprior hw.1 (regimePriors_nonneg hget)
  · exact hw

/-- An update leaves an allocation, whatever the rewards. -/
theorem allocation_updateWeights (hexp : ∀ x, 0 < M.exp x) (hprior : 0 ≤ cfg.priorWeight ∧ cfg.priorWeight ≤ 1)
    {weights rewards updated : List α} {subCount : ℕ} {regimeLabel : String}
    (h : cfg.updateWeightsWithRewards M weights subCount rewards regimeLabel = .ok updated) : Allocation updated := by
  unfold updateWeightsWithRewards at h
  split_ifs at h with hlen
  rw [← Except.ok.inj h]
  have hprior' : ∀ p ∈ (regimePriors.get? (upper regimeLabel)).getD (regimePriors.getD "NORMAL" []), (0 : α) ≤ p := by
    cases hget : (regimePriors.get? (upper regimeLabel) : Option (List α)) with
    | none =>
      cases hnormal : (regimePriors.get? "NORMAL" : Option (List α)) with
      | none =>
        rw [Option.getD_none, Dict.getD_of_get?_none _ hnormal]
        exact fun p hp => absurd hp List.not_mem_nil
      | some prior =>
        rw [Option.getD_none, Dict.getD_of_get?_some _ hnormal]
        exact regimePriors_nonneg hnormal
    | some prior => exact regimePriors_nonneg hget
  have hupdated : ∀ step : List α, Allocation (normalized (step.map fun x => M.exp (x - step.foldr max x))) := fun step => by
    refine allocation_normalized fun w hw => ?_
    obtain ⟨x, _, rfl⟩ := List.mem_map.1 hw
    exact (hexp _).le
  split_ifs
  · exact allocation_blended hprior (hupdated _).1 hprior'
  · exact hupdated _

/-- Of the signals of a symbol, each counts with its strategy's weight. -/
theorem abs_rawW_le {activeWeights : List α} (h : ∀ w ∈ activeWeights, 0 ≤ w) (allSignals : List (Signals α)) (sym : String) :
    |((contributions activeWeights allSignals sym).map fun p => p.1 * p.2.targetWeight).sum| ≤ activeWeights.sum := by
  induction activeWeights generalizing allSignals with
  | nil => simp [contributions]
  | cons w ws ih =>
    obtain ⟨hw, hws⟩ := List.forall_mem_cons.1 h
    cases allSignals with
    | nil =>
      rw [contributions, List.zip_nil_right, List.filterMap_nil, List.map_nil, List.sum_nil, abs_zero]
      exact List.sum_nonneg h
    | cons d ds =>
      rw [contributions, List.zip_cons_cons, List.filterMap_cons, List.sum_cons]
      cases hget : d.get? sym with
      | none => exact (ih hws ds).trans (le_add_of_nonneg_left hw)
      | some sig =>
        have hsig : |w * sig.targetWeight| ≤ w := by
          rw [abs_mul, abs_of_nonneg hw]
          exact mul_le_of_le_one_right hw (abs_le.2 sig.targetWeight_mem)
        exact (abs_add_le _ _).trans (add_le_add hsig (ih hws ds))

/-- The mean of stops that do not round to zero does not. -/
theorem halfUnit_lt_avgStop {stops : List α} (h : ∀ x ∈ stops, halfUnit 4 < x) {q : ℚ} (hq : 1 / 100 ≤ q) :
    halfUnit 4 < avgStop stops (lit q) := by
  unfold avgStop
  split_ifs with hnil
  · rw [halfUnit_eq_lit]
    exact lit_lt_lit.2 (lt_of_lt_of_le (by norm_num) hq)
  · exact halfUnit_lt_roundTo (lt_npMean hnil h)

/-- A combined weight that counts is far enough on its side, and cut where the leverage is. -/
theorem directionalThreshold_suits (h : cfg.Sound) {rawW : α} (hraw : cfg.maxLeverage ≤ 1 ∨ |rawW| ≤ 1) :
    Suits (halfUnit 4) (cfg.directionalThreshold rawW).1 (cfg.directionalThreshold rawW).2 ∧
      |(cfg.directionalThreshold rawW).2| ≤ 1 := by
  have hsmall : (halfUnit 4 : α) < lit (1 / 100) := by
    rw [halfUnit_eq_lit]
    exact lit_lt_lit.2 (by norm_num)
  have hzero : (0 : α) ≤ lit (1 / 100) := (lit_pos.2 (by norm_num)).le
  have hlev := cfg.maxLeverage_pos.le
  unfold directionalThreshold
  split_ifs with hlong hshort
  · refine ⟨lt_min h.maxLeverage_lt (hsmall.trans hlong), ?_⟩
    rw [abs_of_nonneg (le_min hlev (hzero.trans hlong.le))]
    exact hraw.elim (min_le_left _ _).trans fun hle => (min_le_right _ _).trans ((le_abs_self _).trans hle)
  · rw [neg_div, lit_neg] at hshort
    refine ⟨max_lt (neg_lt_neg h.maxLeverage_lt) (hshort.trans (neg_lt_neg hsmall)), ?_⟩
    rw [abs_of_nonpos (max_le (neg_nonpos.2 hlev) (hshort.le.trans (neg_nonpos.2 hzero))), neg_le]
    exact hraw.elim (fun hle => (neg_le_neg hle).trans (le_max_left _ _)) fun hle => (abs_le.1 hle).1.trans (le_max_right _ _)
  · exact ⟨rfl, abs_zero.trans_le zero_le_one⟩

/-- The composite signal of a symbol is accepted. -/
theorem signalOf_ok (h : cfg.Sound) {activeWeights : List α} (hactive : cfg.maxLeverage ≤ 1 ∨ Allocation activeWeights)
    (subIds : List String) (regime : String) {allSignals : List (Signals α)}
    (hall : ∀ signals ∈ allSignals, ∀ sig ∈ signals.values, sig.StopsRound) {sym : String} (hsym : sym ∈ cfg.monitoredSymbols) :
    ∃ sig, cfg.signalOf M activeWeights subIds regime allSignals sym = .ok sig ∧ sig.StopsRound := by
  have hraw := hactive.imp_right fun ha => (abs_rawW_le ha.1 allSignals sym).trans ha.2
  have hconviction : ∀ rawC : α, 0 ≤ min 1 (max 0 rawC) ∧ min 1 (max 0 rawC) ≤ 1 := fun rawC =>
    ⟨le_min zero_le_one (le_max_left _ _), min_le_left _ _⟩
  have hstop : halfUnit 4 < avgStop ((contributions activeWeights allSignals sym).filterMap fun p => p.2.stopLossPct)
      (lit (2 / 100)) := by
    refine halfUnit_lt_avgStop (fun y hy => ?_) (by norm_num)
    obtain ⟨p, hp, hstop⟩ := List.mem_filterMap.1 hy
    exact (stopsRound_of_mem hall hp).1 y hstop
  have htake : halfUnit 4 < avgStop ((contributions activeWeights allSignals sym).filterMap fun p => p.2.takeProfitPct)
      (lit (4 / 100)) := by
    refine halfUnit_lt_avgStop (fun y hy => ?_) (by norm_num)
    obtain ⟨p, hp, htake⟩ := List.mem_filterMap.1 hy
    exact (stopsRound_of_mem hall hp).2 y htake
  obtain ⟨sig, hcreate, hstops⟩ := create_rounded (h.symbols_ne sym hsym) (directionalThreshold_suits h hraw) (hconviction _)
    (by decide : (0 : ℤ) < 10) ((halfUnit_pos 4).trans hstop) ((halfUnit_pos 4).trans htake) _ 0
  exact ⟨sig, hcreate, sig.stopsRound_of hstops hstop htake⟩

/-- Signals of sub-strategies whose stops do not round to zero are combined into accepted ones. -/
theorem aggregate_ok (h : cfg.Sound) {weights : List α} (hw : 0 ≤ cfg.priorWeight ∧ cfg.priorWeight ≤ 1 → Allocation weights)
    (subIds : List String) (context : Option (StrategyContext α)) {allSignals : List (Signals α)}
    (hall : ∀ signals ∈ allSignals, ∀ sig ∈ signals.values, sig.StopsRound) :
    ∃ signals, cfg.aggregate M weights subIds context allSignals = .ok signals ∧ ∀ sig ∈ signals.values, sig.StopsRound := by
  refine collectSignals_ok fun sym hsym => signalOf_ok h ?_ subIds _ hall hsym
  exact h.maxLeverage_le.imp_right fun hprior => allocation_activeWeights hprior (hw hprior) _ _

end SwarmMetaConfig

end Swarms

end Quant
