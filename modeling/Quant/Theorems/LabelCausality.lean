import Quant.Analytics.Labeling
import Quant.Pylib.Steps

/-!
# Labels look no further than their exit

Two runs over series of one length. What an event is entered with (volatility, barriers) depends on the highs and lows before its
entry bar and on the open of that bar; its outcome depends on the bars up to its exit.
-/

namespace Quant

open Pylib

variable {α : Type}

/-! ## Series that agree -/

/-- Two series have the same highs and lows before bar `k`, and bar `k` opens at the same price. -/
structure BarSeries.AgreeBefore (k : ℕ) (s s' : BarSeries α) : Prop where
  highs_eq : ∀ i < k, s.highs[i]? = s'.highs[i]?
  lows_eq : ∀ i < k, s.lows[i]? = s'.lows[i]?
  open_eq : s.opens[k]? = s'.opens[k]?

/-- Two series have the same prices in all bars up to bar `k`. -/
structure BarSeries.AgreeTo (k : ℕ) (s s' : BarSeries α) : Prop where
  opens_eq : ∀ i ≤ k, s.opens[i]? = s'.opens[i]?
  highs_eq : ∀ i ≤ k, s.highs[i]? = s'.highs[i]?
  lows_eq : ∀ i ≤ k, s.lows[i]? = s'.lows[i]?
  closes_eq : ∀ i ≤ k, s.closes[i]? = s'.closes[i]?

/-- Two labels of trades entered alike: the volatility, the barriers, the entry price and the side. -/
structure BarrierLabel.SameEntry (l l' : BarrierLabel α) : Prop where
  volatility_eq : l.volatilityAtEntry = l'.volatilityAtEntry
  upper_eq : l.upperBarrier = l'.upperBarrier
  lower_eq : l.lowerBarrier = l'.lowerBarrier
  entryPrice_eq : l.entryPrice = l'.entryPrice
  side_eq : l.side = l'.side

/-- Two labels of trades with one outcome: how, when and at which price it ends, and what it returns. -/
structure BarrierLabel.SameOutcome (l l' : BarrierLabel α) : Prop where
  reason_eq : l.touchReason = l'.touchReason
  holding_eq : l.holdingPeriodBars = l'.holdingPeriodBars
  exitPrice_eq : l.exitPrice = l'.exitPrice
  return_eq : l.realizedReturn = l'.realizedReturn
  label_eq : l.label = l'.label

theorem getD_congr {l l' : List α} {i : ℕ} (d : α) (h : l[i]? = l'[i]?) : l.getD i d = l'.getD i d := by
  rw [List.getD_eq_getElem?_getD, List.getD_eq_getElem?_getD, h]

variable [Field α] {M : BarrierMath α} {cfg : TripleBarrierConfig} {s s' : BarSeries α}

/-! ## The volatility -/

theorem logHlSq_congr {highs lows highs' lows' : List α} {i : ℕ} (hh : highs[i]? = highs'[i]?) (hl : lows[i]? = lows'[i]?) :
    (logHlSq M highs lows)[i]? = (logHlSq M highs' lows')[i]? := by
  rw [logHlSq, logHlSq, List.getElem?_zipWith, List.getElem?_zipWith, hh, hl]

variable [LinearOrder α]

/-- The volatility of a bar is that of the window before it. -/
theorem getD_parkinson {highs lows vol : List α} {window : ℤ}
    (h : computeParkinsonVolatility M highs lows window = .ok vol) {k : ℕ}
    (hk : k < highs.length) :
    vol.getD k 0 = if k < window.toNat then 0 else
      M.sqrt (max 0 (M.round (M.sum (((logHlSq M highs lows).drop (k - window.toNat)).take window.toNat) *
        M.round (1 / M.round (M.round (lit 4 * M.log (lit 2)) * M.round (window.toNat : α)))))) := by
  simp only [computeParkinsonVolatility] at h
  split at h
  · cases h
  split at h
  · cases h
  split at h
  · cases h
  split at h
  · cases h
  obtain rfl := Except.ok.inj h
  rw [List.getD_eq_getElem?_getD, List.getElem?_append, List.length_replicate]
  by_cases hlt : k < window.toNat
  · rw [if_pos (lt_min hlt hk), if_pos hlt, List.getElem?_replicate, if_pos (lt_min hlt hk), Option.getD_some]
  · rw [if_neg fun hmin => hlt (hmin.trans_le (min_le_left _ _)), if_neg hlt, min_eq_left (by omega), List.getElem?_take,
      if_pos (by omega)]
    simp only [rawVol, List.map_map, List.getElem?_map]
    rw [List.getElem?_range (by omega), Option.map_some, Option.getD_some]
    rfl

/-- The volatility of a bar depends on the highs and lows before it. -/
theorem parkinson_congr {vol vol' : List α} {k : ℕ} {window : ℤ} (hk : k < s.highs.length) (hk' : k < s'.highs.length)
    (h : computeParkinsonVolatility M s.highs s.lows window = .ok vol)
    (h' : computeParkinsonVolatility M s'.highs s'.lows window = .ok vol') (hagree : s.AgreeBefore k s') :
    vol.getD k 0 = vol'.getD k 0 := by
  rw [getD_parkinson h hk, getD_parkinson h' hk']
  by_cases hlt : k < window.toNat
  · rw [if_pos hlt, if_pos hlt]
  · have hwindow : ((logHlSq M s.highs s.lows).drop (k - window.toNat)).take window.toNat =
        ((logHlSq M s'.highs s'.lows).drop (k - window.toNat)).take window.toNat := by
      refine List.ext_getElem? fun i => ?_
      rw [List.getElem?_take, List.getElem?_take]
      split
      · rw [List.getElem?_drop, List.getElem?_drop]
        exact logHlSq_congr (hagree.highs_eq _ (by omega)) (hagree.lows_eq _ (by omega))
      · rfl
    rw [if_neg hlt, if_neg hlt, hwindow]

/-! ## One event -/

theorem skipped_congr {eventIdx : ℤ} (hn : s.timestamps.length = s'.timestamps.length)
    (hagree : s.AgreeBefore (entryIndex cfg eventIdx) s') : Skipped cfg s eventIdx ↔ Skipped cfg s' eventIdx := by
  unfold Skipped
  rw [hn, getD_congr 0 hagree.open_eq]

theorem touchAt_congr {side : PositionSide} {levels : α × α} {k j : ℕ} (hagree : s.AgreeTo k s') (hj : j ≤ k) :
    touchAt cfg side levels s j = touchAt cfg side levels s' j := by
  unfold touchAt
  rw [getD_congr 0 (hagree.opens_eq j hj), getD_congr 0 (hagree.highs_eq j hj), getD_congr 0 (hagree.lows_eq j hj)]

theorem le_exitOf (side : PositionSide) (levels : α × α) (s : BarSeries α) {entryIdx maxHorizonIdx : ℕ}
    (h : entryIdx ≤ maxHorizonIdx) :
    entryIdx ≤ (exitOf cfg side levels s entryIdx maxHorizonIdx).1 := by
  rcases exitOf_cases cfg side levels s entryIdx maxHorizonIdx with hnone | ⟨k, r, hle, hmax, hbefore, htouch⟩
  · rw [exitOf_eq_of_none cfg hnone]
    exact h
  · rw [exitOf_eq_of_first cfg hle hmax hbefore htouch]
    exact hle

/-- The exit depends on the bars up to it. -/
theorem exitOf_congr {side : PositionSide} {levels : α × α} {entryIdx maxHorizonIdx : ℕ}
    (hagree : s.AgreeTo (exitOf cfg side levels s entryIdx maxHorizonIdx).1 s') :
    exitOf cfg side levels s entryIdx maxHorizonIdx = exitOf cfg side levels s' entryIdx maxHorizonIdx := by
  rcases exitOf_cases cfg side levels s entryIdx maxHorizonIdx with hnone | ⟨k, r, hle, hmax, hbefore, htouch⟩
  · rw [exitOf_eq_of_none cfg hnone] at hagree ⊢
    rw [exitOf_eq_of_none cfg fun k hle hmax => touchAt_congr hagree hmax ▸ hnone k hle hmax,
      getD_congr 0 (hagree.closes_eq maxHorizonIdx le_rfl)]
  · rw [exitOf_eq_of_first cfg hle hmax hbefore htouch] at hagree ⊢
    rw [exitOf_eq_of_first cfg hle hmax (fun j hj hjk => touchAt_congr hagree hjk.le ▸ hbefore j hj hjk)
      (touchAt_congr hagree le_rfl ▸ htouch)]

variable [FloorRing α]

/-- The volatility and the barriers of an event are the same in both series. -/
theorem labelFields_entry_congr (side : PositionSide) {vol vol' : List α} {eventIdx : ℤ}
    (hvol : vol.getD (entryIndex cfg eventIdx) 0 = vol'.getD (entryIndex cfg eventIdx) 0)
    (hagree : s.AgreeBefore (entryIndex cfg eventIdx) s') :
    (labelFields M cfg s vol eventIdx side).volatilityAtEntry = (labelFields M cfg s' vol' eventIdx side).volatilityAtEntry ∧
      (labelFields M cfg s vol eventIdx side).upperBarrier = (labelFields M cfg s' vol' eventIdx side).upperBarrier ∧
      (labelFields M cfg s vol eventIdx side).lowerBarrier = (labelFields M cfg s' vol' eventIdx side).lowerBarrier ∧
      (labelFields M cfg s vol eventIdx side).entryPrice = (labelFields M cfg s' vol' eventIdx side).entryPrice := by
  have hopen := getD_congr 0 hagree.open_eq
  simp only [labelFields, hvol, hopen, and_self]

/-- The exit bar of a label, as its holding period tells it. -/
theorem exit_of_holding {vol : List α} {eventIdx : ℤ} {side : PositionSide} (hskip : ¬ Skipped cfg s eventIdx) :
    entryIndex cfg eventIdx + (labelFields M cfg s vol eventIdx side).holdingPeriodBars.toNat =
      (exitOf cfg side (barrierLevels M cfg side (s.opens.getD (entryIndex cfg eventIdx) 0)
        (entrySigma cfg (vol.getD (entryIndex cfg eventIdx) 0))) s (entryIndex cfg eventIdx)
        (min (s.timestamps.length - 1) (entryIndex cfg eventIdx + cfg.horizonBars.toNat))).1 := by
  have hin : entryIndex cfg eventIdx < s.timestamps.length := by
    unfold Skipped at hskip
    omega
  have hle : entryIndex cfg eventIdx ≤ (exitOf cfg side (barrierLevels M cfg side (s.opens.getD (entryIndex cfg eventIdx) 0)
      (entrySigma cfg (vol.getD (entryIndex cfg eventIdx) 0))) s (entryIndex cfg eventIdx)
      (min (s.timestamps.length - 1) (entryIndex cfg eventIdx + cfg.horizonBars.toNat))).1 :=
    le_exitOf side _ s (le_min (Nat.le_sub_one_of_lt hin) (Nat.le_add_right (entryIndex cfg eventIdx) cfg.horizonBars.toNat))
  simp only [labelFields]
  omega

/-- The outcome of an event is the same where the bars up to its exit are. -/
theorem labelFields_outcome_congr {vol vol' : List α} {eventIdx : ℤ} {side : PositionSide}
    (hn : s.timestamps.length = s'.timestamps.length) (hskip : ¬ Skipped cfg s eventIdx)
    (hvol : vol.getD (entryIndex cfg eventIdx) 0 = vol'.getD (entryIndex cfg eventIdx) 0)
    (hagree : s.AgreeBefore (entryIndex cfg eventIdx) s')
    (hto : s.AgreeTo (entryIndex cfg eventIdx + (labelFields M cfg s vol eventIdx side).holdingPeriodBars.toNat) s') :
    (labelFields M cfg s vol eventIdx side).touchReason = (labelFields M cfg s' vol' eventIdx side).touchReason ∧
      (labelFields M cfg s vol eventIdx side).holdingPeriodBars = (labelFields M cfg s' vol' eventIdx side).holdingPeriodBars ∧
      (labelFields M cfg s vol eventIdx side).exitPrice = (labelFields M cfg s' vol' eventIdx side).exitPrice ∧
      (labelFields M cfg s vol eventIdx side).realizedReturn = (labelFields M cfg s' vol' eventIdx side).realizedReturn ∧
      (labelFields M cfg s vol eventIdx side).label = (labelFields M cfg s' vol' eventIdx side).label := by
  rw [exit_of_holding hskip] at hto
  have hexit := exitOf_congr hto
  have hopen := getD_congr 0 hagree.open_eq
  rw [hopen, hvol, hn] at hexit
  simp only [labelFields, hvol, hopen, hn, hexit, and_self]

/-- What an event is entered with depends on the highs and lows before its entry bar and on the open of that bar, and its outcome
on the bars up to its exit. -/
theorem labelEvent_congr {vol vol' : List α} {event : ℤ × ℤ} (hn : s.timestamps.length = s'.timestamps.length)
    (hvol : ¬ Skipped cfg s event.1 → vol.getD (entryIndex cfg event.1) 0 = vol'.getD (entryIndex cfg event.1) 0)
    (hagree : s.AgreeBefore (entryIndex cfg event.1) s') {row row' : Option (BarrierLabel α)}
    (h : labelEvent M cfg s vol event = .ok row) (h' : labelEvent M cfg s' vol' event = .ok row') :
    (row = none ↔ row' = none) ∧ ∀ l, row = some l → ∃ l', row' = some l' ∧ l.SameEntry l' ∧
      (s.AgreeTo (entryIndex cfg event.1 + l.holdingPeriodBars.toNat) s' → l.SameOutcome l') := by
  unfold labelEvent at h h'
  by_cases hskip : Skipped cfg s event.1
  · rw [if_pos hskip] at h
    rw [if_pos ((skipped_congr hn hagree).1 hskip)] at h'
    obtain rfl := Except.ok.inj h
    obtain rfl := Except.ok.inj h'
    exact ⟨Iff.rfl, fun l hl => nomatch hl⟩
  · rw [if_neg hskip] at h
    rw [if_neg fun hskip' => hskip ((skipped_congr hn hagree).2 hskip')] at h'
    obtain ⟨l, hl, rfl⟩ := exists_of_map_ok h
    obtain ⟨l', hl', rfl⟩ := exists_of_map_ok h'
    have hfields := BarrierLabelFields.create_fields hl
    have hfields' := BarrierLabelFields.create_fields hl'
    refine ⟨by simp, fun l₀ hl₀ => ?_⟩
    obtain rfl := Option.some.inj hl₀
    refine ⟨l', rfl, ?_, fun hto => ?_⟩
    · obtain ⟨hsigma, hupper, hlower, hentry⟩ := labelFields_entry_congr (M := M) (PositionSide.ofInt event.2) (hvol hskip) hagree
      rw [← hfields, ← hfields'] at hsigma hupper hlower hentry
      exact ⟨hsigma, hupper, hlower, hentry, by rw [hfields, hfields']; rfl⟩
    · rw [hfields] at hto
      obtain ⟨hreason, hholding, hprice, hreturn, hlabel⟩ := labelFields_outcome_congr hn hskip (hvol hskip) hagree hto
      rw [← hfields, ← hfields'] at hreason hholding hprice hreturn hlabel
      exact ⟨hreason, hholding, hprice, hreturn, hlabel⟩

/-! ## Whole runs -/

/-- What a run that returns went through: its volatilities, its events and a row for each. -/
theorem labelRows_spec {eventIndices sides : Option (List ℤ)} {rows : List (Option (BarrierLabel α))}
    (h : labelRows M cfg s eventIndices sides = .ok rows) :
    s.highs.length = s.timestamps.length ∧ s.lows.length = s.timestamps.length ∧ ∃ vol events,
      computeParkinsonVolatility M s.highs s.lows cfg.volatilityWindow = .ok vol ∧
        targetEvents cfg s.timestamps.length eventIndices sides = .ok events ∧
        List.Forall₂ (fun event row => labelEvent M cfg s vol event = .ok row) events rows := by
  simp only [labelRows] at h
  split at h
  · cases h
  rename_i hdim
  split at h
  · cases h
  obtain ⟨vol, hvol, h⟩ := exists_of_bind_ok h
  obtain ⟨events, hevents, h⟩ := exists_of_bind_ok h
  obtain ⟨h1, h2, h3, h4⟩ := not_not.1 hdim
  exact ⟨h2.trans (h3.trans h4), h3.trans h4, vol, events, hvol, hevents, forall₂_of_mapM_ok h⟩

/-- Two runs over series with as many bars, with the same events and sides. Where the series agree on the highs and lows before
the entry bar of an event and on the open of that bar, both runs skip the event or both label it, with the same volatility and
barriers; and where they agree on all bars up to the exit the first run finds, the second finds the same touch, exit and
return. -/
theorem labelArrays_causal {eventIndices sides : Option (List ℤ)} {labels labels' : List (BarrierLabel α)}
    (hn : s.timestamps.length = s'.timestamps.length) (h : labelArrays M cfg s eventIndices sides = .ok labels)
    (h' : labelArrays M cfg s' eventIndices sides = .ok labels') :
    ∃ (events : List (ℤ × ℤ)) (rows rows' : List (Option (BarrierLabel α))),
      targetEvents cfg s.timestamps.length eventIndices sides = .ok events ∧
      labelRows M cfg s eventIndices sides = .ok rows ∧ labels = rows.filterMap id ∧
      labelRows M cfg s' eventIndices sides = .ok rows' ∧ labels' = rows'.filterMap id ∧
      ∀ (i : ℕ) (event : ℤ × ℤ), events[i]? = some event → s.AgreeBefore (entryIndex cfg event.1) s' →
        (rows[i]? = some none ↔ rows'[i]? = some none) ∧ ∀ l : BarrierLabel α, rows[i]? = some (some l) →
          ∃ l', rows'[i]? = some (some l') ∧
          l.SameEntry l' ∧ (s.AgreeTo (entryIndex cfg event.1 + l.holdingPeriodBars.toNat) s' → l.SameOutcome l') := by
  obtain ⟨rows, hrows, rfl⟩ := exists_of_map_ok h
  obtain ⟨rows', hrows', rfl⟩ := exists_of_map_ok h'
  obtain ⟨hhighs, -, vol, events, hvol, hevents, hall⟩ := labelRows_spec hrows
  obtain ⟨hhighs', -, vol', events', hvol', hevents', hall'⟩ := labelRows_spec hrows'
  rw [← hn, hevents] at hevents'
  obtain rfl := Except.ok.inj hevents'
  refine ⟨events, rows, rows', hevents, hrows, rfl, hrows', rfl, fun i event hi hagree => ?_⟩
  obtain ⟨row, hrow, hlabel⟩ := getElem?_of_forall₂ hall hi
  obtain ⟨row', hrow', hlabel'⟩ := getElem?_of_forall₂ hall' hi
  have hsigma : ¬ Skipped cfg s event.1 → vol.getD (entryIndex cfg event.1) 0 = vol'.getD (entryIndex cfg event.1) 0 := by
    intro hskip
    have hin : entryIndex cfg event.1 < s.timestamps.length := by
      unfold Skipped at hskip
      omega
    exact parkinson_congr (by rw [hhighs]; exact hin) (by rw [hhighs', ← hn]; exact hin) hvol hvol' hagree
  obtain ⟨hnone, hsome⟩ := labelEvent_congr hn hsigma hagree hlabel hlabel'
  rw [hrow, hrow']
  refine ⟨by rw [Option.some_inj, Option.some_inj]; exact hnone, fun l hl => ?_⟩
  obtain ⟨l', rfl, hentry, houtcome⟩ := hsome l (Option.some.inj hl)
  exact ⟨l', rfl, hentry, houtcome⟩

/-! ## Two series that part after the exit -/

/-! The facts its fields rest on, by name. -/

theorem shortHorizon_stopMultiplier_pos : (0 : ℚ) < 1 := one_pos

theorem shortHorizon_horizonBars_pos : (1 : ℤ) ≤ 2 := by decide

/-- A window of two bars, a horizon of two, and linear barriers. -/
def shortHorizon : TripleBarrierConfig :=
  { horizonBars := 2
    volatilityWindow := 2
    volatilityFloor := 1 / 10
    useLogBarriers := false
    executionDelayBars := 0
    profitMultiplier_pos := by decide
    stopMultiplier_pos := shortHorizon_stopMultiplier_pos
    horizonBars_pos := shortHorizon_horizonBars_pos
    volatilityWindow_ge := by decide
    volatilityFloor_pos := by decide +kernel
    volatilityFloor_le := by decide +kernel
    spreadBps_nonneg := by decide
    feeBps_nonneg := by decide
    executionDelayBars_nonneg := by decide
    tickSize_pos := by decide }

/-- Functions that are 0 where the logarithm and the root are asked for 1 and for 0. -/
def flatMath : BarrierMath ℚ := ⟨fun x => x - 1, fun x => x + 1, id, id, List.sum⟩

/-- Two bars at one price, one that reaches the upper barrier, and a last one. -/
def risingBars (last : ℚ) : BarSeries ℚ where
  timestamps := [1, 2, 3, 4]
  opens := [100, 100, 100, last]
  highs := [100, 100, 125, last]
  lows := [100, 100, 95, last]
  closes := [100, 100, 120, last]

/-- Both runs label the event, and alike. -/
theorem labelArrays_causal_risingBars :
    ∃ (rows rows' : List (Option (BarrierLabel ℚ))) (l l' : BarrierLabel ℚ),
      labelRows flatMath shortHorizon (risingBars 110) (some [2]) none = .ok rows ∧ rows[0]? = some (some l) ∧
      labelRows flatMath shortHorizon (risingBars 40) (some [2]) none = .ok rows' ∧ rows'[0]? = some (some l') ∧
      l.SameEntry l' ∧ l.SameOutcome l' := by
  obtain ⟨labels, hlabels⟩ := exists_of_isOk (x := labelArrays flatMath shortHorizon (risingBars 110) (some [2]) none)
    (by decide +kernel)
  obtain ⟨labels', hlabels'⟩ := exists_of_isOk (x := labelArrays flatMath shortHorizon (risingBars 40) (some [2]) none)
    (by decide +kernel)
  obtain ⟨events, rows, rows', hevents, hrows, -, hrows', -, hall⟩ :=
    @labelArrays_causal ℚ _ flatMath shortHorizon (risingBars 110) (risingBars 40) _ _
      (some [2]) none labels labels' rfl hlabels hlabels'
  obtain rfl := Except.ok.inj hevents
  have htouch : (labelRows flatMath shortHorizon (risingBars 110) (some [2]) none).toOption.any (fun rows =>
      rows[0]?.join.any (fun l => l.holdingPeriodBars = 0)) = true := by
    decide +kernel
  rw [hrows] at htouch
  obtain ⟨_, hrow, hfirst⟩ := (Option.any_eq_true _ _).1 htouch
  obtain rfl := Option.some.inj hrow
  obtain ⟨l, hl, hheld⟩ := (Option.any_eq_true _ _).1 hfirst
  rw [Option.join_eq_some_iff] at hl
  obtain ⟨l', hl', hentry, houtcome⟩ := (hall 0 (2, 1) rfl ⟨by decide, by decide, by decide⟩).2 l hl
  refine ⟨rows, rows', l, l', hrows, hl, hrows', hl', hentry, houtcome ?_⟩
  rw [of_decide_eq_true hheld]
  exact ⟨by decide, by decide, by decide, by decide⟩

end Quant
