import Quant.Exceptions
import Quant.Pylib.Decimal
import Quant.Pylib.Lists

/-!
# Triple-barrier labels

`TripleBarrierConfig`, `BarrierLabel`, `compute_parkinson_volatility` and `label_arrays` of `analytics/labeling.py`. The numbers
of the configuration are the ones it holds; prices are elements of an ordered field, and the logarithm, the exponential and the
square root over it, the rounding of every result and `numpy`'s sum of a window are parameters. `label_batch` hands the columns of
a batch to `label_arrays`.
-/

namespace Quant

open Pylib

/-- `BarrierTouchReason`. -/
inductive BarrierTouchReason where
  | upper
  | lower
  | vertical
  | collisionStop
  deriving DecidableEq, Repr

/-- `PositionSide`. -/
inductive PositionSide where
  | long
  | short
  | unsigned
  deriving DecidableEq, Repr

/-- `PositionSide(raw_side)`, with `LONG` for a number that is no side. -/
def PositionSide.ofInt (rawSide : ℤ) : PositionSide :=
  if rawSide = 1 then .long else if rawSide = -1 then .short else if rawSide = 0 then .unsigned else .long

/-! ## The configuration -/

/-- The fields of a configuration, with their defaults. -/
structure TripleBarrierFields where
  profitMultiplier : ℚ := 2
  stopMultiplier : ℚ := 1
  horizonBars : ℤ := 60
  volatilityWindow : ℤ := 20
  volatilityFloor : ℚ := 1 / 10 ^ 4
  volatilityCap : ℚ := 1 / 2
  spreadBps : ℚ := 1
  feeBps : ℚ := 2
  tickSize : Option ℚ := none
  useLogBarriers : Bool := true
  scaleBySqrtHorizon : Bool := false
  pessimisticCollision : Bool := true
  executionDelayBars : ℤ := 1
  signExpirationReturns : Bool := false

/-- A configuration its constructor accepted. -/
structure TripleBarrierConfig extends TripleBarrierFields where
  profitMultiplier_pos : 0 < profitMultiplier
  stopMultiplier_pos : 0 < stopMultiplier
  horizonBars_pos : 1 ≤ horizonBars
  volatilityWindow_ge : 2 ≤ volatilityWindow
  volatilityFloor_pos : 0 < volatilityFloor
  volatilityFloor_le : volatilityFloor ≤ volatilityCap
  spreadBps_nonneg : 0 ≤ spreadBps
  feeBps_nonneg : 0 ≤ feeBps
  executionDelayBars_nonneg : 0 ≤ executionDelayBars
  tickSize_pos : ∀ t ∈ tickSize, 0 < t

/-- `TripleBarrierConfig.__post_init__`. -/
def TripleBarrierFields.create (f : TripleBarrierFields) : Except Exc TripleBarrierConfig :=
  if h1 : f.profitMultiplier ≤ 0 then
    .error ⟨.valueError, "profit_multiplier must be strictly positive, got %", [.num f.profitMultiplier]⟩
  else if h2 : f.stopMultiplier ≤ 0 then
    .error ⟨.valueError, "stop_multiplier must be strictly positive, got %", [.num f.stopMultiplier]⟩
  else if h3 : f.horizonBars < 1 then .error ⟨.valueError, "horizon_bars must be at least 1, got %", [.num f.horizonBars]⟩
  else if h4 : f.volatilityWindow < 2 then
    .error ⟨.valueError, "volatility_window must be at least 2, got %", [.num f.volatilityWindow]⟩
  else if h5 : f.volatilityFloor ≤ 0 then
    .error ⟨.valueError, "volatility_floor must be strictly positive, got %", [.num f.volatilityFloor]⟩
  else if h6 : f.volatilityCap < f.volatilityFloor then
    .error ⟨.valueError, "volatility_cap (%) cannot be less than volatility_floor (%)",
      [.num f.volatilityCap, .num f.volatilityFloor]⟩
  else if h7 : f.spreadBps < 0 then .error ⟨.valueError, "spread_bps cannot be negative, got %", [.num f.spreadBps]⟩
  else if h8 : f.feeBps < 0 then .error ⟨.valueError, "fee_bps cannot be negative, got %", [.num f.feeBps]⟩
  else if h9 : f.executionDelayBars < 0 then
    .error ⟨.valueError, "execution_delay_bars cannot be negative, got %", [.num f.executionDelayBars]⟩
  else if h10 : ∃ t ∈ f.tickSize, t ≤ 0 then
    .error ⟨.valueError, "tick_size must be strictly positive, got %", [.num (f.tickSize.getD 0)]⟩
  else .ok
    { f with
      profitMultiplier_pos := not_le.1 h1
      stopMultiplier_pos := not_le.1 h2
      horizonBars_pos := not_lt.1 h3
      volatilityWindow_ge := not_lt.1 h4
      volatilityFloor_pos := not_le.1 h5
      volatilityFloor_le := not_lt.1 h6
      spreadBps_nonneg := not_lt.1 h7
      feeBps_nonneg := not_lt.1 h8
      executionDelayBars_nonneg := not_lt.1 h9
      tickSize_pos := fun t ht => not_le.1 fun hle => h10 ⟨t, ht, hle⟩ }

/-! ## Labels -/

/-- The fields of a label. -/
structure BarrierLabelFields (α : Type) where
  eventTimestamp : ℤ
  entryTimestamp : ℤ
  exitTimestamp : ℤ
  entryPrice : α
  exitPrice : α
  side : PositionSide
  label : ℤ
  realizedReturn : α
  touchReason : BarrierTouchReason
  holdingPeriodBars : ℤ
  volatilityAtEntry : α
  upperBarrier : α
  lowerBarrier : α

/-- A label its constructor accepted. -/
structure BarrierLabel (α : Type) extends BarrierLabelFields α where
  entryTimestamp_le : entryTimestamp ≤ exitTimestamp
  label_mem : label ∈ [-1, 0, 1]
  holdingPeriodBars_nonneg : 0 ≤ holdingPeriodBars

/-- `BarrierLabel.__post_init__`. -/
def BarrierLabelFields.create {α : Type} (f : BarrierLabelFields α) : Except Exc (BarrierLabel α) :=
  if h1 : f.exitTimestamp < f.entryTimestamp then
    .error ⟨.valueError, "entry_timestamp (%) cannot be strictly greater than exit_timestamp (%)",
      [.num f.entryTimestamp, .num f.exitTimestamp]⟩
  else if h2 : f.label ∉ [-1, 0, 1] then .error ⟨.valueError, "label must be in \x7b-1, 0, 1\x7d, got %", [.num f.label]⟩
  else if h3 : f.holdingPeriodBars < 0 then
    .error ⟨.valueError, "holding_period_bars cannot be negative, got %", [.num f.holdingPeriodBars]⟩
  else .ok
    { f with
      entryTimestamp_le := not_lt.1 h1
      label_mem := not_not.1 h2
      holdingPeriodBars_nonneg := not_lt.1 h3 }

theorem BarrierLabelFields.create_fields {α : Type} {f : BarrierLabelFields α} {l : BarrierLabel α} (h : f.create = .ok l) :
    l.toBarrierLabelFields = f := by
  unfold BarrierLabelFields.create at h
  obtain ⟨h1, h⟩ := of_check_ok h
  obtain ⟨h2, h⟩ := of_check_ok h
  obtain ⟨h3, h⟩ := of_check_ok h
  obtain rfl := Except.ok.inj h
  rfl

/-- The columns of a series of bars. -/
structure BarSeries (α : Type) where
  timestamps : List ℤ
  opens : List α
  highs : List α
  lows : List α
  closes : List α

/-- The functions the labels are computed with: those of `math`, the rounding of a result and `numpy`'s sum of a window. -/
structure BarrierMath (α : Type) where
  log : α → α
  exp : α → α
  sqrt : α → α
  round : α → α
  sum : List α → α

section Labels

variable {α : Type} [Field α] [LinearOrder α] [FloorRing α] (M : BarrierMath α)

/-! ## Volatility -/

/-- `log_hl_sq`. -/
def logHlSq (highs lows : List α) : List α := List.zipWith (fun h l => M.round (M.log (M.round (h / l)) ^ 2)) highs lows

/-- `raw_vol`: a value for every window of bars. -/
def rawVol (highs lows : List α) (window : ℕ) : List α :=
  let scale := M.round (1 / M.round (M.round (lit 4 * M.log (lit 2)) * M.round (window : α)))
  let rollingSum := (List.range (highs.length + 1 - window)).map (fun j => M.sum (((logHlSq M highs lows).drop j).take window))
  rollingSum.map (fun x => M.sqrt (max 0 (M.round (x * scale))))

/-- `compute_parkinson_volatility`: the volatility of the window before each bar, and 0 where there are too few. -/
def computeParkinsonVolatility (highs lows : List α) (window : ℤ) : Except Exc (List α) :=
  let n := highs.length
  if n ≠ lows.length then
    .error ⟨.valueError, "Highs length (%) must match Lows length (%)", [.num n, .num lows.length]⟩
  else if window < 2 then .error ⟨.valueError, "Rolling window must be >= 2, got %", [.num window]⟩
  else if highs.any (· ≤ 0) ∨ lows.any (· ≤ 0) then
    .error ⟨.valueError, "High and Low prices must be strictly positive for Parkinson volatility", []⟩
  else if (highs.zip lows).any (fun p => p.1 < p.2) then
    .error ⟨.valueError, "High prices cannot be strictly less than Low prices", []⟩
  else .ok (List.replicate (min window.toNat n) 0 ++ (rawVol M highs lows window.toNat).take (n - window.toNat))

/-! ## One event -/

variable (cfg : TripleBarrierConfig)

/-- `sigma`: the volatility of a bar between floor and cap. -/
def entrySigma (rawSigma : α) : α := max (lit cfg.volatilityFloor) (min (lit cfg.volatilityCap) rawSigma)

/-- `effective_sigma`. -/
def effectiveSigma (sigma : α) : α :=
  if cfg.scaleBySqrtHorizon then M.round (sigma * M.sqrt (M.round ((cfg.horizonBars : ℤ) : α))) else sigma

/-- How many volatilities the barriers lie above and below the entry. -/
def multipliers (side : PositionSide) : ℚ × ℚ :=
  if side = .short then (cfg.stopMultiplier, cfg.profitMultiplier) else (cfg.profitMultiplier, cfg.stopMultiplier)

/-- The upper and the lower level before they are put on the tick grid. -/
def rawLevels (side : PositionSide) (nominalEntryPrice sigma : α) : α × α :=
  let up := M.round (lit (multipliers cfg side).1 * effectiveSigma M cfg sigma)
  let down := M.round (lit (multipliers cfg side).2 * effectiveSigma M cfg sigma)
  if cfg.useLogBarriers then
    (M.exp (M.round (M.log nominalEntryPrice + up)), M.exp (M.round (M.log nominalEntryPrice - down)))
  else (M.round (nominalEntryPrice * M.round (1 + up)), M.round (nominalEntryPrice * M.round (1 - down)))

/-- `round(level / ts) * ts`. -/
def toTick (ts level : α) : α := M.round (M.round ((nearestInt (M.round (level / ts)) : ℤ) : α) * ts)

/-- The upper and the lower barrier. -/
def barrierLevels (side : PositionSide) (nominalEntryPrice sigma : α) : α × α :=
  let levels := rawLevels M cfg side nominalEntryPrice sigma
  match cfg.tickSize with
  | some ts => (toTick M (lit ts) levels.1, toTick M (lit ts) levels.2)
  | none => levels

/-- The body of the loop over the bars: how one bar touches a barrier, and at which price. -/
def touchBar (side : PositionSide) (levels : α × α) (barOpen barHigh barLow : α) : Option (α × BarrierTouchReason) :=
  if levels.1 ≤ barOpen then some (barOpen, .upper)
  else if barOpen ≤ levels.2 then some (barOpen, .lower)
  else if levels.1 ≤ barHigh ∧ barLow ≤ levels.2 then
    if cfg.pessimisticCollision then some (if side = .short then levels.1 else levels.2, .collisionStop)
    else some (levels.1, .upper)
  else if levels.1 ≤ barHigh then some (levels.1, .upper)
  else if barLow ≤ levels.2 then some (levels.2, .lower)
  else none

/-- The touch of bar `k` of a series. -/
def touchAt (side : PositionSide) (levels : α × α) (s : BarSeries α) (k : ℕ) : Option (α × BarrierTouchReason) :=
  touchBar cfg side levels (s.opens.getD k 0) (s.highs.getD k 0) (s.lows.getD k 0)

/-- The exit of a trade: the first bar that touches a barrier, or the last one of the horizon at its close. -/
def exitOf (side : PositionSide) (levels : α × α) (s : BarSeries α) (entryIdx maxHorizonIdx : ℕ) : ℕ × α × BarrierTouchReason :=
  ((List.range' entryIdx (maxHorizonIdx + 1 - entryIdx)).findSome?
    (fun k => (touchAt cfg side levels s k).map (fun r => (k, r)))).getD
    (maxHorizonIdx, s.closes.getD maxHorizonIdx 0, .vertical)

omit [FloorRing α] in
/-- The trade exits at bar `k`: no bar before it touches a barrier, and bar `k` does. -/
theorem exitOf_eq_of_first {side : PositionSide} {levels : α × α} {s : BarSeries α} {entryIdx maxHorizonIdx k : ℕ}
    {r : α × BarrierTouchReason} (hle : entryIdx ≤ k) (hk : k ≤ maxHorizonIdx)
    (hbefore : ∀ j, entryIdx ≤ j → j < k → touchAt cfg side levels s j = none) (htouch : touchAt cfg side levels s k = some r) :
    exitOf cfg side levels s entryIdx maxHorizonIdx = (k, r) := by
  have hfind := findSome?_range'_eq_some.2 ⟨k, hle, (by omega : k < entryIdx + (maxHorizonIdx + 1 - entryIdx)),
    (fun j hj hjk => by rw [hbefore j hj hjk, Option.map_none] : ∀ j, entryIdx ≤ j → j < k →
      (touchAt cfg side levels s j).map (fun r => (j, r)) = none), by rw [htouch, Option.map_some]⟩
  rw [exitOf, hfind, Option.getD_some]

omit [FloorRing α] in
/-- The trade exits at the end of its horizon: no bar of it touches a barrier. -/
theorem exitOf_eq_of_none {side : PositionSide} {levels : α × α} {s : BarSeries α} {entryIdx maxHorizonIdx : ℕ}
    (h : ∀ k, entryIdx ≤ k → k ≤ maxHorizonIdx → touchAt cfg side levels s k = none) :
    exitOf cfg side levels s entryIdx maxHorizonIdx = (maxHorizonIdx, s.closes.getD maxHorizonIdx 0, .vertical) := by
  have hfind : (List.range' entryIdx (maxHorizonIdx + 1 - entryIdx)).findSome?
      (fun k => (touchAt cfg side levels s k).map (fun r => (k, r))) = none := by
    rw [List.findSome?_eq_none_iff]
    intro k hk
    obtain ⟨hle, hlt⟩ := List.mem_range'_1.1 hk
    rw [h k hle (by omega), Option.map_none]
  rw [exitOf, hfind, Option.getD_none]

omit [FloorRing α] in
/-- The two ways a trade exits. -/
theorem exitOf_cases (side : PositionSide) (levels : α × α) (s : BarSeries α) (entryIdx maxHorizonIdx : ℕ) :
    (∀ k, entryIdx ≤ k → k ≤ maxHorizonIdx → touchAt cfg side levels s k = none) ∨
      ∃ k r, entryIdx ≤ k ∧ k ≤ maxHorizonIdx ∧ (∀ j, entryIdx ≤ j → j < k → touchAt cfg side levels s j = none) ∧
        touchAt cfg side levels s k = some r := by
  by_cases h : ∃ k, entryIdx ≤ k ∧ k ≤ maxHorizonIdx ∧ touchAt cfg side levels s k ≠ none
  · right
    obtain ⟨hle, hmax, hne⟩ := Nat.find_spec h
    obtain ⟨r, hr⟩ := Option.ne_none_iff_exists'.1 hne
    refine ⟨Nat.find h, r, hle, hmax, fun j hj hjk => ?_, hr⟩
    by_contra hjne
    exact Nat.find_min h hjk ⟨hj, by omega, hjne⟩
  · left
    intro k hle hmax
    by_contra hne
    exact h ⟨k, hle, hmax, hne⟩

/-- `raw_return`. -/
def rawReturn (nominalEntryPrice exitPrice : α) : α :=
  if 0 < nominalEntryPrice then M.round (M.round (exitPrice - nominalEntryPrice) / nominalEntryPrice) else 0

/-- `round_trip_friction`. -/
def roundTripFriction : α :=
  M.round (M.round (lit 2 * M.round (lit cfg.spreadBps + lit cfg.feeBps)) * M.round (lit (1 / 10 ^ 4)))

/-- `one_way_friction`. -/
def oneWayFriction : α := M.round (M.round (lit cfg.spreadBps + lit cfg.feeBps) * M.round (lit (1 / 10 ^ 4)))

/-- `net_return`. -/
def netReturn (side : PositionSide) (rawReturn : α) : α :=
  match side with
  | .long => M.round (rawReturn - roundTripFriction M cfg)
  | .short => M.round (-rawReturn - roundTripFriction M cfg)
  | .unsigned => M.round (|rawReturn| - roundTripFriction M cfg)

/-- `label_val`. -/
def labelValue (side : PositionSide) (touchReason : BarrierTouchReason) (netReturn : α) : ℤ :=
  match touchReason with
  | .upper => if side = .short then -1 else 1
  | .lower | .collisionStop => if side = .short then 1 else -1
  | .vertical => if cfg.signExpirationReturns then if 0 < netReturn then 1 else if netReturn < 0 then -1 else 0 else 0

/-- `effective_entry_price`. -/
def effectiveEntryPrice (side : PositionSide) (nominalEntryPrice : α) : α :=
  match side with
  | .long => M.round (nominalEntryPrice * M.round (1 + oneWayFriction M cfg))
  | .short => M.round (nominalEntryPrice * M.round (1 - oneWayFriction M cfg))
  | .unsigned => nominalEntryPrice

/-- The bar a trade is entered at. -/
def entryIndex (eventIdx : ℤ) : ℕ := (eventIdx + cfg.executionDelayBars).toNat

/-- The fields of the label of an event that is not skipped. -/
def labelFields (s : BarSeries α) (causalVol : List α) (eventIdx : ℤ) (side : PositionSide) : BarrierLabelFields α :=
  let entryIdx := entryIndex cfg eventIdx
  let nominalEntryPrice := s.opens.getD entryIdx 0
  let sigma := entrySigma cfg (causalVol.getD entryIdx 0)
  let levels := barrierLevels M cfg side nominalEntryPrice sigma
  let maxHorizonIdx := min (s.timestamps.length - 1) (entryIdx + cfg.horizonBars.toNat)
  let exit := exitOf cfg side levels s entryIdx maxHorizonIdx
  let net := netReturn M cfg side (rawReturn M nominalEntryPrice exit.2.1)
  { eventTimestamp := s.timestamps.getD eventIdx.toNat 0
    entryTimestamp := s.timestamps.getD entryIdx 0
    exitTimestamp := s.timestamps.getD exit.1 0
    entryPrice := effectiveEntryPrice M cfg side nominalEntryPrice
    exitPrice := exit.2.1
    side := side
    label := labelValue cfg side exit.2.2 net
    realizedReturn := net
    touchReason := exit.2.2
    holdingPeriodBars := (exit.1 : ℤ) - entryIdx
    volatilityAtEntry := sigma
    upperBarrier := levels.1
    lowerBarrier := levels.2 }

/-- The events that are skipped: out of the series, entered after its end, or at a price that is not positive. -/
def Skipped (s : BarSeries α) (eventIdx : ℤ) : Prop :=
  eventIdx < 0 ∨ (s.timestamps.length : ℤ) ≤ eventIdx ∨ s.timestamps.length ≤ entryIndex cfg eventIdx ∨
    s.opens.getD (entryIndex cfg eventIdx) 0 ≤ 0

instance (s : BarSeries α) (eventIdx : ℤ) : Decidable (Skipped cfg s eventIdx) := inferInstanceAs (Decidable (_ ∨ _))

/-- The body of the loop over the events, each with its side. -/
def labelEvent (s : BarSeries α) (causalVol : List α) (event : ℤ × ℤ) : Except Exc (Option (BarrierLabel α)) :=
  if Skipped cfg s event.1 then .ok none
  else (labelFields M cfg s causalVol event.1 (PositionSide.ofInt event.2)).create.map some

/-! ## The series -/

/-- Events with their sides, `LONG` where none are given. -/
def withSides (events : List ℤ) (sides : Option (List ℤ)) : Except Exc (List (ℤ × ℤ)) :=
  match sides with
  | none => .ok (events.map (fun e => (e, 1)))
  | some sideArr =>
    if sideArr.length ≠ events.length then
      .error ⟨.valueError, "sides length (%) must match event_indices length (%)", [.num sideArr.length, .num events.length]⟩
    else .ok (events.zip sideArr)

/-- The events to label in a series of `n` bars: by default all with a full window before them and room for the trade. -/
def targetEvents (n : ℕ) (eventIndices sides : Option (List ℤ)) : Except Exc (List (ℤ × ℤ)) :=
  match eventIndices with
  | some events => withSides events sides
  | none =>
    let startIdx := cfg.volatilityWindow + 1
    let maxEventIdx := n - cfg.horizonBars - cfg.executionDelayBars
    if maxEventIdx ≤ startIdx then .ok []
    else withSides ((List.range (maxEventIdx - startIdx).toNat).map (fun (i : ℕ) => startIdx + i)) sides

/-- What the loop of `label_arrays` makes of each event: a label, or nothing where the event is skipped. -/
def labelRows (s : BarSeries α) (eventIndices sides : Option (List ℤ)) : Except Exc (List (Option (BarrierLabel α))) :=
  let n := s.timestamps.length
  let minRequiredBars := cfg.volatilityWindow + cfg.horizonBars + cfg.executionDelayBars
  if ¬ (s.opens.length = s.highs.length ∧ s.highs.length = s.lows.length ∧ s.lows.length = s.closes.length ∧
    s.closes.length = n) then
    .error ⟨.valueError, "Dimension mismatch in input arrays: timestamps=%, opens=%, highs=%, lows=%, closes=%",
      [.num n, .num s.opens.length, .num s.highs.length, .num s.lows.length, .num s.closes.length]⟩
  else if n < minRequiredBars then
    .error ⟨.valueError,
      "Input series length (%) is too short. Minimum required is % bars (volatility_window=% + horizon=% + delay=%)",
      [.num n, .num minRequiredBars, .num cfg.volatilityWindow, .num cfg.horizonBars, .num cfg.executionDelayBars]⟩
  else
    (computeParkinsonVolatility M s.highs s.lows cfg.volatilityWindow).bind fun causalVol =>
      (targetEvents cfg n eventIndices sides).bind fun events => events.mapM (labelEvent M cfg s causalVol)

/-- `label_arrays`. -/
def labelArrays (s : BarSeries α) (eventIndices sides : Option (List ℤ)) : Except Exc (List (BarrierLabel α)) :=
  (labelRows M cfg s eventIndices sides).map (List.filterMap id)

end Labels

end Quant
