import Mathlib.Analysis.SpecialFunctions.Log.Basic
import Quant.Pylib.Binary64
import Quant.Theorems.LabelCausality

/-!
# The sign of a label and of its return

A touch of the upper barrier is a price above the entry and one of the lower barrier a price below it, as long as the barriers,
rounded and put on the tick grid, leave the entry between them. A bar that reaches both barriers stops a short trade out at the
upper one, and is labelled as the profit a touch of the lower one would be.
-/

namespace Quant

open Pylib

section Signs

variable {α : Type} [Field α] {M : BarrierMath α} {cfg : TripleBarrierConfig} {s : BarSeries α} {side : PositionSide}

/-- The return of a trade in its direction, before friction; an unsigned one is held long. -/
def grossReturn (side : PositionSide) (nominalEntryPrice exitPrice : α) : α :=
  if side = .short then -((exitPrice - nominalEntryPrice) / nominalEntryPrice)
    else (exitPrice - nominalEntryPrice) / nominalEntryPrice

variable [LinearOrder α]

/-- A label of profit has a positive gross return, and one of a stop-loss a negative one. -/
def SignAgrees (side : PositionSide) (label : ℤ) (nominalEntryPrice exitPrice : α) : Prop :=
  (label = 1 → 0 < grossReturn side nominalEntryPrice exitPrice) ∧ (label = -1 → grossReturn side nominalEntryPrice exitPrice < 0)

/-- The barriers of an event, with every rounding and the tick grid, leave the entry price strictly between them. -/
def LevelsStraddle [FloorRing α] (M : BarrierMath α) (cfg : TripleBarrierConfig) (side : PositionSide)
    (nominalEntryPrice sigma : α) : Prop :=
  (barrierLevels M cfg side nominalEntryPrice sigma).2 < nominalEntryPrice ∧
    nominalEntryPrice < (barrierLevels M cfg side nominalEntryPrice sigma).1

/-! ## The touch -/

/-- A bar stays strictly between two levels. -/
def StaysWithin (levels : α × α) (s : BarSeries α) (k : ℕ) : Prop :=
  levels.2 < s.opens.getD k 0 ∧ s.opens.getD k 0 < levels.1 ∧ s.highs.getD k 0 < levels.1 ∧ levels.2 < s.lows.getD k 0

/-- A bar opens strictly between two levels and reaches both. -/
def ReachesBoth (levels : α × α) (s : BarSeries α) (k : ℕ) : Prop :=
  levels.2 < s.opens.getD k 0 ∧ s.opens.getD k 0 < levels.1 ∧ levels.1 ≤ s.highs.getD k 0 ∧ s.lows.getD k 0 ≤ levels.2

/-- A short trade is stopped out by a bar that reaches both barriers, the first one that reaches any. -/
def ShortCollision (cfg : TripleBarrierConfig) (side : PositionSide) (levels : α × α) (s : BarSeries α)
    (entryIdx maxHorizonIdx : ℕ) : Prop :=
  side = .short ∧ cfg.pessimisticCollision = true ∧ ∃ k, entryIdx ≤ k ∧ k ≤ maxHorizonIdx ∧
    (∀ j, entryIdx ≤ j → j < k → StaysWithin levels s j) ∧ ReachesBoth levels s k

theorem touchAt_eq_none_iff {levels : α × α} {k : ℕ} : touchAt cfg side levels s k = none ↔ StaysWithin levels s k := by
  unfold touchAt touchBar StaysWithin
  constructor
  · intro h
    split_ifs at h with h1 h2 h3 h4 h5 h6
    exact ⟨not_le.1 h2, not_le.1 h1, not_le.1 h5, not_le.1 h6⟩
  · rintro ⟨hl, hu, hh, hlow⟩
    rw [if_neg (not_le.2 hu), if_neg (not_le.2 hl), if_neg (fun h => (not_le.2 hh) h.1), if_neg (not_le.2 hh),
      if_neg (not_le.2 hlow)]

/-- What a touch is: of the upper barrier at or above it, of the lower one at or below it, or of both inside one bar. -/
theorem touchAt_cases {levels : α × α} {k : ℕ} {r : α × BarrierTouchReason} (h : touchAt cfg side levels s k = some r) :
    (r.2 = .upper ∧ levels.1 ≤ r.1 ∧ ¬ (cfg.pessimisticCollision = true ∧ ReachesBoth levels s k)) ∨
      (r.2 = .lower ∧ r.1 ≤ levels.2 ∧ ¬ (cfg.pessimisticCollision = true ∧ ReachesBoth levels s k)) ∨
      (r = (if side = .short then levels.1 else levels.2, .collisionStop) ∧ cfg.pessimisticCollision = true ∧
        ReachesBoth levels s k) := by
  unfold touchAt touchBar at h
  unfold ReachesBoth
  split_ifs at h with h1 h2 h3 h4 h5 h6 h7
  · obtain rfl := Option.some.inj h
    exact .inl ⟨rfl, h1, fun hc => hc.2.2.1.not_ge h1⟩
  · obtain rfl := Option.some.inj h
    exact .inr (.inl ⟨rfl, h2, fun hc => hc.2.1.not_ge h2⟩)
  · obtain rfl := Option.some.inj h
    exact .inr (.inr ⟨by rw [if_pos h5], h4, not_le.1 h2, not_le.1 h1, h3.1, h3.2⟩)
  · obtain rfl := Option.some.inj h
    exact .inr (.inr ⟨by rw [if_neg h5], h4, not_le.1 h2, not_le.1 h1, h3.1, h3.2⟩)
  · obtain rfl := Option.some.inj h
    exact .inl ⟨rfl, le_rfl, fun hc => h4 hc.1⟩
  · obtain rfl := Option.some.inj h
    exact .inl ⟨rfl, le_rfl, fun hc => h3 ⟨hc.2.2.2.1, hc.2.2.2.2⟩⟩
  · obtain rfl := Option.some.inj h
    exact .inr (.inl ⟨rfl, le_rfl, fun hc => h3 ⟨hc.2.2.2.1, hc.2.2.2.2⟩⟩)

/-- The first bar that touches a barrier tells whether a short trade is stopped out by a collision. -/
theorem shortCollision_iff {levels : α × α} {entryIdx maxHorizonIdx k : ℕ} {r : α × BarrierTouchReason} (hle : entryIdx ≤ k)
    (hmax : k ≤ maxHorizonIdx) (hbefore : ∀ j, entryIdx ≤ j → j < k → touchAt cfg side levels s j = none)
    (htouch : touchAt cfg side levels s k = some r) :
    ShortCollision cfg side levels s entryIdx maxHorizonIdx ↔
      side = .short ∧ cfg.pessimisticCollision = true ∧ ReachesBoth levels s k := by
  unfold ShortCollision
  refine and_congr_right fun _ => and_congr_right fun _ => ⟨?_, fun hboth => ?_⟩
  · rintro ⟨k', hle', -, hstays, hboth⟩
    rcases Nat.lt_trichotomy k k' with hlt | rfl | hgt
    · rw [touchAt_eq_none_iff.2 (hstays k hle hlt)] at htouch
      cases htouch
    · exact hboth
    · obtain ⟨-, -, hhigh, -⟩ := touchAt_eq_none_iff.1 (hbefore k' hle' hgt)
      exact absurd hboth.2.2.1 (not_le.2 hhigh)
  · exact ⟨k, hle, hmax, fun j hj hjk => touchAt_eq_none_iff.1 (hbefore j hj hjk), hboth⟩

/-- An entry price that is not strictly between the barriers touches one of them at once, at itself. -/
theorem touchAt_entry {levels : α × α} {k : ℕ} (h : ¬ (levels.2 < s.opens.getD k 0 ∧ s.opens.getD k 0 < levels.1)) :
    touchAt cfg side levels s k = some (s.opens.getD k 0, .upper) ∨ touchAt cfg side levels s k =
    some (s.opens.getD k 0, .lower) := by
  unfold touchAt touchBar
  by_cases hup : levels.1 ≤ s.opens.getD k 0
  · exact .inl (if_pos hup)
  · rw [if_neg hup]
    exact .inr (if_pos (not_lt.1 fun hlow => h ⟨hlow, not_le.1 hup⟩))

omit [LinearOrder α] in
theorem grossReturn_self (side : PositionSide) (p : α) : grossReturn side p p = 0 := by
  simp [grossReturn]

variable [IsStrictOrderedRing α]

theorem return_pos_iff {p x : α} (hp : 0 < p) : 0 < (x - p) / p ↔ p < x := by
  rw [lt_div_iff₀ hp, zero_mul, sub_pos]

theorem return_neg_iff {p x : α} (hp : 0 < p) : (x - p) / p < 0 ↔ x < p := by
  rw [div_lt_iff₀ hp, zero_mul, sub_neg]

/-- The sign of a label agrees where its exit is on the side of the entry its touch tells. -/
theorem signAgrees_of_upper {p x net : α} (hp : 0 < p) (hx : p < x) : SignAgrees side (labelValue cfg side .upper net) p x := by
  unfold SignAgrees grossReturn labelValue
  dsimp only
  by_cases hside : side = .short
  · rw [if_pos hside, if_pos hside]
    exact ⟨fun h => absurd h (by decide), fun _ => neg_lt_zero.2 ((return_pos_iff hp).2 hx)⟩
  · rw [if_neg hside, if_neg hside]
    exact ⟨fun _ => (return_pos_iff hp).2 hx, fun h => absurd h (by decide)⟩

theorem signAgrees_of_lower {p x net : α} (hp : 0 < p) (hx : x < p) : SignAgrees side (labelValue cfg side .lower net) p x := by
  unfold SignAgrees grossReturn labelValue
  dsimp only
  by_cases hside : side = .short
  · rw [if_pos hside, if_pos hside]
    exact ⟨fun _ => neg_pos.2 ((return_neg_iff hp).2 hx), fun h => absurd h (by decide)⟩
  · rw [if_neg hside, if_neg hside]
    exact ⟨fun h => absurd h (by decide), fun _ => (return_neg_iff hp).2 hx⟩

omit [IsStrictOrderedRing α] in
/-- A touch at the entry price has a sign but no return. -/
theorem not_signAgrees_self {p net : α} {reason : BarrierTouchReason} (hreason : reason = .upper ∨ reason = .lower) :
    ¬ SignAgrees side (labelValue cfg side reason net) p p := by
  intro h
  unfold SignAgrees at h
  rw [grossReturn_self] at h
  rcases hreason with rfl | rfl <;> by_cases hside : side = .short <;> simp [labelValue, hside] at h

/-- The label of a horizontal touch agrees with its return exactly when the entry lies between the barriers and no collision stops
a short trade out. -/
theorem exit_sign_iff {levels : α × α} {entryIdx maxHorizonIdx : ℕ} {net : α} (hp : 0 < s.opens.getD entryIdx 0)
    (htouch : (exitOf cfg side levels s entryIdx maxHorizonIdx).2.2 ≠ .vertical) :
    SignAgrees side (labelValue cfg side (exitOf cfg side levels s entryIdx maxHorizonIdx).2.2 net) (s.opens.getD entryIdx 0)
        (exitOf cfg side levels s entryIdx maxHorizonIdx).2.1 ↔
      (levels.2 < s.opens.getD entryIdx 0 ∧ s.opens.getD entryIdx 0 < levels.1) ∧
        ¬ ShortCollision cfg side levels s entryIdx maxHorizonIdx := by
  rcases exitOf_cases cfg side levels s entryIdx maxHorizonIdx with hnone | ⟨k, r, hle, hmax, hbefore, hfirst⟩
  · rw [exitOf_eq_of_none cfg hnone] at htouch
    exact absurd rfl htouch
  · rw [exitOf_eq_of_first cfg hle hmax hbefore hfirst, shortCollision_iff hle hmax hbefore hfirst]
    by_cases hbetween : levels.2 < s.opens.getD entryIdx 0 ∧ s.opens.getD entryIdx 0 < levels.1
    · obtain ⟨hlow, hup⟩ := hbetween
      rcases touchAt_cases hfirst with ⟨hreason, hprice, hno⟩ | ⟨hreason, hprice, hno⟩ | ⟨rfl, hpess, hboth⟩
      · rw [hreason]
        exact iff_of_true (signAgrees_of_upper hp (hup.trans_le hprice)) ⟨⟨hlow, hup⟩, fun hc => hno hc.2⟩
      · rw [hreason]
        exact iff_of_true (signAgrees_of_lower hp (hprice.trans_lt hlow)) ⟨⟨hlow, hup⟩, fun hc => hno hc.2⟩
      · by_cases hside : side = .short
        · refine iff_of_false (fun h => ?_) fun h => h.2 ⟨hside, hpess, hboth⟩
          -- the short trade is stopped out above its entry, and labelled as a profit
          have hpos := h.1 (by simp [labelValue, hside])
          rw [if_pos hside, grossReturn, if_pos hside, neg_pos, return_neg_iff hp] at hpos
          exact hpos.not_gt hup
        · rw [if_neg hside]
          have hagrees : SignAgrees side (labelValue cfg side .lower net) (s.opens.getD entryIdx 0) levels.2 :=
            signAgrees_of_lower hp hlow
          exact iff_of_true hagrees ⟨⟨hlow, hup⟩, fun hc => hside hc.1⟩
    · refine iff_of_false ?_ fun h => hbetween h.1
      have hentry : touchAt cfg side levels s entryIdx = some (s.opens.getD entryIdx 0, .upper) ∨
          touchAt cfg side levels s entryIdx = some (s.opens.getD entryIdx 0, .lower) := touchAt_entry hbetween
      have hk : k = entryIdx := by
        by_contra hne
        rw [hbefore entryIdx le_rfl (lt_of_le_of_ne hle (Ne.symm hne))] at hentry
        rcases hentry with h | h <;> cases h
      subst hk
      rw [hfirst] at hentry
      rcases hentry with h | h <;> obtain rfl := Option.some.inj h
      · exact not_signAgrees_self (.inl rfl)
      · exact not_signAgrees_self (.inr rfl)

/-! ## Whole runs -/

/-- The volatility an event is entered with. -/
def sigmaAt (cfg : TripleBarrierConfig) (vol : List α) (eventIdx : ℤ) : α :=
  entrySigma cfg (vol.getD (entryIndex cfg eventIdx) 0)

omit [Field α] [LinearOrder α] [IsStrictOrderedRing α] in
/-- The last bar of the horizon of an event. -/
def horizonEnd (cfg : TripleBarrierConfig) (s : BarSeries α) (eventIdx : ℤ) : ℕ :=
  min (s.timestamps.length - 1) (entryIndex cfg eventIdx + cfg.horizonBars.toNat)

variable [FloorRing α]

/-- One event: where its label tells a horizontal touch, the sign of the label agrees with the return exactly when the barriers
leave the entry between them and no collision stops a short trade out. -/
theorem labelEvent_sign_iff {vol : List α} {event : ℤ × ℤ} {l : BarrierLabel α}
    (h : labelEvent M cfg s vol event = .ok (some l)) (htouch : l.touchReason ≠ .vertical) :
    SignAgrees l.side l.label (s.opens.getD (entryIndex cfg event.1) 0) l.exitPrice ↔
      LevelsStraddle M cfg l.side (s.opens.getD (entryIndex cfg event.1) 0) (sigmaAt cfg vol event.1) ∧
        ¬ ShortCollision cfg l.side
          (barrierLevels M cfg l.side (s.opens.getD (entryIndex cfg event.1) 0) (sigmaAt cfg vol event.1)) s
          (entryIndex cfg event.1) (horizonEnd cfg s event.1) := by
  unfold labelEvent at h
  split at h
  · cases h
  rename_i hskip
  obtain ⟨l', hl, hll⟩ := exists_of_map_ok h
  obtain rfl := Option.some.inj hll
  have hfields := BarrierLabelFields.create_fields hl
  have hp : 0 < s.opens.getD (entryIndex cfg event.1) 0 := by
    unfold Skipped at hskip
    push Not at hskip
    exact hskip.2.2.2
  rw [hfields] at htouch ⊢
  exact exit_sign_iff hp htouch

omit [IsStrictOrderedRing α] in
/-- What a label records of its side and its return. -/
theorem labelEvent_return {vol : List α} {event : ℤ × ℤ} {l : BarrierLabel α}
    (h : labelEvent M cfg s vol event = .ok (some l)) :
    l.side = PositionSide.ofInt event.2 ∧ l.realizedReturn =
      netReturn M cfg l.side (rawReturn M (s.opens.getD (entryIndex cfg event.1) 0) l.exitPrice) := by
  unfold labelEvent at h
  split at h
  · cases h
  obtain ⟨l', hl, hll⟩ := exists_of_map_ok h
  obtain rfl := Option.some.inj hll
  rw [BarrierLabelFields.create_fields hl]
  exact ⟨rfl, rfl⟩

/-- Every label of a run that tells a horizontal touch, whatever the rounding: its sign agrees with its gross return exactly when
the barriers leave the entry between them and no collision stops a short trade out. -/
theorem labelArrays_sign_iff {eventIndices sides : Option (List ℤ)} {labels : List (BarrierLabel α)}
    (h : labelArrays M cfg s eventIndices sides = .ok labels) :
    ∃ (vol : List α) (events : List (ℤ × ℤ)) (rows : List (Option (BarrierLabel α))),
      computeParkinsonVolatility M s.highs s.lows cfg.volatilityWindow = .ok vol ∧
      targetEvents cfg s.timestamps.length eventIndices sides = .ok events ∧
      labelRows M cfg s eventIndices sides = .ok rows ∧ labels = rows.filterMap id ∧
      ∀ (i : ℕ) (event : ℤ × ℤ) (l : BarrierLabel α), events[i]? = some event → rows[i]? = some (some l) →
        l.side = PositionSide.ofInt event.2 ∧
        l.realizedReturn = netReturn M cfg l.side (rawReturn M (s.opens.getD (entryIndex cfg event.1) 0) l.exitPrice) ∧
        (l.touchReason ≠ .vertical →
          (SignAgrees l.side l.label (s.opens.getD (entryIndex cfg event.1) 0) l.exitPrice ↔
            LevelsStraddle M cfg l.side (s.opens.getD (entryIndex cfg event.1) 0) (sigmaAt cfg vol event.1) ∧
              ¬ ShortCollision cfg l.side
                (barrierLevels M cfg l.side (s.opens.getD (entryIndex cfg event.1) 0) (sigmaAt cfg vol event.1)) s
                (entryIndex cfg event.1) (horizonEnd cfg s event.1))) := by
  obtain ⟨rows, hrows, rfl⟩ := exists_of_map_ok h
  obtain ⟨-, -, vol, events, hvol, hevents, hall⟩ := labelRows_spec hrows
  refine ⟨vol, events, rows, hvol, hevents, hrows, rfl, fun i event l hi hl => ?_⟩
  obtain ⟨row, hrow, hevent⟩ := getElem?_of_forall₂ hall hi
  rw [hl] at hrow
  obtain rfl := Option.some.inj hrow
  obtain ⟨hside, hreturn⟩ := labelEvent_return hevent
  exact ⟨hside, hreturn, labelEvent_sign_iff hevent⟩

/-- A level of 1.245 and a tick of 0.01 come to 1.25 in doubles, not to the even 1.24. -/
example : toTick (⟨id, id, id, toDouble, List.sum⟩ : BarrierMath ℚ) (toDouble (1 / 100)) (toDouble (1245 / 1000)) = 5 / 4 := by
  decide +kernel

end Signs

/-! ## A bar that reaches both barriers -/

/-- `math`'s functions and the rounding of doubles; a window is added up from its start. -/
noncomputable def doubleBarrierMath : BarrierMath ℝ where
  log x := toDouble (Real.log x)
  exp x := toDouble (Real.exp x)
  sqrt x := toDouble (Real.sqrt x)
  round := toDouble
  sum l := l.foldl (fun acc x => toDouble (acc + x)) 0

theorem eighth_pos : (0 : ℚ) < 1 / 8 := by norm_num

/-- A volatility that is always an eighth, and linear barriers. -/
def eighthVolatility : TripleBarrierConfig :=
  { shortHorizon with
    volatilityFloor := 1 / 8
    volatilityCap := 1 / 8
    volatilityFloor_pos := eighth_pos
    volatilityFloor_le := le_refl _ }

/-- Two bars at one price, one that reaches far up and down, and a last one. -/
noncomputable def wideBar : BarSeries ℝ where
  timestamps := [1, 2, 3, 4]
  opens := [100, 100, 100, 100]
  highs := [100, 100, 200, 100]
  lows := [100, 100, 10, 100]
  closes := [100, 100, 100, 100]

theorem sigmaAt_eighthVolatility (vol : List ℝ) (eventIdx : ℤ) : sigmaAt eighthVolatility vol eventIdx = 1 / 8 := by
  have hfloor : (lit eighthVolatility.volatilityFloor : ℝ) = 1 / 8 := by norm_num [lit, eighthVolatility]
  have hcap : (lit eighthVolatility.volatilityCap : ℝ) = 1 / 8 := by norm_num [lit, eighthVolatility]
  rw [sigmaAt, entrySigma, hfloor, hcap]
  exact max_eq_left (min_le_left _ _)

/-- Eighths are doubles. -/
theorem isDouble_eighths {x : ℝ} (k : ℤ) (hk : |k| < 2 ^ 53) (hx : x = k / 8) : IsDouble x :=
  isDouble_of_eq (e := -3) (by decide) hk (by rw [hx, bit]; norm_num [div_eq_mul_inv])

/-- The barriers of an event in the third bar: no rounding changes them. -/
theorem barrierLevels_wideBar (side : PositionSide) :
    barrierLevels doubleBarrierMath eighthVolatility side 100 (1 / 8) = if side =
    .short then (225 / 2, 75) else (125, 175 / 2) := by
  have hlevels : barrierLevels doubleBarrierMath eighthVolatility side 100 (1 / 8) =
      (toDouble (100 * toDouble (1 + toDouble (lit (multipliers eighthVolatility side).1 * (1 / 8)))),
        toDouble (100 * toDouble (1 - toDouble (lit (multipliers eighthVolatility side).2 * (1 / 8))))) := rfl
  have heighth : toDouble (lit 1 * (1 / 8) : ℝ) = 1 / 8 := by
    rw [lit, Rat.cast_one, one_mul]
    exact isDouble_eighths 1 (by decide) (by norm_num)
  have hquarter : toDouble (lit 2 * (1 / 8) : ℝ) = 1 / 4 := by
    rw [show (lit 2 * (1 / 8) : ℝ) = 1 / 4 by norm_num [lit]]
    exact isDouble_eighths 2 (by decide) (by norm_num)
  have hround : ∀ {x y : ℝ} (k : ℤ), |k| < 2 ^ 53 → y = k / 8 → x = y → toDouble x = y :=
    fun k hk hy hx => hx ▸ isDouble_eighths k hk (hx ▸ hy)
  rw [hlevels]
  by_cases hside : side = .short
  · rw [if_pos hside, show multipliers eighthVolatility side = (1, 2) by rw [multipliers, if_pos hside]; rfl, heighth, hquarter,
      hround (x := 1 + 1 / 8) (y := 9 / 8) 9 (by decide) (by norm_num) (by norm_num),
      hround (x := 1 - 1 / 4) (y := 3 / 4) 6 (by decide) (by norm_num) (by norm_num),
      hround (x := 100 * (9 / 8)) (y := 225 / 2) 900 (by decide) (by norm_num) (by norm_num),
      hround (x := 100 * (3 / 4)) (y := 75) 600 (by decide) (by norm_num) (by norm_num)]
  · rw [if_neg hside, show multipliers eighthVolatility side = (2, 1) by rw [multipliers, if_neg hside]; rfl, heighth, hquarter,
      hround (x := 1 + 1 / 4) (y := 5 / 4) 10 (by decide) (by norm_num) (by norm_num),
      hround (x := 1 - 1 / 8) (y := 7 / 8) 7 (by decide) (by norm_num) (by norm_num),
      hround (x := 100 * (5 / 4)) (y := 125) 1000 (by decide) (by norm_num) (by norm_num),
      hround (x := 100 * (7 / 8)) (y := 175 / 2) 700 (by decide) (by norm_num) (by norm_num)]

theorem exitOf_wideBar (side : PositionSide) :
    exitOf eighthVolatility side (if side = .short then (225 / 2, 75) else (125, 175 / 2)) wideBar 2 3 =
      (2, if side = .short then 225 / 2 else 175 / 2, .collisionStop) := by
  refine exitOf_eq_of_first eighthVolatility le_rfl (by decide) (fun j hj hjk => absurd hjk (Nat.not_lt.2 hj)) ?_
  by_cases hside : side = .short <;> norm_num [touchAt, touchBar, wideBar, eighthVolatility, shortHorizon, hside]

/-- The event is labelled with the collision. -/
theorem labelEvent_wideBar (vol : List ℝ) (rawSide : ℤ) :
    ∃ l, labelEvent doubleBarrierMath eighthVolatility wideBar vol (2, rawSide) = .ok (some l) ∧
      l.touchReason = .collisionStop := by
  have hskip : ¬ Skipped eighthVolatility wideBar 2 := by
    rintro (h | h | h | h)
    · exact absurd h (by decide)
    · exact absurd h (by decide)
    · exact absurd h (by decide)
    · rw [show entryIndex eighthVolatility 2 = 2 from rfl] at h
      norm_num [wideBar] at h
  have hfields : (labelFields doubleBarrierMath eighthVolatility wideBar vol 2 (PositionSide.ofInt rawSide)).touchReason =
      .collisionStop ∧
      (labelFields doubleBarrierMath eighthVolatility wideBar vol 2 (PositionSide.ofInt rawSide)).holdingPeriodBars = 0 ∧
      (labelFields doubleBarrierMath eighthVolatility wideBar vol 2 (PositionSide.ofInt rawSide)).entryTimestamp = 3 ∧
      (labelFields doubleBarrierMath eighthVolatility wideBar vol 2 (PositionSide.ofInt rawSide)).exitTimestamp = 3 ∧
      (labelFields doubleBarrierMath eighthVolatility wideBar vol 2 (PositionSide.ofInt rawSide)).label ∈ [-1, 0, 1] := by
    have hlevels := barrierLevels_wideBar (PositionSide.ofInt rawSide)
    rw [← sigmaAt_eighthVolatility vol 2] at hlevels
    have hexit := exitOf_wideBar (PositionSide.ofInt rawSide)
    rw [← hlevels] at hexit
    have hopen : wideBar.opens.getD (entryIndex eighthVolatility 2) 0 = 100 := by rfl
    unfold sigmaAt at hexit
    simp only [labelFields, hopen]
    rw [show entryIndex eighthVolatility 2 = 2 from rfl] at hexit ⊢
    rw [show min (wideBar.timestamps.length - 1) (2 + eighthVolatility.horizonBars.toNat) = 3 from rfl, hexit]
    refine ⟨rfl, rfl, rfl, rfl, ?_⟩
    dsimp only [labelValue]
    split <;> decide
  obtain ⟨hreason, hholding, hentry, hexit, hlabel⟩ := hfields
  have hcreate : ∃ l, (labelFields doubleBarrierMath eighthVolatility wideBar vol 2 (PositionSide.ofInt rawSide)).create =
      .ok l := by
    refine exists_of_isOk ?_
    rw [BarrierLabelFields.create, dif_neg (by rw [hentry, hexit]; decide), dif_neg (not_not.2 hlabel),
      dif_neg (by rw [hholding]; decide)]
    rfl
  obtain ⟨l, hl⟩ := hcreate
  refine ⟨l, ?_, ?_⟩
  · rw [labelEvent, if_neg hskip, hl]
    rfl
  · rw [BarrierLabelFields.create_fields hl]
    exact hreason

/-- The whole run labels the event. -/
theorem labelRows_wideBar (rawSide : ℤ) :
    ∃ l, labelRows doubleBarrierMath eighthVolatility wideBar (some [2]) (some [rawSide]) = .ok [some l] ∧
      l.touchReason = .collisionStop ∧
      l.side = PositionSide.ofInt rawSide := by
  obtain ⟨vol, hvol⟩ : ∃ vol, computeParkinsonVolatility doubleBarrierMath wideBar.highs wideBar.lows
      eighthVolatility.volatilityWindow = .ok vol := by
    refine exists_of_isOk ?_
    norm_num [computeParkinsonVolatility, wideBar, eighthVolatility, shortHorizon]
    rfl
  obtain ⟨l, hl, hreason⟩ := labelEvent_wideBar vol rawSide
  refine ⟨l, ?_, hreason, (labelEvent_return hl).1⟩
  simp only [labelRows]
  rw [if_neg (not_not.2 ⟨rfl, rfl, rfl, rfl⟩), if_neg (by decide), hvol]
  show (targetEvents eighthVolatility wideBar.timestamps.length (some [2]) (some [rawSide])).bind
    (fun events => events.mapM (labelEvent doubleBarrierMath eighthVolatility wideBar vol)) = .ok [some l]
  rw [show targetEvents eighthVolatility wideBar.timestamps.length (some [2]) (some [rawSide]) = .ok [(2, rawSide)] from rfl]
  show [(2, rawSide)].mapM (labelEvent doubleBarrierMath eighthVolatility wideBar vol) = .ok [some l]
  rw [List.mapM_cons, List.mapM_nil, hl]
  rfl

/-- A short trade that is stopped out at the upper barrier is labelled as a profit. -/
theorem not_signAgrees_wideBar :
    ¬ ∀ (cfg : TripleBarrierConfig) (s : BarSeries ℝ) (eventIndices sides : Option (List ℤ)) (events : List (ℤ × ℤ))
      (rows : List (Option (BarrierLabel ℝ))), targetEvents cfg s.timestamps.length eventIndices sides = .ok events →
        labelRows doubleBarrierMath cfg s eventIndices sides = .ok rows →
          ∀ (i : ℕ) (event : ℤ × ℤ) (l : BarrierLabel ℝ), events[i]? = some event → rows[i]? = some (some l) →
            l.touchReason ≠ .vertical →
            SignAgrees l.side l.label (s.opens.getD (entryIndex cfg event.1) 0) l.exitPrice := by
  intro h
  obtain ⟨l, hrows, hreason, hside⟩ := labelRows_wideBar (-1)
  have hvertical : l.touchReason ≠ .vertical := by
    rw [hreason]
    decide
  have hagrees := h eighthVolatility wideBar (some [2]) (some [-1]) [(2, -1)] [some l] rfl hrows 0 (2, -1) l rfl rfl hvertical
  obtain ⟨-, -, vol, events, -, hevents, hall⟩ := labelRows_spec hrows
  obtain rfl := Except.ok.inj hevents
  obtain ⟨row, hrow, hevent⟩ := getElem?_of_forall₂ (i := 0) hall rfl
  obtain rfl := Option.some.inj hrow
  obtain ⟨-, hno⟩ := (labelEvent_sign_iff hevent hvertical).1 hagrees
  refine hno ⟨hside, rfl, 2, le_rfl, by decide, fun j hj hjk => absurd hjk (Nat.not_lt.2 hj), ?_⟩
  rw [sigmaAt_eighthVolatility, hside, show wideBar.opens.getD (entryIndex eighthVolatility (2, (-1 : ℤ)).1) 0 = 100 from rfl,
    barrierLevels_wideBar]
  norm_num [ReachesBoth, wideBar, PositionSide.ofInt]

/-- The same bar stops a long trade out at the lower barrier, and is labelled as the loss it is. -/
theorem signAgrees_wideBar_long :
    ∃ l, labelRows doubleBarrierMath eighthVolatility wideBar (some [2]) (some [1]) = .ok [some l] ∧
      SignAgrees l.side l.label 100 l.exitPrice := by
  obtain ⟨l, hrows, hreason, hside⟩ := labelRows_wideBar 1
  have hlabels : labelArrays doubleBarrierMath eighthVolatility wideBar (some [2]) (some [1]) = .ok [l] := by
    rw [labelArrays, hrows]
    rfl
  obtain ⟨vol, events, rows, -, hevents, hrows', -, hall⟩ := labelArrays_sign_iff hlabels
  obtain rfl := Except.ok.inj hevents
  rw [hrows] at hrows'
  obtain rfl := Except.ok.inj hrows'
  obtain ⟨-, -, hiff⟩ := hall 0 (2, 1) l rfl rfl
  refine ⟨l, hrows, (hiff (by rw [hreason]; decide)).2 ⟨?_, fun hc => ?_⟩⟩
  · have hlevels := barrierLevels_wideBar (PositionSide.ofInt 1)
    rw [if_neg (by decide)] at hlevels
    rw [hside, LevelsStraddle, sigmaAt_eighthVolatility,
      show wideBar.opens.getD (entryIndex eighthVolatility (2, (1 : ℤ)).1) 0 = 100 from rfl,
      hlevels]
    norm_num
  · rw [hside] at hc
    exact absurd hc.1 (by decide)

end Quant
