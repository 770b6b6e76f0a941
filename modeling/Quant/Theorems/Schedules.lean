import Mathlib.Data.Rat.Sqrt
import Mathlib.Tactic.Linarith
import Mathlib.Tactic.NormNum
import Mathlib.Tactic.Ring
import Quant.Execution.Algorithms
import Quant.Pylib.Proration

/-!
# Execution schedules

## A jittered TWAP conserves its parent

Whatever the generator draws, each slice leaves the slices after it their reserve, so the last one, which takes the rest, is at
least a reserve itself. The clock moves at least one nanosecond from slice to slice.
-/

namespace Quant

open Pylib

namespace PoissonTWAPScheduler

/-- A slice takes at least a reserve and leaves one to each slice after it. -/
theorem sliceQuantity_bounds {n : ℕ} {rem deltaQ : ℚ} (h : (n + 1 : ℕ) * massConservationTolerance ≤ rem) :
    massConservationTolerance ≤ sliceQuantity (n + 1) rem deltaQ ∧
      n * massConservationTolerance ≤ rem - sliceQuantity (n + 1) rem deltaQ := by
  have hreserve : massConservationTolerance ≤ rem - ((n + 1 : ℕ) - 1) * massConservationTolerance := by
    push_cast at h ⊢
    linarith
  have hle : sliceQuantity (n + 1) rem deltaQ ≤ rem - ((n + 1 : ℕ) - 1) * massConservationTolerance :=
    max_le hreserve (min_le_left _ _)
  refine ⟨le_max_left _ _, ?_⟩
  push_cast at hle
  linarith

/-- The clock moves between slices. -/
theorem intervalNs_pos (self : PoissonTWAPScheduler) (xiT : ℚ) : 0 < self.intervalNs xiT := by
  have hmin : 1 / 10 ^ 9 ≤ max self.minIntervalSec (self.meanIntervalSec * (1 + xiT)) :=
    self.minIntervalSec_ge.trans (le_max_left _ _)
  refine Nat.floor_pos.2 ?_
  linarith

/-- Slices one after the other from `time` on, the next one due at `time'`. -/
inductive Paced : ℕ → List ScheduledSlice → ℕ → Prop where
  | nil (time : ℕ) : Paced time [] time
  | cons {s : ScheduledSlice} {slices : List ScheduledSlice} {time time' : ℕ} :
      s.scheduledTimeNs < time → Paced time slices time' → Paced s.scheduledTimeNs (s :: slices) time'

/-- The slices of a paced list and the one due after it are not before its start. -/
theorem Paced.le {slices : List ScheduledSlice} {last : ScheduledSlice} {time : ℕ} (h : Paced time slices last.scheduledTimeNs) :
    ∀ s ∈ slices ++ [last], time ≤ s.scheduledTimeNs := by
  generalize htime' : last.scheduledTimeNs = time' at h
  induction h with
  | nil =>
    intro s hs
    rw [List.mem_singleton.1 hs, htime']
  | cons hlt _ ih =>
    rintro s (_ | ⟨_, hs⟩)
    · exact le_rfl
    · exact hlt.le.trans (ih htime' s hs)

/-- The slices of a paced list and the one due after it are in order of time. -/
theorem Paced.pairwise {slices : List ScheduledSlice} {last : ScheduledSlice} {time : ℕ}
    (h : Paced time slices last.scheduledTimeNs) :
    (slices ++ [last]).Pairwise fun a b => a.scheduledTimeNs < b.scheduledTimeNs := by
  generalize htime' : last.scheduledTimeNs = time' at h
  induction h with
  | nil => exact List.pairwise_singleton _ _
  | cons hlt htail ih =>
    subst htime'
    exact List.pairwise_cons.2 ⟨fun s hs => hlt.trans_le (htail.le s hs), ih rfl⟩

/-- The first of them is due at the start. -/
theorem Paced.head {slices : List ScheduledSlice} {last : ScheduledSlice} {time : ℕ}
    (h : Paced time slices last.scheduledTimeNs) :
    ((slices ++ [last]).map (·.scheduledTimeNs)).head? = some time := by
  generalize htime' : last.scheduledTimeNs = time' at h
  cases h with
  | nil => exact congrArg some htime'
  | cons => rfl

/-- The loop: its slices and the rest it leaves come to the quantity it began with, all are at least a reserve, and the clock
moves. -/
theorem slicingLoop_ok (self : PoissonTWAPScheduler) (uniform : Draws) {n k : ℕ} {rem : ℚ} (time : ℕ)
    (hk : k + n + 1 = self.numSlices) (h : (n + 1 : ℕ) * massConservationTolerance ≤ rem) :
    ∃ slices rem' time', self.slicingLoop uniform n k rem time = .ok (slices, rem', time') ∧ slices.length = n ∧
      scheduledQuantity slices + rem' = rem ∧ massConservationTolerance ≤ rem' ∧
      (∀ s ∈ slices, massConservationTolerance ≤ s.quantity) ∧ Paced time slices time' := by
  induction n generalizing k rem time with
  | zero =>
    refine ⟨[], rem, time, rfl, rfl, zero_add _, ?_, fun s hs => absurd hs List.not_mem_nil, .nil time⟩
    simpa using h
  | succ n ih =>
    have hremaining : self.numSlices - k = n + 1 + 1 := by omega
    rw [slicingLoop, hremaining]
    dsimp only
    set qK := sliceQuantity (n + 1 + 1) rem (uniform (2 * k) (-self.jitterRatio) self.jitterRatio) with hqK
    set step := self.intervalNs (uniform (2 * k + 1) (-self.timeJitterRatio) self.timeJitterRatio)
    obtain ⟨hfloor, hleft⟩ : massConservationTolerance ≤ qK ∧ (n + 1 : ℕ) * massConservationTolerance ≤ rem - qK :=
      sliceQuantity_bounds h
    have hpos : 0 < qK := massConservationTolerance_pos.trans_le hfloor
    have hstep : time < time + step := Nat.lt_add_of_pos_right (intervalNs_pos self _)
    obtain ⟨slices, rem', time', hloop, hlength, hsum, hrem', hall, hpaced⟩ :=
      ih (time + step) (by omega : k + 1 + n + 1 = self.numSlices) hleft
    rw [ScheduledSliceFields.create_market k time hpos]
    refine ⟨.market k qK time hpos :: slices, rem', time', ?_, ?_, ?_, hrem', ?_,
      Paced.cons (s := .market k qK time hpos) hstep hpaced⟩
    · show Except.bind _ _ = _
      rw [hloop]
      rfl
    · rw [List.length_cons, hlength]
    · rw [scheduledQuantity_cons, add_assoc, hsum]
      exact add_sub_cancel _ _
    · rintro s (_ | ⟨_, hs⟩)
      · exact hfloor
      · exact hall s hs

/-- Whatever the draws are, a schedule has its number of slices, each at least a reserve, that come exactly to the parent quantity
at times that increase from the start on. -/
theorem generateSchedule_conserves (self : PoissonTWAPScheduler) (random : Option ℤ → Draws) (start : ℕ) :
    ∃ slices, self.generateSchedule random start = .ok slices ∧ slices.length = self.numSlices ∧
      (∀ s ∈ slices, massConservationTolerance ≤ s.quantity) ∧ scheduledQuantity slices = self.totalQuantity ∧
      (slices.map (·.scheduledTimeNs)).head? = some start ∧
      slices.Pairwise (fun a b => a.scheduledTimeNs < b.scheduledTimeNs) := by
  have hreserve := self.reserve_le
  rw [generateSchedule, checkStart_natCast]
  dsimp only [Except.bind]
  by_cases hone : self.numSlices = 1
  · rw [if_pos hone, ← Nat.cast_zero (R := ℤ), ScheduledSliceFields.create_market 0 start self.totalQuantity_pos]
    rw [hone, Nat.cast_one, one_mul] at hreserve
    refine ⟨[.market 0 self.totalQuantity start self.totalQuantity_pos], rfl, hone.symm, ?_, add_zero _, rfl,
      List.pairwise_singleton _ _⟩
    intro s hs
    rw [List.mem_singleton.1 hs]
    exact hreserve
  · have hk : 0 + (self.numSlices - 1) + 1 = self.numSlices := by
      have := self.numSlices_pos
      omega
    have hreserve' : (self.numSlices - 1 + 1 : ℕ) * massConservationTolerance ≤ self.totalQuantity := by
      rwa [show self.numSlices - 1 + 1 = self.numSlices by omega]
    obtain ⟨slices, qFinal, time', hloop, hlength, hsum, hfinal, hall, hpaced⟩ :=
      self.slicingLoop_ok (random self.seed) start hk hreserve'
    have hpos : 0 < qFinal := massConservationTolerance_pos.trans_le hfinal
    have hmass : scheduledQuantity (slices ++ [.market (self.numSlices - 1) qFinal time' hpos]) = self.totalQuantity := by
      rw [scheduledQuantity_append, ← hsum]
      exact congrArg _ (add_zero _)
    rw [if_neg hone, hloop]
    dsimp only
    rw [ScheduledSliceFields.create_market _ time' hpos]
    refine ⟨_, checkMass_ok hmass, ?_, ?_, hmass, hpaced.head, hpaced.pairwise⟩
    · rw [List.length_append, hlength, List.length_singleton]
      omega
    · intro s hs
      rcases List.mem_append.1 hs with hs | hs
      · exact hall s hs
      · rw [List.mem_singleton.1 hs]
        exact hfinal

end PoissonTWAPScheduler

/-!
## The capped VWAP path refines the static one

Both paths give amounts to bars and make a slice of each amount that is positive. The capped path divides the quantity over the
bars in proportion to their weights, up to the participation caps; without a cap that binds, these are the amounts of the static
path.
-/

/-! ### The slices of a list of amounts -/

/-- The slices of the bars from bar `k` on that are given these amounts, `i` slices made. -/
def barSlices (intervalNs start : ℕ) : (k i : ℕ) → List ℚ → List ScheduledSlice
  | _, _, [] => []
  | k, i, q :: qs =>
    if h : 0 < q then .market i q (start + k * intervalNs) h :: barSlices intervalNs start (k + 1) (i + 1) qs
    else barSlices intervalNs start (k + 1) i qs

section BarSlices

variable {intervalNs start : ℕ}

theorem barSlices_pos {k i : ℕ} {q : ℚ} (qs : List ℚ) (h : 0 < q) : barSlices intervalNs start k i (q :: qs) =
    .market i q (start + k * intervalNs) h :: barSlices intervalNs start (k + 1) (i + 1) qs := dif_pos h

theorem barSlices_not_pos {k i : ℕ} {q : ℚ} (qs : List ℚ) (h : ¬ 0 < q) :
    barSlices intervalNs start k i (q :: qs) = barSlices intervalNs start (k + 1) i qs := dif_neg h

/-- The slices come to the amounts. -/
theorem scheduledQuantity_barSlices {k i : ℕ} {qs : List ℚ} (h : ∀ q ∈ qs, 0 ≤ q) :
    scheduledQuantity (barSlices intervalNs start k i qs) = qs.sum := by
  induction qs generalizing k i with
  | nil => rfl
  | cons q qs ih =>
    obtain ⟨hq, hqs⟩ := List.forall_mem_cons.1 h
    rw [List.sum_cons]
    by_cases hpos : 0 < q
    · rw [barSlices_pos qs hpos, scheduledQuantity_cons, ih hqs]
      rfl
    · rw [barSlices_not_pos qs hpos, ih hqs, le_antisymm (not_lt.1 hpos) hq, zero_add]

/-- One more bar. -/
theorem barSlices_concat (intervalNs start k i : ℕ) (qs : List ℚ) (q : ℚ) : barSlices intervalNs start k i (qs ++ [q]) =
    barSlices intervalNs start k i qs ++
      barSlices intervalNs start (k + qs.length) (i + (barSlices intervalNs start k i qs).length) [q] := by
  induction qs generalizing k i with
  | nil => rfl
  | cons q' qs ih =>
    have hk : k + 1 + qs.length = k + (q' :: qs).length := by rw [List.length_cons]; omega
    by_cases hpos : 0 < q'
    · have hi : i + 1 + (barSlices intervalNs start (k + 1) (i + 1) qs).length =
          i + (barSlices intervalNs start k i (q' :: qs)).length := by
        rw [barSlices_pos qs hpos, List.length_cons]
        omega
      rw [← hi, List.cons_append, barSlices_pos _ hpos, barSlices_pos _ hpos, ih, hk]
      rfl
    · rw [List.cons_append, barSlices_not_pos _ hpos, barSlices_not_pos _ hpos, ih, hk]

/-- Each slice is of a bar of its own, in order, and within the bound of its bar. -/
theorem barSlices_bars (intervalNs start k i : ℕ) {qs bounds : List ℚ} (h : List.Forall₂ (· ≤ ·) qs bounds) :
    ∃ bars : List ℕ, bars.Pairwise (· < ·) ∧ (∀ b ∈ bars, k ≤ b) ∧
      List.Forall₂ (fun b s => s.scheduledTimeNs = start + b * intervalNs ∧ ∃ bound ∈ bounds[b - k]?, s.quantity ≤ bound) bars
        (barSlices intervalNs start k i qs) := by
  induction h generalizing k i with
  | nil => exact ⟨[], .nil, fun _ hb => absurd hb List.not_mem_nil, .nil⟩
  | @cons q bound qs bounds hq _ ih =>
    have hlater : ∀ {bars slices}, (∀ b ∈ bars, k + 1 ≤ b) →
        List.Forall₂ (fun b s => s.scheduledTimeNs = start + b * intervalNs ∧
          ∃ bound' ∈ bounds[b - (k + 1)]?, s.quantity ≤ bound') bars slices →
        List.Forall₂ (fun b s => s.scheduledTimeNs = start + b * intervalNs ∧
          ∃ bound' ∈ (bound :: bounds)[b - k]?, ScheduledSlice.quantity s ≤ bound') bars slices := by
      intro bars slices hbars hslices
      refine ((List.forall₂_and_left _ _).2 ⟨hbars, hslices⟩).imp ?_
      rintro b s ⟨hb, htime, hbound⟩
      rw [show b - k = b - (k + 1) + 1 by omega]
      exact ⟨htime, hbound⟩
    by_cases hpos : 0 < q
    · obtain ⟨bars, hsorted, hbars, hslices⟩ := ih (k + 1) (i + 1)
      rw [barSlices_pos qs hpos]
      refine ⟨k :: bars, List.pairwise_cons.2 ⟨hbars, hsorted⟩, ?_, .cons ⟨rfl, bound, ?_, hq⟩ (hlater hbars hslices)⟩
      · exact List.forall_mem_cons.2 ⟨le_rfl, fun b hb => (Nat.le_succ k).trans (hbars b hb)⟩
      · rw [Nat.sub_self]
        rfl
    · obtain ⟨bars, hsorted, hbars, hslices⟩ := ih (k + 1) i
      rw [barSlices_not_pos qs hpos]
      exact ⟨bars, hsorted, fun b hb => (Nat.le_succ k).trans (hbars b hb), hlater hbars hslices⟩

end BarSlices

namespace VolumeAdaptiveVWAPScheduler

variable (self : VolumeAdaptiveVWAPScheduler)

/-- The participation caps of bars of these volumes. -/
def caps (volumes : List ℚ) : List ℚ := volumes.map (self.maxParticipationRate * ·)

/-- The cap binds at bar `k`: its share of what is left is more than the participation in its volume. -/
def Binds (volumes : List ℚ) (k : ℕ) : Prop := CapBinds self.totalQuantity self.weights (self.caps volumes) k

/-! ### The static path -/

theorem profileLoop_eq (start : ℕ) {k i : ℕ} {rem : ℚ} {ws : List ℚ} (hws : ∀ w ∈ ws, 0 ≤ w) :
    self.profileLoop start k i rem ws =
      .ok (barSlices self.intervalNs start k i (ws.map (self.totalQuantity * ·)),
      rem - (ws.map (self.totalQuantity * ·)).sum) := by
  induction ws generalizing k i rem with
  | nil => rw [profileLoop, List.map_nil, List.sum_nil, sub_zero, barSlices]
  | cons w ws ih =>
    obtain ⟨hw, hws⟩ := List.forall_mem_cons.1 hws
    rw [profileLoop, List.map_cons, List.sum_cons]
    dsimp only
    by_cases hpos : 0 < self.totalQuantity * w
    · rw [if_pos hpos, ScheduledSliceFields.create_market i _ hpos, ih hws, barSlices_pos _ hpos, ← sub_sub]
      rfl
    · have hzero : self.totalQuantity * w = 0 := le_antisymm (not_lt.1 hpos) (mul_nonneg self.totalQuantity_pos.le hw)
      rw [if_neg hpos, ih hws, barSlices_not_pos _ hpos, hzero, zero_add]

/-- The slices of the parts that the weights are of the quantity come to it. -/
theorem scheduledQuantity_parts (start : ℕ) :
    scheduledQuantity (barSlices self.intervalNs start 0 0 (self.weights.map (self.totalQuantity * ·))) = self.totalQuantity := by
  rw [scheduledQuantity_barSlices, List.sum_map_mul_left, List.map_id', self.weights_sum, mul_one]
  intro q hq
  obtain ⟨w, hw, rfl⟩ := List.mem_map.1 hq
  exact mul_nonneg self.totalQuantity_pos.le (self.weights_nonneg w hw)

/-- So there is one. -/
theorem barSlices_parts_ne_nil (start : ℕ) :
    barSlices self.intervalNs start 0 0 (self.weights.map (self.totalQuantity * ·)) ≠ [] := by
  intro hnil
  have hmass := self.scheduledQuantity_parts start
  rw [hnil] at hmass
  exact self.totalQuantity_pos.ne hmass

/-- The static path makes the slices of these parts. -/
theorem staticSchedule_eq (start : ℕ) :
    self.staticSchedule start = .ok (barSlices self.intervalNs start 0 0 (self.weights.map (self.totalQuantity * ·))) := by
  obtain ⟨ws, w, hweights⟩ : ∃ ws w, self.weights = ws ++ [w] := by
    rcases List.eq_nil_or_concat' self.weights with hnil | h
    · have hsum := self.weights_sum
      rw [hnil] at hsum
      cases hsum
    · exact h
  have hnonneg := self.weights_nonneg
  have hsum := self.weights_sum
  have hmass := self.scheduledQuantity_parts start
  have hne := self.barSlices_parts_ne_nil start
  rw [hweights] at hnonneg hmass hne
  rw [hweights, List.sum_append, List.sum_singleton] at hsum
  have hrem : self.totalQuantity - (ws.map (self.totalQuantity * ·)).sum = self.totalQuantity * w := by
    rw [List.sum_map_mul_left, List.map_id', eq_sub_of_add_eq' hsum, mul_sub, mul_one]
  have hfinal : ∀ i, self.residualSlice start i (self.totalQuantity * w) =
      .ok (barSlices self.intervalNs start (0 + (ws.map (self.totalQuantity * ·)).length) i [self.totalQuantity * w]) := by
    intro i
    rw [residualSlice, hweights, List.length_append, List.length_singleton, Nat.add_sub_cancel, List.length_map, zero_add]
    by_cases hpos : 0 < self.totalQuantity * w
    · rw [if_pos hpos, ScheduledSliceFields.create_market i _ hpos, barSlices_pos _ hpos]
      rfl
    · rw [if_neg hpos, barSlices_not_pos _ hpos]
      rfl
  have hconcat := barSlices_concat self.intervalNs start 0 0 (ws.map (self.totalQuantity * ·)) (self.totalQuantity * w)
  rw [zero_add (List.length (barSlices _ _ _ _ _))] at hconcat
  rw [staticSchedule, hweights, List.dropLast_concat, profileLoop_eq _ _ fun v hv => hnonneg v (List.mem_append_left _ hv), hrem]
  dsimp only [Except.bind]
  rw [hfinal]
  dsimp only
  rw [← hconcat, ← List.map_singleton (f := (self.totalQuantity * ·)), ← List.map_append, if_neg hne, checkMass_ok hmass]

/-! ### The capped path -/

theorem cappedLoop_eq (start : ℕ) {k i : ℕ} {rem : ℚ} {ws vs : List ℚ} (hrem : 0 ≤ rem) (hws : ∀ w ∈ ws, 0 ≤ w)
    (hvs : ∀ v ∈ vs, 0 ≤ v) :
    self.cappedLoop start k i rem ws vs = .ok (barSlices self.intervalNs start k i (prorate rem ws (self.caps vs))) := by
  induction ws generalizing k i rem vs with
  | nil => rfl
  | cons w ws ih =>
    cases vs with
    | nil => rfl
    | cons v vs =>
      obtain ⟨hw, hws'⟩ := List.forall_mem_cons.1 hws
      obtain ⟨hv, hvs⟩ := List.forall_mem_cons.1 hvs
      have hask : 0 ≤ rem * (w / (w :: ws).sum) := (demand_bounds hrem hws).1
      have hcap : 0 ≤ self.maxParticipationRate * v := mul_nonneg self.maxParticipationRate_range.1.le hv
      have hleft : 0 ≤ rem - min (rem * (w / (w :: ws).sum)) (self.maxParticipationRate * v) := left_nonneg hrem hws
      rw [cappedLoop, caps, List.map_cons, prorate]
      set qK := min (rem * (w / (w :: ws).sum)) (self.maxParticipationRate * v)
      by_cases hpos : 0 < qK
      · have hask' : 0 < rem * (w / (w :: ws).sum) := hpos.trans_le (min_le_left _ _)
        have hsum : 0 < (w :: ws).sum := (List.sum_nonneg hws).lt_of_ne' fun hzero => by
          rw [hzero, div_zero, mul_zero] at hask'
          exact hask'.false
        have hrem' : 0 < rem := hrem.lt_of_ne' fun hzero => by
          rw [hzero, zero_mul] at hask'
          exact hask'.false
        rw [if_pos ⟨hsum, hrem', hpos⟩, ScheduledSliceFields.create_market i _ hpos, barSlices_pos _ hpos]
        dsimp only [Except.bind]
        rw [ih hleft hws' hvs]
        rfl
      · have hzero : qK = 0 := le_antisymm (not_lt.1 hpos) (le_min hask hcap)
        rw [if_neg fun h => hpos h.2.2, barSlices_not_pos _ hpos, hzero, sub_zero]
        exact ih hrem hws' hvs

/-- Bar volumes that were accepted: one for each bar, none of them negative. -/
theorem barVolumes_ok {expected : List ℚ} {realtime : Option (List ℚ)} {volumes : List ℚ}
    (h : self.barVolumes expected realtime = .ok volumes) : self.weights.length = volumes.length ∧ ∀ v ∈ volumes, 0 ≤ v := by
  have hcheck : ∀ {lengthText text : String} {vs : List ℚ}, self.checkBarVolumes lengthText text vs = .ok () →
      self.weights.length = vs.length ∧ ∀ v ∈ vs, 0 ≤ v := by
    intro lengthText text vs hvs
    obtain ⟨hlength, hvs⟩ := of_check_ok hvs
    exact ⟨(not_not.1 hlength).symm, nonneg_of_checkVolumes hvs⟩
  obtain ⟨_, hexpected, h⟩ := exists_of_bind_ok h
  obtain ⟨hlength, hnonneg⟩ := hcheck hexpected
  cases realtime with
  | none =>
    obtain rfl := Except.ok.inj h
    exact ⟨hlength, hnonneg⟩
  | some estimates =>
    obtain ⟨_, hestimates, h⟩ := exists_of_bind_ok h
    obtain ⟨hlength', hnonneg'⟩ := hcheck hestimates
    obtain rfl := Except.ok.inj h
    refine ⟨by rw [List.length_zipWith, ← hlength, ← hlength', min_self], ?_⟩
    intro v hv
    rw [← List.map_uncurry_zip_eq_zipWith] at hv
    obtain ⟨⟨vExp, vRt⟩, hmem, rfl⟩ := List.mem_map.1 hv
    obtain ⟨hsmooth, hsmooth'⟩ := self.smoothingWeight_range
    exact add_nonneg (mul_nonneg hsmooth (hnonneg _ (List.of_mem_zip hmem).1))
      (mul_nonneg (sub_nonneg.2 hsmooth') (hnonneg' _ (List.of_mem_zip hmem).2))

/-- The slices of the capped path are within the participation in their bars and come to at most the quantity, exactly to it where
the cap does not bind at the last bar with weight; and where it binds at no bar, they are the slices of the static path. -/
theorem generateSchedule_refines (start : ℕ) {expected : List ℚ} {realtime : Option (List ℚ)} {volumes : List ℚ}
    (hvolumes : self.barVolumes expected realtime = .ok volumes) :
    (∀ slices, self.generateSchedule start (some expected) realtime = .ok slices →
      (∃ bars : List ℕ, bars.Pairwise (· < ·) ∧ List.Forall₂ (fun b s => s.scheduledTimeNs = start + b * self.intervalNs ∧
        ∃ v ∈ volumes[b]?, s.quantity ≤ self.maxParticipationRate * v) bars slices) ∧
      scheduledQuantity slices ≤ self.totalQuantity ∧
      ∃ m, LastWeighted self.weights m ∧ (scheduledQuantity slices = self.totalQuantity ↔ ¬ self.Binds volumes m)) ∧
    ((∀ k, ¬ self.Binds volumes k) → ∃ slices, self.generateSchedule start (some expected) realtime = .ok slices ∧
      self.generateSchedule start none realtime = .ok slices) := by
  obtain ⟨hlength, hvolumes_nonneg⟩ := self.barVolumes_ok hvolumes
  have hcapsLength : self.weights.length = (self.caps volumes).length := by rw [caps, List.length_map, hlength]
  have hcaps : ∀ cap ∈ self.caps volumes, 0 ≤ cap := by
    intro cap hcap
    obtain ⟨v, hv, rfl⟩ := List.mem_map.1 hcap
    exact mul_nonneg self.maxParticipationRate_range.1.le (hvolumes_nonneg v hv)
  set amounts := prorate self.totalQuantity self.weights (self.caps volumes) with hamounts
  have hamounts_nonneg : ∀ q ∈ amounts, 0 ≤ q := prorate_nonneg self.totalQuantity_pos.le self.weights_nonneg hcaps
  have hrun : self.generateSchedule start (some expected) realtime =
      if barSlices self.intervalNs start 0 0 amounts = [] then .error ⟨.insufficientLiquidity,
        "VolumeAdaptiveVWAPScheduler unable to schedule child slices: zero market volume forecasted across all % intervals",
        [.num self.weights.length]⟩
      else .ok (barSlices self.intervalNs start 0 0 amounts) := by
    rw [generateSchedule, checkStart_natCast]
    dsimp only [Except.bind]
    rw [hvolumes]
    dsimp only
    rw [cappedSchedule, self.cappedLoop_eq start self.totalQuantity_pos.le self.weights_nonneg hvolumes_nonneg]
    rfl
  constructor
  · intro slices hslices
    rw [hrun] at hslices
    obtain ⟨-, hslices⟩ := of_check_ok hslices
    obtain rfl := Except.ok.inj hslices
    obtain ⟨bars, hsorted, -, hbars⟩ := barSlices_bars self.intervalNs start 0 0
      (prorate_le_cap self.totalQuantity hcapsLength)
    obtain ⟨m, hm⟩ := exists_lastWeighted self.weights_nonneg (self.weights_sum.symm ▸ zero_lt_one)
    rw [scheduledQuantity_barSlices hamounts_nonneg]
    refine ⟨⟨bars, hsorted, hbars.imp ?_⟩, prorate_sum_le self.totalQuantity_pos.le self.weights_nonneg, m, hm,
      prorate_sum_eq_iff self.totalQuantity_pos self.weights_nonneg hcaps hcapsLength hm⟩
    rintro b s ⟨htime, bound, hbound, hle⟩
    rw [Nat.sub_zero, caps, List.getElem?_map] at hbound
    obtain ⟨v, hv, rfl⟩ := Option.map_eq_some_iff.1 hbound
    exact ⟨htime, v, hv, hle⟩
  · intro hfree
    have hparts : amounts = self.weights.map (self.totalQuantity * ·) := by
      have := prorate_eq_map self.totalQuantity self.weights_nonneg hcapsLength
      rw [self.weights_sum, mul_one] at this
      exact this hfree
    refine ⟨barSlices self.intervalNs start 0 0 amounts, ?_, ?_⟩
    · rw [hrun, hparts, if_neg (self.barSlices_parts_ne_nil start)]
    · rw [generateSchedule, checkStart_natCast, hparts]
      exact self.staticSchedule_eq start

/-- A scheduler of 100 shares over three bars, the middle one without weight. -/
def threeBars : VolumeAdaptiveVWAPScheduler where
  totalQuantity := 100
  weights := [1 / 4, 0, 3 / 4]
  maxParticipationRate := 15 / 100
  smoothingWeight := 7 / 10
  intervalSec := 50
  totalQuantity_pos := Literal.hundred_pos
  weights_nonneg := by decide +kernel
  weights_sum := by decide +kernel
  maxParticipationRate_range := by decide +kernel
  smoothingWeight_range := by decide +kernel
  intervalSec_pos := Literal.fifty_pos

theorem threeBars_demands : demands threeBars.totalQuantity threeBars.weights
    (threeBars.caps [1000, 500, 700]) = [25, 0, 75] := by
  decide +kernel

theorem generateSchedule_refines_threeBars :
    ∃ slices, threeBars.generateSchedule (0 : ℕ) (some [1000, 500, 1000]) (some [1000, 500, 0]) = .ok slices ∧
      threeBars.generateSchedule (0 : ℕ) none (some [1000, 500, 0]) = .ok slices := by
  have hvolumes : threeBars.barVolumes [1000, 500, 1000] (some [1000, 500, 0]) = .ok [1000, 500, 700] := by decide +kernel
  refine (threeBars.generateSchedule_refines 0 hvolumes).2 ?_
  rintro k ⟨demand, hdemand, cap, hcap, hlt⟩
  rw [threeBars_demands] at hdemand
  rcases k with _ | _ | _ | k
  · cases hdemand
    cases hcap
    exact absurd hlt (by decide +kernel)
  · cases hdemand
    cases hcap
    exact absurd hlt (by decide +kernel)
  · cases hdemand
    cases hcap
    exact absurd hlt (by decide +kernel)
  · cases hdemand

end VolumeAdaptiveVWAPScheduler

/-!
## Arrival-price schedules are well formed

The clamp makes a trajectory out of any values of the closed form. The loop never looks back at the formula: a slice takes at most
what is left, the last interval takes all of it, and the repair keeps the times in order.
-/

namespace NonlinearArrivalPriceScheduler

variable (self : NonlinearArrivalPriceScheduler) (M : ImpactMath)

/-! ### The trajectory -/

/-- The entries after `prev`: as many as asked for and the closing zero, in decreasing order between `prev` and 0. -/
theorem trajectoryFrom_ok (prev : ℚ) (j n : ℕ) (hprev : 0 ≤ prev)
    (hform : ∀ i, j ≤ i → i < j + n → ∃ x, self.closedForm M i = .ok x) :
    ∃ rest, self.trajectoryFrom M prev j n = .ok rest ∧ rest.length = n + 1 ∧ rest.getLast? = some 0 ∧
      (∀ x ∈ rest, x ≤ prev) ∧ rest.Pairwise (· ≥ ·) := by
  induction n generalizing prev j with
  | zero => exact ⟨[0], rfl, rfl, rfl, fun x hx => (List.mem_singleton.1 hx).trans_le hprev, List.pairwise_singleton _ _⟩
  | succ n ih =>
    obtain ⟨xJ, hxJ⟩ := hform j le_rfl (by omega)
    obtain ⟨rest, hrest, hlength, hlast, hle, hsorted⟩ := ih (max 0 (min prev xJ)) (j + 1) (le_max_left _ _)
      fun i hi hi' => hform i (by omega) (by omega)
    have hclamp : max 0 (min prev xJ) ≤ prev := max_le hprev (min_le_left _ _)
    refine ⟨max 0 (min prev xJ) :: rest, ?_, ?_, ?_, ?_, List.pairwise_cons.2 ⟨hle, hsorted⟩⟩
    · rw [trajectoryFrom, hxJ]
      dsimp only [Except.bind]
      rw [hrest]
    · rw [List.length_cons, hlength]
    · rw [List.getLast?_cons, hlast, Option.getD_some]
    · exact List.forall_mem_cons.2 ⟨hclamp, fun x hx => (hle x hx).trans hclamp⟩

/-! ### The discharge -/

/-- The repair puts a slice after the one before it. -/
theorem lt_sliceTimeNs (start j : ℕ) {last : ℤ} (h : -1 ≤ last) : last < self.sliceTimeNs start j last := by
  rw [sliceTimeNs]
  split
  · exact (Int.lt_succ last).trans_le (le_max_left _ _)
  · have hfloor : 0 ≤ ⌊((j - 1 : ℕ) : ℚ) * (self.horizonSeconds / self.numIntervals * 1000000000)⌋ := by
      refine Int.floor_nonneg.2 (mul_nonneg (Nat.cast_nonneg _)
        (mul_nonneg (div_nonneg self.horizonSeconds_pos.le ?_) (by norm_num)))
      exact Nat.cast_nonneg _
    omega

/-- The loop with nothing left makes no more slices. -/
theorem dischargeLoop_zero (start j i : ℕ) (last : ℤ) (prev : ℚ) (xs : List ℚ) :
    self.dischargeLoop start j i 0 last prev xs = .ok ([], 0) := by
  cases xs with
  | nil => rfl
  | cons x xs => rw [dischargeLoop, if_pos le_rfl]

/-- The loop sends out all that is left, in slices that are later than the last one and in order of time. -/
theorem dischargeLoop_ok (start : ℕ) {j : ℕ} (i : ℕ) {rem : ℚ} {last : ℤ} (prev : ℚ) {xs : List ℚ} (hrem : 0 < rem)
    (hlast : -1 ≤ last)
    (hxs : xs ≠ []) (hj : j + xs.length = self.numIntervals + 1) :
    ∃ slices, self.dischargeLoop start j i rem last prev xs = .ok (slices, 0) ∧ scheduledQuantity slices = rem ∧
      (∀ s ∈ slices, last < s.scheduledTimeNs) ∧ slices.Pairwise (fun a b => a.scheduledTimeNs < b.scheduledTimeNs) := by
  induction xs generalizing j i rem last prev with
  | nil => exact absurd rfl hxs
  | cons x xs ih =>
    rw [List.length_cons] at hj
    rw [dischargeLoop, if_neg (not_le.2 hrem)]
    dsimp only
    set qJ := if j = self.numIntervals ∨ rem ≤ prev - x then rem else prev - x with hqJ
    by_cases hskip : qJ ≤ 0
    · -- only an interior interval is skipped: the last one takes what is left
      have hne : xs ≠ [] := by
        rintro rfl
        rw [hqJ, if_pos (.inl (by simpa using hj))] at hskip
        exact hskip.not_gt hrem
      rw [if_pos hskip]
      exact ih i x hrem hlast hne (by omega)
    · have hpos : 0 < qJ := not_le.1 hskip
      have hlt := self.lt_sliceTimeNs start j hlast
      obtain ⟨t, ht⟩ := Int.eq_ofNat_of_zero_le (show 0 ≤ self.sliceTimeNs start j last by omega)
      rw [if_neg hskip, ht, ScheduledSliceFields.create_market i t hpos]
      rw [ht] at hlt
      suffices htail : ∃ slices, self.dischargeLoop start (j + 1) (i + 1) (rem - qJ) t x xs = .ok (slices, 0) ∧
          scheduledQuantity slices = rem - qJ ∧ (∀ s ∈ slices, (t : ℤ) < s.scheduledTimeNs) ∧
          slices.Pairwise (fun a b => a.scheduledTimeNs < b.scheduledTimeNs) by
        obtain ⟨slices, hloop, hsum, hlater, hsorted⟩ := htail
        refine ⟨.market i qJ t hpos :: slices, ?_, ?_, ?_, ?_⟩
        · show Except.bind _ _ = _
          rw [hloop]
          rfl
        · rw [scheduledQuantity_cons, hsum]
          exact add_sub_cancel _ _
        · exact List.forall_mem_cons.2 ⟨hlt, fun s hs => hlt.trans (hlater s hs)⟩
        · exact List.pairwise_cons.2 ⟨fun s hs => Int.ofNat_lt.1 (hlater s hs), hsorted⟩
      by_cases hall : j = self.numIntervals ∨ rem ≤ prev - x
      · rw [hqJ, if_pos hall, sub_self, dischargeLoop_zero]
        exact ⟨[], rfl, rfl, fun s hs => absurd hs List.not_mem_nil, .nil⟩
      · obtain ⟨hne, hmore⟩ := not_or.1 hall
        have hleft : 0 < rem - qJ := by
          rw [hqJ, if_neg hall]
          exact sub_pos.2 (not_le.1 hmore)
        refine ih (i + 1) x hleft (by omega) ?_ (by omega)
        rintro rfl
        exact hne (by simpa using hj)

/-- Whatever values the closed form has at the interior points, the trajectory decreases from the quantity to 0, and the schedule
is made: positive slices at increasing times that come exactly to the quantity. -/
theorem generateSchedule_wellFormed (start : ℕ) (hform : ∀ j, 1 ≤ j → j < self.numIntervals → ∃ x, self.closedForm M j = .ok x) :
    ∃ trajectory slices, self.computeInventoryTrajectory M = .ok trajectory ∧ trajectory.length = self.numIntervals + 1 ∧
      trajectory.head? = some self.totalQuantity ∧ trajectory.getLast? = some 0 ∧ trajectory.Pairwise (· ≥ ·) ∧
      self.generateSchedule M start = .ok slices ∧ (∀ s ∈ slices, 0 < s.quantity) ∧
      slices.Pairwise (fun a b => a.scheduledTimeNs < b.scheduledTimeNs) ∧ scheduledQuantity slices = self.totalQuantity := by
  have hM := self.numIntervals_pos
  obtain ⟨rest, hrest, hlength, hlast, hle, hsorted⟩ := self.trajectoryFrom_ok M self.totalQuantity 1 (self.numIntervals - 1)
    self.totalQuantity_pos.le fun j hj hj' => hform j hj (by omega)
  have htrajectory : self.computeInventoryTrajectory M = .ok (self.totalQuantity :: rest) := by
    rw [computeInventoryTrajectory, hrest]
    rfl
  obtain ⟨slices, hloop, hsum, -, htimes⟩ := self.dischargeLoop_ok start 0 self.totalQuantity self.totalQuantity_pos
    (le_refl (-1)) (List.ne_nil_of_length_pos (by omega : 0 < rest.length)) (by omega : 1 + rest.length = self.numIntervals + 1)
  refine ⟨self.totalQuantity :: rest, slices, htrajectory, ?_, rfl, ?_, List.pairwise_cons.2 ⟨hle, hsorted⟩, ?_,
    fun s _ => s.quantity_pos, htimes, hsum⟩
  · rw [List.length_cons, hlength]
    omega
  · rw [List.getLast?_cons, hlast, Option.getD_some]
  · rw [generateSchedule, checkStart_natCast, htrajectory]
    dsimp only [Except.bind, List.headD_cons, List.tail_cons]
    rw [hloop]
    exact checkMass_ok hsum

theorem one_le_four : 1 ≤ 4 := by decide

/-- A program with hardly any urgency: its closed form is linear. -/
def patient : NonlinearArrivalPriceScheduler where
  totalQuantity := 100
  horizonSeconds := 50
  volatility := 1 / 10 ^ 4
  riskAversion := 1 / 10 ^ 8
  impactCoefficient := 1
  numIntervals := 4
  baselineVolatility := none
  totalQuantity_pos := Literal.hundred_pos
  horizonSeconds_pos := Literal.fifty_pos
  volatility_pos := by norm_num
  riskAversion_pos := by norm_num
  impactCoefficient_pos := Literal.one_pos
  numIntervals_pos := one_le_four
  baselineVolatility_pos := Literal.none_pos

/-- The square root of rational squares; the other two functions are not called for `patient`. -/
def rationalMath : ImpactMath where
  sinh := id
  exp := (1 + ·)
  sqrt := Rat.sqrt

theorem patient_closedForm (j : ℕ) : patient.closedForm rationalMath j =
    .ok (patient.totalQuantity * ((patient.horizonSeconds - j * patient.horizonSeconds / patient.numIntervals) /
    patient.horizonSeconds)) :=
  if_pos (by decide +kernel)

theorem generateSchedule_wellFormed_patient :
    ∃ trajectory slices, patient.computeInventoryTrajectory rationalMath = .ok trajectory ∧
    trajectory.length = 5 ∧ trajectory.head? = some 100 ∧ trajectory.getLast? = some 0 ∧ trajectory.Pairwise (· ≥ ·) ∧
    patient.generateSchedule rationalMath (0 : ℕ) = .ok slices ∧ (∀ s ∈ slices, 0 < s.quantity) ∧
    slices.Pairwise (fun a b => a.scheduledTimeNs < b.scheduledTimeNs) ∧ scheduledQuantity slices = 100 :=
  patient.generateSchedule_wellFormed rationalMath 0 fun j _ _ => ⟨_, patient_closedForm j⟩

end NonlinearArrivalPriceScheduler

end Quant
