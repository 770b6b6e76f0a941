import Mathlib.Algebra.BigOperators.Ring.List
import Mathlib.Algebra.Order.Floor.Semiring
import Mathlib.Algebra.Order.Ring.Rat
import Mathlib.Data.Rat.Floor
import Quant.Execution.ParentOrder

/-!
# Execution schedulers

`ScheduledSlice` and the three schedulers of `execution/algorithms.py`, with exact numbers. The draws of a generator and the
transcendental functions are parameters.
-/

namespace Quant

/-- An `InvalidScheduleException`. -/
def invalidSchedule (text : String) (args : List ExcArg) : Exc := ⟨.invalidSchedule, text, args⟩

/-- A `NonFiniteInputException`. -/
def nonFiniteInput (text : String) (args : List ExcArg) : Exc := ⟨.nonFiniteInput, text, args⟩

/-! ## Slices -/

/-- A `ScheduledSlice`. -/
structure ScheduledSlice where
  sliceIndex : ℕ
  quantity : ℚ
  scheduledTimeNs : ℕ
  priceLimit : Option ℚ := none
  quantity_pos : 0 < quantity
  priceLimit_pos : ∀ p ∈ priceLimit, 0 < p

/-- The fields of a slice, before it is checked. -/
structure ScheduledSliceFields where
  sliceIndex : ℤ
  quantity : ℚ
  scheduledTimeNs : ℤ
  priceLimit : Option ℚ := none

/-- `ScheduledSlice.__post_init__`. -/
def ScheduledSliceFields.create (f : ScheduledSliceFields) : Except Exc ScheduledSlice :=
  if f.sliceIndex < 0 then
    .error (nonFiniteInput "ScheduledSlice slice_index must be non-negative int, got %" [.num f.sliceIndex])
  else if h2 : f.quantity ≤ 0 then
    .error (nonFiniteInput "ScheduledSlice quantity must be finite float > 0.0, got %" [.num f.quantity])
  else if f.scheduledTimeNs < 0 then
    .error (nonFiniteInput "ScheduledSlice scheduled_time_ns must be non-negative int, got %" [.num f.scheduledTimeNs])
  else if h4 : ∃ p ∈ f.priceLimit, p ≤ 0 then
    .error (nonFiniteInput "ScheduledSlice price_limit must be finite float > 0.0 if provided, got %"
      [.num (f.priceLimit.getD 0)])
  else .ok
    { sliceIndex := f.sliceIndex.toNat
      quantity := f.quantity
      scheduledTimeNs := f.scheduledTimeNs.toNat
      priceLimit := f.priceLimit
      quantity_pos := not_le.1 h2
      priceLimit_pos := fun p hp => not_le.1 fun hle => h4 ⟨p, hp, hle⟩ }

/-- A slice without a price limit. -/
def ScheduledSlice.market (sliceIndex : ℕ) (quantity : ℚ) (scheduledTimeNs : ℕ) (h : 0 < quantity) : ScheduledSlice where
  sliceIndex := sliceIndex
  quantity := quantity
  scheduledTimeNs := scheduledTimeNs
  quantity_pos := h
  priceLimit_pos := Literal.none_pos

/-- A positive quantity makes a slice. -/
theorem ScheduledSliceFields.create_market (i t : ℕ) {q : ℚ} (h : 0 < q) :
    create ⟨i, q, t, none⟩ = .ok (.market i q t h) := by
  have hi : ¬ (i : ℤ) < 0 := not_lt.2 (Int.natCast_nonneg i)
  have ht : ¬ (t : ℤ) < 0 := not_lt.2 (Int.natCast_nonneg t)
  have hq : ¬ q ≤ 0 := not_le.2 h
  simp [create, hi, ht, hq, ScheduledSlice.market]

/-- The quantity a list of slices schedules. -/
def scheduledQuantity (slices : List ScheduledSlice) : ℚ := (slices.map (·.quantity)).sum

@[simp] theorem scheduledQuantity_nil : scheduledQuantity [] = 0 := rfl

@[simp] theorem scheduledQuantity_cons (s : ScheduledSlice) (slices : List ScheduledSlice) :
    scheduledQuantity (s :: slices) = s.quantity + scheduledQuantity slices := rfl

@[simp] theorem scheduledQuantity_append (l₁ l₂ : List ScheduledSlice) :
    scheduledQuantity (l₁ ++ l₂) = scheduledQuantity l₁ + scheduledQuantity l₂ := by
  simp [scheduledQuantity]

/-- The check of the start time that every scheduler makes first. -/
def checkStart (startTimeNs : ℤ) : Except Exc ℕ :=
  if startTimeNs < 0 then .error (invalidSchedule "start_time_ns must be non-negative int, got %" [.num startTimeNs])
  else .ok startTimeNs.toNat

@[simp] theorem checkStart_natCast (n : ℕ) : checkStart n = .ok n := by
  simp [checkStart]

/-- The check of the mass that a scheduler makes last. -/
def checkMass (text : String) (totalQuantity : ℚ) (slices : List ScheduledSlice) : Except Exc (List ScheduledSlice) :=
  if massConservationTolerance < |scheduledQuantity slices - totalQuantity| then
    .error (massConservation text [.num (scheduledQuantity slices), .num totalQuantity])
  else .ok slices

/-- Slices that come to the quantity pass the check. -/
theorem checkMass_ok {text : String} {totalQuantity : ℚ} {slices : List ScheduledSlice}
    (h : scheduledQuantity slices = totalQuantity) :
    checkMass text totalQuantity slices = .ok slices := by
  have htol : ¬ massConservationTolerance < 0 := by decide +kernel
  simp [checkMass, h, htol]

/-! ## Poisson TWAP -/

/-- The arguments of `PoissonTWAPScheduler.__init__`. -/
structure PoissonTWAPFields where
  totalQuantity : ℚ
  numSlices : ℤ
  meanIntervalSec : ℚ
  jitterRatio : ℚ := 15 / 100
  timeJitterRatio : ℚ := 20 / 100
  minIntervalSec : ℚ := 1 / 10
  seed : Option ℤ := none

/-- A `PoissonTWAPScheduler`. -/
structure PoissonTWAPScheduler where
  totalQuantity : ℚ
  numSlices : ℕ
  meanIntervalSec : ℚ
  jitterRatio : ℚ
  timeJitterRatio : ℚ
  minIntervalSec : ℚ
  seed : Option ℤ
  totalQuantity_pos : 0 < totalQuantity
  numSlices_pos : 1 ≤ numSlices
  reserve_le : numSlices * massConservationTolerance ≤ totalQuantity
  meanIntervalSec_pos : 0 < meanIntervalSec
  jitterRatio_range : 0 ≤ jitterRatio ∧ jitterRatio < 1
  timeJitterRatio_range : 0 ≤ timeJitterRatio ∧ timeJitterRatio < 1
  minIntervalSec_ge : 1 / 10 ^ 9 ≤ minIntervalSec

/-- `PoissonTWAPScheduler.__init__`. -/
def PoissonTWAPFields.create (f : PoissonTWAPFields) : Except Exc PoissonTWAPScheduler :=
  if h1 : f.totalQuantity ≤ 0 then
    .error (invalidSchedule "PoissonTWAPScheduler total_quantity must be finite float > 0.0, got %" [.num f.totalQuantity])
  else if h2 : f.numSlices < 1 then
    .error (invalidSchedule "PoissonTWAPScheduler num_slices must be integer >= 1, got %" [.num f.numSlices])
  else if h3 : f.totalQuantity < f.numSlices.toNat * massConservationTolerance then
    .error (invalidSchedule "PoissonTWAPScheduler total_quantity % is too small for % slices (minimum required is %)"
      [.num f.totalQuantity, .num f.numSlices, .num (f.numSlices.toNat * massConservationTolerance)])
  else if h4 : f.meanIntervalSec ≤ 0 then
    .error (invalidSchedule "PoissonTWAPScheduler mean_interval_sec must be finite float > 0.0, got %" [.num f.meanIntervalSec])
  else if h5 : ¬ (0 ≤ f.jitterRatio ∧ f.jitterRatio < 1) then
    .error (invalidSchedule "PoissonTWAPScheduler jitter_ratio must be finite float in [0.0, 1.0), got %" [.num f.jitterRatio])
  else if h6 : ¬ (0 ≤ f.timeJitterRatio ∧ f.timeJitterRatio < 1) then
    .error (invalidSchedule "PoissonTWAPScheduler time_jitter_ratio must be finite float in [0.0, 1.0), got %"
      [.num f.timeJitterRatio])
  else if h7 : f.minIntervalSec < 1 / 10 ^ 9 then
    .error (invalidSchedule "PoissonTWAPScheduler min_interval_sec must be finite float >= 1e-9 (1 ns), got %"
      [.num f.minIntervalSec])
  else .ok
    { f with
      numSlices := f.numSlices.toNat
      totalQuantity_pos := not_le.1 h1
      numSlices_pos := by omega
      reserve_le := not_lt.1 h3
      meanIntervalSec_pos := not_le.1 h4
      jitterRatio_range := not_not.1 h5
      timeJitterRatio_range := not_not.1 h6
      minIntervalSec_ge := not_lt.1 h7 }

namespace PoissonTWAPScheduler

/-- The values of the `uniform` calls of a generator, by number of the call and its bounds. -/
abbrev Draws := ℕ → ℚ → ℚ → ℚ

/-- The quantity of a slice: jittered, and clamped so that every later slice keeps its reserve. -/
def sliceQuantity (slicesRemaining : ℕ) (remQuantity deltaQ : ℚ) : ℚ :=
  let baseQ := remQuantity / slicesRemaining
  let minReserve := (slicesRemaining - 1) * massConservationTolerance
  max massConservationTolerance (min (remQuantity - minReserve) (baseQ * (1 + deltaQ)))

/-- The nanoseconds to the next slice. -/
def intervalNs (self : PoissonTWAPScheduler) (xiT : ℚ) : ℕ :=
  ⌊max self.minIntervalSec (self.meanIntervalSec * (1 + xiT)) * 1000000000⌋₊

/-- The loop over the next `n` slices before the last, from slice `k` on: the slices, and the quantity and the time it leaves.
Slice `k` makes the calls `2 * k` and `2 * k + 1` of the generator. -/
def slicingLoop (self : PoissonTWAPScheduler) (uniform : Draws) :
    (n k : ℕ) → (remQuantity : ℚ) → (currentTimeNs : ℕ) → Except Exc (List ScheduledSlice × ℚ × ℕ)
  | 0, _, remQuantity, currentTimeNs => .ok ([], remQuantity, currentTimeNs)
  | n + 1, k, remQuantity, currentTimeNs =>
    let qK := sliceQuantity (self.numSlices - k) remQuantity (uniform (2 * k) (-self.jitterRatio) self.jitterRatio)
    let xiT := uniform (2 * k + 1) (-self.timeJitterRatio) self.timeJitterRatio
    (ScheduledSliceFields.create ⟨k, qK, currentTimeNs, none⟩).bind fun slice =>
    (self.slicingLoop uniform n (k + 1) (remQuantity - qK) (currentTimeNs + self.intervalNs xiT)).bind fun (slices, left) =>
    .ok (slice :: slices, left)

/-- `generate_schedule`, with the generator that every seed gives. -/
def generateSchedule (self : PoissonTWAPScheduler) (random : Option ℤ → Draws) (startTimeNs : ℤ) :
    Except Exc (List ScheduledSlice) :=
  (checkStart startTimeNs).bind fun start =>
  if self.numSlices = 1 then
    (ScheduledSliceFields.create ⟨0, self.totalQuantity, start, none⟩).bind fun slice => .ok [slice]
  else
    (self.slicingLoop (random self.seed) (self.numSlices - 1) 0 self.totalQuantity start).bind
      fun (slices, qFinal, currentTimeNs) =>
    (ScheduledSliceFields.create ⟨(self.numSlices - 1 : ℕ), qFinal, currentTimeNs, none⟩).bind fun final =>
    checkMass "PoissonTWAPScheduler mass breach: scheduled=% != total=%" self.totalQuantity (slices ++ [final])

end PoissonTWAPScheduler

/-! ## Volume-adaptive VWAP -/

/-- The check of a list of volumes, element by element. -/
def checkVolumes (text : String) (volumes : List ℚ) : Except Exc Unit :=
  match volumes.findIdx? (· < 0) with
  | some i => .error (invalidSchedule text [.num i, .num (volumes.getD i 0)])
  | none => .ok ()

/-- Volumes that were accepted are not negative. -/
theorem nonneg_of_checkVolumes {text : String} {volumes : List ℚ} (h : checkVolumes text volumes = .ok ()) :
    ∀ v ∈ volumes, 0 ≤ v := by
  intro v hv
  unfold checkVolumes at h
  cases hfind : volumes.findIdx? (· < 0) with
  | some i => rw [hfind] at h; cases h
  | none => exact not_lt.1 fun hlt => by simpa [hlt] using List.findIdx?_eq_none_iff.1 hfind v hv

/-- The arguments of `VolumeAdaptiveVWAPScheduler.__init__`. -/
structure VolumeAdaptiveVWAPFields where
  totalQuantity : ℚ
  historicalVolumeCurve : List ℚ
  maxParticipationRate : ℚ := 15 / 100
  smoothingWeight : ℚ := 70 / 100
  intervalSec : ℚ := 60

/-- A `VolumeAdaptiveVWAPScheduler`. -/
structure VolumeAdaptiveVWAPScheduler where
  totalQuantity : ℚ
  weights : List ℚ
  maxParticipationRate : ℚ
  smoothingWeight : ℚ
  intervalSec : ℚ
  totalQuantity_pos : 0 < totalQuantity
  weights_nonneg : ∀ w ∈ weights, 0 ≤ w
  weights_sum : weights.sum = 1
  maxParticipationRate_range : 0 < maxParticipationRate ∧ maxParticipationRate ≤ 1
  smoothingWeight_range : 0 ≤ smoothingWeight ∧ smoothingWeight ≤ 1
  intervalSec_pos : 0 < intervalSec

/-- The curve over its sum is a distribution. -/
theorem normalized_curve {curve : List ℚ} (h : ∀ v ∈ curve, 0 ≤ v) (hsum : 0 < curve.sum) :
    (∀ w ∈ curve.map (· / curve.sum), 0 ≤ w) ∧ (curve.map (· / curve.sum)).sum = 1 := by
  refine ⟨?_, ?_⟩
  · intro w hw
    obtain ⟨v, hv, rfl⟩ := List.mem_map.1 hw
    exact div_nonneg (h v hv) hsum.le
  · simp only [div_eq_mul_inv]
    rw [List.sum_map_mul_right, List.map_id', mul_inv_cancel₀ hsum.ne']

/-- `VolumeAdaptiveVWAPScheduler.__init__`. -/
def VolumeAdaptiveVWAPFields.create (f : VolumeAdaptiveVWAPFields) : Except Exc VolumeAdaptiveVWAPScheduler :=
  let totalHist := f.historicalVolumeCurve.sum
  if h1 : f.totalQuantity ≤ 0 then
    .error (invalidSchedule "VolumeAdaptiveVWAPScheduler total_quantity must be finite float > 0.0, got %" [.num f.totalQuantity])
  else if f.historicalVolumeCurve.length < 1 then
    .error (invalidSchedule "historical_volume_curve must contain at least 1 interval element" [])
  else match h2 : checkVolumes "historical_volume_curve element at index % must be finite float >= 0.0, got %"
    f.historicalVolumeCurve with
  | .error exc => .error exc
  | .ok () =>
  if h3 : totalHist ≤ 0 then
    .error (invalidSchedule "historical_volume_curve cumulative sum must be strictly > 0.0, got %" [.num totalHist])
  else if h4 : ¬ (0 < f.maxParticipationRate ∧ f.maxParticipationRate ≤ 1) then
    .error (invalidSchedule "max_participation_rate must be finite float in (0.0, 1.0], got %" [.num f.maxParticipationRate])
  else if h5 : ¬ (0 ≤ f.smoothingWeight ∧ f.smoothingWeight ≤ 1) then
    .error (invalidSchedule "smoothing_weight must be finite float in [0.0, 1.0], got %" [.num f.smoothingWeight])
  else if h6 : f.intervalSec ≤ 0 then
    .error (invalidSchedule "interval_sec must be finite float > 0.0, got %" [.num f.intervalSec])
  else .ok
    { totalQuantity := f.totalQuantity
      weights := f.historicalVolumeCurve.map (· / totalHist)
      maxParticipationRate := f.maxParticipationRate
      smoothingWeight := f.smoothingWeight
      intervalSec := f.intervalSec
      totalQuantity_pos := not_le.1 h1
      weights_nonneg := (normalized_curve (nonneg_of_checkVolumes h2) (not_le.1 h3)).1
      weights_sum := (normalized_curve (nonneg_of_checkVolumes h2) (not_le.1 h3)).2
      maxParticipationRate_range := not_not.1 h4
      smoothingWeight_range := not_not.1 h5
      intervalSec_pos := not_le.1 h6 }

namespace VolumeAdaptiveVWAPScheduler

/-- `int(self.interval_sec * 1_000_000_000)`. -/
def intervalNs (self : VolumeAdaptiveVWAPScheduler) : ℕ := ⌊self.intervalSec * 1000000000⌋₊

/-- The loop of the static profile over the bars from bar `k` on, `i` slices made: the slices, and the quantity that is left. -/
def profileLoop (self : VolumeAdaptiveVWAPScheduler) (start : ℕ) :
    (k i : ℕ) → (remQuantity : ℚ) → List ℚ → Except Exc (List ScheduledSlice × ℚ)
  | _, _, remQuantity, [] => .ok ([], remQuantity)
  | k, i, remQuantity, w :: ws =>
    let qK := self.totalQuantity * w
    if 0 < qK then
      (ScheduledSliceFields.create ⟨i, qK, (start + k * self.intervalNs : ℕ), none⟩).bind fun slice =>
      (self.profileLoop start (k + 1) (i + 1) (remQuantity - qK) ws).bind fun (slices, left) =>
      .ok (slice :: slices, left)
    else self.profileLoop start (k + 1) i remQuantity ws

/-- The slice that takes what is left of the quantity. -/
def residualSlice (self : VolumeAdaptiveVWAPScheduler) (start i : ℕ) (remQuantity : ℚ) : Except Exc (List ScheduledSlice) :=
  if 0 < remQuantity then
    (ScheduledSliceFields.create ⟨i, remQuantity, (start + (self.weights.length - 1) * self.intervalNs : ℕ),
      none⟩).bind fun slice =>
    .ok [slice]
  else .ok []

/-- Path A of `generate_schedule`: the static profile. -/
def staticSchedule (self : VolumeAdaptiveVWAPScheduler) (start : ℕ) : Except Exc (List ScheduledSlice) :=
  (self.profileLoop start 0 0 self.totalQuantity self.weights.dropLast).bind fun (slices, remQuantity) =>
  (self.residualSlice start slices.length remQuantity).bind fun final =>
  if slices ++ final = [] then
    .error (invalidSchedule "VolumeAdaptiveVWAPScheduler produced empty schedule: all weights evaluate to zero" [])
  else
    checkMass "VolumeAdaptiveVWAPScheduler unconstrained mass breach: scheduled=% != total=%" self.totalQuantity (slices ++ final)

/-- The check of a sequence of bar volumes: one for each bar, none of them negative. -/
def checkBarVolumes (self : VolumeAdaptiveVWAPScheduler) (lengthText text : String) (volumes : List ℚ) : Except Exc Unit :=
  if volumes.length ≠ self.weights.length then
    .error (invalidSchedule lengthText [.num volumes.length, .num self.weights.length])
  else checkVolumes text volumes

/-- The volume of each bar, the expected ones blended with the realtime estimates when there are any. -/
def barVolumes (self : VolumeAdaptiveVWAPScheduler) (expected : List ℚ) (realtime : Option (List ℚ)) : Except Exc (List ℚ) :=
  let omega := self.smoothingWeight
  (self.checkBarVolumes "expected_bar_volumes length % != historical curve length %"
    "expected_bar_volumes at index % must be finite float >= 0.0, got %" expected).bind fun () =>
  match realtime with
  | none => .ok expected
  | some estimates =>
    (self.checkBarVolumes "realtime_volume_estimates length % != historical curve length %"
      "realtime_volume_estimates at index % must be finite float >= 0.0, got %" estimates).bind fun () =>
    .ok (List.zipWith (fun vExp vRt => omega * vExp + (1 - omega) * vRt) expected estimates)

/-- The loop of the capped path over the bars from bar `k` on, each with its weight and its volume, `i` slices made. -/
def cappedLoop (self : VolumeAdaptiveVWAPScheduler) (start : ℕ) :
    (k i : ℕ) → (remQuantity : ℚ) → (weights volumes : List ℚ) → Except Exc (List ScheduledSlice)
  | k, i, remQuantity, w :: ws, vHat :: vs =>
    let remainingWeight := (w :: ws).sum
    let qK := min (remQuantity * (w / remainingWeight)) (self.maxParticipationRate * vHat)
    if 0 < remainingWeight ∧ 0 < remQuantity ∧ 0 < qK then
      (ScheduledSliceFields.create ⟨i, qK, (start + k * self.intervalNs : ℕ), none⟩).bind fun slice =>
      (self.cappedLoop start (k + 1) (i + 1) (remQuantity - qK) ws vs).bind fun slices =>
      .ok (slice :: slices)
    else self.cappedLoop start (k + 1) i remQuantity ws vs
  | _, _, _, _, _ => .ok []

/-- Path B of `generate_schedule`: blended volumes and the participation cap. -/
def cappedSchedule (self : VolumeAdaptiveVWAPScheduler) (start : ℕ) (volumes : List ℚ) : Except Exc (List ScheduledSlice) :=
  (self.cappedLoop start 0 0 self.totalQuantity self.weights volumes).bind fun slices =>
  if slices = [] then
    .error ⟨.insufficientLiquidity,
      "VolumeAdaptiveVWAPScheduler unable to schedule child slices: zero market volume forecasted across all % intervals",
      [.num self.weights.length]⟩
  else .ok slices

/-- `generate_schedule`. -/
def generateSchedule (self : VolumeAdaptiveVWAPScheduler) (startTimeNs : ℤ)
    (expectedBarVolumes realtimeVolumeEstimates : Option (List ℚ)) :
    Except Exc (List ScheduledSlice) :=
  (checkStart startTimeNs).bind fun start =>
  match expectedBarVolumes with
  | none => self.staticSchedule start
  | some expected => (self.barVolumes expected realtimeVolumeEstimates).bind (self.cappedSchedule start)

end VolumeAdaptiveVWAPScheduler

/-! ## Non-linear arrival price -/

/-- The functions of `math` that the closed form uses. -/
structure ImpactMath where
  sinh : ℚ → ℚ
  exp : ℚ → ℚ
  sqrt : ℚ → ℚ

/-- The arguments of `NonlinearArrivalPriceScheduler.__init__`. -/
structure NonlinearArrivalPriceFields where
  totalQuantity : ℚ
  horizonSeconds : ℚ
  volatility : ℚ
  riskAversion : ℚ
  impactCoefficient : ℚ
  numIntervals : ℤ
  baselineVolatility : Option ℚ := none

/-- A `NonlinearArrivalPriceScheduler`. -/
structure NonlinearArrivalPriceScheduler where
  totalQuantity : ℚ
  horizonSeconds : ℚ
  volatility : ℚ
  riskAversion : ℚ
  impactCoefficient : ℚ
  numIntervals : ℕ
  baselineVolatility : Option ℚ
  totalQuantity_pos : 0 < totalQuantity
  horizonSeconds_pos : 0 < horizonSeconds
  volatility_pos : 0 < volatility
  riskAversion_pos : 0 < riskAversion
  impactCoefficient_pos : 0 < impactCoefficient
  numIntervals_pos : 1 ≤ numIntervals
  baselineVolatility_pos : ∀ v ∈ baselineVolatility, 0 < v

/-- `NonlinearArrivalPriceScheduler.__init__`. -/
def NonlinearArrivalPriceFields.create (f : NonlinearArrivalPriceFields) : Except Exc NonlinearArrivalPriceScheduler :=
  if h1 : f.totalQuantity ≤ 0 then
    .error (invalidSchedule "NonlinearArrivalPriceScheduler total_quantity must be finite float > 0.0, got %"
      [.num f.totalQuantity])
  else if h2 : f.horizonSeconds ≤ 0 then
    .error (invalidSchedule "NonlinearArrivalPriceScheduler horizon_seconds must be finite float > 0.0, got %"
      [.num f.horizonSeconds])
  else if h3 : f.volatility ≤ 0 then
    .error (invalidSchedule "NonlinearArrivalPriceScheduler volatility must be finite float > 0.0, got %" [.num f.volatility])
  else if h4 : f.riskAversion ≤ 0 then
    .error (invalidSchedule "NonlinearArrivalPriceScheduler risk_aversion must be finite float > 0.0, got %"
      [.num f.riskAversion])
  else if h5 : f.impactCoefficient ≤ 0 then
    .error (invalidSchedule "NonlinearArrivalPriceScheduler impact_coefficient must be finite float > 0.0, got %"
      [.num f.impactCoefficient])
  else if h6 : f.numIntervals < 1 then
    .error (invalidSchedule "NonlinearArrivalPriceScheduler num_intervals must be integer >= 1, got %" [.num f.numIntervals])
  else if h7 : ∃ v ∈ f.baselineVolatility, v ≤ 0 then
    .error (invalidSchedule "NonlinearArrivalPriceScheduler baseline_volatility must be finite float > 0.0 if provided, got %"
      [.num (f.baselineVolatility.getD 0)])
  else .ok
    { f with
      numIntervals := f.numIntervals.toNat
      totalQuantity_pos := not_le.1 h1
      horizonSeconds_pos := not_le.1 h2
      volatility_pos := not_le.1 h3
      riskAversion_pos := not_le.1 h4
      impactCoefficient_pos := not_le.1 h5
      numIntervals_pos := by omega
      baselineVolatility_pos := fun v hv => not_le.1 fun hle => h7 ⟨v, hv, hle⟩ }

/-- `slices[-1].quantity += rem_quantity`. -/
def absorbResidual (remQuantity : ℚ) (slices : List ScheduledSlice) : List ScheduledSlice :=
  if h : 0 < remQuantity then
    slices.dropLast ++ slices.getLast?.toList.map fun s =>
      { s with quantity := s.quantity + remQuantity, quantity_pos := add_pos s.quantity_pos h }
  else slices

namespace NonlinearArrivalPriceScheduler

/-- `self.kappa`, as the constructor computes it. -/
def kappa (self : NonlinearArrivalPriceScheduler) (M : ImpactMath) : ℚ :=
  let kappa0 := M.sqrt (self.riskAversion * self.volatility ^ 2 / self.impactCoefficient)
  self.baselineVolatility.elim kappa0 fun baseline => kappa0 * (self.volatility / baseline)

/-- `x_j`, the inventory that the closed form gives at the end of interval `j`. -/
def closedForm (self : NonlinearArrivalPriceScheduler) (M : ImpactMath) (j : ℕ) : Except Exc ℚ :=
  let kappa := self.kappa M
  let kappaT := kappa * self.horizonSeconds
  let tJ := j * self.horizonSeconds / self.numIntervals
  let tau := self.horizonSeconds - tJ
  if kappaT < 1 / 10 ^ 6 then .ok (self.totalQuantity * (tau / self.horizonSeconds))
  else if 50 < kappaT then
    let expDecay := M.exp (-kappa * tJ)
    let num := 1 - M.exp (-2 * kappa * tau)
    let denom := 1 - M.exp (-2 * kappaT)
    if denom = 0 then .error ⟨.zeroDivisionError, "float division by zero", []⟩
    else .ok (self.totalQuantity * expDecay * (num / denom))
  else if M.sinh kappaT = 0 then .error ⟨.zeroDivisionError, "float division by zero", []⟩
  else .ok (self.totalQuantity * (M.sinh (kappa * tau) / M.sinh kappaT))

/-- The entries of the trajectory after `prev`, the next of the `n` interior ones being number `j`. -/
def trajectoryFrom (self : NonlinearArrivalPriceScheduler) (M : ImpactMath) : (prev : ℚ) → (j n : ℕ) → Except Exc (List ℚ)
  | _, _, 0 => .ok [0]
  | prev, j, n + 1 =>
    (self.closedForm M j).bind fun xJ =>
    (self.trajectoryFrom M (max 0 (min prev xJ)) (j + 1) n).bind fun rest =>
    .ok (max 0 (min prev xJ) :: rest)

/-- `compute_inventory_trajectory`. -/
def computeInventoryTrajectory (self : NonlinearArrivalPriceScheduler) (M : ImpactMath) : Except Exc (List ℚ) :=
  (self.trajectoryFrom M self.totalQuantity 1 (self.numIntervals - 1)).bind fun rest => .ok (self.totalQuantity :: rest)

/-- The time of the slice of interval `j`, after a slice at `lastTimestampNs` when that is not `-1`. -/
def sliceTimeNs (self : NonlinearArrivalPriceScheduler) (start j : ℕ) (lastTimestampNs : ℤ) : ℤ :=
  let dtNs := self.horizonSeconds / self.numIntervals * 1000000000
  let rawTNs : ℤ := start + ⌊(j - 1 : ℕ) * dtNs⌋
  if 0 ≤ lastTimestampNs then max (lastTimestampNs + 1) rawTNs else rawTNs

/-- The loop over the intervals from interval `j` on, from inventory `prev` to the inventories that follow, `i` slices made: the
slices, and the quantity that is left. -/
def dischargeLoop (self : NonlinearArrivalPriceScheduler) (start : ℕ) : (j i : ℕ) → (remQuantity : ℚ) → (lastTimestampNs : ℤ) →
    (prev : ℚ) → List ℚ → Except Exc (List ScheduledSlice × ℚ)
  | _, _, remQuantity, _, _, [] => .ok ([], remQuantity)
  | j, i, remQuantity, lastTimestampNs, prev, x :: xs =>
    if remQuantity ≤ 0 then .ok ([], remQuantity)
    else
      let qJ := if j = self.numIntervals ∨ remQuantity ≤ prev - x then remQuantity else prev - x
      if qJ ≤ 0 then self.dischargeLoop start (j + 1) i remQuantity lastTimestampNs x xs
      else
        let tSliceNs := self.sliceTimeNs start j lastTimestampNs
        (ScheduledSliceFields.create ⟨i, qJ, tSliceNs, none⟩).bind fun slice =>
        (self.dischargeLoop start (j + 1) (i + 1) (remQuantity - qJ) tSliceNs x xs).bind fun (slices, left) =>
        .ok (slice :: slices, left)

/-- `generate_schedule`. -/
def generateSchedule (self : NonlinearArrivalPriceScheduler) (M : ImpactMath) (startTimeNs : ℤ) :
    Except Exc (List ScheduledSlice) :=
  (checkStart startTimeNs).bind fun start =>
  (self.computeInventoryTrajectory M).bind fun trajectory =>
  (self.dischargeLoop start 1 0 self.totalQuantity (-1) (trajectory.headD 0) trajectory.tail).bind fun (slices, remQuantity) =>
  checkMass "NonlinearArrivalPriceScheduler mass breach: scheduled=% != total=%" self.totalQuantity
    (absorbResidual remQuantity slices)

end NonlinearArrivalPriceScheduler
end Quant
