import Mathlib.Data.Rat.Floor
import Quant.Execution.Sor

/-!
# The watchdog of the router

`VenueHealth.record_fill`, `SmartOrderRouter.record_fill_markout` and `SmartOrderRouter.get_venue_health` of `execution/sor.py`:
the markout of each fill is recorded, and a streak of toxic ones puts the venue in quarantine. The timestamps are those of a clock
in nanoseconds.
-/

namespace Quant

open Pylib

/-! ## The health of a venue, with its fills -/

/-- The whole of a venue's health: beside the part that routing reads, the number of its fills and the sum of their markouts. -/
structure VenueRecord extends VenueHealth where
  totalFills : ℕ := 0
  cumulativeMarkoutBps : ℚ := 0
  deriving DecidableEq

namespace VenueRecord

/-- `is_active`. -/
def isActive (h : VenueRecord) (nowNs : ℕ) : Bool × VenueRecord :=
  ((h.toVenueHealth.isActive nowNs).1, { h with toVenueHealth := (h.toVenueHealth.isActive nowNs).2 })

/-- The check for auto-recovery at the head of `record_fill`. -/
def recovered (h : VenueRecord) (nowNs : ℕ) : VenueRecord :=
  if h.isQuarantined ∧ 0 < h.quarantineUntilNs ∧ h.quarantineUntilNs ≤ nowNs then
    { h with isQuarantined := false, consecutiveToxicFills := 0 }
  else h

/-- One more fill, and one more toxic one in the streak: from the limit on the venue is in quarantine. -/
def countToxic (h : VenueRecord) (nowNs toxicLimit quarantineDurationNs : ℕ) : VenueRecord :=
  if toxicLimit ≤ h.consecutiveToxicFills + 1 then
    { h with
      consecutiveToxicFills := h.consecutiveToxicFills + 1
      isQuarantined := true
      quarantineUntilNs := max h.quarantineUntilNs (nowNs + quarantineDurationNs) }
  else { h with consecutiveToxicFills := h.consecutiveToxicFills + 1 }

/-- `record_fill` after its checks. -/
def addFill (h : VenueRecord) (markoutBps : ℚ) (nowNs : ℕ) (toxicThresholdBps : ℚ) (toxicLimit quarantineDurationNs : ℕ) :
    VenueRecord :=
  let r := h.recovered nowNs
  let r := { r with totalFills := r.totalFills + 1, cumulativeMarkoutBps := r.cumulativeMarkoutBps + markoutBps }
  if markoutBps < toxicThresholdBps then r.countToxic nowNs toxicLimit quarantineDurationNs
  else { r with consecutiveToxicFills := 0 }

/-- `record_fill`. -/
def recordFill (h : VenueRecord) (markoutBps : ℚ) (nowNs : ℤ) (toxicThresholdBps : ℚ) (toxicLimit quarantineDurationNs : ℤ) :
    Except Exc VenueRecord :=
  if nowNs < 0 then .error (invalidSORInput "VenueHealth record_fill now_ns must be non-negative int, got %" [.num nowNs])
  else if toxicLimit < 1 then
    .error (invalidSORInput "VenueHealth record_fill toxic_limit must be int >= 1, got %" [.num toxicLimit])
  else if quarantineDurationNs < 0 then
    .error (invalidSORInput "VenueHealth record_fill quarantine_duration_ns must be non-negative int, got %"
      [.num quarantineDurationNs])
  else .ok (h.addFill markoutBps nowNs.toNat toxicThresholdBps toxicLimit.toNat quarantineDurationNs.toNat)

end VenueRecord

/-! ## The router -/

/-- The parameters of the watchdog, with the defaults of the constructor. -/
structure WatchdogFields where
  toxicMarkoutThresholdBps : ℚ := -2
  toxicFillLimit : ℤ := 3
  quarantineDurationSec : ℚ := 60
  deriving DecidableEq

/-- Parameters the constructor accepted. -/
structure Watchdog extends WatchdogFields where
  one_le_toxicFillLimit : 1 ≤ toxicFillLimit
  quarantineDurationSec_nonneg : 0 ≤ quarantineDurationSec

/-- `SmartOrderRouter.__init__`: the checks on the parameters of the watchdog. -/
def WatchdogFields.create (w : WatchdogFields) : Except Exc Watchdog :=
  if h1 : w.toxicFillLimit < 1 then .error (invalidSORInput "toxic_fill_limit must be int >= 1, got %" [.num w.toxicFillLimit])
  else if h2 : w.quarantineDurationSec < 0 then
    .error (invalidSORInput "quarantine_duration_sec must be finite float >= 0.0, got %" [.num w.quarantineDurationSec])
  else .ok { w with one_le_toxicFillLimit := not_lt.1 h1, quarantineDurationSec_nonneg := not_lt.1 h2 }

namespace Watchdog

/-- The duration in nanoseconds: `int` cuts off what is less than one. -/
def quarantineDurationNs (w : Watchdog) : ℤ := ⌊w.quarantineDurationSec * 1000000000⌋

theorem quarantineDurationNs_nonneg (w : Watchdog) : 0 ≤ w.quarantineDurationNs :=
  Int.floor_nonneg.2 (mul_nonneg w.quarantineDurationSec_nonneg (by norm_num))

end Watchdog

/-- The router as its watchdog sees it: the parameters, and the health of each venue under its key. -/
structure WatchedRouter where
  watchdog : Watchdog
  venueHealth : Dict String VenueRecord
  venues_key_ne : ∀ k ∈ venueHealth.keys, strip k ≠ ""

namespace WatchedRouter

/-- A new router: every venue is healthy. -/
def ofKeys (w : Watchdog) (venues : Dict String VenueProfile) (h : ∀ k ∈ venues.keys, strip k ≠ "") : WatchedRouter :=
  { watchdog := w
    venueHealth := venues.map (fun k _ => { venueId := k })
    venues_key_ne := fun k hk => h k (by
      rw [Dict.mem_keys_iff, Dict.contains_map] at hk
      rwa [Dict.mem_keys_iff]) }

/-- Change the health of a venue the router has. -/
def setHealth (r : WatchedRouter) (k : String) (h : VenueRecord) : WatchedRouter :=
  if hk : r.venueHealth.contains k = true then
    { r with
      venueHealth := r.venueHealth.set k h
      venues_key_ne := fun k' hk' => r.venues_key_ne k' (by
        rw [Dict.mem_keys_iff, Dict.contains_set] at hk'
        rw [Dict.mem_keys_iff]
        exact hk'.elim (fun he => he ▸ hk) id) }
  else r

/-- The markout of a fill in basis points. -/
def markoutBps (side : OrderSide) (fillPrice postFillMidpoint : ℚ) : ℚ :=
  match side with
  | .buy => (postFillMidpoint - fillPrice) / fillPrice * 10000
  | .sell => (fillPrice - postFillMidpoint) / fillPrice * 10000

/-- The checks of `record_fill_markout` on its prices and its timestamp. -/
def markoutFault (fillPrice postFillMidpoint : ℚ) (timestampNs : ℤ) : Option Exc :=
  if fillPrice ≤ 0 then some (invalidSORInput "fill_price must be finite float > 0.0, got %" [.num fillPrice])
  else if postFillMidpoint ≤ 0 then
    some (invalidSORInput "post_fill_midpoint must be finite float > 0.0, got %" [.num postFillMidpoint])
  else if timestampNs < 0 then some (invalidSORInput "timestamp_ns must be non-negative int, got %" [.num timestampNs])
  else none

/-- `record_fill` on the health of a venue, with the parameters of the router. -/
def recordFill (r : WatchedRouter) (venueId : String) (markoutBps : ℚ) (nowNs : ℤ) : Except Exc WatchedRouter :=
  match r.venueHealth.get? venueId with
  | none => .error ⟨.keyError, "%", [.str venueId]⟩
  | some h =>
    match h.recordFill markoutBps nowNs r.watchdog.toxicMarkoutThresholdBps r.watchdog.toxicFillLimit
        r.watchdog.quarantineDurationNs with
    | .error exc => .error exc
    | .ok h' => .ok (r.setHealth venueId h')

/-- `record_fill_markout`. -/
def recordFillMarkout (r : WatchedRouter) (venueId : String) (side : OrderSide) (fillPrice postFillMidpoint : ℚ)
    (timestampNs : ℤ) : Except Exc WatchedRouter :=
  if strip venueId = "" then .error (invalidSORInput "venue_id must be non-empty str, got %" [.str venueId])
  else if r.venueHealth.contains venueId = false then
    .error (invalidSORInput "Unrecognized venue_id % not in configured venues" [.str venueId])
  else
    match markoutFault fillPrice postFillMidpoint timestampNs with
    | some exc => .error exc
    | none => r.recordFill venueId (markoutBps side fillPrice postFillMidpoint) timestampNs

/-- `is_active` of the health of a venue. -/
def isActive (r : WatchedRouter) (venueId : String) (nowNs : ℕ) : Except Exc (Bool × WatchedRouter) :=
  match r.venueHealth.get? venueId with
  | none => .error ⟨.keyError, "%", [.str venueId]⟩
  | some h => .ok ((h.isActive nowNs).1, r.setHealth venueId (h.isActive nowNs).2)

/-- `get_venue_health`: the health after the check for auto-recovery. -/
def getVenueHealth (r : WatchedRouter) (venueId : String) (nowNs : ℕ) : Except Exc (VenueRecord × WatchedRouter) :=
  match r.venueHealth.get? venueId with
  | none => .error (invalidSORInput "Venue % not found in router health registry" [.str venueId])
  | some h => .ok ((h.isActive nowNs).2, r.setHealth venueId (h.isActive nowNs).2)

/-! ## Calls -/

/-- A call that concerns the health of a venue. -/
inductive HealthCall where
  | recordFill (venueId : String) (markoutBps : ℚ) (nowNs : ℕ)
  | recordFillMarkout (venueId : String) (side : OrderSide) (fillPrice postFillMidpoint : ℚ) (timestampNs : ℕ)
  | isActive (venueId : String) (nowNs : ℕ)
  | getVenueHealth (venueId : String) (nowNs : ℕ)

/-- The instant of a call. -/
def HealthCall.time : HealthCall → ℕ
  | .recordFill _ _ t => t
  | .recordFillMarkout _ _ _ _ t => t
  | .isActive _ t => t
  | .getVenueHealth _ t => t

/-- The router after a call: one that raises changes nothing. -/
def call (r : WatchedRouter) : HealthCall → WatchedRouter
  | .recordFill vid m t => (r.recordFill vid m t).toOption.getD r
  | .recordFillMarkout vid side p q t => (r.recordFillMarkout vid side p q t).toOption.getD r
  | .isActive vid t => ((r.isActive vid t).toOption.map Prod.snd).getD r
  | .getVenueHealth vid t => ((r.getVenueHealth vid t).toOption.map Prod.snd).getD r

end WatchedRouter

end Quant
