import Quant.Execution.VenueHealth
import Quant.Theorems.SliceMass

/-!
# Quarantine as a union of windows

A fill that completes a streak of toxic ones opens a window of the duration of a quarantine, and the venue is in quarantine as
long as one of the windows is open. The windows are a matter of the fills alone; the watchdog finds out that they are over when it
is asked, or at the next fill.
-/

namespace Quant

open Pylib

/-! ## Streaks and windows -/

/-- A fill: its instant, and whether its markout is below the threshold. -/
structure Fill where
  time : ℕ
  toxic : Bool
  deriving DecidableEq

namespace Quarantine

section Windows

variable (limit duration : ℕ)

/-- Of some fills with their streaks, one has completed a streak of the limit and its window is open. -/
def InWindow (ws : List (Fill × ℕ)) (t : ℕ) : Prop := ∃ p ∈ ws, limit ≤ p.2 ∧ t < p.1.time + duration

/-- A quarantine was in force right after the latest fill. -/
def OpenAtLatest : List (Fill × ℕ) → Prop
  | [] => False
  | p :: ws => InWindow limit duration (p :: ws) p.1.time

/-- A quarantine was in force right after the latest fill, and is over. -/
def Expired (ws : List (Fill × ℕ)) (t : ℕ) : Prop := OpenAtLatest limit duration ws ∧ ¬ InWindow limit duration ws t

instance (ws : List (Fill × ℕ)) (t : ℕ) : Decidable (InWindow limit duration ws t) :=
  inferInstanceAs (Decidable (∃ p ∈ ws, limit ≤ p.2 ∧ t < p.1.time + duration))

instance : (ws : List (Fill × ℕ)) → Decidable (OpenAtLatest limit duration ws)
  | [] => .isFalse id
  | p :: ws => inferInstanceAs (Decidable (InWindow limit duration (p :: ws) p.1.time))

instance (ws : List (Fill × ℕ)) (t : ℕ) : Decidable (Expired limit duration ws t) :=
  inferInstanceAs (Decidable (OpenAtLatest limit duration ws ∧ ¬ InWindow limit duration ws t))

/-- The streak of the latest fill. -/
def latestStreak : List (Fill × ℕ) → ℕ
  | [] => 0
  | p :: _ => p.2

/-- The streak a toxic fill goes on with: that of the fill before it, unless a quarantine expired since. -/
def streakBefore (ws : List (Fill × ℕ)) (t : ℕ) : ℕ := if Expired limit duration ws t then 0 else latestStreak ws

/-- Each fill with its streak, the latest first: the toxic fills that end with it, since the last one that was not toxic and since
a quarantine last expired. -/
def streaks : List Fill → List (Fill × ℕ)
  | [] => []
  | f :: earlier =>
    (f, if f.toxic then streakBefore limit duration (streaks earlier) f.time + 1 else 0) :: streaks earlier

end Windows

section Lemmas

variable {limit duration : ℕ} {ws : List (Fill × ℕ)} {t : ℕ}

theorem inWindow_cons (p : Fill × ℕ) : InWindow limit duration (p :: ws) t ↔
    limit ≤ p.2 ∧ t < p.1.time + duration ∨ InWindow limit duration ws t := by
  simp [InWindow]

/-- Right after a fill nothing has expired. -/
theorem not_expired_cons (f : Fill) (n : ℕ) : ¬ Expired limit duration ((f, n) :: ws) f.time :=
  fun h => h.2 h.1

theorem streakBefore_of_inWindow (h : InWindow limit duration ws t) : streakBefore limit duration ws t = latestStreak ws :=
  if_neg fun he => he.2 h

/-- Once all windows are closed they stay closed, so the streak to go on with stays what it is. -/
theorem streakBefore_of_le {t' : ℕ} (h : ¬ InWindow limit duration ws t) (hle : t ≤ t') :
    streakBefore limit duration ws t' = streakBefore limit duration ws t := by
  have h' : ¬ InWindow limit duration ws t' := fun ⟨p, hp, hlimit, hlt⟩ => h ⟨p, hp, hlimit, hle.trans_lt hlt⟩
  exact if_congr (and_congr_right fun _ => iff_of_true h' h) rfl rfl

/-- With a duration of zero no window is ever open for what comes no earlier than the fills. -/
theorem not_inWindow_zero (h : ∀ p ∈ ws, p.1.time ≤ t) : ¬ InWindow limit 0 ws t := by
  rintro ⟨p, hp, -, hlt⟩
  exact absurd (h p hp) (not_le.2 hlt)

end Lemmas

/-! ## What the health of a venue keeps track of -/

/-- The health of a venue after some fills, at an instant: it knows when the last window closes; in quarantine the streak goes on,
and out of it the last window is closed. -/
structure Tracks (limit duration : ℕ) (h : VenueHealth) (ws : List (Fill × ℕ)) (t : ℕ) : Prop where
  until_iff : ∀ t', t' < h.quarantineUntilNs ↔ InWindow limit duration ws t'
  held : h.isQuarantined = true → OpenAtLatest limit duration ws ∧ h.consecutiveToxicFills = latestStreak ws
  free : h.isQuarantined = false → h.quarantineUntilNs ≤ t ∧ h.consecutiveToxicFills = streakBefore limit duration ws t

section Tracks

variable {limit duration : ℕ} {h : VenueHealth} {ws : List (Fill × ℕ)} {t t' : ℕ}

theorem Tracks.until_pos (hT : Tracks limit duration h ws t) (hq : h.isQuarantined = true) : 0 < h.quarantineUntilNs := by
  have hopen := (hT.held hq).1
  cases ws with
  | nil => exact hopen.elim
  | cons p ws => exact Nat.zero_lt_of_lt ((hT.until_iff _).2 hopen)

/-- Time passes. -/
theorem Tracks.later (hT : Tracks limit duration h ws t) (hle : t ≤ t') : Tracks limit duration h ws t' := by
  refine ⟨hT.until_iff, hT.held, fun hfree => ?_⟩
  obtain ⟨huntil, hstreak⟩ := hT.free hfree
  have hclosed : ¬ InWindow limit duration ws t := (hT.until_iff t).not.1 (not_lt.2 huntil)
  exact ⟨huntil.trans hle, hstreak.trans (streakBefore_of_le hclosed hle).symm⟩

/-- A question is answered by the windows. -/
theorem Tracks.isActive_iff (hT : Tracks limit duration h ws t) (hle : t ≤ t') :
    (h.isActive t').1 = false ↔ InWindow limit duration ws t' := by
  rw [← hT.until_iff]
  unfold VenueHealth.isActive
  cases hq : h.isQuarantined with
  | false =>
    have huntil := (hT.free hq).1
    simp only [Bool.false_eq_true, if_false, Bool.true_eq_false, false_iff, not_lt]
    exact huntil.trans hle
  | true =>
    have hpos := hT.until_pos hq
    simp only [if_true, hpos, true_and]
    split
    · rename_i hover
      simpa using hover
    · rename_i hover
      simpa using hover

/-- A question lifts the quarantine when the last window has closed, and keeps track. -/
theorem Tracks.isActive (hT : Tracks limit duration h ws t) (hle : t ≤ t') : Tracks limit duration (h.isActive t').2 ws t' := by
  unfold VenueHealth.isActive
  split
  · rename_i hq
    split
    · rename_i hover
      have hclosed : ¬ InWindow limit duration ws t' := (hT.until_iff t').not.1 (not_lt.2 hover.2)
      exact ⟨hT.until_iff, fun hheld => Bool.noConfusion hheld, fun _ => ⟨hover.2, (if_pos ⟨(hT.held hq).1, hclosed⟩).symm⟩⟩
    · exact hT.later hle
  · exact hT.later hle

/-- After the check for auto-recovery a quarantine that is still in force has an open window, and the streak is the one to go on
with. -/
theorem Tracks.recovered {r : VenueRecord} (hT : Tracks limit duration r.toVenueHealth ws t) (hle : t ≤ t') :
    Tracks limit duration (r.recovered t').toVenueHealth ws t' ∧
      ((r.recovered t').isQuarantined = true → InWindow limit duration ws t') ∧
      (r.recovered t').consecutiveToxicFills = streakBefore limit duration ws t' := by
  have hsame : (r.recovered t').toVenueHealth = (r.toVenueHealth.isActive t').2 := by
    unfold VenueRecord.recovered VenueHealth.isActive
    split_ifs <;> simp_all
  have hT' := hT.isActive hle
  have hopen : (r.toVenueHealth.isActive t').2.isQuarantined = true → InWindow limit duration ws t' := by
    intro hq
    rw [← hT.isActive_iff hle]
    unfold VenueHealth.isActive at hq ⊢
    split_ifs at hq ⊢ <;> simp_all
  rw [hsame]
  refine ⟨hT', hopen, ?_⟩
  cases hq : (r.toVenueHealth.isActive t').2.isQuarantined with
  | false => exact (hT'.free hq).2
  | true => rw [(hT'.held hq).2, streakBefore_of_inWindow (hopen hq)]

/-- A fill whose streak is short of the limit opens no window. -/
theorem Tracks.cons_short (hT : Tracks limit duration h ws t) (hopen : h.isQuarantined = true → InWindow limit duration ws t)
    {f : Fill} (hf : f.time = t) {n : ℕ} (hn : n < limit) :
    Tracks limit duration { h with consecutiveToxicFills := n } ((f, n) :: ws) t := by
  subst hf
  have hwindow : ∀ t', InWindow limit duration ((f, n) :: ws) t' ↔ InWindow limit duration ws t' := fun t' => by
    rw [inWindow_cons, or_iff_right (fun hc => absurd hc.1 (not_le.2 hn))]
  refine ⟨fun t' => (hT.until_iff t').trans (hwindow t').symm, fun hq => ⟨(hwindow f.time).2 (hopen hq), rfl⟩, fun hq => ?_⟩
  exact ⟨(hT.free hq).1, (if_neg (not_expired_cons f n)).symm⟩

/-- A fill that completes a streak opens a window, and it closes last. -/
theorem Tracks.cons_window (hT : Tracks limit duration h ws t) (hduration : 0 < duration) {f : Fill} (hf : f.time = t) {n : ℕ}
    (hn : limit ≤ n) : Tracks limit duration
      { h with
        consecutiveToxicFills := n
        isQuarantined := true
        quarantineUntilNs := max h.quarantineUntilNs (t + duration) } ((f, n) :: ws) t := by
  subst hf
  refine ⟨fun t' => ?_, fun _ => ⟨?_, rfl⟩, fun hq => Bool.noConfusion hq⟩
  · rw [inWindow_cons, lt_max_iff, hT.until_iff, and_iff_right hn]
    exact or_comm
  · exact (inWindow_cons (f, n)).2 (.inl ⟨hn, Nat.lt_add_of_pos_right hduration⟩)

/-- A fill keeps track: it is listed with its streak. -/
theorem Tracks.addFill {r : VenueRecord} (hlimit : 1 ≤ limit) (hduration : 0 < duration)
    (hT : Tracks limit duration r.toVenueHealth ws t) (hle : t ≤ t') (markout threshold : ℚ) :
    Tracks limit duration (r.addFill markout t' threshold limit duration).toVenueHealth
      (({ time := t', toxic := decide (markout < threshold) },
        if decide (markout < threshold) then streakBefore limit duration ws t' + 1 else 0) :: ws) t' := by
  obtain ⟨hT', hopen, hstreak⟩ := hT.recovered hle
  by_cases htoxic : markout < threshold
  · simp only [VenueRecord.addFill, VenueRecord.countToxic, htoxic, if_true, decide_true, hstreak]
    split
    · rename_i hfull
      exact hT'.cons_window hduration rfl hfull
    · rename_i hshort
      exact hT'.cons_short hopen rfl (not_le.1 hshort)
  · simp only [VenueRecord.addFill, htoxic, if_false, decide_false, Bool.false_eq_true]
    exact hT'.cons_short hopen rfl hlimit

end Tracks

/-! ## A duration of zero -/

/-- With a duration of zero a quarantine is over as soon as it begins, and lifted by the next question or fill. -/
structure TracksZero (h : VenueHealth) (t : ℕ) : Prop where
  until_le : h.quarantineUntilNs ≤ t
  until_pos : h.isQuarantined = true → 0 < h.quarantineUntilNs

theorem TracksZero.later {h : VenueHealth} {t t' : ℕ} (hT : TracksZero h t) (hle : t ≤ t') : TracksZero h t' :=
  ⟨hT.until_le.trans hle, hT.until_pos⟩

/-- Whoever asks finds the venue active. -/
theorem TracksZero.isActive {h : VenueHealth} {t t' : ℕ} (hT : TracksZero h t) (hle : t ≤ t') :
    (h.isActive t').1 = true ∧ TracksZero (h.isActive t').2 t' := by
  unfold VenueHealth.isActive
  cases hq : h.isQuarantined with
  | false => exact ⟨rfl, hT.later hle⟩
  | true =>
    rw [if_pos rfl, if_pos ⟨hT.until_pos hq, hT.until_le.trans hle⟩]
    exact ⟨rfl, hT.until_le.trans hle, fun hheld => Bool.noConfusion hheld⟩

theorem TracksZero.addFill {r : VenueRecord} {t t' : ℕ} (hT : TracksZero r.toVenueHealth t) (hle : t ≤ t') (hpos : 0 < t')
    (markout threshold : ℚ) (limit : ℕ) : TracksZero (r.addFill markout t' threshold limit 0).toVenueHealth t' := by
  have hlater := hT.later hle
  have hr : TracksZero (r.recovered t').toVenueHealth t' := by
    unfold VenueRecord.recovered
    split
    · exact ⟨hlater.until_le, fun hheld => Bool.noConfusion hheld⟩
    · exact hlater
  unfold VenueRecord.addFill
  dsimp only
  split
  · unfold VenueRecord.countToxic
    dsimp only
    split
    · exact ⟨max_le hr.until_le le_rfl, fun _ => lt_max_of_lt_right hpos⟩
    · exact ⟨hr.until_le, hr.until_pos⟩
  · exact ⟨hr.until_le, hr.until_pos⟩

end Quarantine

/-! ## Calls of the router -/

namespace WatchedRouter

open Quarantine

/-- The fill of a venue that a call records, if it does. -/
def HealthCall.fillOf (w : Watchdog) (vid : String) : HealthCall → Option Fill
  | .recordFill v m t => if v = vid then some { time := t, toxic := decide (m < w.toxicMarkoutThresholdBps) } else none
  | .recordFillMarkout v side p q t =>
    if v = vid ∧ 0 < p ∧ 0 < q then
      some { time := t, toxic := decide (markoutBps side p q < w.toxicMarkoutThresholdBps) }
    else none
  | .isActive _ _ => none
  | .getVenueHealth _ _ => none

/-- The fills of a venue, the latest first. -/
def fills (w : Watchdog) (vid : String) (calls : List HealthCall) : List Fill :=
  (calls.filterMap (HealthCall.fillOf w vid)).reverse

/-- What a call makes of the health of a venue, with the fill it records. -/
inductive Touched (w : Watchdog) (h : VenueRecord) (t : ℕ) : Option Fill → VenueRecord → Prop
  | same : Touched w h t none h
  | asked : Touched w h t none (h.isActive t).2
  | filled (m : ℚ) : Touched w h t (some { time := t, toxic := decide (m < w.toxicMarkoutThresholdBps) })
      (h.addFill m t w.toxicMarkoutThresholdBps w.toxicFillLimit.toNat w.quarantineDurationNs.toNat)

variable {r : WatchedRouter} {vid v : String} {h : VenueRecord}

@[simp]
theorem watchdog_setHealth (r : WatchedRouter) (v : String) (h' : VenueRecord) : (r.setHealth v h').watchdog = r.watchdog := by
  unfold setHealth
  split <;> rfl

theorem get?_setHealth_self (hh : r.venueHealth.get? v = some h) (h' : VenueRecord) :
    (r.setHealth v h').venueHealth.get? v = some h' := by
  rw [setHealth, dif_pos (by simp [Dict.contains, hh])]
  exact Dict.get?_set_self _ _ _

theorem get?_setHealth_of_ne (h' : VenueRecord) (hv : vid ≠ v) :
    (r.setHealth v h').venueHealth.get? vid = r.venueHealth.get? vid := by
  unfold setHealth
  split
  · exact Dict.get?_set_of_ne _ _ hv
  · rfl

/-- With the parameters of the router the checks of `record_fill` pass. -/
theorem recordFill_eq (hh : r.venueHealth.get? v = some h) (m : ℚ) (t : ℕ) : r.recordFill v m t = .ok (r.setHealth v
    (h.addFill m t r.watchdog.toxicMarkoutThresholdBps r.watchdog.toxicFillLimit.toNat
      r.watchdog.quarantineDurationNs.toNat)) := by
  have hlimit := r.watchdog.one_le_toxicFillLimit
  have hduration := r.watchdog.quarantineDurationNs_nonneg
  rw [recordFill, hh]
  dsimp only
  rw [VenueRecord.recordFill, if_neg (by omega), if_neg (by omega), if_neg (by omega)]
  rfl

/-- The router after a fill. -/
theorem touched_recordFill (hh : r.venueHealth.get? vid = some h) (m : ℚ) (t : ℕ) :
    ∃ h', ((r.recordFill v m t).toOption.getD r).venueHealth.get? vid = some h' ∧
      Touched r.watchdog h t
        (if v = vid then some { time := t, toxic := decide (m < r.watchdog.toxicMarkoutThresholdBps) } else none) h' := by
  by_cases hv : v = vid
  · subst hv
    rw [recordFill_eq hh, if_pos rfl]
    exact ⟨_, get?_setHealth_self hh _, .filled m⟩
  · rw [if_neg hv]
    refine ⟨h, ?_, .same⟩
    cases hget : r.venueHealth.get? v with
    | none =>
      rw [recordFill, hget]
      exact hh
    | some h₁ =>
      rw [recordFill_eq hget]
      exact (get?_setHealth_of_ne _ (Ne.symm hv)).trans hh

/-- The router after a question: the venue it was about is asked. -/
theorem touched_ask (hh : r.venueHealth.get? vid = some h) (v : String) (t : ℕ) {r' : WatchedRouter}
    (hr : r.venueHealth.get? v = none ∧ r' = r ∨
      ∃ h₁, r.venueHealth.get? v = some h₁ ∧ r' = r.setHealth v (h₁.isActive t).2) :
    ∃ h', r'.venueHealth.get? vid = some h' ∧ Touched r.watchdog h t none h' := by
  rcases hr with ⟨-, rfl⟩ | ⟨h₁, hget, rfl⟩
  · exact ⟨h, hh, .same⟩
  · by_cases hv : vid = v
    · subst hv
      rw [hh] at hget
      cases hget
      exact ⟨_, get?_setHealth_self hh _, .asked⟩
    · exact ⟨h, (get?_setHealth_of_ne _ hv).trans hh, .same⟩

theorem call_isActive_cases (r : WatchedRouter) (v : String) (t : ℕ) :
    r.venueHealth.get? v = none ∧ r.call (.isActive v t) = r ∨
      ∃ h₁, r.venueHealth.get? v = some h₁ ∧ r.call (.isActive v t) = r.setHealth v (h₁.isActive t).2 := by
  unfold call isActive
  dsimp only
  cases hget : r.venueHealth.get? v with
  | none => exact .inl ⟨rfl, rfl⟩
  | some h₁ => exact .inr ⟨h₁, rfl, rfl⟩

theorem call_getVenueHealth_cases (r : WatchedRouter) (v : String) (t : ℕ) :
    r.venueHealth.get? v = none ∧ r.call (.getVenueHealth v t) = r ∨
      ∃ h₁, r.venueHealth.get? v = some h₁ ∧ r.call (.getVenueHealth v t) = r.setHealth v (h₁.isActive t).2 := by
  unfold call getVenueHealth
  dsimp only
  cases hget : r.venueHealth.get? v with
  | none => exact .inl ⟨rfl, rfl⟩
  | some h₁ => exact .inr ⟨h₁, rfl, rfl⟩

theorem markoutFault_eq_none_iff {p q : ℚ} {t : ℕ} : markoutFault p q t = none ↔ 0 < p ∧ 0 < q := by
  have ht : ¬ (t : ℤ) < 0 := by omega
  unfold markoutFault
  split_ifs with hp hq
  · simp [hp]
  · simp [hq]
  · simp [not_le.1 hp, not_le.1 hq]

/-- A markout of a venue of the router is recorded if its prices are positive. -/
theorem touched_recordFillMarkout (hh : r.venueHealth.get? vid = some h) (v : String) (side : OrderSide) (p q : ℚ) (t : ℕ) :
    ∃ h', ((r.recordFillMarkout v side p q t).toOption.getD r).venueHealth.get? vid = some h' ∧
      Touched r.watchdog h t (HealthCall.fillOf r.watchdog vid (.recordFillMarkout v side p q t)) h' := by
  have hk : r.venueHealth.contains vid = true := by simp [Dict.contains, hh]
  have hfill : HealthCall.fillOf r.watchdog vid (.recordFillMarkout v side p q t) =
      if v = vid ∧ 0 < p ∧ 0 < q then
        some { time := t, toxic := decide (markoutBps side p q < r.watchdog.toxicMarkoutThresholdBps) }
      else none := rfl
  unfold recordFillMarkout
  rw [hfill]
  split
  · rename_i hblank
    have hv : v ≠ vid := fun he => r.venues_key_ne vid ((Dict.mem_keys_iff _ _).2 hk) (he ▸ hblank)
    rw [if_neg (fun hc => hv hc.1)]
    exact ⟨h, hh, .same⟩
  · split
    · rename_i hunknown
      have hv : v ≠ vid := fun he => by
        rw [he, hk] at hunknown
        cases hunknown
      rw [if_neg (fun hc => hv hc.1)]
      exact ⟨h, hh, .same⟩
    · split
      · rename_i exc hfault
        have hprices : ¬ (0 < p ∧ 0 < q) := fun hc => by
          rw [markoutFault_eq_none_iff.2 hc] at hfault
          cases hfault
        rw [if_neg (fun hc => hprices hc.2)]
        exact ⟨h, hh, .same⟩
      · rename_i hfault
        simp only [markoutFault_eq_none_iff.1 hfault, and_true]
        exact touched_recordFill hh _ t

/-- A call changes the health of a venue as the fill it records, or as a question, does, or not at all. -/
theorem touched_call (hh : r.venueHealth.get? vid = some h) (c : HealthCall) :
    ∃ h', (r.call c).venueHealth.get? vid = some h' ∧ Touched r.watchdog h c.time (c.fillOf r.watchdog vid) h' := by
  cases c with
  | recordFill v m t => exact touched_recordFill hh m t
  | recordFillMarkout v side p q t => exact touched_recordFillMarkout hh v side p q t
  | isActive v t => exact touched_ask hh v t (call_isActive_cases r v t)
  | getVenueHealth v t => exact touched_ask hh v t (call_getVenueHealth_cases r v t)

theorem watchdog_call (r : WatchedRouter) (c : HealthCall) : (r.call c).watchdog = r.watchdog := by
  have hfill : ∀ (v : String) (m : ℚ) (t : ℤ), ((r.recordFill v m t).toOption.getD r).watchdog = r.watchdog := by
    intro v m t
    unfold recordFill
    split
    · rfl
    · split
      · rfl
      · exact watchdog_setHealth r v _
  cases c with
  | recordFill v m t => exact hfill v m t
  | recordFillMarkout v side p q t =>
    show ((r.recordFillMarkout v side p q t).toOption.getD r).watchdog = r.watchdog
    unfold recordFillMarkout
    split_ifs
    · rfl
    · rfl
    · split
      · rfl
      · exact hfill v _ t
  | isActive v t =>
    rcases call_isActive_cases r v t with ⟨-, he⟩ | ⟨h₁, -, he⟩ <;> rw [he]
    exact watchdog_setHealth r v _
  | getVenueHealth v t =>
    rcases call_getVenueHealth_cases r v t with ⟨-, he⟩ | ⟨h₁, -, he⟩ <;> rw [he]
    exact watchdog_setHealth r v _

/-! ## Runs -/

/-- The fills of a venue with their streaks, at the parameters of a router. -/
def streaksOf (w : Watchdog) (vid : String) (calls : List HealthCall) : List (Fill × ℕ) :=
  streaks w.toxicFillLimit.toNat w.quarantineDurationNs.toNat (fills w vid calls)

/-- What the health of a venue follows: the windows of its fills, or nothing where a window is empty. -/
def Follows (w : Watchdog) (h : VenueRecord) (fs : List Fill) (t : ℕ) : Prop :=
  (∀ f ∈ fs, f.time ≤ t) ∧
    (0 < w.quarantineDurationNs.toNat ∧ Tracks w.toxicFillLimit.toNat w.quarantineDurationNs.toNat h.toVenueHealth
        (streaks w.toxicFillLimit.toNat w.quarantineDurationNs.toNat fs) t ∨
      w.quarantineDurationNs.toNat = 0 ∧ TracksZero h.toVenueHealth t)

theorem Follows.later {w : Watchdog} {fs : List Fill} {t t' : ℕ} (hF : Follows w h fs t) (hle : t ≤ t') : Follows w h fs t' := by
  obtain ⟨htimes, hF⟩ := hF
  refine ⟨fun f hf => (htimes f hf).trans hle, ?_⟩
  rcases hF with ⟨hpos, hT⟩ | ⟨hzero, hT⟩
  · exact .inl ⟨hpos, hT.later hle⟩
  · exact .inr ⟨hzero, hT.later hle⟩

/-- A call keeps the health following. -/
theorem Follows.touched {w : Watchdog} {fs : List Fill} {t : ℕ} {o : Option Fill} {h' : VenueRecord} (hF : Follows w h fs t)
    (hT : Touched w h t o h') (hpos : ∀ f ∈ o, 0 < f.time) : Follows w h' (o.toList ++ fs) t := by
  have hlimit : 1 ≤ w.toxicFillLimit.toNat := by have := w.one_le_toxicFillLimit; omega
  obtain ⟨htimes, hF⟩ := hF
  cases hT with
  | same => exact ⟨htimes, hF⟩
  | asked =>
    refine ⟨htimes, ?_⟩
    rcases hF with ⟨hduration, hF⟩ | ⟨hzero, hF⟩
    · exact .inl ⟨hduration, hF.isActive le_rfl⟩
    · exact .inr ⟨hzero, (hF.isActive le_rfl).2⟩
  | filled m =>
    refine ⟨fun f hf => ?_, ?_⟩
    · rcases List.mem_cons.1 hf with rfl | hf
      · exact le_rfl
      · exact htimes f hf
    · rcases hF with ⟨hduration, hF⟩ | ⟨hzero, hF⟩
      · exact .inl ⟨hduration, hF.addFill hlimit hduration le_rfl m _⟩
      · rw [hzero]
        exact .inr ⟨rfl, hF.addFill le_rfl (hpos _ rfl) m _ _⟩

/-- What is listed with its streak is a fill. -/
theorem map_fst_streaks (limit duration : ℕ) (fs : List Fill) : (streaks limit duration fs).map Prod.fst = fs := by
  induction fs with
  | nil => rfl
  | cons f fs ih => rw [streaks, List.map_cons, ih]

/-- A question is answered by the windows. -/
theorem Follows.isActive_iff {w : Watchdog} {fs : List Fill} {t : ℕ} (hF : Follows w h fs t) : (h.isActive t).1 = false ↔
    InWindow w.toxicFillLimit.toNat w.quarantineDurationNs.toNat
    (streaks w.toxicFillLimit.toNat w.quarantineDurationNs.toNat fs) t := by
  obtain ⟨htimes, hF⟩ := hF
  rcases hF with ⟨-, hT⟩ | ⟨hzero, hT⟩
  · exact hT.isActive_iff le_rfl
  · have hactive : (h.isActive t).1 = true := (hT.isActive le_rfl).1
    rw [hzero, hactive]
    refine iff_of_false Bool.noConfusion (not_inWindow_zero fun p hp => htimes p.1 ?_)
    rw [← map_fst_streaks w.toxicFillLimit.toNat 0 fs]
    exact List.mem_map_of_mem hp

/-- The calls one after the other. -/
def run (r : WatchedRouter) (calls : List HealthCall) : WatchedRouter := calls.foldl call r

theorem fills_concat (w : Watchdog) (vid : String) (calls : List HealthCall) (c : HealthCall) :
    fills w vid (calls ++ [c]) = (c.fillOf w vid).toList ++ fills w vid calls := by
  unfold fills
  cases hc : c.fillOf w vid <;> simp [hc]

/-- After calls in the order of time, on a router without fills so far, the health of a venue follows its fills. -/
theorem follows_run {w : Watchdog} (hw : r.watchdog = w) (hnew : r.venueHealth.get? vid = some { venueId := vid })
    {calls : List HealthCall} (hsorted : (calls.map HealthCall.time).Pairwise (· ≤ ·))
    (hpos : ∀ f ∈ fills w vid calls, 0 < f.time) {t : ℕ} (ht : ∀ c ∈ calls, c.time ≤ t) :
    ∃ h, (r.run calls).watchdog = w ∧ (r.run calls).venueHealth.get? vid = some h ∧ Follows w h (fills w vid calls) t := by
  induction calls using List.reverseRecOn generalizing t with
  | nil =>
    refine ⟨_, hw, hnew, fun f hf => (by cases hf), ?_⟩
    rcases Nat.eq_zero_or_pos w.quarantineDurationNs.toNat with hzero | hduration
    · exact .inr ⟨hzero, Nat.zero_le t, fun hq => Bool.noConfusion hq⟩
    · refine .inl ⟨hduration, fun t' => ?_, fun hq => Bool.noConfusion hq, fun _ => ⟨Nat.zero_le t, ?_⟩⟩
      · simp [streaks, fills, InWindow]
      · exact (if_neg fun he => he.1).symm
  | append_singleton calls c ih =>
    rw [List.map_append, List.pairwise_append] at hsorted
    rw [fills_concat] at hpos ⊢
    have hbefore : ∀ c' ∈ calls, c'.time ≤ c.time := fun c' hc' =>
      hsorted.2.2 _ (List.mem_map_of_mem hc') _ (List.mem_singleton_self _)
    obtain ⟨h, hw', hh, hF⟩ := ih hsorted.1 (fun f hf => hpos f (List.mem_append_right _ hf)) hbefore
    obtain ⟨h', hh', hT⟩ := touched_call hh c
    have hstep : r.run (calls ++ [c]) = (r.run calls).call c := by
      rw [run, List.foldl_append]
      rfl
    rw [hw'] at hT
    rw [hstep]
    refine ⟨h', (watchdog_call _ c).trans hw', hh', (hF.touched hT fun f hf => ?_).later (ht c (by simp))⟩
    exact hpos f (List.mem_append_left _ (Option.mem_toList.2 hf))

/-- A question, not a fill. -/
def HealthCall.isQuery : HealthCall → Bool
  | .isActive _ _ => true
  | .getVenueHealth _ _ => true
  | _ => false

theorem fills_withoutQueries (w : Watchdog) (vid : String) (calls : List HealthCall) :
    fills w vid (calls.filter (fun c => !c.isQuery)) = fills w vid calls := by
  unfold fills
  congr 1
  rw [List.filterMap_filter]
  refine List.filterMap_congr fun c _ => ?_
  cases c <;> simp [HealthCall.isQuery, HealthCall.fillOf]

theorem isActive_of_get? (hh : r.venueHealth.get? vid = some h) (t : ℕ) :
    r.isActive vid t = .ok ((h.isActive t).1, r.setHealth vid (h.isActive t).2) := by
  rw [isActive, hh]

/-- A new router has a healthy record under each key. -/
theorem get?_ofKeys (w : Watchdog) {venues : Dict String VenueProfile} (hkeys : ∀ k ∈ venues.keys, strip k ≠ "")
    (hvid : venues.contains vid = true) : (ofKeys w venues hkeys).venueHealth.get? vid = some { venueId := vid } := by
  obtain ⟨v, hv⟩ := Option.isSome_iff_exists.1 hvid
  rw [ofKeys, Dict.get?_map, hv]
  rfl

/-- The health that `get_venue_health` returns is in quarantine exactly if the venue is not active. -/
theorem isQuarantined_isActive (h : VenueHealth) (t : ℕ) : (h.isActive t).2.isQuarantined = !(h.isActive t).1 := by
  unfold VenueHealth.isActive
  split_ifs <;> simp_all

/-- After any calls in the order of time, with fills at positive instants, a venue is not active exactly if some fill of it
completed a streak of the limit less than the duration ago, its streak being the toxic fills that end with it since the last one
that was not toxic and since a quarantine last expired. `get_venue_health` says the same, and without the questions among the
calls the answer is the same. -/
theorem isActive_iff_window (w : Watchdog) {venues : Dict String VenueProfile} (hkeys : ∀ k ∈ venues.keys, strip k ≠ "")
    (hvid : venues.contains vid = true) {calls : List HealthCall} (hsorted : (calls.map HealthCall.time).Pairwise (· ≤ ·))
    (hpos : ∀ f ∈ fills w vid calls, 0 < f.time) {t : ℕ} (ht : ∀ c ∈ calls, c.time ≤ t) :
    ∃ active h r r', ((ofKeys w venues hkeys).run calls).isActive vid t = .ok (active, r) ∧
      ((ofKeys w venues hkeys).run calls).getVenueHealth vid t = .ok (h, r) ∧ h.isQuarantined = !active ∧
      ((ofKeys w venues hkeys).run (calls.filter (fun c => !c.isQuery))).isActive vid t = .ok (active, r') ∧
      (active = false ↔ ∃ p ∈ streaksOf w vid calls,
        w.toxicFillLimit.toNat ≤ p.2 ∧ t < p.1.time + w.quarantineDurationNs.toNat) := by
  have hnew := get?_ofKeys w hkeys hvid
  obtain ⟨h, -, hh, hF⟩ := follows_run rfl hnew hsorted hpos ht
  have hsorted' : ((calls.filter (fun c => !c.isQuery)).map HealthCall.time).Pairwise (· ≤ ·) :=
    hsorted.sublist (List.filter_sublist.map _)
  obtain ⟨h', -, hh', hF'⟩ := follows_run rfl hnew hsorted' (by rwa [fills_withoutQueries])
    (fun c hc => ht c (List.mem_filter.1 hc).1)
  rw [fills_withoutQueries] at hF'
  have hsame : (h'.isActive t).1 = (h.isActive t).1 := by
    rw [Bool.eq_iff_iff, ← not_iff_not, Bool.not_eq_true, Bool.not_eq_true, hF'.isActive_iff, hF.isActive_iff]
  have hanswer := isActive_of_get? hh' t
  rw [hsame] at hanswer
  refine ⟨_, (h.isActive t).2, _, _, isActive_of_get? hh t, ?_, isQuarantined_isActive h.toVenueHealth t, hanswer,
    hF.isActive_iff⟩
  rw [getVenueHealth, hh]

/-! ## Two toxic fills -/

theorem one_le_two_int : (1 : ℤ) ≤ 2 := by decide

theorem minute_nonneg : (0 : ℚ) ≤ 60 := by norm_num

/-- Two toxic fills put a venue in quarantine for a minute. -/
def twoStrikes : Watchdog :=
  { toxicFillLimit := 2
    one_le_toxicFillLimit := one_le_two_int
    quarantineDurationSec_nonneg := minute_nonneg }

/-- A venue under its identifier. -/
def oneVenue : Dict String VenueProfile := ⟨[("NYSE", nyse)], by decide⟩

/-- Two toxic fills with a question between them, and one after the first minute. -/
def strikes : List HealthCall :=
  [.recordFill "NYSE" (-5) 1, .isActive "NYSE" 2, .recordFillMarkout "NYSE" .buy 100 99 3, .getVenueHealth "NYSE" 60000000003]

/-- The second fill opens a window, which is open up to the instant of the last question. -/
theorem isActive_iff_window_strikes :
    ∃ active h r r', ((ofKeys twoStrikes oneVenue (by decide)).run strikes).isActive "NYSE" 60000000003 =
      .ok (active, r) ∧
      ((ofKeys twoStrikes oneVenue (by decide)).run strikes).getVenueHealth "NYSE" 60000000003 = .ok (h, r) ∧
      h.isQuarantined = !active ∧
      ((ofKeys twoStrikes oneVenue (by decide)).run (strikes.filter (fun c => !c.isQuery))).isActive "NYSE" 60000000003 =
        .ok (active, r') ∧
      (active = false ↔ ∃ p ∈ streaksOf twoStrikes "NYSE" strikes,
        twoStrikes.toxicFillLimit.toNat ≤ p.2 ∧ 60000000003 < p.1.time + twoStrikes.quarantineDurationNs.toNat) :=
  isActive_iff_window twoStrikes _ (by decide) (by decide) (by decide) (by decide)

/-- The streaks of the two fills. -/
example : (streaksOf twoStrikes "NYSE" strikes).map Prod.snd = [2, 1] := by decide +kernel

end WatchedRouter

end Quant
