import Mathlib.Data.List.Count
import Quant.Execution.Heartbeat
import Quant.Pylib.PyFloat

/-!
# Runs of the heartbeat watchdog

A session is what the calls say about a connection: the number it starts from, the numbers received since, and the instant the
silence is counted from. A watchdog follows its session through every run of calls in the order of their instants; a call that
raises changes neither.
-/

namespace Quant

open Pylib

/-- A call of the watchdog. -/
inductive HeartbeatCall where
  | recordHeartbeat (sequenceNumber : ℤ) (latencyMs : ℚ) (timestampNs : ℤ)
  | checkLiveness (currentTimestampNs : ℤ)
  | markReconnecting (timestampNs : ℤ)
  | reset (initialSequenceNumber currentTimestampNs : ℤ)

namespace HeartbeatCall

/-- The instant of a call. -/
def timestamp : HeartbeatCall → ℤ
  | .recordHeartbeat _ _ t => t
  | .checkLiveness t => t
  | .markReconnecting t => t
  | .reset _ t => t

/-- The calls that only look. -/
def isCheck : HeartbeatCall → Bool
  | .checkLiveness _ => true
  | _ => false

/-- The arguments pass the checks. -/
def Accepted : HeartbeatCall → Prop
  | .recordHeartbeat n latency t => 0 < n ∧ 0 ≤ latency ∧ 0 < t
  | .checkLiveness t => 0 < t
  | .markReconnecting t => 0 ≤ t
  | .reset n t => 0 < n ∧ 0 ≤ t

instance : DecidablePred Accepted
  | .recordHeartbeat n latency t => inferInstanceAs (Decidable (0 < n ∧ 0 ≤ latency ∧ 0 < t))
  | .checkLiveness t => inferInstanceAs (Decidable (0 < t))
  | .markReconnecting t => inferInstanceAs (Decidable (0 ≤ t))
  | .reset n t => inferInstanceAs (Decidable (0 < n ∧ 0 ≤ t))

/-- Calls at instants that do not go back. -/
def InOrder (calls : List HeartbeatCall) : Prop := (calls.map timestamp).Pairwise (· ≤ ·)

end HeartbeatCall

/-! ## Sessions -/

/-- What the calls say about a connection. -/
structure HeartbeatSession where
  initial : ℤ
  received : List ℤ := []
  baseline : Option ℤ
  deriving DecidableEq

namespace HeartbeatSession

/-- The session of a fresh watchdog; an instant of zero is none. -/
def start (initialSequenceNumber initialTimestampNs : ℤ) : HeartbeatSession :=
  { initial := initialSequenceNumber, baseline := if initialTimestampNs = 0 then none else some initialTimestampNs }

/-- An accepted call: a heartbeat is received, a reset starts again, and the first look counts from itself. -/
def next (s : HeartbeatSession) : HeartbeatCall → HeartbeatSession
  | .recordHeartbeat n _ t => { s with received := s.received ++ [n], baseline := some t }
  | .checkLiveness t => { s with baseline := some (s.baseline.getD t) }
  | .markReconnecting _ => s
  | .reset n t => start n t

/-- The session after some calls, of which those that raise do not count. -/
def after (s : HeartbeatSession) (calls : List HeartbeatCall) : HeartbeatSession :=
  calls.foldl (fun s c => if c.Accepted then s.next c else s) s

/-- The greater of the initial number and one more than the largest number received. -/
def watermark (s : HeartbeatSession) : ℤ := (s.received.map (· + 1)).foldl max s.initial

/-- The first `k` numbers of a session without a gap. -/
def consecutive (initial : ℤ) (k : ℕ) : List ℤ := (List.range k).map (fun i => initial + (i : ℤ))

/-- The exact silence since an instant, in seconds. -/
def exactSilence (baseline currentTimestampNs : ℤ) : ℚ := (max 0 (currentTimestampNs - baseline) : ℤ) / 1000000000

/-- The silence since an instant, in seconds as a double. -/
def silence (baseline currentTimestampNs : ℤ) : ℚ :=
  toDouble (toDouble ((max 0 (currentTimestampNs - baseline) : ℤ) : ℚ) / 1000000000)

/-! ### Received numbers -/

theorem consecutive_succ (initial : ℤ) (k : ℕ) : consecutive initial (k + 1) = consecutive initial k ++ [initial + (k : ℤ)] := by
  simp [consecutive, List.range_succ]

@[simp]
theorem length_consecutive (initial : ℤ) (k : ℕ) : (consecutive initial k).length = k := by
  simp [consecutive]

/-- The watermark of numbers without a gap is the next one. -/
theorem foldl_consecutive (initial : ℤ) (k : ℕ) :
    ((consecutive initial k).map (· + 1)).foldl max initial = initial + (k : ℤ) := by
  induction k with
  | zero => simp [consecutive]
  | succ k ih =>
    rw [consecutive_succ, List.map_append, List.foldl_append, ih]
    simp only [List.map_cons, List.map_nil, List.foldl_cons, List.foldl_nil]
    omega

/-- One more number keeps a session without a gap exactly if it is the next one. -/
theorem consecutive_concat_iff (initial n : ℤ) (ns : List ℤ) :
    ns ++ [n] = consecutive initial (ns ++ [n]).length ↔
      ns = consecutive initial ns.length ∧ n = initial + (ns.length : ℤ) := by
  rw [List.length_append, List.length_singleton, consecutive_succ]
  constructor
  · intro h
    obtain ⟨h1, h2⟩ := List.append_inj' h rfl
    exact ⟨h1, List.singleton_inj.1 h2⟩
  · rintro ⟨h1, h2⟩
    rw [← h1, ← h2]

end HeartbeatSession

/-! ## The calls of a watchdog -/

namespace HeartbeatWatchdog

open HeartbeatCall HeartbeatSession

/-- What a call returns. -/
inductive Answer where
  | record (r : HeartbeatRecord)
  | status (s : ConnectionStatus)
  | none
  deriving DecidableEq

/-- A call: its answer, the watchdog it leaves and its notices. -/
def call (w : HeartbeatWatchdog) : HeartbeatCall → Except Exc Answer × HeartbeatWatchdog × List HeartbeatNotice
  | .recordHeartbeat n latency t =>
    match w.recordHeartbeat n latency t with
    | .error exc => (.error exc, w, [])
    | .ok (r, w', ns) => (.ok (.record r), w', ns)
  | .checkLiveness t =>
    match w.checkLiveness t with
    | .error exc => (.error exc, w, [])
    | .ok (s, w', ns) => (.ok (.status s), w', ns)
  | .markReconnecting t =>
    match w.markReconnecting t with
    | .error exc => (.error exc, w, [])
    | .ok (w', ns) => (.ok .none, w', ns)
  | .reset n t =>
    match w.reset n t with
    | .error exc => (.error exc, w, [])
    | .ok (w', ns) => (.ok .none, w', ns)

theorem call_recordHeartbeat_eq (w : HeartbeatWatchdog) (n : ℤ) (latency : ℚ) (t : ℤ) : w.call (.recordHeartbeat n latency t) =
    match w.recordHeartbeat n latency t with
    | .error exc => (.error exc, w, [])
    | .ok (r, w', ns) => (.ok (.record r), w', ns) := rfl

theorem call_checkLiveness_eq (w : HeartbeatWatchdog) (t : ℤ) : w.call (.checkLiveness t) =
    match w.checkLiveness t with
    | .error exc => (.error exc, w, [])
    | .ok (s, w', ns) => (.ok (.status s), w', ns) := rfl

theorem call_markReconnecting_eq (w : HeartbeatWatchdog) (t : ℤ) : w.call (.markReconnecting t) =
    match w.markReconnecting t with
    | .error exc => (.error exc, w, [])
    | .ok (w', ns) => (.ok .none, w', ns) := rfl

theorem call_reset_eq (w : HeartbeatWatchdog) (n t : ℤ) : w.call (.reset n t) =
    match w.reset n t with
    | .error exc => (.error exc, w, [])
    | .ok (w', ns) => (.ok .none, w', ns) := rfl

/-- The watchdog after some calls. -/
def after (w : HeartbeatWatchdog) (calls : List HeartbeatCall) : HeartbeatWatchdog :=
  calls.foldl (fun w c => (w.call c).2.1) w

/-- The notices of some calls. -/
def notices (w : HeartbeatWatchdog) : List HeartbeatCall → List HeartbeatNotice
  | [] => []
  | c :: cs => (w.call c).2.2 ++ (w.call c).2.1.notices cs

/-- The notices a disconnect listener gets. -/
def isDisconnect (callback : CallbackRef) : HeartbeatNotice → Bool
  | .disconnected cb _ _ _ => cb = callback
  | _ => false

/-- How often a disconnect listener is told. -/
def disconnects (callback : CallbackRef) (ns : List HeartbeatNotice) : ℕ := ns.countP (isDisconnect callback)

/-- The listeners a watchdog is given before the run. -/
def listening (w : HeartbeatWatchdog) (statusListeners sequenceGapListeners disconnectListeners : Listeners) :
    HeartbeatWatchdog :=
  { w with
    statusListeners := statusListeners
    sequenceGapListeners := sequenceGapListeners
    disconnectListeners := disconnectListeners }

/-! ### What a call does -/

/-- A call that raises changes nothing. -/
theorem call_of_not_accepted (w : HeartbeatWatchdog) {c : HeartbeatCall} (h : ¬ c.Accepted) :
    ∃ exc, w.call c = (.error exc, w, []) := by
  cases c with
  | recordHeartbeat n latency t =>
    simp only [call_recordHeartbeat_eq, recordHeartbeat]
    split <;> rename_i heq
    · exact ⟨_, rfl⟩
    · split at heq
      · cases heq
      · cases heq
      · cases heq
      · rename_i h1 h2 h3
        exact absurd ⟨positiveIntFault_eq_none.1 h1, nonNegativeFault_eq_none.1 h2, positiveIntFault_eq_none.1 h3⟩ h
  | checkLiveness t =>
    have ht : t ≤ 0 := not_lt.1 h
    simp [call_checkLiveness_eq, checkLiveness, positiveIntFault, ht]
  | markReconnecting t =>
    have ht : t < 0 := not_le.1 h
    simp [call_markReconnecting_eq, markReconnecting, nonNegativeIntFault, ht]
  | reset n t =>
    simp only [call_reset_eq, reset]
    split <;> rename_i heq
    · exact ⟨_, rfl⟩
    · split at heq
      · cases heq
      · cases heq
      · rename_i h1 h2
        exact absurd ⟨positiveIntFault_eq_none.1 h1, nonNegativeIntFault_eq_none.1 h2⟩ h

theorem call_recordHeartbeat (w : HeartbeatWatchdog) {n : ℤ} {latency : ℚ} {t : ℤ}
    (h : (HeartbeatCall.recordHeartbeat n latency t).Accepted) :
    (w.call (.recordHeartbeat n latency t)).2.1 = { w.track n latency t with status := w.latencyStatus latency } := by
  obtain ⟨h1, h2, h3⟩ := h
  simp only [call_recordHeartbeat_eq, recordHeartbeat]
  split <;> rename_i heq
  · split at heq <;> simp_all [positiveIntFault, nonNegativeFault, not_le.2, not_lt.2]
  · split at heq <;> simp_all [setStatus]

theorem call_markReconnecting (w : HeartbeatWatchdog) {t : ℤ} (h : (HeartbeatCall.markReconnecting t).Accepted) :
    (w.call (.markReconnecting t)).2.1 = { w with status := .reconnecting } := by
  have ht : ¬ t < 0 := not_lt.2 h
  simp [call_markReconnecting_eq, markReconnecting, nonNegativeIntFault, ht, setStatus]

theorem call_reset (w : HeartbeatWatchdog) {n t : ℤ} (h : (HeartbeatCall.reset n t).Accepted) :
    (w.call (.reset n t)).2.1 =
      { w with
        lastSequenceNumber := n - 1
        expectedSequenceNumber := n
        lastHeartbeatTimestampNs := t
        consecutiveMisses := 0
        sequenceGapsCount := 0
        recentLatencies := []
        status := .connected } := by
  have hn : ¬ n ≤ 0 := not_le.2 h.1
  have ht : ¬ t < 0 := not_lt.2 h.2
  simp [call_reset_eq, reset, positiveIntFault, nonNegativeIntFault, hn, ht, setStatus]

/-- The first look sets the baseline. -/
theorem call_checkLiveness_cold {w : HeartbeatWatchdog} {t : ℤ} (ht : 0 < t) (hcold : w.lastHeartbeatTimestampNs = 0) :
    w.call (.checkLiveness t) = (.ok (.status w.status), { w with lastHeartbeatTimestampNs := t }, []) := by
  have ht' : ¬ t ≤ 0 := not_le.2 ht
  simp [call_checkLiveness_eq, checkLiveness, positiveIntFault, ht', hcold]

theorem call_checkLiveness {w : HeartbeatWatchdog} {t : ℤ} (ht : 0 < t) (hw : w.lastHeartbeatTimestampNs ≠ 0) :
    w.call (.checkLiveness t) = (.ok (.status (w.evaluate t).1.status), w.evaluate t) := by
  have ht' : ¬ t ≤ 0 := not_le.2 ht
  simp [call_checkLiveness_eq, checkLiveness, positiveIntFault, ht', hw]

/-- What a look leaves. -/
theorem evaluate_fst (w : HeartbeatWatchdog) (t : ℤ) :
    (w.evaluate t).1 =
      { w with
        consecutiveMisses := w.misses t
        status :=
          if w.isTimedOut t then .disconnected else if 1 ≤ w.misses t ∧ w.status = .connected then .degraded else w.status } := by
  unfold evaluate
  by_cases hout : w.isTimedOut t = true
  · by_cases hd : w.status = .disconnected <;> simp [hout, hd, setStatus]
  · by_cases hm : 1 ≤ w.misses t
    · by_cases hc : w.status = .connected <;> simp [hout, hm, hc, setStatus]
    · simp [hout, hm]

/-- The status a look gives. -/
theorem evaluate_status (w : HeartbeatWatchdog) (t : ℤ) :
    (w.evaluate t).1.status =
      if w.isTimedOut t then .disconnected else if 1 ≤ w.misses t ∧ w.status = .connected then .degraded else w.status := by
  rw [evaluate_fst]

/-- A look changes nothing but the count of misses and the status. -/
theorem evaluate_eq (w : HeartbeatWatchdog) (t : ℤ) :
    (w.evaluate t).1 = { w with consecutiveMisses := w.misses t, status := (w.evaluate t).1.status } := by
  rw [evaluate_status, evaluate_fst]

/-! ### Listeners of a disconnect -/

theorem disconnects_append (callback : CallbackRef) (ns ns' : List HeartbeatNotice) :
    disconnects callback (ns ++ ns') = disconnects callback ns + disconnects callback ns' :=
  List.countP_append

theorem disconnects_notifyStatus (callback : CallbackRef) (w : HeartbeatWatchdog) (old new : ConnectionStatus) (t : ℤ) :
    disconnects callback (w.notifyStatus old new t) = 0 := by
  simp [disconnects, notifyStatus, isDisconnect, List.countP_map, List.countP_eq_zero]

theorem disconnects_setStatus (callback : CallbackRef) (w : HeartbeatWatchdog) (new : ConnectionStatus) (t : ℤ) :
    disconnects callback (w.setStatus new t).2 = 0 := by
  unfold setStatus
  split
  · exact disconnects_notifyStatus callback w _ new t
  · rfl

/-- No callback is registered twice, so a disconnect tells each at most once. -/
theorem disconnects_notifyDisconnect (callback : CallbackRef) (w : HeartbeatWatchdog) (t : ℤ) :
    disconnects callback (w.notifyDisconnect t) ≤ 1 := by
  have hcount := List.nodup_iff_count_le_one.1 w.disconnectListeners.nodup callback
  simpa [disconnects, notifyDisconnect, isDisconnect, List.countP_map, List.count, Function.comp_def, beq_eq_decide] using hcount

/-- How often a disconnect listener may still be told before the next call that is not a look. -/
def budget (w : HeartbeatWatchdog) : ℕ := if w.status = .disconnected then 0 else 1

/-- A look spends what it tells. -/
theorem disconnects_evaluate (callback : CallbackRef) (w : HeartbeatWatchdog) (t : ℤ) :
    disconnects callback (w.evaluate t).2 + (w.evaluate t).1.budget ≤ w.budget := by
  have hstatus := evaluate_status w t
  unfold budget
  by_cases hout : w.isTimedOut t = true
  · rw [if_pos hout] at hstatus
    rw [hstatus, if_pos rfl]
    by_cases hd : w.status = .disconnected
    · simp [evaluate, hout, hd, disconnects]
    · have hone := disconnects_notifyDisconnect callback w t
      simpa [evaluate, hout, hd, disconnects_append, disconnects_setStatus] using hone
  · have hnone : disconnects callback (w.evaluate t).2 = 0 := by
      unfold evaluate
      by_cases hm : 1 ≤ w.misses t
      · by_cases hc : w.status = .connected
        · simp [hout, hm, hc, disconnects_setStatus]
        · simp [hout, hm, hc, disconnects]
      · simp [hout, hm, disconnects]
    rw [hnone, hstatus, if_neg hout]
    split_ifs <;> simp_all

/-- Looks alone tell a disconnect listener at most once, and not at all a watchdog that is disconnected. -/
theorem disconnects_checks (callback : CallbackRef) (checks : List HeartbeatCall) :
    ∀ w : HeartbeatWatchdog, (∀ c ∈ checks, c.isCheck = true) → disconnects callback (w.notices checks) ≤ w.budget := by
  induction checks with
  | nil =>
    intro w _
    exact Nat.zero_le _
  | cons c cs ih =>
    intro w hc
    have hrest := ih (w.call c).2.1 (fun c' hc' => hc c' (List.mem_cons_of_mem _ hc'))
    have hone : disconnects callback (w.call c).2.2 + (w.call c).2.1.budget ≤ w.budget := by
      by_cases hacc : c.Accepted
      · cases c with
        | checkLiveness t =>
          by_cases hcold : w.lastHeartbeatTimestampNs = 0
          · rw [call_checkLiveness_cold hacc hcold]
            simp [disconnects, budget]
          · rw [call_checkLiveness hacc hcold]
            exact disconnects_evaluate callback w t
        | recordHeartbeat n latency t => cases hc _ List.mem_cons_self
        | markReconnecting t => cases hc _ List.mem_cons_self
        | reset n t => cases hc _ List.mem_cons_self
      · obtain ⟨exc, he⟩ := call_of_not_accepted w hacc
        rw [he]
        simp [disconnects]
    rw [notices, disconnects_append]
    omega

/-! ### A watchdog follows its session -/

/-- A silence that reaches the timeout, or as many intervals as may be missed by the floor division of doubles. -/
def Silent (config : HeartbeatConfig) (baseline t : ℤ) : Prop :=
  config.timeoutSeconds ≤ silence baseline t ∨
    config.maxConsecutiveMisses ≤ floorDiv (silence baseline t) config.heartbeatIntervalSeconds

theorem silence_mono (baseline : ℤ) {t t' : ℤ} (h : t ≤ t') : silence baseline t ≤ silence baseline t' := by
  have hmax : max 0 (t - baseline) ≤ max 0 (t' - baseline) := by omega
  have hcast : ((max 0 (t - baseline) : ℤ) : ℚ) ≤ ((max 0 (t' - baseline) : ℤ) : ℚ) := by exact_mod_cast hmax
  exact toDouble_mono (div_le_div_of_nonneg_right (toDouble_mono hcast) (by norm_num))

theorem silence_nonneg (baseline t : ℤ) : 0 ≤ silence baseline t := by
  have hzero : IsDouble (0 : ℚ) := toDouble_zero
  have hmax : (0 : ℚ) ≤ (max 0 (t - baseline) : ℤ) := Int.cast_nonneg (le_max_left 0 _)
  exact hzero.le_toDouble (div_nonneg (hzero.le_toDouble hmax) (by norm_num))

theorem Silent.mono {config : HeartbeatConfig} {baseline t t' : ℤ} (h : Silent config baseline t) (ht : t ≤ t') :
    Silent config baseline t' :=
  h.imp (fun h => h.trans (silence_mono baseline ht))
    (fun h => h.trans (floorDiv_mono config.heartbeatIntervalSeconds_pos (silence_mono baseline ht)))

/-- The floor division counts whole intervals, where the interval is a double and few of them may be missed. -/
theorem silent_iff {config : HeartbeatConfig} (hdouble : IsDouble config.heartbeatIntervalSeconds)
    (hmisses : config.maxConsecutiveMisses ≤ 2 ^ 49) (baseline t : ℤ) :
    Silent config baseline t ↔ config.timeoutSeconds ≤ silence baseline t ∨
      config.maxConsecutiveMisses * config.heartbeatIntervalSeconds ≤ silence baseline t :=
  or_congr_right (le_floorDiv_iff hmisses (silence_nonneg baseline t) config.heartbeatIntervalSeconds_pos hdouble)

/-- The seconds of a double are off by less than their fiftieth bit. -/
theorem abs_silence_sub_le (baseline t : ℤ) :
    |silence baseline t - exactSilence baseline t| ≤ exactSilence baseline t * bit (-51) := by
  unfold silence exactSilence
  have hn : 0 ≤ max 0 (t - baseline) := le_max_left 0 _
  generalize max 0 (t - baseline) = n at hn ⊢
  rcases hn.eq_or_lt with rfl | hpos
  · simp
  · have hone : (1 : ℚ) ≤ n := by exact_mod_cast hpos
    have hint : |toDouble (n : ℚ) - n| ≤ |(n : ℚ)| * bit (-53) :=
      abs_toDouble_sub_le (.inr ⟨n * 2 ^ 1074, by norm_num [bit]⟩)
    have hdouble : IsDouble (1 : ℚ) := by decide +kernel
    have hround := hdouble.le_toDouble hone
    -- a billionth is far above the numbers whose last bit is the least one
    have hlast : -1074 < lastBit (toDouble (n : ℚ) / 1000000000) := by
      by_contra hle
      have hlt := (abs_lt_bit (toDouble (n : ℚ) / 1000000000)).trans_le (bit_le.2 (by omega : _ ≤ (-30 : ℤ)))
      have hthirty : (bit (-30) : ℚ) ≤ 1 / 1000000000 := by norm_num [bit]
      have habs := le_abs_self (toDouble (n : ℚ) / 1000000000)
      linarith
    have hdiv := abs_toDouble_sub_le (.inl hlast)
    have hbits : (bit (-51) : ℚ) = 4 * bit (-53) := by norm_num [bit]
    have hbit : (bit (-53) : ℚ) = 1 / 2 ^ 53 := by norm_num [bit]
    rw [abs_of_pos (a := (n : ℚ)) (by linarith)] at hint
    rw [abs_of_pos (a := toDouble (n : ℚ) / 1000000000) (by positivity)] at hdiv
    rw [hbits]
    rw [hbit] at hint hdiv ⊢
    rw [abs_le] at hint hdiv ⊢
    constructor <;> linarith [hint.1, hint.2, hdiv.1, hdiv.2]

theorem isTimedOut_iff (w : HeartbeatWatchdog) (t : ℤ) :
    w.isTimedOut t = true ↔ Silent w.config w.lastHeartbeatTimestampNs t := by
  rw [isTimedOut, decide_eq_true_eq]
  rfl

/-- What a run keeps, up to the instant of its last call. -/
structure Follows (config : HeartbeatConfig) (s : HeartbeatSession) (now : ℤ) (w : HeartbeatWatchdog) : Prop where
  config_eq : w.config = config
  baseline_pos : ∀ b, s.baseline = some b → 0 < b
  last : w.lastHeartbeatTimestampNs = s.baseline.getD 0
  expected : w.expectedSequenceNumber = s.watermark
  gaps : w.sequenceGapsCount = 0 ↔ s.received = consecutive s.initial s.received.length
  silent : w.status = .disconnected → ∃ b, s.baseline = some b ∧ ∀ t, now ≤ t → Silent config b t

namespace Follows

variable {config : HeartbeatConfig} {s : HeartbeatSession} {now : ℤ} {w : HeartbeatWatchdog}

/-- A watchdog has a baseline exactly if its session has. -/
theorem last_eq_zero_iff (h : Follows config s now w) : w.lastHeartbeatTimestampNs = 0 ↔ s.baseline = none := by
  rw [h.last]
  cases hb : s.baseline with
  | none => simp
  | some b =>
    have hpos := h.baseline_pos b hb
    simp only [Option.getD_some, reduceCtorEq, iff_false]
    omega

theorem later (h : Follows config s now w) {now' : ℤ} (hn : now ≤ now') : Follows config s now' w := by
  refine ⟨h.config_eq, h.baseline_pos, h.last, h.expected, h.gaps, fun hd => ?_⟩
  obtain ⟨b, hb, hs⟩ := h.silent hd
  exact ⟨b, hb, fun t ht => hs t (hn.trans ht)⟩

theorem recordHeartbeat (h : Follows config s now w) {n : ℤ} {latency : ℚ} {t : ℤ}
    (hacc : (HeartbeatCall.recordHeartbeat n latency t).Accepted) :
    Follows config (s.next (.recordHeartbeat n latency t)) t (w.call (.recordHeartbeat n latency t)).2.1 := by
  rw [call_recordHeartbeat w hacc]
  refine ⟨h.config_eq, ?_, rfl, ?_, ?_, ?_⟩
  · intro b hb
    cases hb
    exact hacc.2.2
  · -- the watermark passes the number unless it is behind
    simp only [track, next, watermark, h.expected, List.map_append, List.foldl_append, List.map_cons, List.map_nil,
      List.foldl_cons, List.foldl_nil]
    split_ifs <;> omega
  · simp only [track, next, consecutive_concat_iff, ← h.gaps]
    by_cases hz : w.sequenceGapsCount = 0
    · -- without a gap so far the expected number is the next one of the session
      have hnext : w.expectedSequenceNumber = s.initial + (s.received.length : ℤ) := by
        rw [h.expected, watermark, h.gaps.1 hz, foldl_consecutive, length_consecutive]
      rw [hnext]
      by_cases hn : n = s.initial + (s.received.length : ℤ) <;> simp [hn, hz]
    · by_cases hn : n = w.expectedSequenceNumber <;> simp [hn, hz]
  · intro hd
    exfalso
    simp only [latencyStatus] at hd
    split_ifs at hd

theorem markReconnecting (h : Follows config s now w) {t : ℤ} (hacc : (HeartbeatCall.markReconnecting t).Accepted) :
    Follows config (s.next (.markReconnecting t)) t (w.call (.markReconnecting t)).2.1 := by
  rw [call_markReconnecting w hacc]
  exact ⟨h.config_eq, h.baseline_pos, h.last, h.expected, h.gaps, fun hd => by cases hd⟩

theorem reset (h : Follows config s now w) {n t : ℤ} (hacc : (HeartbeatCall.reset n t).Accepted) :
    Follows config (s.next (.reset n t)) t (w.call (.reset n t)).2.1 := by
  rw [call_reset w hacc]
  refine ⟨h.config_eq, ?_, ?_, rfl, by simp [next, start, consecutive], fun hd => by cases hd⟩
  · intro b hb
    have ht := hacc.2
    simp only [next, start] at hb
    split_ifs at hb with hz
    cases hb
    omega
  · simp only [next, start]
    split_ifs with hz
    · exact hz
    · rfl

theorem checkLiveness (h : Follows config s now w) {t : ℤ} (hacc : (HeartbeatCall.checkLiveness t).Accepted) (hn : now ≤ t) :
    Follows config (s.next (.checkLiveness t)) t (w.call (.checkLiveness t)).2.1 := by
  by_cases hcold : w.lastHeartbeatTimestampNs = 0
  · have hnone := h.last_eq_zero_iff.1 hcold
    rw [call_checkLiveness_cold hacc hcold]
    refine ⟨h.config_eq, ?_, ?_, h.expected, h.gaps, fun hd => ?_⟩
    · intro b hb
      simp only [next, hnone, Option.getD_none, Option.some.injEq] at hb
      rw [← hb]
      exact hacc
    · simp [next, hnone]
    · obtain ⟨b, hb, _⟩ := h.silent hd
      rw [hnone] at hb
      cases hb
  · obtain ⟨b, hb⟩ := Option.ne_none_iff_exists'.1 (mt h.last_eq_zero_iff.2 hcold)
    have hlast : w.lastHeartbeatTimestampNs = b := by rw [h.last, hb, Option.getD_some]
    have hnext : s.next (.checkLiveness t) = s := by
      cases s
      simp_all [next]
    rw [call_checkLiveness hacc hcold, hnext]
    have hstatus := evaluate_status w t
    rw [evaluate_eq]
    refine ⟨h.config_eq, h.baseline_pos, h.last, h.expected, h.gaps, fun hd => ⟨b, hb, fun t' ht' => ?_⟩⟩
    -- a watchdog that is disconnected now, or was, has been silent for too long
    by_cases hout : w.isTimedOut t = true
    · rw [isTimedOut_iff, hlast, h.config_eq] at hout
      exact hout.mono ht'
    · rw [if_neg hout] at hstatus
      rw [hstatus] at hd
      have hbefore : w.status = .disconnected := by
        by_contra hne
        split_ifs at hd
        exact hne hd
      obtain ⟨b', hb', hs⟩ := h.silent hbefore
      rw [hb] at hb'
      cases hb'
      exact hs t' (hn.trans ht')

/-- One call. -/
theorem call (h : Follows config s now w) {c : HeartbeatCall} (hn : now ≤ c.timestamp) :
    Follows config (if c.Accepted then s.next c else s) c.timestamp (w.call c).2.1 := by
  by_cases hacc : c.Accepted
  · rw [if_pos hacc]
    cases c with
    | recordHeartbeat n latency t => exact h.recordHeartbeat hacc
    | checkLiveness t => exact h.checkLiveness hacc hn
    | markReconnecting t => exact h.markReconnecting hacc
    | reset n t => exact h.reset hacc
  · obtain ⟨exc, he⟩ := call_of_not_accepted w hacc
    rw [if_neg hacc, he]
    exact h.later hn

/-- A run of calls in order. -/
theorem after (calls : List HeartbeatCall) : ∀ {s : HeartbeatSession} {now : ℤ} {w : HeartbeatWatchdog} (t : ℤ),
    Follows config s now w → InOrder calls → (∀ c ∈ calls, now ≤ c.timestamp) → now ≤ t → (∀ c ∈ calls, c.timestamp ≤ t) →
      Follows config (s.after calls) t (w.after calls) := by
  induction calls with
  | nil =>
    intro s now w t h _ _ hn _
    exact h.later hn
  | cons c cs ih =>
    intro s now w t h ho hfrom _ ht
    rw [InOrder, List.map_cons, List.pairwise_cons] at ho
    exact ih t (h.call (hfrom c List.mem_cons_self)) ho.2 (fun c' hc' => ho.1 _ (List.mem_map_of_mem hc'))
      (ht c List.mem_cons_self) (fun c' hc' => ht c' (List.mem_cons_of_mem _ hc'))

/-- A look finds the watchdog of a session with a baseline disconnected exactly if the connection was silent for too long. -/
theorem checked (h : Follows config s now w) {b : ℤ} (hnow : 0 < now) (hb : s.baseline = some b) :
    ∃ status, (w.call (.checkLiveness now)).1 = .ok (.status status) ∧ (status = .disconnected ↔ Silent config b now) := by
  have hlast : w.lastHeartbeatTimestampNs = b := by rw [h.last, hb, Option.getD_some]
  have hwarm : w.lastHeartbeatTimestampNs ≠ 0 := by
    have hpos := h.baseline_pos b hb
    omega
  refine ⟨_, by rw [call_checkLiveness hnow hwarm], ?_⟩
  rw [← h.config_eq, ← hlast, ← isTimedOut_iff, evaluate_status]
  by_cases hout : w.isTimedOut now = true
  · simp [hout]
  · simp only [hout, if_false, Bool.false_eq_true, iff_false]
    -- a watchdog that was disconnected before would still be silent
    have hnot : w.status ≠ .disconnected := by
      intro hd
      obtain ⟨b', hb', hs⟩ := h.silent hd
      rw [hb] at hb'
      cases hb'
      exact hout ((isTimedOut_iff w now).2 (by rw [h.config_eq, hlast]; exact hs now (le_refl now)))
    split_ifs
    · exact fun hd => by cases hd
    · exact hnot

end Follows

variable {gatewayId : String} {config : Option HeartbeatConfig} {protocol : TransportProtocol} {n₀ t₀ : ℤ}
    {w₀ : HeartbeatWatchdog}

/-- A watchdog that starts connected follows its session from any instant on. -/
theorem follows_create (h : create gatewayId config protocol n₀ t₀ .connected = .ok w₀)
    (statusListeners sequenceGapListeners disconnectListeners : Listeners) (now : ℤ) :
    Follows w₀.config (start n₀ t₀) now (w₀.listening statusListeners sequenceGapListeners disconnectListeners) := by
  unfold create at h
  split at h
  · cases h
  · split at h
    · cases h
    · cases h
    · rename_i h1 h2
      cases h
      have hpos := nonNegativeIntFault_eq_none.1 h2
      refine ⟨rfl, ?_, ?_, rfl, by simp [listening, start, consecutive], fun hd => by cases hd⟩
      · intro b hb
        simp only [start] at hb
        split_ifs at hb with hz
        cases hb
        omega
      · simp only [listening, start]
        split_ifs with hz
        · exact hz
        · rfl

/-- In a run in order some instant is not after the first call, and none before it. -/
theorem exists_start {calls : List HeartbeatCall} (ho : InOrder calls) {t : ℤ} (ht : ∀ c ∈ calls, c.timestamp ≤ t) :
    ∃ now ≤ t, ∀ c ∈ calls, now ≤ c.timestamp := by
  cases calls with
  | nil => exact ⟨t, le_refl t, fun c hc => by cases hc⟩
  | cons c cs =>
    rw [InOrder, List.map_cons, List.pairwise_cons] at ho
    refine ⟨c.timestamp, ht c List.mem_cons_self, fun c' hc' => ?_⟩
    obtain rfl | hmem := List.mem_cons.1 hc'
    · exact le_refl _
    · exact ho.1 _ (List.mem_map_of_mem hmem)

/-- Some instant is after all calls. -/
theorem exists_end (calls : List HeartbeatCall) : ∃ t : ℤ, ∀ c ∈ calls, c.timestamp ≤ t := by
  induction calls with
  | nil => exact ⟨0, fun c hc => by cases hc⟩
  | cons c cs ih =>
    obtain ⟨t, ht⟩ := ih
    refine ⟨max c.timestamp t, fun c' hc' => ?_⟩
    obtain rfl | hmem := List.mem_cons.1 hc'
    · exact le_max_left _ _
    · exact (ht c' hmem).trans (le_max_right _ _)

/-- A watchdog that starts connected, after any run of calls in order: the expected number is the session's watermark, no gap was
counted exactly if the numbers were received one after another, a look finds it disconnected exactly if the connection was silent
for too long, in seconds as doubles have them, and looks alone tell a disconnect listener at most once. -/
theorem watchdog_follows (h : create gatewayId config protocol n₀ t₀ .connected = .ok w₀)
    (statusListeners sequenceGapListeners disconnectListeners : Listeners) {calls : List HeartbeatCall} (ho : InOrder calls) :
    let w := (w₀.listening statusListeners sequenceGapListeners disconnectListeners).after calls
    let s := (start n₀ t₀).after calls
    w.expectedSequenceNumber = (s.received.map (· + 1)).foldl max s.initial ∧
      (w.sequenceGapsCount = 0 ↔ s.received = consecutive s.initial s.received.length) ∧
      (∀ t b : ℤ, 0 < t → (t : ℚ) < PyFloat.limit → (∀ c ∈ calls, c.timestamp ≤ t) → s.baseline = some b →
        |silence b t - exactSilence b t| ≤ exactSilence b t * bit (-51) ∧
        ∃ status, (w.call (.checkLiveness t)).1 = .ok (.status status) ∧
          (status = .disconnected ↔ Silent w₀.config b t) ∧
          (IsDouble w₀.config.heartbeatIntervalSeconds → w₀.config.maxConsecutiveMisses ≤ 2 ^ 49 →
            (status = .disconnected ↔ w₀.config.timeoutSeconds ≤ silence b t ∨
              w₀.config.maxConsecutiveMisses * w₀.config.heartbeatIntervalSeconds ≤ silence b t))) ∧
      ∀ (callback : CallbackRef) (checks : List HeartbeatCall), (∀ c ∈ checks, c.isCheck = true) →
        disconnects callback (w.notices checks) ≤ 1 := by
  intro w s
  have hfollows : ∀ t : ℤ, (∀ c ∈ calls, c.timestamp ≤ t) → Follows w₀.config s t w := by
    intro t ht
    obtain ⟨now, hn, hfrom⟩ := exists_start ho ht
    exact (follows_create h _ _ _ now).after calls t ho hfrom hn ht
  obtain ⟨t₁, ht₁⟩ := exists_end calls
  have hend := hfollows t₁ ht₁
  refine ⟨hend.expected, hend.gaps, ?_, ?_⟩
  · intro t b ht _ hafter hb
    obtain ⟨status, hstatus, hiff⟩ := (hfollows t hafter).checked ht hb
    exact ⟨abs_silence_sub_le b t, status, hstatus, hiff, fun hdouble hmisses => hiff.trans (silent_iff hdouble hmisses b t)⟩
  · intro callback checks hchecks
    refine (disconnects_checks callback checks w hchecks).trans ?_
    unfold budget
    split_ifs <;> omega

/-! ### A session of one heartbeat -/

/-- A connection with the default configuration. -/
def fixWatchdog : HeartbeatWatchdog :=
  { gatewayId := "FIX"
    config := .default
    protocol := .fix
    status := .connected
    lastHeartbeatTimestampNs := 0
    lastSequenceNumber := 0
    expectedSequenceNumber := 1 }

theorem create_fix : create "FIX" none .fix 1 0 .connected = .ok fixWatchdog := by decide

/-- One heartbeat, and a look three seconds later. -/
def silentCalls : List HeartbeatCall := [.recordHeartbeat 1 10 1000000000, .checkLiveness 4000000000]

theorem watchdog_follows_fix :
    let w := (fixWatchdog.listening {} {} (({} : Listeners).register 7)).after silentCalls
    let s := (start 1 0).after silentCalls
    w.expectedSequenceNumber = (s.received.map (· + 1)).foldl max s.initial ∧
      (w.sequenceGapsCount = 0 ↔ s.received = consecutive s.initial s.received.length) ∧
      (∀ t b : ℤ, 0 < t → (t : ℚ) < PyFloat.limit → (∀ c ∈ silentCalls, c.timestamp ≤ t) → s.baseline = some b →
        |silence b t - exactSilence b t| ≤ exactSilence b t * bit (-51) ∧
        ∃ status, (w.call (.checkLiveness t)).1 = .ok (.status status) ∧
          (status = .disconnected ↔ Silent fixWatchdog.config b t) ∧
          (IsDouble fixWatchdog.config.heartbeatIntervalSeconds → fixWatchdog.config.maxConsecutiveMisses ≤ 2 ^ 49 →
            (status = .disconnected ↔ fixWatchdog.config.timeoutSeconds ≤ silence b t ∨
              fixWatchdog.config.maxConsecutiveMisses * fixWatchdog.config.heartbeatIntervalSeconds ≤ silence b t))) ∧
      ∀ (callback : CallbackRef) (checks : List HeartbeatCall), (∀ c ∈ checks, c.isCheck = true) →
        disconnects callback (w.notices checks) ≤ 1 :=
  watchdog_follows create_fix _ _ _ (by simp [InOrder, silentCalls, timestamp])

/-! ### Silences that doubles miscount -/

/-- The configuration of some numbers as they are written: each is read as the double nearest to it. -/
def readLiterals (c : HeartbeatConfigFields) : HeartbeatConfigFields where
  heartbeatIntervalSeconds := toDouble c.heartbeatIntervalSeconds
  timeoutSeconds := toDouble c.timeoutSeconds
  maxConsecutiveMisses := c.maxConsecutiveMisses
  latencyWarningThresholdMs := toDouble c.latencyWarningThresholdMs
  latencyCriticalThresholdMs := toDouble c.latencyCriticalThresholdMs

/-- A look after any run tells whether the exact silence reaches the timeout or the number of intervals of some fields. -/
def TellsExactly (config : HeartbeatConfig) (c : HeartbeatConfigFields) : Prop :=
  ∀ (w₀ : HeartbeatWatchdog) (calls : List HeartbeatCall) (t b : ℤ),
    create "FIX" (some config) .fix 1 0 .connected = .ok w₀ → InOrder calls → 0 < t → (∀ c ∈ calls, c.timestamp ≤ t) →
      ((start 1 0).after calls).baseline = some b →
        ((((w₀.listening {} {} {}).after calls).call (.checkLiveness t)).1 = .ok (.status .disconnected) ↔
          c.timeoutSeconds ≤ exactSilence b t ∨ c.maxConsecutiveMisses * c.heartbeatIntervalSeconds ≤ exactSilence b t)

/-- After a heartbeat at the first second, a look tells what the doubles tell. -/
theorem TellsExactly.silent_iff {config : HeartbeatConfig} {c : HeartbeatConfigFields} (h : TellsExactly config c) {t : ℤ}
    (ht : 1000000000 ≤ t) : Silent config 1000000000 t ↔
      c.timeoutSeconds ≤ exactSilence 1000000000 t ∨ c.maxConsecutiveMisses * c.heartbeatIntervalSeconds ≤
      exactSilence 1000000000 t := by
  have hcreate : create "FIX" (some config) .fix 1 0 .connected =
      .ok { fixWatchdog with config := config } := rfl
  have hcalls : ∀ c ∈ [HeartbeatCall.recordHeartbeat 1 10 1000000000], c.timestamp ≤ t := by simpa [timestamp] using ht
  have ho : InOrder [.recordHeartbeat 1 10 1000000000] := by simp [InOrder]
  have hbaseline : ((start 1 0).after [.recordHeartbeat 1 10 1000000000]).baseline = some 1000000000 := by decide
  rw [← h _ _ t 1000000000 hcreate ho (by omega) hcalls hbaseline]
  obtain ⟨now, hn, hfrom⟩ := exists_start ho hcalls
  obtain ⟨status, hstatus, hiff⟩ :=
    ((follows_create hcreate {} {} {} now).after _ t ho hfrom hn hcalls).checked (by omega) hbaseline
  rw [hstatus, ← hiff]
  simp

/-- Three misses of a tenth of a second. -/
def tenths : HeartbeatConfigFields := { heartbeatIntervalSeconds := 1 / 10, timeoutSeconds := 1 }

/-- A timeout of `2 ^ 25` seconds, more than a year. -/
def yearLong : HeartbeatConfigFields := { timeoutSeconds := 2 ^ 25, maxConsecutiveMisses := 2 ^ 26 }

/-- A silence of three tenths is two intervals of a tenth, and the last nanosecond before a long timeout is rounded away: a look
does not tell whether the exact silence reaches the numbers as they are written, nor whether it reaches the doubles they are read
as. -/
theorem not_tellsExactly :
    (¬ ∀ (c : HeartbeatConfigFields) (config : HeartbeatConfig), (readLiterals c).create = .ok config → TellsExactly config c) ∧
      ¬ ∀ (c : HeartbeatConfigFields) (config : HeartbeatConfig), (readLiterals c).create = .ok config →
        TellsExactly config config.toHeartbeatConfigFields := by
  constructor
  · intro h
    obtain ⟨config, hconfig⟩ := exists_of_isOk (show (readLiterals tenths).create.isOk = true by decide +kernel)
    have hfields := HeartbeatConfigFields.create_fields hconfig
    have hiff := (h tenths config hconfig).silent_iff (by decide : (1000000000 : ℤ) ≤ 1300000000)
    have hsilent : Silent config 1000000000 1300000000 := hiff.2 (.inr (by norm_num [tenths, exactSilence]))
    rw [Silent, hfields] at hsilent
    revert hsilent
    decide +kernel
  · intro h
    obtain ⟨config, hconfig⟩ := exists_of_isOk (show (readLiterals yearLong).create.isOk = true by decide +kernel)
    have hfields := HeartbeatConfigFields.create_fields hconfig
    have hiff := (h yearLong config hconfig).silent_iff (by decide : (1000000000 : ℤ) ≤ 33554432999999999)
    rw [Silent, hfields] at hiff
    revert hiff
    decide +kernel

end HeartbeatWatchdog

end Quant
