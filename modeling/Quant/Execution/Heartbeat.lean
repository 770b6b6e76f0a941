import Mathlib.Data.Rat.Floor
import Quant.Execution.Risk
import Quant.Pylib.Binary64
import Quant.Pylib.Text

/-!
# The heartbeat watchdog

`HeartbeatWatchdog` of `execution/heartbeat.py`: sequence tracking, latency and silence of one connection. A callback is an object
with an identity that returns and leaves the watchdog alone; what it is called with is a notice, and a call returns its notices in
order. The checks for booleans and for other types have no counterpart. Seconds are rounded as doubles are; a silence too long for
a double, which raises `OverflowError`, is left out. Every exception is raised before the first change, so a call that raises
returns the exception alone.
-/

namespace Quant

open Pylib

inductive ConnectionStatus where
  | connected
  | degraded
  | disconnected
  | reconnecting
  deriving DecidableEq, Repr

inductive TransportProtocol where
  | websocket
  | fix
  | restPoll
  deriving DecidableEq, Repr

/-! ## Checks -/

/-- `_validate_positive_int`: what it raises. -/
def positiveIntFault (val : ℤ) (name : String) : Option Exc :=
  if val ≤ 0 then some (nonFinite "Parameter '%' must be strictly positive (>= 1), got %" [.str name, .num val]) else none

/-- `_validate_non_negative_int`: what it raises. -/
def nonNegativeIntFault (val : ℤ) (name : String) : Option Exc :=
  if val < 0 then some (nonFinite "Parameter '%' cannot be negative (< 0), got %" [.str name, .num val]) else none

theorem positiveIntFault_eq_none {val : ℤ} {name : String} : positiveIntFault val name = none ↔ 0 < val := by
  unfold positiveIntFault
  split <;> simp_all

theorem nonNegativeIntFault_eq_none {val : ℤ} {name : String} : nonNegativeIntFault val name = none ↔ 0 ≤ val := by
  unfold nonNegativeIntFault
  split <;> simp_all

/-! ## Configuration and records -/

/-- The configuration as it is given. -/
structure HeartbeatConfigFields where
  heartbeatIntervalSeconds : ℚ := 1
  timeoutSeconds : ℚ := 3
  maxConsecutiveMisses : ℤ := 3
  latencyWarningThresholdMs : ℚ := 250
  latencyCriticalThresholdMs : ℚ := 1000
  deriving DecidableEq

/-- A configuration its constructor accepted. -/
structure HeartbeatConfig extends HeartbeatConfigFields where
  heartbeatIntervalSeconds_pos : 0 < heartbeatIntervalSeconds
  timeoutSeconds_pos : 0 < timeoutSeconds
  maxConsecutiveMisses_pos : 0 < maxConsecutiveMisses
  latencyWarningThresholdMs_pos : 0 < latencyWarningThresholdMs
  latencyCriticalThresholdMs_pos : 0 < latencyCriticalThresholdMs
  interval_le_timeout : heartbeatIntervalSeconds ≤ timeoutSeconds
  warning_le_critical : latencyWarningThresholdMs ≤ latencyCriticalThresholdMs
  deriving DecidableEq

/-- `HeartbeatConfig.__post_init__`; the float checks are those of the risk limits. -/
def HeartbeatConfigFields.create (c : HeartbeatConfigFields) : Except Exc HeartbeatConfig :=
  match h1 : positiveFault c.heartbeatIntervalSeconds "heartbeat_interval_seconds",
    h2 : positiveFault c.timeoutSeconds "timeout_seconds",
    h3 : positiveIntFault c.maxConsecutiveMisses "max_consecutive_misses",
    h4 : positiveFault c.latencyWarningThresholdMs "latency_warning_threshold_ms",
    h5 : positiveFault c.latencyCriticalThresholdMs "latency_critical_threshold_ms" with
  | some exc, _, _, _, _ => .error exc
  | none, some exc, _, _, _ => .error exc
  | none, none, some exc, _, _ => .error exc
  | none, none, none, some exc, _ => .error exc
  | none, none, none, none, some exc => .error exc
  | none, none, none, none, none =>
    if h6 : c.timeoutSeconds < c.heartbeatIntervalSeconds then
      .error (nonFinite "timeout_seconds (%) cannot be less than heartbeat_interval_seconds (%)"
        [.num c.timeoutSeconds, .num c.heartbeatIntervalSeconds])
    else if h7 : c.latencyCriticalThresholdMs < c.latencyWarningThresholdMs then
      .error (nonFinite "latency_critical_threshold_ms (%) cannot be less than latency_warning_threshold_ms (%)"
        [.num c.latencyCriticalThresholdMs, .num c.latencyWarningThresholdMs])
    else
      .ok
        { c with
          heartbeatIntervalSeconds_pos := positiveFault_eq_none.1 h1
          timeoutSeconds_pos := positiveFault_eq_none.1 h2
          maxConsecutiveMisses_pos := positiveIntFault_eq_none.1 h3
          latencyWarningThresholdMs_pos := positiveFault_eq_none.1 h4
          latencyCriticalThresholdMs_pos := positiveFault_eq_none.1 h5
          interval_le_timeout := not_lt.1 h6
          warning_le_critical := not_lt.1 h7 }

/-- A configuration has the fields it was given. -/
theorem HeartbeatConfigFields.create_fields {c : HeartbeatConfigFields} {config : HeartbeatConfig} (h : c.create = .ok config) :
    config.toHeartbeatConfigFields = c := by
  unfold create at h
  split at h
  · cases h
  · cases h
  · cases h
  · cases h
  · cases h
  · split at h
    · cases h
    · split at h
      · cases h
      · obtain rfl := Except.ok.inj h
        rfl

/-- `HeartbeatConfig()`. -/
def HeartbeatConfig.default : HeartbeatConfig :=
  { heartbeatIntervalSeconds_pos := Literal.one_pos
    timeoutSeconds_pos := by norm_num
    maxConsecutiveMisses_pos := by norm_num
    latencyWarningThresholdMs_pos := by norm_num
    latencyCriticalThresholdMs_pos := Literal.thousand_pos
    interval_le_timeout := by norm_num
    warning_le_critical := by norm_num }

/-- The default configuration passes its own checks. -/
example : ({} : HeartbeatConfigFields).create = .ok .default := by decide

/-- The record of a heartbeat; its constructor checks the three numbers. -/
structure HeartbeatRecord where
  sequenceNumber : ℤ
  timestampNs : ℤ
  latencyMs : ℚ
  status : ConnectionStatus
  sequenceNumber_pos : 0 < sequenceNumber
  timestampNs_pos : 0 < timestampNs
  latencyMs_nonneg : 0 ≤ latencyMs
  deriving DecidableEq

/-! ## Listeners -/

/-- A callback object, by identity. -/
abbrev CallbackRef := ℕ

/-- The registered callbacks of one kind, in order; registering one twice has no effect. -/
structure Listeners where
  callbacks : List CallbackRef := []
  nodup : callbacks.Nodup := by exact List.nodup_nil
  deriving DecidableEq

/-- `register_*_listener`. -/
def Listeners.register (ls : Listeners) (callback : CallbackRef) : Listeners :=
  if h : callback ∈ ls.callbacks then ls
  else
    { callbacks := ls.callbacks ++ [callback]
      nodup := List.nodup_append.2
        ⟨ls.nodup, List.nodup_singleton _, fun _ ha _ hb hab => h (List.mem_singleton.1 hb ▸ hab ▸ ha)⟩ }

/-- `unregister_*_listener`. -/
def Listeners.unregister (ls : Listeners) (callback : CallbackRef) : Listeners :=
  { callbacks := ls.callbacks.erase callback, nodup := ls.nodup.erase _ }

/-- A call of a listener, with what it is called with. -/
inductive HeartbeatNotice where
  | statusChanged (callback : CallbackRef) (gatewayId : String) (oldStatus newStatus : ConnectionStatus) (timestampNs : ℤ)
  | sequenceGap (callback : CallbackRef) (gatewayId : String) (expectedSequence receivedSequence timestampNs : ℤ)
  | disconnected (callback : CallbackRef) (gatewayId : String) (elapsedSeconds : ℚ) (timestampNs : ℤ)
  deriving DecidableEq

/-! ## The watchdog -/

structure HeartbeatWatchdog where
  gatewayId : String
  config : HeartbeatConfig
  protocol : TransportProtocol
  status : ConnectionStatus
  lastHeartbeatTimestampNs : ℤ
  lastSequenceNumber : ℤ
  expectedSequenceNumber : ℤ
  consecutiveMisses : ℤ := 0
  sequenceGapsCount : ℕ := 0
  recentLatencies : List ℚ := []
  statusListeners : Listeners := {}
  sequenceGapListeners : Listeners := {}
  disconnectListeners : Listeners := {}
  deriving DecidableEq

namespace HeartbeatWatchdog

/-- `HeartbeatWatchdog.__init__`. -/
def create (gatewayId : String) (config : Option HeartbeatConfig) (protocol : TransportProtocol)
    (initialSequenceNumber initialTimestampNs : ℤ) (initialStatus : ConnectionStatus) : Except Exc HeartbeatWatchdog :=
  if strip gatewayId = "" then .error (nonFinite "gateway_id must be a non-empty string, got %" [.str gatewayId])
  else
    match positiveIntFault initialSequenceNumber "initial_sequence_number",
      nonNegativeIntFault initialTimestampNs "initial_timestamp_ns" with
    | some exc, _ => .error exc
    | none, some exc => .error exc
    | none, none => .ok
      { gatewayId := gatewayId
        config := config.getD .default
        protocol := protocol
        status := initialStatus
        lastHeartbeatTimestampNs := initialTimestampNs
        lastSequenceNumber := initialSequenceNumber - 1
        expectedSequenceNumber := initialSequenceNumber }

/-- The calls of the status listeners. -/
def notifyStatus (w : HeartbeatWatchdog) (oldStatus newStatus : ConnectionStatus) (timestampNs : ℤ) : List HeartbeatNotice :=
  w.statusListeners.callbacks.map (fun cb => .statusChanged cb w.gatewayId oldStatus newStatus timestampNs)

/-- Set the status; a new one is told to the status listeners. -/
def setStatus (w : HeartbeatWatchdog) (newStatus : ConnectionStatus) (timestampNs : ℤ) :
    HeartbeatWatchdog × List HeartbeatNotice :=
  ({ w with status := newStatus },
    if newStatus ≠ w.status then w.notifyStatus w.status newStatus timestampNs else [])

/-- `mark_reconnecting`. -/
def markReconnecting (w : HeartbeatWatchdog) (timestampNs : ℤ) : Except Exc (HeartbeatWatchdog × List HeartbeatNotice) :=
  match nonNegativeIntFault timestampNs "timestamp_ns" with
  | some exc => .error exc
  | none => .ok (w.setStatus .reconnecting timestampNs)

/-- `reset`. -/
def reset (w : HeartbeatWatchdog) (initialSequenceNumber currentTimestampNs : ℤ) :
    Except Exc (HeartbeatWatchdog × List HeartbeatNotice) :=
  match positiveIntFault initialSequenceNumber "initial_sequence_number",
    nonNegativeIntFault currentTimestampNs "current_timestamp_ns" with
  | some exc, _ => .error exc
  | none, some exc => .error exc
  | none, none => .ok <|
    { w with
      lastSequenceNumber := initialSequenceNumber - 1
      expectedSequenceNumber := initialSequenceNumber
      lastHeartbeatTimestampNs := currentTimestampNs
      consecutiveMisses := 0
      sequenceGapsCount := 0
      recentLatencies := [] }.setStatus .connected currentTimestampNs

/-- `append` of the `deque` of the last hundred latencies. -/
def pushLatency (latencies : List ℚ) (latencyMs : ℚ) : List ℚ :=
  (latencies ++ [latencyMs]).drop (latencies.length + 1 - 100)

/-- The heartbeat without its status. -/
def track (w : HeartbeatWatchdog) (sequenceNumber : ℤ) (latencyMs : ℚ) (timestampNs : ℤ) : HeartbeatWatchdog :=
  { w with
    lastHeartbeatTimestampNs := timestampNs
    consecutiveMisses := 0
    recentLatencies := pushLatency w.recentLatencies latencyMs
    sequenceGapsCount :=
      if sequenceNumber ≠ w.expectedSequenceNumber then w.sequenceGapsCount + 1 else w.sequenceGapsCount
    lastSequenceNumber := sequenceNumber
    -- a late packet leaves the watermark where it is
    expectedSequenceNumber :=
      if sequenceNumber ≥ w.expectedSequenceNumber then sequenceNumber + 1 else w.expectedSequenceNumber }

/-- The calls of the sequence gap listeners. -/
def notifyGap (w : HeartbeatWatchdog) (sequenceNumber timestampNs : ℤ) : List HeartbeatNotice :=
  if sequenceNumber ≠ w.expectedSequenceNumber then
    w.sequenceGapListeners.callbacks.map
      (fun cb => .sequenceGap cb w.gatewayId w.expectedSequenceNumber sequenceNumber timestampNs)
  else []

/-- The status a latency gives. -/
def latencyStatus (w : HeartbeatWatchdog) (latencyMs : ℚ) : ConnectionStatus :=
  if latencyMs ≥ w.config.latencyWarningThresholdMs then .degraded else .connected

/-- `record_heartbeat`. -/
def recordHeartbeat (w : HeartbeatWatchdog) (sequenceNumber : ℤ) (latencyMs : ℚ) (timestampNs : ℤ) :
    Except Exc (HeartbeatRecord × HeartbeatWatchdog × List HeartbeatNotice) :=
  match h1 : positiveIntFault sequenceNumber "sequence_number",
    h2 : nonNegativeFault latencyMs "latency_ms",
    h3 : positiveIntFault timestampNs "timestamp_ns" with
  | some exc, _, _ => .error exc
  | none, some exc, _ => .error exc
  | none, none, some exc => .error exc
  | none, none, none =>
    let w' := (w.track sequenceNumber latencyMs timestampNs).setStatus (w.latencyStatus latencyMs) timestampNs
    .ok
      ({ sequenceNumber := sequenceNumber
         timestampNs := timestampNs
         latencyMs := latencyMs
         status := w'.1.status
         sequenceNumber_pos := positiveIntFault_eq_none.1 h1
         timestampNs_pos := positiveIntFault_eq_none.1 h3
         latencyMs_nonneg := nonNegativeFault_eq_none.1 h2 },
        w'.1, w.notifyGap sequenceNumber timestampNs ++ w'.2)

/-- The silence at an instant, in seconds: an integer is rounded to a double before it is divided. -/
def elapsedSeconds (w : HeartbeatWatchdog) (currentTimestampNs : ℤ) : ℚ :=
  toDouble (toDouble ((max 0 (currentTimestampNs - w.lastHeartbeatTimestampNs) : ℤ) : ℚ) / 1000000000)

/-- The intervals of the silence, as `//` of doubles counts them. -/
def misses (w : HeartbeatWatchdog) (currentTimestampNs : ℤ) : ℤ :=
  floorDiv (w.elapsedSeconds currentTimestampNs) w.config.heartbeatIntervalSeconds

/-- `is_timed_out` of `check_liveness`. -/
def isTimedOut (w : HeartbeatWatchdog) (currentTimestampNs : ℤ) : Bool :=
  w.elapsedSeconds currentTimestampNs ≥ w.config.timeoutSeconds ∨ w.misses currentTimestampNs ≥ w.config.maxConsecutiveMisses

/-- The calls of the disconnect listeners. -/
def notifyDisconnect (w : HeartbeatWatchdog) (currentTimestampNs : ℤ) : List HeartbeatNotice :=
  w.disconnectListeners.callbacks.map
    (fun cb => .disconnected cb w.gatewayId (w.elapsedSeconds currentTimestampNs) currentTimestampNs)

/-- `check_liveness` once there is a baseline. -/
def evaluate (w : HeartbeatWatchdog) (currentTimestampNs : ℤ) : HeartbeatWatchdog × List HeartbeatNotice :=
  let w' := { w with consecutiveMisses := w.misses currentTimestampNs }
  if w.isTimedOut currentTimestampNs then
    if w.status ≠ .disconnected then
      let r := w'.setStatus .disconnected currentTimestampNs
      (r.1, w.notifyDisconnect currentTimestampNs ++ r.2)
    else (w', [])
  else if w.misses currentTimestampNs ≥ 1 then
    if w.status = .connected then w'.setStatus .degraded currentTimestampNs else (w', [])
  else (w', [])

/-- `check_liveness`. -/
def checkLiveness (w : HeartbeatWatchdog) (currentTimestampNs : ℤ) :
    Except Exc (ConnectionStatus × HeartbeatWatchdog × List HeartbeatNotice) :=
  match positiveIntFault currentTimestampNs "current_timestamp_ns" with
  | some exc => .error exc
  | none =>
    if w.lastHeartbeatTimestampNs = 0 then
      .ok (w.status, { w with lastHeartbeatTimestampNs := currentTimestampNs }, [])
    else
      let r := w.evaluate currentTimestampNs
      .ok (r.1.status, r)

end HeartbeatWatchdog

end Quant
