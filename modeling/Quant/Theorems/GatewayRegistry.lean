import Quant.Execution.RiskOrchestrator
import Quant.Pylib.Decimal
import Quant.Pylib.Runs
import Quant.Theorems.Heartbeat

/-!
# Gateways and their watchdogs

The registries of `RiskOrchestrator`: the gateways, which the kill switch keeps too, the default among them, and the watchdogs,
each with the closure that asks for a panic when its gateway falls silent. The two registries of gateways agree over every run; a
watched gateway is never left without its closure; and where no gateway is given a second watchdog, no watchdog is left with a
closure of a gateway that is gone.
-/

namespace Quant

open Pylib HeartbeatWatchdog

/-! ## The desk -/

/-- A watchdog object, by identity. -/
abbrev WatchdogRef := ℕ

/-- The identifier a gateway has of itself: its own, its venue's or one made of its class. -/
structure DerivedId where
  id : String
  strip_eq : strip id = id
  ne_empty : id ≠ ""

/-- The orchestrator and the watchdogs it knows of. Callables are numbered as they are made; the closures are those of the
orchestrator. -/
structure GatewayDesk where
  orchestrator : RiskOrchestrator
  watchdogs : Dict String WatchdogRef := ∅
  disconnectCallbacks : Dict String CallbackRef := ∅
  objects : WatchdogRef → HeartbeatWatchdog
  callables : CallbackRef := 0
  closures : List CallbackRef := []
  panics : List PanicFields := []

namespace GatewayDesk

def gateways (d : GatewayDesk) : Dict String GatewayRef := d.orchestrator.gateways

def defaultId (d : GatewayDesk) : Option String := d.orchestrator.defaultGatewayId

/-- A digit for each decimal. -/
def padded (n : ℕ) (digits : List Char) : List Char := List.replicate (n - digits.length) '0' ++ digits

/-- A number that is not negative, with three decimals. -/
def fixed3 (x : ℚ) : String :=
  let k := (nearestInt (x * 1000)).toNat
  (k / 1000).repr ++ "." ++ String.ofList (padded 3 (k % 1000).repr.toList)

/-- `_on_disconnect`: the panic it asks for. -/
def onDisconnect (gwId : String) (elapsedSec : ℚ) (tsNs : ℤ) : PanicFields :=
  { reason := .gatewayDisconnect
    source := gwId
    details := "Watchdog silence timeout (" ++ fixed3 elapsedSec ++ "s elapsed)"
    timestampNs := tsNs.toNat }

/-- The panics the closures ask for when they are told. -/
def closurePanic (closures : List CallbackRef) : HeartbeatNotice → Option PanicFields
  | .disconnected cb gwId elapsed t => if cb ∈ closures then some (onDisconnect gwId elapsed t) else none
  | _ => none

/-- The orchestrator once the switch has taken a gateway. -/
def adopt (o : RiskOrchestrator) (ks : EmergencyKillSwitch) (id : String) (gw : GatewayRef) (isDefault : Bool) :
    RiskOrchestrator :=
  { o with
    killSwitch := ks
    gateways := o.gateways.set id gw
    defaultGatewayId := if isDefault = true ∨ o.defaultGatewayId = none then some id else o.defaultGatewayId }

/-- A new closure, with the watchdog of a gateway. -/
def watch (d : GatewayDesk) (id : String) (r : WatchdogRef) : GatewayDesk :=
  { d with
    watchdogs := d.watchdogs.set id r
    disconnectCallbacks := d.disconnectCallbacks.set id d.callables
    objects := Function.update d.objects r
      { d.objects r with disconnectListeners := (d.objects r).disconnectListeners.register d.callables }
    callables := d.callables + 1
    closures := d.closures ++ [d.callables] }

/-- `register_gateway`. -/
def registerGateway (d : GatewayDesk) (gw : GatewayRef) (watchdog : Option WatchdogRef) (gatewayId : Option String)
    (derived : DerivedId)
    (isDefault : Bool) : Except Exc String × GatewayDesk :=
  match d.orchestrator.killSwitch.registerGateway gw gatewayId derived.id with
  | .error exc => (.error exc, d)
  | .ok ks =>
    let resolvedId := (gatewayId.map strip).getD derived.id
    let d := { d with orchestrator := adopt d.orchestrator ks resolvedId gw isDefault }
    match watchdog with
    | none => (.ok resolvedId, d)
    | some r => (.ok resolvedId, d.watch resolvedId r)

/-- The watchdog of a gateway is let go, and the closure with it. -/
def unwatch (d : GatewayDesk) (gid : String) : GatewayDesk :=
  match d.watchdogs.get? gid, d.disconnectCallbacks.get? gid with
  | none, _ => d
  | some _, none => { d with watchdogs := d.watchdogs.erase gid }
  | some r, some cb =>
    { d with
      watchdogs := d.watchdogs.erase gid
      disconnectCallbacks := d.disconnectCallbacks.erase gid
      objects := Function.update d.objects r
        { d.objects r with disconnectListeners := (d.objects r).disconnectListeners.unregister cb } }

/-- The orchestrator once a gateway is deleted. -/
def release (o : RiskOrchestrator) (ks : EmergencyKillSwitch) (gid : String) : RiskOrchestrator :=
  { o with
    killSwitch := ks
    gateways := o.gateways.erase gid
    defaultGatewayId := if o.defaultGatewayId = some gid then (o.gateways.erase gid).keys.head? else o.defaultGatewayId }

/-- `unregister_gateway`. -/
def unregisterGateway (d : GatewayDesk) (gatewayId : String) : Except Exc Unit × GatewayDesk :=
  let gid := strip gatewayId
  if gid = "" then (.error ⟨.valueError, "gateway_id must be a non-empty string, got %", [.str gatewayId]⟩, d)
  else if ¬ d.gateways.contains gid then
    (.error ⟨.keyError, "Gateway '%' is not registered in RiskOrchestrator.", [.str gid]⟩, d)
  else
    let d := d.unwatch gid
    match d.orchestrator.killSwitch.unregisterGateway gid with
    | .error exc => (.error exc, { d with orchestrator := { d.orchestrator with gateways := d.gateways.erase gid } })
    | .ok ks => (.ok (), { d with orchestrator := release d.orchestrator ks gid })

/-- `set_default_gateway`. -/
def setDefaultGateway (d : GatewayDesk) (gatewayId : String) : Except Exc Unit × GatewayDesk :=
  if ¬ d.gateways.contains gatewayId then (.error ⟨.keyError, "Gateway '%' is not registered.", [.str gatewayId]⟩, d)
  else (.ok (), { d with orchestrator := { d.orchestrator with defaultGatewayId := some gatewayId } })

/-- A call of a watchdog; its disconnect listeners are told, and the closures among them ask for a panic. -/
def watchdogCall (d : GatewayDesk) (r : WatchdogRef) (c : HeartbeatCall) : GatewayDesk :=
  { d with
    objects := Function.update d.objects r ((d.objects r).call c).2.1
    panics := d.panics ++ ((d.objects r).call c).2.2.filterMap (closurePanic d.closures) }

/-- Somebody else listens to a watchdog. -/
def listen (d : GatewayDesk) (r : WatchdogRef) : GatewayDesk :=
  { d with
    objects := Function.update d.objects r
      { d.objects r with disconnectListeners := (d.objects r).disconnectListeners.register d.callables }
    callables := d.callables + 1 }

/-- `reset_kill_switch`, `disarm_kill_switch` and `arm_kill_switch`. -/
def admin (d : GatewayDesk) (op : EmergencyKillSwitch → String → Except Exc EmergencyKillSwitch) (token : String) : GatewayDesk :=
  match op d.orchestrator.killSwitch token with
  | .error _ => d
  | .ok ks => { d with orchestrator := { d.orchestrator with killSwitch := ks } }

/-! ## Steps -/

inductive Op where
  | registerGateway (gw : GatewayRef) (watchdog : Option WatchdogRef) (gatewayId : Option String) (derived : DerivedId)
      (isDefault : Bool)
  | unregisterGateway (gatewayId : String)
  | setDefaultGateway (gatewayId : String)
  | watchdogCall (r : WatchdogRef) (c : HeartbeatCall)
  | listen (r : WatchdogRef)
  | reset (token : String)
  | disarm (token : String)
  | arm (token : String)

/-- What an operation leaves, whether it returns or raises. -/
def step (d : GatewayDesk) : Op → GatewayDesk
  | .registerGateway gw watchdog gatewayId derived isDefault => (d.registerGateway gw watchdog gatewayId derived isDefault).2
  | .unregisterGateway gatewayId => (d.unregisterGateway gatewayId).2
  | .setDefaultGateway gatewayId => (d.setDefaultGateway gatewayId).2
  | .watchdogCall r c => d.watchdogCall r c
  | .listen r => d.listen r
  | .reset token => d.admin EmergencyKillSwitch.reset token
  | .disarm token => d.admin EmergencyKillSwitch.disarm token
  | .arm token => d.admin EmergencyKillSwitch.arm token

/-- A registration gives no second watchdog to a gateway that has one. -/
def WatchesOnce (d : GatewayDesk) : Op → Prop
  | .registerGateway _ (some _) gatewayId derived _ => d.watchdogs.contains ((gatewayId.map strip).getD derived.id) = false
  | _ => True

/-- Nothing is registered, and nobody listens. -/
structure Fresh (d : GatewayDesk) : Prop where
  gateways : d.gateways = ∅
  killSwitch : d.orchestrator.killSwitch.gateways = ∅
  defaultId : d.defaultId = none
  watchdogs : d.watchdogs = ∅
  disconnectCallbacks : d.disconnectCallbacks = ∅
  closures : d.closures = []
  listeners : ∀ r, (d.objects r).disconnectListeners.callbacks = []
  named : ∀ r, strip (d.objects r).gatewayId ≠ ""
  panics : d.panics = []

/-! ## An empty desk -/

/-- An orchestrator without gateways. -/
def bareOrchestrator : RiskOrchestrator where
  killSwitch := { adminToken := "T" }
  limits :=
    { maxOrderNotional := 1000
      maxOrderQty := 100
      maxGrossLeverage := 1
      maxNetLeverage := 1
      maxConcentrationNavPct := 1
      maxIntradayDrawdownPct := 1 / 2
      maxOrderNotional_pos := Literal.thousand_pos
      maxOrderQty_pos := Literal.hundred_pos
      maxGrossLeverage_pos := Literal.one_pos
      maxNetLeverage_pos := Literal.one_pos
      maxConcentrationNavPct_pos := Literal.one_pos
      maxIntradayDrawdownPct_pos := Literal.half_pos
      minFreeMargin_nonneg := Literal.zero_nonneg }
  state := { cash := 10 ^ 6, peakEquity := 10 ^ 6, initialEquity := 10 ^ 6 }

/-- Two connections that nobody watches yet. -/
def emptyDesk : GatewayDesk where
  orchestrator := bareOrchestrator
  objects _ := fixWatchdog

theorem fresh_emptyDesk : emptyDesk.Fresh := by
  have hnamed : strip fixWatchdog.gatewayId ≠ "" := by decide
  exact ⟨rfl, rfl, rfl, rfl, rfl, rfl, fun _ => rfl, fun _ => hnamed, rfl⟩

/-- The class of a gateway, with its address. -/
def paperId : DerivedId := ⟨"PaperExecutionGateway_1", by decide, by decide⟩

/-- A watched gateway, and one heartbeat of it. -/
def watchedDesk : GatewayDesk :=
  (emptyDesk.step (.registerGateway 0 (some 0) none paperId false)).step (.watchdogCall 0 (.recordHeartbeat 1 10 1000000000))

/-- The gateway is given another watchdog, and goes. -/
def rewatchedDesk : GatewayDesk :=
  (watchedDesk.step (.registerGateway 0 (some 1) none paperId false)).step (.unregisterGateway "PaperExecutionGateway_1")

/-! ## What the operations do -/

/-- The switch refuses a blank identifier, or takes the gateway under one that is stripped. -/
theorem switch_registerGateway_cases (ks : EmergencyKillSwitch) (gw : GatewayRef) (gatewayId : Option String)
    (derived : DerivedId) :
    (∃ exc, ks.registerGateway gw gatewayId derived.id = .error exc) ∨
      ∃ ks', ks.registerGateway gw gatewayId derived.id = .ok ks' ∧
        ks'.gateways = ks.gateways.set ((gatewayId.map strip).getD derived.id) gw ∧
        strip ((gatewayId.map strip).getD derived.id) = (gatewayId.map strip).getD derived.id ∧
        (gatewayId.map strip).getD derived.id ≠ "" := by
  unfold EmergencyKillSwitch.registerGateway
  cases gatewayId with
  | none => exact .inr ⟨_, rfl, rfl, derived.strip_eq, derived.ne_empty⟩
  | some given =>
    by_cases hblank : strip given = ""
    · left
      simp [Option.filter, hblank]
    · right
      simp [Option.filter, hblank]

/-- A registration raises and changes nothing, or adopts the gateway under the identifier it resolves. -/
theorem registerGateway_cases (d : GatewayDesk) (gw : GatewayRef) (watchdog : Option WatchdogRef) (gatewayId : Option String)
    (derived : DerivedId)
    (isDefault : Bool) :
    (d.registerGateway gw watchdog gatewayId derived isDefault).2 = d ∨
      ∃ id ks, id = (gatewayId.map strip).getD derived.id ∧ strip id = id ∧ id ≠ "" ∧
        ks.gateways = d.orchestrator.killSwitch.gateways.set id gw ∧
        (d.registerGateway gw watchdog gatewayId derived isDefault).2 =
          watchdog.elim { d with orchestrator := adopt d.orchestrator ks id gw isDefault }
            (watch { d with orchestrator := adopt d.orchestrator ks id gw isDefault } id) := by
  unfold registerGateway
  rcases switch_registerGateway_cases d.orchestrator.killSwitch gw gatewayId derived with ⟨exc, hexc⟩ | ⟨ks, hks,
      hset, hstrip, hne⟩
  · left
    rw [hexc]
  · right
    refine ⟨_, ks, rfl, hstrip, hne, hset, ?_⟩
    rw [hks]
    cases watchdog <;> rfl

/-- An administrator's operation leaves the registries alone. -/
theorem admin_gateways (d : GatewayDesk) (token : String) {op : EmergencyKillSwitch → String → Except Exc EmergencyKillSwitch}
    (hop : ∀ ks ks', op ks token = .ok ks' → ks'.gateways = ks.gateways) :
    ∃ ks, ks.gateways = d.orchestrator.killSwitch.gateways ∧
      d.admin op token = { d with orchestrator := { d.orchestrator with killSwitch := ks } } := by
  unfold admin
  cases h : op d.orchestrator.killSwitch token with
  | error exc => exact ⟨d.orchestrator.killSwitch, rfl, rfl⟩
  | ok ks => exact ⟨ks, hop _ _ h, rfl⟩

theorem reset_gateways {ks ks' : EmergencyKillSwitch} {token : String} (h : ks.reset token = .ok ks') :
    ks'.gateways = ks.gateways := by
  unfold EmergencyKillSwitch.reset at h
  split_ifs at h
  cases h
  rfl

theorem disarm_gateways {ks ks' : EmergencyKillSwitch} {token : String} (h : ks.disarm token = .ok ks') :
    ks'.gateways = ks.gateways := by
  unfold EmergencyKillSwitch.disarm at h
  split_ifs at h
  cases h
  rfl

theorem arm_gateways {ks ks' : EmergencyKillSwitch} {token : String} (h : ks.arm token = .ok ks') :
    ks'.gateways = ks.gateways := by
  unfold EmergencyKillSwitch.arm at h
  split_ifs at h
  cases h
  rfl

theorem unwatch_orchestrator (d : GatewayDesk) (gid : String) : (d.unwatch gid).orchestrator = d.orchestrator := by
  unfold unwatch
  split <;> rfl

/-! ## The registries agree -/

/-- The kill switch knows the gateways the orchestrator knows, in the same order, and the default is one of them wherever there is
one. -/
structure Agree (d : GatewayDesk) : Prop where
  killSwitch : d.orchestrator.killSwitch.gateways = d.gateways
  names : ∀ id ∈ d.gateways.keys, strip id = id ∧ id ≠ ""
  default_mem : ∀ id, d.defaultId = some id → d.gateways.contains id = true
  default_none : d.defaultId = none → d.gateways = ∅

/-- Where they agree, a gateway is deleted from both. -/
theorem unregisterGateway_cases {d : GatewayDesk} (h : d.Agree) (gatewayId : String) :
    (d.unregisterGateway gatewayId).2 = d ∧ d.gateways.contains (strip gatewayId) = false ∧
      (d.unregisterGateway gatewayId).1.isOk = false ∨
      ∃ ks, d.gateways.contains (strip gatewayId) = true ∧ ks.gateways = d.gateways.erase (strip gatewayId) ∧
        d.unregisterGateway gatewayId =
        (.ok (), { d.unwatch (strip gatewayId) with orchestrator := release d.orchestrator ks (strip gatewayId) }) := by
  unfold unregisterGateway
  by_cases hblank : strip gatewayId = ""
  · left
    refine ⟨by simp only [hblank, if_true], ?_, by simp only [hblank, if_true]; rfl⟩
    rw [Bool.eq_false_iff]
    intro hmem
    exact (h.names _ ((Dict.mem_keys_iff _ _).2 hmem)).2 hblank
  · by_cases hmem : d.gateways.contains (strip gatewayId) = true
    · right
      obtain ⟨ks, hswitch, hks⟩ : ∃ ks, d.orchestrator.killSwitch.unregisterGateway (strip gatewayId) = .ok ks ∧
          ks.gateways = d.gateways.erase (strip gatewayId) := by
        unfold EmergencyKillSwitch.unregisterGateway
        rw [strip_strip, h.killSwitch, if_neg hblank, if_neg (not_not.2 hmem)]
        exact ⟨_, rfl, rfl⟩
      refine ⟨ks, hmem, hks, ?_⟩
      simp only [unwatch_orchestrator, hswitch]
      rw [if_neg hblank, if_neg (not_not.2 hmem)]
    · left
      simp only [hmem, Bool.false_eq_true, not_false_eq_true, if_true]
      split_ifs
      exact ⟨rfl, trivial, rfl⟩

theorem Agree.of_orchestrator {d d' : GatewayDesk} (h : d.Agree) (horch : d'.orchestrator = d.orchestrator) : d'.Agree := by
  obtain ⟨hks, hnames, hmem, hnone⟩ := h
  refine ⟨?_, ?_, ?_, ?_⟩ <;> simp only [gateways, defaultId, horch] at * <;> assumption

/-- The first gateway is the default, and another one only where it is asked for. -/
theorem Agree.adopt {d : GatewayDesk} (h : d.Agree) {ks : EmergencyKillSwitch} {id : String} {gw : GatewayRef} (isDefault : Bool)
    (hks : ks.gateways = d.orchestrator.killSwitch.gateways.set id gw) (hstrip : strip id = id) (hne : id ≠ "") :
    Agree { d with orchestrator := adopt d.orchestrator ks id gw isDefault } where
  killSwitch := by
    change ks.gateways = d.gateways.set id gw
    rw [hks, h.killSwitch]
  names id' hid' := by
    rcases (Dict.contains_set d.gateways id id' gw).1 ((Dict.mem_keys_iff _ _).1 hid') with rfl | hold
    · exact ⟨hstrip, hne⟩
    · exact h.names id' ((Dict.mem_keys_iff _ _).2 hold)
  default_mem id' hid' := by
    change (if isDefault = true ∨ d.defaultId = none then some id else d.defaultId) = some id' at hid'
    refine (Dict.contains_set d.gateways id id' gw).2 ?_
    split_ifs at hid'
    · exact .inl (Option.some.inj hid').symm
    · exact .inr (h.default_mem id' hid')
  default_none hnone := by
    change (if isDefault = true ∨ d.defaultId = none then some id else d.defaultId) = none at hnone
    split_ifs at hnone with hcond
    exact absurd (Or.inr hnone) hcond

/-- A dictionary without a first key has none. -/
theorem eq_empty_of_head? {κ ν : Type} [DecidableEq κ] {d : Dict κ ν} (h : d.keys.head? = none) : d = ∅ := by
  refine Dict.ext ?_
  rw [List.head?_eq_none_iff, Dict.keys, List.map_eq_nil_iff] at h
  exact h

/-- When the default goes, the oldest of the others takes its place. -/
theorem Agree.release {d : GatewayDesk} (h : d.Agree) {ks : EmergencyKillSwitch} {gid : String}
    (hmem : d.gateways.contains gid = true)
    (hks : ks.gateways = d.gateways.erase gid) : Agree { d with orchestrator := release d.orchestrator ks gid } where
  killSwitch := hks
  names id' hid' := h.names id' ((Dict.mem_keys_iff _ _).2
    ((Dict.contains_erase d.gateways gid id').1 ((Dict.mem_keys_iff _ _).1 hid')).2)
  default_mem id' hid' := by
    change (if d.defaultId = some gid then (d.gateways.erase gid).keys.head? else d.defaultId) = some id' at hid'
    change (d.gateways.erase gid).contains id' = true
    split_ifs at hid' with hdefault
    · exact (Dict.mem_keys_iff _ _).1 (List.mem_of_head? hid')
    · refine (Dict.contains_erase d.gateways gid id').2 ⟨?_, h.default_mem id' hid'⟩
      rintro rfl
      exact hdefault hid'
  default_none hnone := by
    change (if d.defaultId = some gid then (d.gateways.erase gid).keys.head? else d.defaultId) = none at hnone
    change d.gateways.erase gid = ∅
    split_ifs at hnone
    · exact eq_empty_of_head? hnone
    · rw [h.default_none hnone] at hmem
      cases hmem

theorem Agree.step {d : GatewayDesk} (h : d.Agree) (op : Op) : (d.step op).Agree := by
  cases op with
  | registerGateway gw watchdog gatewayId derived isDefault =>
    change (d.registerGateway gw watchdog gatewayId derived isDefault).2.Agree
    rcases registerGateway_cases d gw watchdog gatewayId derived isDefault with hsame | ⟨id, ks, -, hstrip, hne, hks, hres⟩
    · rwa [hsame]
    · rw [hres]
      have hadopt := h.adopt isDefault hks hstrip hne
      cases watchdog with
      | none => exact hadopt
      | some r => exact hadopt.of_orchestrator rfl
  | unregisterGateway gatewayId =>
    change (d.unregisterGateway gatewayId).2.Agree
    rcases unregisterGateway_cases h gatewayId with ⟨hsame, -, -⟩ | ⟨ks, hmem, hks, hres⟩
    · rwa [hsame]
    · rw [hres]
      exact (h.release hmem hks).of_orchestrator rfl
  | setDefaultGateway gatewayId =>
    change (d.setDefaultGateway gatewayId).2.Agree
    unfold setDefaultGateway
    split_ifs with hmem
    · refine ⟨h.killSwitch, h.names, fun id hid => ?_, fun hnone => by cases hnone⟩
      obtain rfl : gatewayId = id := Option.some.inj hid
      exact hmem
    · exact h
  | watchdogCall r c => exact h.of_orchestrator rfl
  | listen r => exact h.of_orchestrator rfl
  | reset token =>
    obtain ⟨ks, hks, hres⟩ := admin_gateways d token fun _ _ => reset_gateways
    change (d.admin EmergencyKillSwitch.reset token).Agree
    rw [hres]
    exact ⟨hks.trans h.killSwitch, h.names, h.default_mem, h.default_none⟩
  | disarm token =>
    obtain ⟨ks, hks, hres⟩ := admin_gateways d token fun _ _ => disarm_gateways
    change (d.admin EmergencyKillSwitch.disarm token).Agree
    rw [hres]
    exact ⟨hks.trans h.killSwitch, h.names, h.default_mem, h.default_none⟩
  | arm token =>
    obtain ⟨ks, hks, hres⟩ := admin_gateways d token fun _ _ => arm_gateways
    change (d.admin EmergencyKillSwitch.arm token).Agree
    rw [hres]
    exact ⟨hks.trans h.killSwitch, h.names, h.default_mem, h.default_none⟩

theorem Fresh.agree {d : GatewayDesk} (h : d.Fresh) : d.Agree where
  killSwitch := h.killSwitch.trans h.gateways.symm
  names id hid := by
    rw [h.gateways] at hid
    cases hid
  default_mem id hid := by
    rw [h.defaultId] at hid
    cases hid
  default_none _ := h.gateways

/-- An order without a target has a gateway wherever there is one, and it is the default. -/
theorem Agree.resolveGateway {d : GatewayDesk} (h : d.Agree) :
    d.gateways = ∅ ∧ (∃ exc, d.orchestrator.resolveGateway none = .error exc) ∨
      ∃ id gw, d.defaultId = some id ∧ d.gateways.get? id = some gw ∧ d.orchestrator.resolveGateway none = .ok gw := by
  cases hdefault : d.defaultId with
  | none =>
    left
    have hempty := h.default_none hdefault
    refine ⟨hempty, ⟨.runtimeError, "No execution gateways registered in RiskOrchestrator.", []⟩, ?_⟩
    simp only [RiskOrchestrator.resolveGateway, show d.orchestrator.defaultGatewayId = none from hdefault,
      show d.orchestrator.gateways = ∅ from hempty]
    rfl
  | some id =>
    right
    obtain ⟨gw, hgw⟩ := Option.isSome_iff_exists.1 (h.default_mem id hdefault)
    refine ⟨id, gw, rfl, hgw, ?_⟩
    simp only [RiskOrchestrator.resolveGateway, show d.orchestrator.defaultGatewayId = some id from hdefault, Option.bind_some,
      show d.orchestrator.gateways.get? id = some gw from hgw]

/-- Over every run the two registries agree, and an order without a target goes to the default gateway wherever any gateway is
left. -/
theorem agree_of_run {d d' : GatewayDesk} (hfresh : d.Fresh) (h : Run (stepOf step) (fun _ _ => True) d d') :
    d'.orchestrator.killSwitch.gateways = d'.gateways ∧
      (d'.gateways = ∅ ∧ (∃ exc, d'.orchestrator.resolveGateway none = .error exc) ∨
        ∃ id gw, d'.defaultId = some id ∧ d'.gateways.get? id = some gw ∧ d'.orchestrator.resolveGateway none = .ok gw) ∧
      ∀ id, (d'.unregisterGateway id).1.isOk = d'.gateways.contains (strip id) := by
  have hagree : d'.Agree := h.invariant (I := Agree) (fun t op u ht _ (hu : u = t.step op) => hu ▸ ht.step op) hfresh.agree
  refine ⟨hagree.killSwitch, hagree.resolveGateway, fun id => ?_⟩
  rcases unregisterGateway_cases hagree id with ⟨-, hmem, hraised⟩ | ⟨ks, hmem, -, hres⟩
  · rw [hmem, hraised]
  · rw [hmem, hres]
    rfl

theorem agree_of_run_watched :
    watchedDesk.orchestrator.killSwitch.gateways = watchedDesk.gateways ∧
      (watchedDesk.gateways = ∅ ∧ (∃ exc, watchedDesk.orchestrator.resolveGateway none = .error exc) ∨
        ∃ id gw, watchedDesk.defaultId = some id ∧ watchedDesk.gateways.get? id = some gw ∧
          watchedDesk.orchestrator.resolveGateway none = .ok gw) ∧
      ∀ id, (watchedDesk.unregisterGateway id).1.isOk = watchedDesk.gateways.contains (strip id) :=
  agree_of_run fresh_emptyDesk ((Run.refl.tail trivial rfl).tail trivial rfl)

/-! ## Watched gateways -/

section Notices

/-- A call keeps the name of a watchdog and who listens for its disconnects. -/
theorem call_keeps (w : HeartbeatWatchdog) (c : HeartbeatCall) :
    (w.call c).2.1.gatewayId = w.gatewayId ∧ (w.call c).2.1.disconnectListeners = w.disconnectListeners := by
  by_cases hc : c.Accepted
  · cases c with
    | recordHeartbeat n latency t =>
      rw [call_recordHeartbeat w hc]
      exact ⟨rfl, rfl⟩
    | markReconnecting t =>
      rw [call_markReconnecting w hc]
      exact ⟨rfl, rfl⟩
    | reset n t =>
      rw [call_reset w hc]
      exact ⟨rfl, rfl⟩
    | checkLiveness t =>
      by_cases hcold : w.lastHeartbeatTimestampNs = 0
      · rw [call_checkLiveness_cold hc hcold]
        exact ⟨rfl, rfl⟩
      · rw [call_checkLiveness hc hcold]
        change (w.evaluate t).1.gatewayId = _ ∧ (w.evaluate t).1.disconnectListeners = _
        rw [evaluate_fst]
        exact ⟨rfl, rfl⟩
  · obtain ⟨exc, hexc⟩ := call_of_not_accepted w hc
    rw [hexc]
    exact ⟨rfl, rfl⟩

/-- Silence that a look at an instant finds, for the first time. -/
def FallsSilent (w : HeartbeatWatchdog) (t : ℤ) : Prop :=
  0 < t ∧ w.lastHeartbeatTimestampNs ≠ 0 ∧ w.isTimedOut t = true ∧ w.status ≠ .disconnected

instance (w : HeartbeatWatchdog) (t : ℤ) : Decidable (FallsSilent w t) := inferInstanceAs (Decidable (_ ∧ _))

/-- The calls that find it. -/
def FindsSilent (w : HeartbeatWatchdog) : HeartbeatCall → Prop
  | .checkLiveness t => FallsSilent w t
  | _ => False

instance (w : HeartbeatWatchdog) : DecidablePred (FindsSilent w)
  | .checkLiveness t => inferInstanceAs (Decidable (FallsSilent w t))
  | .recordHeartbeat .. | .markReconnecting _ | .reset .. => inferInstanceAs (Decidable False)

theorem closurePanic_statusChanged (closures : List CallbackRef) (w : HeartbeatWatchdog) (old new : ConnectionStatus) (t : ℤ) :
    (w.notifyStatus old new t).filterMap (closurePanic closures) = [] := by
  simp [notifyStatus, List.filterMap_eq_nil_iff, closurePanic]

theorem closurePanic_setStatus (closures : List CallbackRef) (w : HeartbeatWatchdog) (new : ConnectionStatus) (t : ℤ) :
    (w.setStatus new t).2.filterMap (closurePanic closures) = [] := by
  unfold setStatus
  split
  · exact closurePanic_statusChanged closures w _ new t
  · rfl

/-- Who is told of a disconnect, and who of them asks for a panic. -/
theorem closurePanic_notifyDisconnect (closures : List CallbackRef) (w : HeartbeatWatchdog) (t : ℤ) :
    (w.notifyDisconnect t).filterMap (closurePanic closures) =
      (w.disconnectListeners.callbacks.filter (· ∈ closures)).map fun _ => onDisconnect w.gatewayId (w.elapsedSeconds t) t := by
  rw [notifyDisconnect]
  induction w.disconnectListeners.callbacks with
  | nil => rfl
  | cons cb cbs ih =>
    by_cases hcb : cb ∈ closures
    · simp [closurePanic, hcb, ih]
    · simp [closurePanic, hcb, ih]

/-- A look asks for a panic where it finds a gateway silent, once for each closure that listens. -/
theorem panics_of_look (closures : List CallbackRef) (w : HeartbeatWatchdog) (t : ℤ) :
    (w.call (.checkLiveness t)).2.2.filterMap (closurePanic closures) =
      if FallsSilent w t then
        (w.disconnectListeners.callbacks.filter (· ∈ closures)).map fun _ => onDisconnect w.gatewayId (w.elapsedSeconds t) t
      else [] := by
  by_cases ht : 0 < t
  · by_cases hcold : w.lastHeartbeatTimestampNs = 0
    · rw [if_neg fun h : FallsSilent w t => h.2.1 hcold, call_checkLiveness_cold ht hcold]
      rfl
    · rw [call_checkLiveness ht hcold]
      change (w.evaluate t).2.filterMap (closurePanic closures) = _
      by_cases hsilent : FallsSilent w t
      · obtain ⟨-, -, hout, hstatus⟩ := hsilent
        rw [if_pos ⟨ht, hcold, hout, hstatus⟩, ← closurePanic_notifyDisconnect]
        simp [evaluate, hout, hstatus, closurePanic_setStatus]
      · rw [if_neg hsilent]
        unfold evaluate
        split_ifs with hout hstatus
        · exact absurd ⟨ht, hcold, hout, hstatus⟩ hsilent
        · rfl
        · exact closurePanic_setStatus closures _ _ t
        · rfl
        · rfl
  · obtain ⟨exc, hexc⟩ := call_of_not_accepted w (c := .checkLiveness t) ht
    rw [if_neg fun h : FallsSilent w t => ht h.1, hexc]
    rfl

/-- No other call does. -/
theorem panics_of_other (closures : List CallbackRef) (w : HeartbeatWatchdog) {c : HeartbeatCall} (hother : c.isCheck = false) :
    (w.call c).2.2.filterMap (closurePanic closures) = [] := by
  cases c with
  | recordHeartbeat n latency t =>
    simp only [call, HeartbeatWatchdog.recordHeartbeat]
    split <;> rename_i heq
    · rfl
    · split at heq <;> cases heq
      rw [List.filterMap_append, closurePanic_setStatus, List.append_nil]
      unfold notifyGap
      split_ifs
      · simp [List.filterMap_eq_nil_iff, closurePanic]
      · rfl
  | markReconnecting t =>
    simp only [call, HeartbeatWatchdog.markReconnecting]
    split <;> rename_i heq
    · rfl
    · split at heq <;> cases heq
      exact closurePanic_setStatus closures w _ t
  | reset n t =>
    simp only [call, HeartbeatWatchdog.reset]
    split <;> rename_i heq
    · rfl
    · split at heq <;> cases heq
      exact closurePanic_setStatus closures _ _ t
  | checkLiveness t => cases hother

end Notices

theorem mem_register (ls : Listeners) (cb cb' : CallbackRef) :
    cb' ∈ (ls.register cb).callbacks ↔ cb' ∈ ls.callbacks ∨ cb' = cb := by
  unfold Listeners.register
  split_ifs with h
  · constructor
    · exact .inl
    · rintro (hold | rfl)
      · exact hold
      · exact h
  · simp

theorem mem_unregister (ls : Listeners) (cb cb' : CallbackRef) :
    cb' ∈ (ls.unregister cb).callbacks ↔ cb' ≠ cb ∧ cb' ∈ ls.callbacks :=
  ls.nodup.mem_erase_iff

/-- A callable listens for the disconnects of a watchdog. -/
def Listens (d : GatewayDesk) (r : WatchdogRef) (cb : CallbackRef) : Prop := cb ∈ (d.objects r).disconnectListeners.callbacks

/-- Where one watchdog is replaced, its listeners are those of the new one, and nobody else's change. -/
theorem listens_update {d d' : GatewayDesk} {r : WatchdogRef} {w : HeartbeatWatchdog}
    (h : d'.objects = Function.update d.objects r w)
    (r' : WatchdogRef) (cb : CallbackRef) :
    d'.Listens r' cb ↔ if r' = r then cb ∈ w.disconnectListeners.callbacks else d.Listens r' cb := by
  change cb ∈ (d'.objects r').disconnectListeners.callbacks ↔ _
  rw [h, Function.update_apply]
  by_cases hr : r' = r
  · rw [if_pos hr, if_pos hr]
  · rw [if_neg hr, if_neg hr]
    exact Iff.rfl

/-- A watchdog that takes on one more listener. -/
theorem listens_register {d d' : GatewayDesk} {r : WatchdogRef} {new : CallbackRef}
    (h : d'.objects = Function.update d.objects r
      { d.objects r with disconnectListeners := (d.objects r).disconnectListeners.register new })
    (r' : WatchdogRef) (cb : CallbackRef) : d'.Listens r' cb ↔ d.Listens r' cb ∨ r' = r ∧ cb = new := by
  rw [listens_update h]
  by_cases hr : r' = r
  · subst hr
    rw [if_pos rfl, mem_register, and_iff_right rfl]
    exact Iff.rfl
  · rw [if_neg hr, or_iff_left (fun hnew => hr hnew.1)]

theorem listens_watch (d : GatewayDesk) (id : String) (r r' : WatchdogRef) (cb : CallbackRef) :
    (d.watch id r).Listens r' cb ↔ d.Listens r' cb ∨ r' = r ∧ cb = d.callables :=
  listens_register rfl r' cb

theorem listens_listen (d : GatewayDesk) (r r' : WatchdogRef) (cb : CallbackRef) :
    (d.listen r).Listens r' cb ↔ d.Listens r' cb ∨ r' = r ∧ cb = d.callables :=
  listens_register rfl r' cb

theorem listens_watchdogCall (d : GatewayDesk) (r r' : WatchdogRef) (c : HeartbeatCall) (cb : CallbackRef) :
    (d.watchdogCall r c).Listens r' cb ↔ d.Listens r' cb := by
  rw [listens_update (d := d) rfl]
  by_cases hr : r' = r
  · subst hr
    rw [if_pos rfl, (call_keeps _ c).2]
    exact Iff.rfl
  · rw [if_neg hr]

/-- A watched gateway has its closure on its watchdog, and the closure is its own. -/
structure Guarded (d : GatewayDesk) : Prop where
  registered : ∀ id, d.watchdogs.contains id = true → d.gateways.contains id = true
  paired : ∀ id, d.disconnectCallbacks.contains id = d.watchdogs.contains id
  listens : ∀ id r cb, d.watchdogs.get? id = some r → d.disconnectCallbacks.get? id = some cb → d.Listens r cb
  closure : ∀ id cb, d.disconnectCallbacks.get? id = some cb → cb ∈ d.closures
  closure_lt : ∀ cb ∈ d.closures, cb < d.callables
  listens_lt : ∀ r cb, d.Listens r cb → cb < d.callables
  own : ∀ id id' cb, d.disconnectCallbacks.get? id = some cb → d.disconnectCallbacks.get? id' = some cb → id = id'
  named : ∀ r, strip (d.objects r).gatewayId ≠ ""
  panics : ∀ p ∈ d.panics, p.reason = .gatewayDisconnect ∧ p.create.isOk = true

/-- A panic a closure asks for passes the checks of `trigger_panic`. -/
theorem isOk_onDisconnect {gwId : String} (hname : strip gwId ≠ "") (elapsed : ℚ) {t : ℤ} (ht : 0 < t) :
    (onDisconnect gwId elapsed t).create.isOk = true := by
  have hsource : strip (onDisconnect gwId elapsed t).source ≠ "" := hname
  have htime : (onDisconnect gwId elapsed t).timestampNs ≠ 0 := by
    change t.toNat ≠ 0
    omega
  rw [PanicFields.create, dif_neg hsource, dif_neg htime]
  rfl

theorem Guarded.watch {d : GatewayDesk} (h : d.Guarded) {id : String} (hid : d.gateways.contains id = true) (r : WatchdogRef) :
    (d.watch id r).Guarded where
  registered id' hid' := by
    rcases (Dict.contains_set d.watchdogs id id' r).1 hid' with rfl | hold
    · exact hid
    · exact h.registered id' hold
  paired id' := by
    rw [Bool.eq_iff_iff]
    change (d.disconnectCallbacks.set id d.callables).contains id' = true ↔ (d.watchdogs.set id r).contains id' = true
    rw [Dict.contains_set, Dict.contains_set, h.paired]
  listens id' r' cb hr' hcb := by
    change (d.watchdogs.set id r).get? id' = some r' at hr'
    change (d.disconnectCallbacks.set id d.callables).get? id' = some cb at hcb
    rw [listens_watch]
    by_cases hid' : id' = id
    · rw [hid', Dict.get?_set_self] at hr' hcb
      exact .inr ⟨(Option.some.inj hr').symm, (Option.some.inj hcb).symm⟩
    · rw [Dict.get?_set_of_ne _ _ hid'] at hr' hcb
      exact .inl (h.listens id' r' cb hr' hcb)
  closure id' cb hcb := by
    rcases Dict.get?_set_cases hcb with hold | ⟨-, rfl⟩
    · exact List.mem_append_left _ (h.closure id' cb hold)
    · exact List.mem_append_right _ (List.mem_singleton_self _)
  closure_lt cb hcb := by
    rcases List.mem_append.1 hcb with hold | hnew
    · exact (h.closure_lt cb hold).trans (Nat.lt_succ_self _)
    · rw [List.mem_singleton.1 hnew]
      exact Nat.lt_succ_self _
  listens_lt r' cb hcb := by
    rcases (listens_watch d id r r' cb).1 hcb with hold | ⟨-, rfl⟩
    · exact (h.listens_lt r' cb hold).trans (Nat.lt_succ_self _)
    · exact Nat.lt_succ_self _
  own id' id'' cb hcb hcb' := by
    rcases Dict.get?_set_cases hcb with hold | ⟨rfl, rfl⟩ <;> rcases Dict.get?_set_cases hcb' with hold' | ⟨rfl, hnew⟩
    · exact h.own id' id'' cb hold hold'
    · exact absurd hnew (h.closure_lt cb (h.closure id' cb hold)).ne
    · exact absurd rfl (h.closure_lt _ (h.closure id'' _ hold')).ne
    · rfl
  named r' := by
    by_cases hr : r' = r
    · subst hr
      simpa [GatewayDesk.watch] using h.named r'
    · simpa [GatewayDesk.watch, hr] using h.named r'
  panics := h.panics

/-- The guards do not depend on the orchestrator, but for the gateways they watch. -/
theorem Guarded.of_gateways {d : GatewayDesk} (h : d.Guarded) {o : RiskOrchestrator}
    (hsub : ∀ id, d.watchdogs.contains id = true → o.gateways.contains id = true) : Guarded { d with orchestrator := o } :=
  ⟨hsub, h.paired, h.listens, h.closure, h.closure_lt, h.listens_lt, h.own, h.named, h.panics⟩

/-- What is let go of is the watchdog of the gateway and its closure, and nothing of another gateway. -/
theorem unwatch_cases {d : GatewayDesk} (h : d.Guarded) (gid : String) :
    d.unwatch gid = d ∧ d.watchdogs.contains gid = false ∨
      ∃ r cb, d.watchdogs.get? gid = some r ∧ d.disconnectCallbacks.get? gid = some cb ∧
        (d.unwatch gid).watchdogs = d.watchdogs.erase gid ∧ (d.unwatch gid).disconnectCallbacks =
        d.disconnectCallbacks.erase gid ∧
        (∀ r' cb', (d.unwatch gid).Listens r' cb' ↔ d.Listens r' cb' ∧ ¬ (r' = r ∧ cb' = cb)) ∧
        (∀ r', ((d.unwatch gid).objects r').gatewayId = (d.objects r').gatewayId) ∧
        (d.unwatch gid).closures = d.closures ∧ (d.unwatch gid).callables = d.callables ∧ (d.unwatch gid).panics = d.panics := by
  unfold unwatch
  cases hr : d.watchdogs.get? gid with
  | none => exact .inl ⟨rfl, by rw [Dict.contains, hr]; rfl⟩
  | some r =>
    right
    have hpaired := h.paired gid
    cases hcb : d.disconnectCallbacks.get? gid with
    | none => simp [Dict.contains, hr, hcb] at hpaired
    | some cb =>
      refine ⟨r, cb, rfl, rfl, rfl, rfl, fun r' cb' => ?_, fun r' => ?_, rfl, rfl, rfl⟩
      · rw [listens_update (d := d) rfl]
        by_cases hr' : r' = r
        · subst hr'
          rw [if_pos rfl, mem_unregister, and_comm, and_iff_right rfl]
          exact Iff.rfl
        · rw [if_neg hr', and_iff_left (fun hold => hr' hold.1)]
      · by_cases hr' : r' = r
        · subst hr'
          simp
        · simp [hr']

theorem Guarded.unwatch {d : GatewayDesk} (h : d.Guarded) (gid : String) : (d.unwatch gid).Guarded := by
  rcases unwatch_cases h gid with ⟨hsame, -⟩ | ⟨r, cb, hr, hcb, hwatch, hcallbacks, hlistens, hnames, hclosures,
      hcallables, hpanics⟩
  · rwa [hsame]
  · refine ⟨fun id hid => ?_, fun id => ?_, fun id r' cb' hr' hcb' => ?_, fun id cb' hcb' => ?_, fun cb' hcb' => ?_,
      fun r' cb' hcb' => ?_,
      fun id id' cb' hcb' hcb'' => ?_, fun r' => ?_, ?_⟩
    · rw [hwatch] at hid
      simp only [gateways, unwatch_orchestrator]
      exact h.registered id ((Dict.contains_erase _ _ _).1 hid).2
    · rw [hwatch, hcallbacks, Bool.eq_iff_iff, Dict.contains_erase, Dict.contains_erase, h.paired]
    · rw [hwatch] at hr'
      rw [hcallbacks] at hcb'
      refine (hlistens r' cb').2 ⟨h.listens id r' cb' (Dict.get?_of_get?_erase hr') (Dict.get?_of_get?_erase hcb'), ?_⟩
      rintro ⟨-, rfl⟩
      have hsame : id = gid := h.own id gid cb' (Dict.get?_of_get?_erase hcb') hcb
      rw [hsame, Dict.get?_erase_self] at hcb'
      cases hcb'
    · rw [hcallbacks] at hcb'
      rw [hclosures]
      exact h.closure id cb' (Dict.get?_of_get?_erase hcb')
    · rw [hclosures] at hcb'
      rw [hcallables]
      exact h.closure_lt cb' hcb'
    · rw [hcallables]
      exact h.listens_lt r' cb' ((hlistens r' cb').1 hcb').1
    · rw [hcallbacks] at hcb' hcb''
      exact h.own id id' cb' (Dict.get?_of_get?_erase hcb') (Dict.get?_of_get?_erase hcb'')
    · rw [hnames]
      exact h.named r'
    · rw [hpanics]
      exact h.panics

theorem Guarded.watchdogCall {d : GatewayDesk} (h : d.Guarded) (r : WatchdogRef) (c : HeartbeatCall) :
    (d.watchdogCall r c).Guarded := by
  refine ⟨h.registered, h.paired, fun id r' cb hr' hcb => (listens_watchdogCall d r r' c cb).2 (h.listens id r' cb hr' hcb),
    h.closure, h.closure_lt,
    fun r' cb hcb => h.listens_lt r' cb ((listens_watchdogCall d r r' c cb).1 hcb), h.own, fun r' => ?_, fun p hp => ?_⟩
  · by_cases hr : r' = r
    · subst hr
      simpa [GatewayDesk.watchdogCall, call_keeps] using h.named r'
    · simpa [GatewayDesk.watchdogCall, hr] using h.named r'
  · rcases List.mem_append.1 hp with hold | hnew
    · exact h.panics p hold
    · cases c with
      | checkLiveness t =>
        rw [panics_of_look] at hnew
        split_ifs at hnew with hsilent
        · obtain ⟨-, -, rfl⟩ := List.mem_map.1 hnew
          exact ⟨rfl, isOk_onDisconnect (h.named r) _ hsilent.1⟩
        · cases hnew
      | recordHeartbeat n latency t =>
        rw [panics_of_other _ _ rfl] at hnew
        cases hnew
      | markReconnecting t =>
        rw [panics_of_other _ _ rfl] at hnew
        cases hnew
      | reset n t =>
        rw [panics_of_other _ _ rfl] at hnew
        cases hnew

theorem Guarded.listen {d : GatewayDesk} (h : d.Guarded) (r : WatchdogRef) : (d.listen r).Guarded := by
  refine ⟨h.registered, h.paired, fun id r' cb hr' hcb => (listens_listen d r r' cb).2 (.inl (h.listens id r' cb hr' hcb)),
    h.closure,
    fun cb hcb => (h.closure_lt cb hcb).trans (Nat.lt_succ_self _), fun r' cb hcb => ?_, h.own, fun r' => ?_, h.panics⟩
  · rcases (listens_listen d r r' cb).1 hcb with hold | ⟨-, rfl⟩
    · exact (h.listens_lt r' cb hold).trans (Nat.lt_succ_self _)
    · exact Nat.lt_succ_self _
  · by_cases hr : r' = r
    · subst hr
      simpa [GatewayDesk.listen] using h.named r'
    · simpa [GatewayDesk.listen, hr] using h.named r'

/-- An administrator leaves the guards alone. -/
theorem Guarded.admin {d : GatewayDesk} (h : d.Guarded) {op : EmergencyKillSwitch → String → Except Exc EmergencyKillSwitch}
    {token : String}
    (hop : ∀ ks ks', op ks token = .ok ks' → ks'.gateways = ks.gateways) : (d.admin op token).Guarded := by
  obtain ⟨ks, -, hres⟩ := admin_gateways d token hop
  rw [hres]
  exact h.of_gateways h.registered

theorem Guarded.step {d : GatewayDesk} (h : d.Guarded) (hagree : d.Agree) (op : Op) : (d.step op).Guarded := by
  cases op with
  | registerGateway gw watchdog gatewayId derived isDefault =>
    change (d.registerGateway gw watchdog gatewayId derived isDefault).2.Guarded
    rcases registerGateway_cases d gw watchdog gatewayId derived isDefault with hsame | ⟨id, ks, -, -, -, -, hres⟩
    · rwa [hsame]
    · have hadopt : Guarded { d with orchestrator := GatewayDesk.adopt d.orchestrator ks id gw isDefault } :=
        h.of_gateways fun id' hid' => (Dict.contains_set d.gateways id id' gw).2 (.inr (h.registered id' hid'))
      rw [hres]
      cases watchdog with
      | none => exact hadopt
      | some r => exact hadopt.watch (Dict.contains_set_self _ _ _) r
  | unregisterGateway gatewayId =>
    change (d.unregisterGateway gatewayId).2.Guarded
    rcases unregisterGateway_cases hagree gatewayId with ⟨hsame, -, -⟩ | ⟨ks, hmem, -, hres⟩
    · rwa [hsame]
    · rw [hres]
      refine (h.unwatch (strip gatewayId)).of_gateways fun id hid => ?_
      -- the gateway that goes is not watched any more
      rcases unwatch_cases h (strip gatewayId) with ⟨hsame, hunwatched⟩ | ⟨r, cb, -, -, hwatch, -⟩
      · rw [hsame] at hid
        refine (Dict.contains_erase d.gateways _ id).2 ⟨?_, h.registered id hid⟩
        rintro rfl
        rw [hunwatched] at hid
        cases hid
      · rw [hwatch] at hid
        obtain ⟨hne, hold⟩ := (Dict.contains_erase _ _ _).1 hid
        exact (Dict.contains_erase d.gateways _ id).2 ⟨hne, h.registered id hold⟩
  | setDefaultGateway gatewayId =>
    change (d.setDefaultGateway gatewayId).2.Guarded
    unfold setDefaultGateway
    split_ifs
    · exact h.of_gateways h.registered
    · exact h
  | watchdogCall r c => exact h.watchdogCall r c
  | listen r => exact h.listen r
  | reset token => exact h.admin fun _ _ => reset_gateways
  | disarm token => exact h.admin fun _ _ => disarm_gateways
  | arm token => exact h.admin fun _ _ => arm_gateways

theorem Fresh.guarded {d : GatewayDesk} (h : d.Fresh) : d.Guarded where
  registered id hid := by
    rw [h.watchdogs] at hid
    cases hid
  paired id := by
    rw [h.watchdogs, h.disconnectCallbacks]
  listens id r cb hr := by
    rw [h.watchdogs] at hr
    cases hr
  closure id cb hcb := by
    rw [h.disconnectCallbacks] at hcb
    cases hcb
  closure_lt cb hcb := by
    rw [h.closures] at hcb
    cases hcb
  listens_lt r cb hcb := by
    change cb ∈ (d.objects r).disconnectListeners.callbacks at hcb
    rw [h.listeners] at hcb
    cases hcb
  own id id' cb hcb := by
    rw [h.disconnectCallbacks] at hcb
    cases hcb
  named := h.named
  panics p hp := by
    rw [h.panics] at hp
    cases hp

/-- A look that finds a watched gateway silent asks for a panic, over every run; and every panic asked for passes the checks of
the switch. -/
theorem guarded_of_run {d d' : GatewayDesk} (hfresh : d.Fresh) (h : Run (stepOf step) (fun _ _ => True) d d') {id : String}
    {r : WatchdogRef}
    (hwatched : d'.watchdogs.get? id = some r) {t : ℤ} (hsilent : FallsSilent (d'.objects r) t) :
    d'.gateways.contains id = true ∧
      onDisconnect (d'.objects r).gatewayId ((d'.objects r).elapsedSeconds t) t ∈
      (d'.watchdogCall r (.checkLiveness t)).panics.drop d'.panics.length ∧
      ∀ p ∈ (d'.watchdogCall r (.checkLiveness t)).panics, p.create.isOk = true := by
  obtain ⟨-, hguarded⟩ := h.invariant (I := fun d => d.Agree ∧ d.Guarded)
    (fun t op u ht _ (hu : u = t.step op) => hu ▸ ⟨ht.1.step op, ht.2.step ht.1 op⟩) ⟨hfresh.agree, hfresh.guarded⟩
  have hcontains : d'.watchdogs.contains id = true := by
    rw [Dict.contains, hwatched]
    rfl
  have hcallback := hguarded.paired id
  rw [hcontains] at hcallback
  obtain ⟨cb, hcb⟩ := Option.isSome_iff_exists.1 hcallback
  have hlistens := hguarded.listens id r cb hwatched hcb
  have hclosure := hguarded.closure id cb hcb
  refine ⟨hguarded.registered id hcontains, ?_, fun p hp => ((hguarded.watchdogCall r (.checkLiveness t)).panics p hp).2⟩
  change _ ∈ (d'.panics ++ _).drop d'.panics.length
  rw [List.drop_left, panics_of_look, if_pos hsilent]
  exact List.mem_map.2 ⟨cb, List.mem_filter.2 ⟨hlistens, by simpa using hclosure⟩, rfl⟩

theorem guarded_of_run_watched :
    watchedDesk.gateways.contains "PaperExecutionGateway_1" = true ∧
      onDisconnect (watchedDesk.objects 0).gatewayId ((watchedDesk.objects 0).elapsedSeconds 4000000000) 4000000000 ∈
        (watchedDesk.watchdogCall 0 (.checkLiveness 4000000000)).panics.drop watchedDesk.panics.length ∧
      ∀ p ∈ (watchedDesk.watchdogCall 0 (.checkLiveness 4000000000)).panics, p.create.isOk = true :=
  guarded_of_run fresh_emptyDesk ((Run.refl.tail trivial rfl).tail trivial rfl) (by decide) (by decide +kernel)

/-! ## Watched once -/

/-- A closure that listens is the closure of a gateway that is still watched. -/
def Exact (d : GatewayDesk) : Prop :=
  ∀ r cb, d.Listens r cb → cb ∈ d.closures → ∃ id, d.watchdogs.get? id = some r ∧ d.disconnectCallbacks.get? id = some cb

theorem Exact.watch {d : GatewayDesk} (h : d.Exact) (hguarded : d.Guarded) {id : String} (hid : d.watchdogs.contains id = false)
    (r : WatchdogRef) :
    (d.watch id r).Exact := by
  intro r' cb hcb hclosure
  have hold : d.Listens r' cb → cb ∈ d.closures →
      ∃ id', (d.watch id r).watchdogs.get? id' = some r' ∧ (d.watch id r).disconnectCallbacks.get? id' = some cb :=
        fun hlistens hmem => by
    obtain ⟨id', hr', hcb'⟩ := h r' cb hlistens hmem
    have hne : id' ≠ id := by
      rintro rfl
      rw [Dict.contains, hr'] at hid
      cases hid
    exact ⟨id', (Dict.get?_set_of_ne _ _ hne).trans hr', (Dict.get?_set_of_ne _ _ hne).trans hcb'⟩
  rcases (listens_watch d id r r' cb).1 hcb with hlistens | ⟨rfl, rfl⟩
  · rcases List.mem_append.1 hclosure with hmem | hnew
    · exact hold hlistens hmem
    · rw [List.mem_singleton] at hnew
      exact absurd hnew (hguarded.listens_lt r' cb hlistens).ne
  · exact ⟨id, Dict.get?_set_self _ _ _, Dict.get?_set_self _ _ _⟩

theorem Exact.unwatch {d : GatewayDesk} (h : d.Exact) (hguarded : d.Guarded) (gid : String) : (d.unwatch gid).Exact := by
  rcases unwatch_cases hguarded gid with ⟨hsame, -⟩ | ⟨r, cb, hr, hcb, hwatch, hcallbacks, hlistens, -, hclosures, -, -⟩
  · rwa [hsame]
  · intro r' cb' hcb' hclosure
    obtain ⟨hold, hother⟩ := (hlistens r' cb').1 hcb'
    rw [hclosures] at hclosure
    obtain ⟨id, hid, hid'⟩ := h r' cb' hold hclosure
    have hne : id ≠ gid := by
      rintro rfl
      exact hother ⟨Option.some.inj (hid.symm.trans hr), Option.some.inj (hid'.symm.trans hcb)⟩
    refine ⟨id, ?_, ?_⟩
    · rw [hwatch, Dict.get?_erase_of_ne _ hne, hid]
    · rw [hcallbacks, Dict.get?_erase_of_ne _ hne, hid']

theorem Exact.step {d : GatewayDesk} (h : d.Exact) (hagree : d.Agree) (hguarded : d.Guarded) {op : Op}
    (honce : d.WatchesOnce op) :
    (d.step op).Exact := by
  cases op with
  | registerGateway gw watchdog gatewayId derived isDefault =>
    change (d.registerGateway gw watchdog gatewayId derived isDefault).2.Exact
    rcases registerGateway_cases d gw watchdog gatewayId derived isDefault with hsame | ⟨id, ks, hid, -, -, -, hres⟩
    · rwa [hsame]
    · rw [hres]
      cases watchdog with
      | none => exact h
      | some r =>
        have hadopt : Guarded { d with orchestrator := GatewayDesk.adopt d.orchestrator ks id gw isDefault } :=
          hguarded.of_gateways fun id' hid' => (Dict.contains_set d.gateways id id' gw).2 (.inr (hguarded.registered id' hid'))
        have hnew : d.watchdogs.contains id = false := by
          rw [hid]
          exact honce
        exact Exact.watch (d := { d with orchestrator := GatewayDesk.adopt d.orchestrator ks id gw isDefault }) h hadopt hnew r
  | unregisterGateway gatewayId =>
    change (d.unregisterGateway gatewayId).2.Exact
    rcases unregisterGateway_cases hagree gatewayId with ⟨hsame, -, -⟩ | ⟨ks, -, -, hres⟩
    · rwa [hsame]
    · rw [hres]
      exact h.unwatch hguarded (strip gatewayId)
  | setDefaultGateway gatewayId =>
    change (d.setDefaultGateway gatewayId).2.Exact
    unfold setDefaultGateway
    split_ifs
    · exact h
    · exact h
  | watchdogCall r c => exact fun r' cb hcb hclosure => h r' cb ((listens_watchdogCall d r r' c cb).1 hcb) hclosure
  | listen r =>
    intro r' cb hcb hclosure
    rcases (listens_listen d r r' cb).1 hcb with hold | ⟨-, rfl⟩
    · exact h r' cb hold hclosure
    · exact absurd rfl (hguarded.closure_lt _ hclosure).ne
  | reset token =>
    obtain ⟨ks, -, hres⟩ := admin_gateways d token fun _ _ => reset_gateways
    change (d.admin EmergencyKillSwitch.reset token).Exact
    rw [hres]
    exact h
  | disarm token =>
    obtain ⟨ks, -, hres⟩ := admin_gateways d token fun _ _ => disarm_gateways
    change (d.admin EmergencyKillSwitch.disarm token).Exact
    rw [hres]
    exact h
  | arm token =>
    obtain ⟨ks, -, hres⟩ := admin_gateways d token fun _ _ => arm_gateways
    change (d.admin EmergencyKillSwitch.arm token).Exact
    rw [hres]
    exact h

/-- The closures that listen to a watchdog are those of the gateways it watches, one for each. -/
theorem length_closures {d : GatewayDesk} (hexact : d.Exact) (hguarded : d.Guarded) (r : WatchdogRef) :
    ((d.objects r).disconnectListeners.callbacks.filter (· ∈ d.closures)).length = d.watchdogs.values.count r := by
  have hwatched : ∀ p ∈ d.watchdogs.items.filter (fun p => p.2 = r), ∃ cb, d.disconnectCallbacks.get? p.1 =
      some cb := fun p hp => by
    have hitem := (Dict.mem_items_iff d.watchdogs p.1 p.2).1 (List.mem_filter.1 hp).1
    have hpaired := hguarded.paired p.1
    rw [Dict.contains, Dict.contains, hitem] at hpaired
    exact Option.isSome_iff_exists.1 hpaired
  have hinjective : ((d.watchdogs.items.filter (fun p => p.2 = r)).map fun p => d.disconnectCallbacks.getD p.1 0).Nodup := by
    refine List.Nodup.map_on (fun p hp q hq hpq => ?_) ((List.Nodup.of_map _ d.watchdogs.nodup).filter _)
    obtain ⟨cb, hcb⟩ := hwatched p hp
    obtain ⟨cb', hcb'⟩ := hwatched q hq
    rw [Dict.getD_of_get?_some 0 hcb, Dict.getD_of_get?_some 0 hcb'] at hpq
    have hkey := hguarded.own p.1 q.1 cb hcb (hpq ▸ hcb')
    have hvalue : p.2 = q.2 := (of_decide_eq_true (List.mem_filter.1 hp).2).trans
      (of_decide_eq_true (List.mem_filter.1 hq).2).symm
    exact Prod.ext hkey hvalue
  have hmem : ∀ cb, cb ∈ (d.objects r).disconnectListeners.callbacks.filter (· ∈ d.closures) ↔
      cb ∈ (d.watchdogs.items.filter (fun p => p.2 = r)).map fun p => d.disconnectCallbacks.getD p.1 0 := fun cb => by
    constructor
    · intro hcb
      obtain ⟨hlistens, hclosure⟩ := List.mem_filter.1 hcb
      obtain ⟨id, hid, hid'⟩ := hexact r cb hlistens (of_decide_eq_true hclosure)
      exact List.mem_map.2 ⟨(id, r), List.mem_filter.2 ⟨(Dict.mem_items_iff _ _ _).2 hid, by simp⟩, Dict.getD_of_get?_some 0 hid'⟩
    · intro hcb
      obtain ⟨p, hp, rfl⟩ := List.mem_map.1 hcb
      obtain ⟨cb, hcb'⟩ := hwatched p hp
      have hwatch := (Dict.mem_items_iff d.watchdogs p.1 p.2).1 (List.mem_filter.1 hp).1
      rw [show p.2 = r from of_decide_eq_true (List.mem_filter.1 hp).2] at hwatch
      rw [Dict.getD_of_get?_some 0 hcb']
      exact List.mem_filter.2 ⟨hguarded.listens p.1 r cb hwatch hcb', by simpa using hguarded.closure p.1 cb hcb'⟩
  have hperm := (List.perm_ext_iff_of_nodup ((d.objects r).disconnectListeners.nodup.filter _) hinjective).2 hmem
  rw [hperm.length_eq, List.length_map, Dict.values, List.count, List.countP_map, List.countP_eq_length_filter]
  rfl

/-- Where no gateway is given a second watchdog, a watchdog that falls silent asks for one panic for each gateway it watches, and
for none where all of them are gone. -/
theorem panics_of_run {d d' : GatewayDesk} (hfresh : d.Fresh) (h : Run (stepOf step) WatchesOnce d d') (r : WatchdogRef)
    (c : HeartbeatCall) :
    (d'.watchdogCall r c).panics.length = d'.panics.length +
    if FindsSilent (d'.objects r) c then d'.watchdogs.values.count r else 0 := by
  obtain ⟨-, hguarded, hexact⟩ := h.invariant (I := fun d => d.Agree ∧ d.Guarded ∧ d.Exact)
    (fun t op u ht hc (hu : u = t.step op) => hu ▸ ⟨ht.1.step op, ht.2.1.step ht.1 op, ht.2.2.step ht.1 ht.2.1 hc⟩)
    ⟨hfresh.agree, hfresh.guarded, fun r cb hcb => by
      change cb ∈ (d.objects r).disconnectListeners.callbacks at hcb
      rw [hfresh.listeners] at hcb
      cases hcb⟩
  change (d'.panics ++ _).length = _
  rw [List.length_append]
  congr 1
  cases c with
  | checkLiveness t =>
    rw [panics_of_look]
    by_cases hsilent : FallsSilent (d'.objects r) t
    · have hfinds : FindsSilent (d'.objects r) (.checkLiveness t) := hsilent
      rw [if_pos hsilent, if_pos hfinds, List.length_map, length_closures hexact hguarded]
    · have hfinds : ¬ FindsSilent (d'.objects r) (.checkLiveness t) := hsilent
      rw [if_neg hsilent, if_neg hfinds, List.length_nil]
  | recordHeartbeat n latency t =>
    rw [panics_of_other _ _ rfl]
    rfl
  | markReconnecting t =>
    rw [panics_of_other _ _ rfl]
    rfl
  | reset n t =>
    rw [panics_of_other _ _ rfl]
    rfl

theorem watchedOnce_watchedDesk : Run (stepOf step) WatchesOnce emptyDesk watchedDesk := by
  have hfirst : emptyDesk.WatchesOnce (.registerGateway 0 (some 0) none paperId false) := rfl
  have hheard : (emptyDesk.step (.registerGateway 0 (some 0) none paperId false)).WatchesOnce
      (.watchdogCall 0 (.recordHeartbeat 1 10 1000000000)) := trivial
  exact (Run.refl.tail hfirst rfl).tail hheard rfl

theorem panics_of_run_watched :
    (watchedDesk.watchdogCall 0 (.checkLiveness 4000000000)).panics.length = watchedDesk.panics.length +
      if FindsSilent (watchedDesk.objects 0) (.checkLiveness 4000000000) then watchedDesk.watchdogs.values.count 0 else 0 :=
  panics_of_run fresh_emptyDesk watchedOnce_watchedDesk 0 (.checkLiveness 4000000000)

/-- Otherwise the first watchdog keeps its closure when the gateway goes, and asks for a panic of a desk without gateways. -/
theorem panics_without_gateways :
    Run (stepOf step) (fun _ _ => True) emptyDesk rewatchedDesk ∧ rewatchedDesk.gateways = ∅ ∧ rewatchedDesk.watchdogs = ∅ ∧
      (rewatchedDesk.watchdogCall 0 (.checkLiveness 4000000000)).panics.length = 1 :=
  ⟨(((Run.refl.tail trivial rfl).tail trivial rfl).tail trivial rfl).tail trivial rfl, by decide, by decide, by decide +kernel⟩

end GatewayDesk

end Quant
