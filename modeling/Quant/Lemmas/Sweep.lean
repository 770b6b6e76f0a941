import Quant.Execution.Lockout
import Quant.Lemmas.KillSwitch

/-!
# What a panic has swept

From phase to phase, which orders may still be open at the gateways that answered: at first any, then those the gateway listed,
then those whose cancellation is still under way, and in the end none but the orders of the switch.
-/

namespace Quant

open Pylib EmergencyKillSwitch

/-- The orders a child task of the fetching has been told. -/
def FetchTask.ids (fetch : FetchTask) : List String :=
  match fetch.stage with
  | .positions (.ok ids) => ids
  | .done (.ok ids) _ => ids
  | _ => []

/-- What a sweep is about: the registered gateways, their open orders, and which of them failed a call. -/
structure Sweep where
  gateways : Dict String GatewayRef
  orders : OpenOrders
  failed : GatewayRef → Bool

namespace Sweep

/-- The registered gateways that answered hold orders of the switch only. -/
def Clean (s : Sweep) : Prop :=
  ∀ id gw, s.gateways.get? id = some gw → s.failed gw = false → ∀ o ∈ s.orders gw, o.own = true

/-- A gateway has yet to answer a child task, or what is open at it is listed. -/
def Listing (s : Sweep) (tasks : List FetchTask) (gw : GatewayRef) : Prop :=
  (∃ fetch ∈ tasks, fetch.gateway = gw ∧ fetch.stage = .orders) ∨
    ∀ o ∈ s.orders gw, o.own = true ∨ ∃ fetch ∈ tasks, fetch.gateway = gw ∧ o.clOrdId ∈ fetch.ids

/-- What is open is an order of the switch, or its cancellation has no answer yet. -/
def Cancelling (s : Sweep) (tasks : List CancelTask) : Prop :=
  ∀ id gw, s.gateways.get? id = some gw → s.failed gw = false → ∀ o ∈ s.orders gw,
    o.own = true ∨ ∃ task ∈ tasks, task.gateway = gw ∧ task.clOrdId = o.clOrdId ∧ task.result = none

/-- What a panic knows in a phase. -/
def Progress (s : Sweep) : PanicPhase → Prop
  | .waiting => True
  | .hook _ => True
  | .fetching tasks =>
    tasks.map (fun fetch => (fetch.gatewayId, fetch.gateway)) = s.gateways.items ∧
      ∀ id gw, s.gateways.get? id = some gw → s.failed gw = false → s.Listing tasks gw
  | .cancelling tasks _ => s.Cancelling tasks
  | .scanning _ _ _ => s.Clean
  | .flattening _ _ _ => s.Clean
  | .notifying _ _ => s.Clean
  | .done _ => s.Clean

/-! ## Orders that leave, and orders of the switch -/

/-- Nothing new is open at a registered gateway but orders of the switch, and who failed has failed. -/
structure Keeps (s s' : Sweep) : Prop where
  gateways : s'.gateways = s.gateways
  orders : ∀ id gw, s.gateways.get? id = some gw → ∀ o ∈ s'.orders gw, o.own = true ∨ o ∈ s.orders gw
  failed : ∀ gw, s'.failed gw = false → s.failed gw = false

theorem Keeps.clean {s s' : Sweep} (h : s.Keeps s') (hs : s.Clean) : s'.Clean := by
  intro id gw hget hok o ho
  rw [h.gateways] at hget
  rcases h.orders id gw hget o ho with hown | ho
  · exact hown
  · exact hs id gw hget (h.failed gw hok) o ho

theorem Listing.mono {s s' : Sweep} {tasks : List FetchTask} {gw : GatewayRef} (h : s.Listing tasks gw)
    (horders : ∀ o ∈ s'.orders gw, o.own = true ∨ o ∈ s.orders gw) : s'.Listing tasks gw := by
  refine h.imp_right fun hlisted o ho => ?_
  rcases horders o ho with hown | ho
  · exact .inl hown
  · exact hlisted o ho

theorem Keeps.cancelling {s s' : Sweep} (h : s.Keeps s') {tasks : List CancelTask} (hs : s.Cancelling tasks) :
    s'.Cancelling tasks := by
  intro id gw hget hok o ho
  rw [h.gateways] at hget
  rcases h.orders id gw hget o ho with hown | ho
  · exact .inl hown
  · exact hs id gw hget (h.failed gw hok) o ho

theorem Keeps.progress {s s' : Sweep} (h : s.Keeps s') {phase : PanicPhase} (hs : s.Progress phase) : s'.Progress phase := by
  cases phase with
  | waiting => trivial
  | hook i => trivial
  | fetching tasks =>
    refine ⟨h.gateways.symm ▸ hs.1, fun id gw hget hok => ?_⟩
    rw [h.gateways] at hget
    exact (hs.2 id gw hget (h.failed gw hok)).mono (h.orders id gw hget)
  | cancelling tasks snapshot => exact h.cancelling hs
  | scanning scan count snapshot => exact h.clean hs
  | flattening tasks count snapshot => exact h.clean hs
  | notifying i event => exact h.clean hs
  | done res => exact h.clean hs

end Sweep

/-! ## The phases after the sweep -/

/-- The phases after the cancellations. -/
def PanicPhase.afterSweep : PanicPhase → Bool
  | .scanning _ _ _ => true
  | .flattening _ _ _ => true
  | .notifying _ _ => true
  | .done _ => true
  | _ => false

namespace EmergencyKillSwitch

variable (ks : EmergencyKillSwitch) (c : PanicCall)

theorem notifyFrom_afterSweep (i : ℕ) (event : KillSwitchEvent) : (ks.notifyFrom i event).1.afterSweep = true := by
  unfold notifyFrom
  split <;> rfl

theorem flattenFrom_afterSweep (tasks : List FlattenTask) (count : ℕ) (snapshot : Dict String ℚ) :
    (ks.flattenFrom c tasks count snapshot).1.afterSweep = true := by
  unfold flattenFrom
  split
  · exact notifyFrom_afterSweep _ _ _
  · rfl

theorem scanFrom_afterSweep (size version position : ℕ) (tasks : List FlattenTask) (count : ℕ) (snapshot : Dict String ℚ) :
    (ks.scanFrom c size version position tasks count snapshot).1.afterSweep = true := by
  unfold scanFrom
  split
  · exact flattenFrom_afterSweep ks c _ _ _
  · rfl

theorem scanNext_afterSweep (scan : Scan) (tasks : List FlattenTask) (pick : ScanPick) (count : ℕ)
    (snapshot : Dict String ℚ) : (ks.scanNext c scan tasks pick count snapshot).1.afterSweep = true := by
  unfold scanNext
  split
  · rfl
  · split
    · exact scanFrom_afterSweep ks c _ _ _ _ _ _
    · split
      · rfl
      · exact scanFrom_afterSweep ks c _ _ _ _ _ _

theorem afterCancel_afterSweep (count : ℕ) (snapshot : Dict String ℚ) :
    (ks.afterCancel c count snapshot).1.afterSweep = true := by
  unfold afterCancel
  split
  · exact notifyFrom_afterSweep _ _ _
  · exact scanFrom_afterSweep ks c _ _ _ _ _ _

theorem afterFlatPositions_afterSweep (scan : Scan) (r : Except Exc (Dict String ℚ)) (pick : ScanPick) (count : ℕ)
    (snapshot : Dict String ℚ) : (ks.afterFlatPositions c scan r pick count snapshot).1.afterSweep = true := by
  unfold afterFlatPositions
  split
  · split
    · exact scanNext_afterSweep ks c _ _ _ _ _
    · rfl
  · split
    · rfl
    · exact scanNext_afterSweep ks c _ _ _ _ _

/-- A panic does not go back to the sweep. -/
theorem afterSweep_resume {t : ℕ} {phase : PanicPhase} {a : PanicAnswer} {r : PanicPhase × EmergencyKillSwitch}
    (hp : phase.afterSweep = true) (h : ks.resumePanic c t phase a = some r) : r.1.afterSweep = true := by
  cases continues_of_resumePanic h with
  | flatPositions scan count snapshot res pick => exact afterFlatPositions_afterSweep ks c _ _ _ _ _
  | flatOrder => rfl
  | flattened => exact notifyFrom_afterSweep _ _ _
  | listener => exact notifyFrom_afterSweep _ _ _
  | listenerBreaks => rfl
  | abort => rfl
  | _ => cases hp

end EmergencyKillSwitch

namespace Sweep

theorem Clean.progress {s : Sweep} (h : s.Clean) {phase : PanicPhase} (hp : phase.afterSweep = true) : s.Progress phase := by
  cases phase <;> first | exact h | cases hp

theorem clean_of_progress {s : Sweep} {phase : PanicPhase} (h : s.Progress phase) (hp : phase.afterSweep = true) : s.Clean := by
  cases phase <;> first | exact h | cases hp

/-! ## From phase to phase -/

/-- The fetching begins with nothing known; without gateways there is nothing to sweep. -/
theorem progress_hooksFrom {s : Sweep} {ks : EmergencyKillSwitch} (hg : s.gateways = ks.gateways) (c : PanicCall) (i : ℕ) :
    s.Progress (ks.hooksFrom c i).1 := by
  unfold hooksFrom fetchFrom
  split
  · trivial
  · split
    · rename_i hempty
      have hclean : s.Clean := by
        intro id gw hget
        rw [hg] at hget
        have hmem := (Dict.mem_items_iff _ _ _).2 hget
        rw [hempty] at hmem
        cases hmem
      exact hclean.progress (afterCancel_afterSweep ks c _ _)
    · refine ⟨?_, ?_⟩
      · rw [hg, List.map_map]
        exact List.map_id _
      · intro id gw hget _
        rw [hg] at hget
        exact .inl ⟨_, List.mem_map.2 ⟨_, (Dict.mem_items_iff _ _ _).2 hget, rfl⟩, rfl, rfl⟩

/-- When everything is fetched, an order that is open has its cancellation. -/
theorem progress_cancelFrom {s : Sweep} {ks : EmergencyKillSwitch} (hg : s.gateways = ks.gateways) (c : PanicCall)
    {tasks : List FetchTask} (hp : s.Progress (.fetching tasks)) (hall : tasks.all FetchTask.isDone = true) :
    s.Progress (ks.cancelFrom c tasks).1 := by
  obtain ⟨hitems, hlisting⟩ := hp
  have hcancelling : s.Cancelling (cancelTasks ks.gateways tasks) := by
    intro id gw hget hok o ho
    rcases hlisting id gw hget hok with ⟨fetch, hm, -, hstage⟩ | hlisted
    · have hdone := List.all_eq_true.1 hall fetch hm
      unfold FetchTask.isDone at hdone
      rw [hstage] at hdone
      cases hdone
    · refine (hlisted o ho).imp_right ?_
      rintro ⟨⟨gid, gw', stage⟩, hm, rfl, hid⟩
      have hdone := List.all_eq_true.1 hall _ hm
      have hget' : ks.gateways.get? gid = some gw' := by
        rw [← hg]
        refine (Dict.mem_items_iff _ _ _).1 ?_
        rw [← hitems]
        exact List.mem_map_of_mem hm
      refine ⟨{ gateway := gw', clOrdId := o.clOrdId }, List.mem_flatMap.2 ⟨_, hm, ?_⟩, rfl, rfl, rfl⟩
      cases stage with
      | orders => cases hdone
      | positions os => cases hdone
      | broken exc => exact absurd hid List.not_mem_nil
      | done os ps =>
        cases os with
        | error exc => exact absurd hid List.not_mem_nil
        | ok ids =>
          simp only [hget']
          exact List.mem_map.2 ⟨_, hid, rfl⟩
  unfold cancelFrom
  split
  · rename_i hempty
    rw [hempty] at hcancelling
    have hclean : s.Clean := by
      intro id gw hget hok o ho
      rcases hcancelling id gw hget hok o ho with hown | ⟨task, hm, -⟩
      · exact hown
      · cases hm
    exact hclean.progress (afterCancel_afterSweep ks c _ _)
  · exact hcancelling

/-- The answers that end a panic before its sweep is complete. -/
def Cuts : PanicPhase → PanicAnswer → Prop
  | .hook _, .hook (.error exc) => exc.isException = false
  | .hook _, .abort => True
  | .fetching _, .abort => True
  | .cancelling _ _, .abort => True
  | _, _ => False

/-- What an answer says about the gateways. -/
structure Heard (s s' : Sweep) (phase : PanicPhase) (a : PanicAnswer) : Prop where
  keeps : s.Keeps s'
  failure : ∀ gw, phase.failure a = some gw → s'.failed gw = true
  cancellation : ∀ task, phase.cancellation a = some task → ∀ o ∈ s'.orders task.gateway, o.clOrdId ≠ task.clOrdId
  lists : ∀ (tasks : List FetchTask) (j : ℕ) (ids : List String) (fetch : FetchTask), phase = .fetching tasks →
    a = .orders j (.ok ids) → tasks[j]? = some fetch → ids = s.orders.ids fetch.gateway

/-- One child task of the fetching goes on: it knows what is open, or what it knew, or its gateway failed. -/
theorem progress_set {s s' : Sweep} (hk : s.Keeps s') {tasks : List FetchTask} {j : ℕ} {fetch fetch' : FetchTask}
    (hp : s.Progress (.fetching tasks)) (hj : tasks[j]? = some fetch) (hid : fetch'.gatewayId = fetch.gatewayId)
    (hgw : fetch'.gateway = fetch.gateway)
    (hfetch : s'.failed fetch.gateway = true ∨ (∀ o ∈ s'.orders fetch.gateway, o.own = true ∨ o.clOrdId ∈ fetch'.ids) ∨
      (fetch.stage ≠ .orders ∧ fetch'.ids = fetch.ids)) :
    s'.Progress (.fetching (tasks.set j fetch')) := by
  obtain ⟨hitems, hlisting⟩ := hp
  obtain ⟨hlt, rfl⟩ := List.getElem?_eq_some_iff.1 hj
  have hmine : fetch' ∈ tasks.set j fetch' := List.mem_set hlt fetch'
  have hothers : ∀ {other : FetchTask}, other ∈ tasks → other ≠ tasks[j] → other ∈ tasks.set j fetch' := by
    intro other hm hne
    obtain ⟨i, hi⟩ := List.mem_iff_getElem?.1 hm
    have hij : j ≠ i := by
      rintro rfl
      exact hne (Option.some.inj (hi.symm.trans hj))
    exact List.mem_of_getElem? ((List.getElem?_set_ne hij).trans hi)
  refine ⟨?_, fun id gw hget hok => ?_⟩
  · have hself := congrArg (List.map fun fetch : FetchTask => (fetch.gatewayId, fetch.gateway)) (List.set_getElem_self hlt)
    rw [List.map_set] at hself
    rw [hk.gateways, ← hitems, List.map_set, hid, hgw, hself]
  · rw [hk.gateways] at hget
    have hold := (hlisting id gw hget (hk.failed gw hok)).mono (hk.orders id gw hget)
    by_cases hself : tasks[j].gateway = gw
    · subst hself
      rcases hfetch with hfailed | hall | ⟨hstage, hids⟩
      · rw [hok] at hfailed
        cases hfailed
      · exact .inr fun o ho => (hall o ho).imp_right fun hmem => ⟨fetch', hmine, hgw, hmem⟩
      · rcases hold with ⟨other, hm, hother, horders⟩ | hlisted
        · refine .inl ⟨other, hothers hm ?_, hother, horders⟩
          rintro rfl
          exact hstage horders
        · refine .inr fun o ho => (hlisted o ho).imp_right ?_
          rintro ⟨other, hm, hother, hmem⟩
          by_cases heq : other = tasks[j]
          · exact ⟨fetch', hmine, hgw, by rw [hids, ← heq]; exact hmem⟩
          · exact ⟨other, hothers hm heq, hother, hmem⟩
    · have hkept : ∀ {other : FetchTask}, other ∈ tasks → other.gateway = gw → other ∈ tasks.set j fetch' := by
        rintro other hm rfl
        refine hothers hm ?_
        rintro rfl
        exact hself rfl
      rcases hold with ⟨other, hm, hother, horders⟩ | hlisted
      · exact .inl ⟨other, hkept hm hother, hother, horders⟩
      · refine .inr fun o ho => (hlisted o ho).imp_right ?_
        rintro ⟨other, hm, hother, hmem⟩
        exact ⟨other, hkept hm hother, hother, hmem⟩

theorem takeOrders_same (fetch : FetchTask) (r : Except Exc (List String)) :
    (fetch.takeOrders r).gatewayId = fetch.gatewayId ∧ (fetch.takeOrders r).gateway = fetch.gateway := by
  unfold FetchTask.takeOrders
  split
  · exact ⟨rfl, rfl⟩
  · split <;> exact ⟨rfl, rfl⟩

theorem takePositions_same (fetch : FetchTask) (os : Except Exc (List String)) (r : Except Exc (Dict String ℚ)) :
    (fetch.takePositions os r).gatewayId = fetch.gatewayId ∧ (fetch.takePositions os r).gateway = fetch.gateway := by
  unfold FetchTask.takePositions
  split
  · exact ⟨rfl, rfl⟩
  · split <;> exact ⟨rfl, rfl⟩

/-- The gateway of a child task answers with what is open, or fails. -/
theorem progress_orders {s s' : Sweep} {tasks : List FetchTask} {j : ℕ} {gid : String} {gw : GatewayRef}
    {res : Except Exc (List String)} (hp : s.Progress (.fetching tasks))
    (hheard : s.Heard s' (.fetching tasks) (.orders j res)) (hj : tasks[j]? = some ⟨gid, gw, .orders⟩) :
    s'.Progress (.fetching (tasks.set j (FetchTask.takeOrders ⟨gid, gw, .orders⟩ res))) := by
  have hget : s.gateways.get? gid = some gw := by
    refine (Dict.mem_items_iff _ _ _).1 ?_
    rw [← hp.1]
    exact List.mem_map_of_mem (f := fun fetch : FetchTask => (fetch.gatewayId, fetch.gateway)) (List.mem_of_getElem? hj)
  obtain ⟨hid, hgw⟩ := takeOrders_same ⟨gid, gw, .orders⟩ res
  refine progress_set hheard.keeps hp hj hid hgw ?_
  cases res with
  | ok ids =>
    have hids := hheard.lists tasks j ids _ rfl rfl hj
    refine .inr (.inl fun o ho => (hheard.keeps.orders gid gw hget o ho).imp_right fun ho => ?_)
    show o.clOrdId ∈ ids
    rw [hids]
    exact List.mem_map_of_mem ho
  | error exc => exact .inl (hheard.failure gw (by rw [PanicPhase.failure, hj]; rfl))

/-- One cancellation has its answer: the order is gone, or the gateway failed. -/
theorem progress_cancelOrder {s s' : Sweep} {tasks : List CancelTask} {snapshot : Dict String ℚ} {j : ℕ} {gw : GatewayRef}
    {clOrdId : String} {res : Except Exc Unit} (hp : s.Progress (.cancelling tasks snapshot))
    (hheard : s.Heard s' (.cancelling tasks snapshot) (.cancelOrder j res)) (hj : tasks[j]? = some ⟨gw, clOrdId, none⟩) :
    s'.Progress (.cancelling (tasks.set j ⟨gw, clOrdId, some res⟩) snapshot) := by
  intro id gw' hget hok o ho
  rcases hheard.keeps.cancelling hp id gw' hget hok o ho with hown | ⟨task, hm, rfl, hid, hnone⟩
  · exact .inl hown
  · right
    obtain ⟨j', hj'⟩ := List.mem_iff_getElem?.1 hm
    by_cases hne : j = j'
    · subst hne
      obtain rfl : (⟨gw, clOrdId, none⟩ : CancelTask) = task := Option.some.inj (hj.symm.trans hj')
      cases res with
      | ok u => exact absurd hid.symm (hheard.cancellation _ (by rw [PanicPhase.cancellation, hj]) o ho)
      | error exc =>
        have hfailed : s'.failed gw = true := hheard.failure gw (by rw [PanicPhase.failure, hj]; rfl)
        rw [hfailed] at hok
        cases hok
    · refine ⟨task, List.mem_of_getElem? (i := j') ?_, rfl, hid, hnone⟩
      rw [List.getElem?_set_ne hne]
      exact hj'

/-- Once every cancellation has its answer, nothing is left to cancel. -/
theorem Keeps.clean_of_answered {s s' : Sweep} (hk : s.Keeps s') {tasks : List CancelTask} {snapshot : Dict String ℚ}
    (hp : s.Progress (.cancelling tasks snapshot)) (hall : tasks.all (fun task => task.result.isSome) = true) : s'.Clean := by
  intro id gw hget hok o ho
  rcases hk.cancelling hp id gw hget hok o ho with hown | ⟨task, hm, -, -, hnone⟩
  · exact hown
  · have hsome := List.all_eq_true.1 hall task hm
    rw [hnone] at hsome
    cases hsome

/-- One answer to a panic that holds the lock, unless it cuts the sweep. -/
theorem progress_resume {s s' : Sweep} {ks : EmergencyKillSwitch} (hg : s.gateways = ks.gateways) {c : PanicCall} {t : ℕ}
    {phase : PanicPhase} {a : PanicAnswer} {r : PanicPhase × EmergencyKillSwitch} (hp : s.Progress phase)
    (hholds : phase.holds = true) (hheard : s.Heard s' phase a) (hcut : ¬ Cuts phase a)
    (h : ks.resumePanic c t phase a = some r) : s'.Progress r.1 := by
  have hk := hheard.keeps
  have hg' : s'.gateways = ks.gateways := hk.gateways.trans hg
  by_cases hafter : phase.afterSweep = true
  · exact (hk.clean (clean_of_progress hp hafter)).progress (afterSweep_resume ks c hafter h)
  cases continues_of_resumePanic h with
  | acquired => cases hholds
  | gaveUp => cases hholds
  | hook i res hexc => exact progress_hooksFrom hg' c _
  | hookBreaks i exc hexc => exact absurd (Bool.eq_false_iff.2 hexc) hcut
  | orders res hj => exact progress_orders hp hheard hj
  | @positions tasks j gid gw os res hj =>
    obtain ⟨hid, hgw⟩ := takePositions_same ⟨gid, gw, .positions os⟩ os res
    refine progress_set hk hp hj hid hgw ?_
    cases res with
    | ok ps => exact .inr (.inr ⟨nofun, by cases os <;> rfl⟩)
    | error exc => exact .inl (hheard.failure gw (by rw [PanicPhase.failure, hj]; rfl))
  | fetched hall => exact progress_cancelFrom hg' c (hk.progress hp) hall
  | cancelOrder res hj => exact progress_cancelOrder hp hheard hj
  | cancelled snapshot hall => exact (hk.clean_of_answered hp hall).progress (afterCancel_afterSweep ks c _ _)
  | abort =>
    -- before the end of the sweep an abort cuts it
    cases phase with
    | hook i => exact absurd trivial hcut
    | fetching tasks => exact absurd trivial hcut
    | cancelling tasks snapshot => exact absurd trivial hcut
    | waiting => cases hholds
    | _ => exact absurd rfl hafter
  | _ => exact absurd rfl hafter

end Sweep

end Quant
