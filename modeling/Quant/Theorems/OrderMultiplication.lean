import Quant.Pylib.Lists
import Quant.Services.AutonomousTrader
import Quant.Theorems.LeavesAccounting

/-!
# Orders of the autonomous engine

The signed quantity the engine dispatches for a symbol against the difference between its target and the initial position. A step
counts the shares it finds at the gateway and the leaves that are reserved; an order stands in the leaves only from the time its
background task is routed to the time its report is reconciled, and in the positions only once it was executed before they were
read.
-/

namespace Quant

open Pylib PortfolioRiskState RiskOrchestrator

/-! ## Leaves of other symbols -/

/-- A call without a quote awaits the gateway with its order reserved, or it ends and leaves the other symbols alone. -/
theorem routeOrder_cases (o : RiskOrchestrator) {c : RouteCall} (hq : c.quote = none) (isConnected : GatewayRef → Bool) :
    (∃ gw s, s.pendingLeaves = o.state.pendingLeaves ∧
      o.routeOrder c isConnected = (.direct gw, { o with state := reserve s c.order })) ∨
    ∃ res s, (∀ sym, sym ≠ c.order.symbol → s.pendingLeaves.getD sym 0 = o.state.pendingLeaves.getD sym 0) ∧
      o.routeOrder c isConnected = (.done res, { o with state := s }) := by
  have hleaves := clear_pendingLeaves o c
  unfold routeOrder
  cases hcl : o.clear c with
  | mk res s =>
    rw [hcl] at hleaves
    simp only at hleaves
    cases res with
    | error exc => exact .inr ⟨_, s, fun sym _ => by rw [hleaves], rfl⟩
    | ok u =>
      simp only
      rw [dispatch_direct (.inr (.inl hq))]
      cases hgw : resolveGateway { o with state := reserve s c.order } c.targetGatewayId with
      | error exc =>
        refine .inr ⟨_, _, fun sym h => ?_, rfl⟩
        rw [rollBack_leaves_of_ne _ _ _ h, reserve_of_ne _ h, hleaves]
      | ok gw => exact .inl ⟨gw, s, hleaves, rfl⟩

/-! ## One task -/

/-- What the tasks of a symbol add up to. -/
def addUp (sym : String) (f : SliceTask → ℚ) (tasks : List SliceTask) : ℚ :=
  (tasks.map fun t => if t.parent.symbol = sym then f t else 0).sum

/-- What the gateway has executed for a symbol. -/
def executedFor (sym : String) (tasks : List SliceTask) : ℚ := addUp sym SliceTask.executed tasks

/-- What is reserved for a symbol. -/
def reservedFor (sym : String) (tasks : List SliceTask) : ℚ := addUp sym SliceTask.reserved tasks

theorem addUp_append (sym : String) (f : SliceTask → ℚ) (tasks tasks' : List SliceTask) :
    addUp sym f (tasks ++ tasks') = addUp sym f tasks + addUp sym f tasks' := by
  simp [addUp]

theorem addUp_set {sym : String} {f : SliceTask → ℚ} {tasks : List SliceTask} {k : ℕ} {t : SliceTask} (h : tasks[k]? = some t)
    {x : SliceTask} (hx : x.parent = t.parent) :
    addUp sym f (tasks.set k x) = addUp sym f tasks + if t.parent.symbol = sym then f x - f t else 0 := by
  have hsum := sum_set (fun t => if t.parent.symbol = sym then f t else 0) x h
  simp only [hx] at hsum
  unfold addUp
  split
  · rename_i hsym
    simp only [hsym, if_true] at hsum
    linarith
  · rename_i hsym
    simp only [hsym, if_false] at hsum
    linarith

theorem addUp_eq_zero {sym : String} {f : SliceTask → ℚ} {tasks : List SliceTask} (h : ∀ t ∈ tasks, f t = 0) :
    addUp sym f tasks = 0 := by
  refine List.sum_eq_zero fun x hx => ?_
  obtain ⟨t, ht, rfl⟩ := List.mem_map.1 hx
  rw [h t ht, ite_self]

namespace SliceTask

theorem routeCall_ok {t : SliceTask} {call : RouteCall} (h : t.routeCall = .ok call) :
    call.quote = none ∧ call.order.symbol = t.parent.symbol ∧ call.order.side = t.parent.side ∧
      call.order.quantity = t.slice.quantity := by
  unfold routeCall at h
  cases horder : t.parent.childOrder .market none t.slice with
  | error exc =>
    rw [horder] at h
    cases h
  | ok order =>
    rw [horder] at h
    cases h
    have hf := OrderFields.create_ok horder
    exact ⟨rfl, congrArg OrderFields.symbol hf, congrArg OrderFields.side hf, congrArg OrderFields.quantity hf⟩

/-- A task whose slice is the whole order: before its routing it has reserved and executed nothing, and while it awaits the
gateway it has reserved the order. -/
structure Placed (t : SliceTask) : Prop where
  whole : t.slice.quantity = t.parent.totalQuantity
  created : t.phase = .created → t.reserved = 0 ∧ t.executed = 0
  routing : ∀ call gw, t.phase = .routing call gw → call.order.symbol = t.parent.symbol ∧ t.reserved = t.signedQuantity

/-- A task that has ended is placed wherever its routing left the leaves. -/
theorem Placed.ended {t : SliceTask} (h : t.Placed) (o o' : RiskOrchestrator) : (t.movedTo o o' .ended).Placed := by
  refine ⟨h.whole, fun hcreated => ?_, fun call gw hrouting => ?_⟩
  · cases hcreated
  · cases hrouting

/-- A task that runs leaves the other symbols alone, and it awaits the gateway with its order reserved. -/
theorem run_cases {t : SliceTask} (ht : t.Placed) (o : RiskOrchestrator) (maxSliceDelaySec : Option ℚ) (m : SliceMeets)
    (isConnected : GatewayRef → Bool) :
    (∀ sym, sym ≠ t.parent.symbol →
      (t.run o maxSliceDelaySec m isConnected).2.state.pendingLeaves.getD sym 0 = o.state.pendingLeaves.getD sym 0) ∧
    (t.run o maxSliceDelaySec m isConnected).1 ≠ .created ∧
    ∀ call gw, (t.run o maxSliceDelaySec m isConnected).1 = .routing call gw → call.order.symbol = t.parent.symbol ∧
      (t.run o maxSliceDelaySec m isConnected).2.state.pendingLeaves.getD t.parent.symbol 0 =
        o.state.pendingLeaves.getD t.parent.symbol 0 + t.signedQuantity := by
  unfold run
  split
  · rename_i call _ hcall
    obtain ⟨hquote, hsym, hside, hqty⟩ := routeCall_ok hcall
    have hsigned : call.order.signedQuantity = t.signedQuantity := by
      rw [Order.signedQuantity, hside, hqty, ht.whole]
      rfl
    rcases routeOrder_cases o hquote isConnected with ⟨gw, s, hs, hroute⟩ | ⟨res, s, hs, hroute⟩
    · simp only [hroute]
      refine ⟨fun sym hne => ?_, fun hphase => ?_, fun call' gw' hphase => ?_⟩
      · rw [← hsym] at hne
        rw [reserve_of_ne s hne, hs]
      · cases hphase
      · obtain ⟨rfl, rfl⟩ := TaskPhase.routing.inj hphase
        have hself := reserve_self s call.order
        rw [hs, hsym, hsigned] at hself
        exact ⟨hsym, hself⟩
    · simp only [hroute]
      rw [hsym] at hs
      refine ⟨hs, fun hphase => ?_, fun call' gw' hphase => ?_⟩
      · cases hphase
      · cases hphase
  · refine ⟨fun _ _ => rfl, fun hphase => ?_, fun call gw hphase => ?_⟩
    · cases hphase
    · cases hphase

end SliceTask

/-! ## The orders of a step -/

/-- The rounding of an order: how far its quantity is from the difference it was sent for. -/
def RebalanceOrder.rounding (r : RebalanceOrder) : ℚ := |r.parent.totalQuantity - (|r.delta|)|

/-- The quantity of an order is off by half a unit of its last decimal, or by what it was raised to the least quantity. -/
theorem abs_orderQuantity_sub_le (delta : ℚ) : |orderQuantity delta - (|delta|)| ≤ 1 / 1000 := by
  have hround := abs_le.1 (abs_round_sub_le |delta| 4)
  have hdelta := abs_nonneg delta
  unfold orderQuantity
  rw [abs_le]
  rcases le_total (1 / 1000) (round |delta| 4) with hle | hle
  · rw [max_eq_right hle]
    constructor <;> linarith [hround.1, hround.2]
  · rw [max_eq_left hle]
    constructor <;> linarith [hround.1, hround.2]

/-- The signed quantity of an order for a difference is off by as much. -/
theorem abs_signed_sub (delta qty : ℚ) : |(orderSide delta).signed qty - delta| = |qty - (|delta|)| := by
  unfold orderSide
  split
  · rename_i h
    rw [abs_of_pos h]
    rfl
  · rename_i h
    rw [abs_of_nonpos (not_lt.1 h), show OrderSide.sell.signed qty = -qty from rfl, ← abs_neg]
    congr 1
    ring

/-- What is known of the task a step starts for a symbol. -/
structure SentFor (engine : AutonomousTradingEngine) (o : RiskOrchestrator) (m : StepMeets) (inp : StepInputs)
    (positions : Dict String ℚ) (sym : String) (t : SliceTask) : Prop where
  symbol : t.parent.symbol = strip sym
  price : ∃ price, inp.bars.get? sym = some price ∧
    t.delta = deltaShares ((engine.computeTargetAllocations inp.bars inp.equity inp.isKillActive).1.getD sym 0) price
      (positions.getD sym 0) (o.state.pendingLeaves.getD sym 0) ∧
    engine.minTradeNotional ≤ |t.delta * price| ∧ m.allows sym = true
  side : t.parent.side = orderSide t.delta
  quantity : t.parent.totalQuantity = orderQuantity t.delta
  whole : t.slice.quantity = t.parent.totalQuantity
  fresh : t.phase = .created ∧ t.executed = 0 ∧ t.reserved = 0

theorem rebalanceRequest_create_some {sym : String} {side : OrderSide} {qty : ℚ} {request : RebalanceRequest}
    (h : RebalanceRequest.create sym side qty = some request) :
    request.symbol = sym ∧ request.side = side ∧ request.quantity = qty := by
  unfold RebalanceRequest.create at h
  split at h
  · split at h
    · cases h
      exact ⟨rfl, rfl, rfl⟩
    · cases h
  · cases h

theorem submitParentOrder_ok {o : RiskOrchestrator} {m : StepMeets} {request : RebalanceRequest} {delta : ℚ} {t : SliceTask}
    (h : submitParentOrder o m request delta = .ok t) :
    ∃ parent : ParentOrder, (parent.symbol = strip request.symbol ∧ parent.side = request.side ∧
        parent.totalQuantity = request.quantity) ∧
      t = { parent := parent, slice := request.slice m.t0Ns, delta := delta } := by
  unfold submitParentOrder at h
  split at h
  · cases h
  · split at h
    · cases h
    · rename_i parent hparent
      obtain ⟨target, rfl, hsym, hside, hqty, -⟩ := ParentOrderFields.create_fresh hparent
      cases h
      exact ⟨target.fresh, ⟨hsym, hside, hqty⟩, rfl⟩

theorem sentFor_of_rebalance {engine : AutonomousTradingEngine} {o : RiskOrchestrator} {m : StepMeets} {inp : StepInputs}
    {positions : Dict String ℚ} {sym : String} {t : SliceTask}
    (h : engine.rebalance o m inp positions sym = some (some t)) : SentFor engine o m inp positions sym t := by
  unfold AutonomousTradingEngine.rebalance at h
  split at h
  · cases h
  · rename_i price hprice
    split at h
    · cases h
    · simp only at h
      split at h
      · rename_i hdue
        split at h
        · cases h
        · rename_i request hrequest
          obtain ⟨hsym, hside, hqty⟩ := rebalanceRequest_create_some hrequest
          split at h
          · cases h
          · rename_i task hsubmit
            obtain ⟨parent, ⟨hparent, hpside, hpqty⟩, rfl⟩ := submitParentOrder_ok hsubmit
            cases h
            exact
              { symbol := hparent.trans (by rw [hsym])
                price := ⟨price, hprice, rfl, hdue⟩
                side := hpside.trans hside
                quantity := hpqty.trans hqty
                whole := hpqty.symm
                fresh := ⟨rfl, rfl, rfl⟩ }
      · cases h

/-- Every task of a step was sent for a symbol of the universe. -/
theorem sentFor_of_mem {engine : AutonomousTradingEngine} {o : RiskOrchestrator} {m : StepMeets} {inp : StepInputs}
    {positions : Dict String ℚ} {symbols : List String} {t : SliceTask}
    (h : t ∈ engine.rebalanceAll o m inp positions symbols) : ∃ sym ∈ symbols, SentFor engine o m inp positions sym t := by
  induction symbols with
  | nil => cases h
  | cons sym rest ih =>
    unfold AutonomousTradingEngine.rebalanceAll at h
    split at h
    · cases h
    · rename_i task htask
      rcases List.mem_append.1 h with h | h
      · rw [Option.mem_toList] at h
        rw [h] at htask
        exact ⟨sym, List.mem_cons_self, sentFor_of_rebalance htask⟩
      · obtain ⟨sym', hmem, hsent⟩ := ih h
        exact ⟨sym', List.mem_cons_of_mem _ hmem, hsent⟩

/-- A symbol that no name of the universe stands for gets no order. -/
theorem filter_rebalanceAll_nil {engine : AutonomousTradingEngine} {o : RiskOrchestrator} {m : StepMeets} {inp : StepInputs}
    {positions : Dict String ℚ} {symbols : List String} {sym : String} (h : symbols.filter (fun u => strip u = sym) = []) :
    (engine.rebalanceAll o m inp positions symbols).filter (fun t => t.parent.symbol = sym) = [] := by
  rw [List.filter_eq_nil_iff] at h ⊢
  intro t ht hsym
  obtain ⟨sym', hmem, hsent⟩ := sentFor_of_mem ht
  rw [decide_eq_true_iff, hsent.symbol] at hsym
  exact h sym' hmem (decide_eq_true hsym)

/-- A symbol that the universe names once gets at most one order. -/
theorem filter_rebalanceAll (engine : AutonomousTradingEngine) (o : RiskOrchestrator) (m : StepMeets) (inp : StepInputs)
    (positions : Dict String ℚ) {symbols : List String} {sym : String} (h : symbols.filter (fun u => strip u = sym) = [sym]) :
    (engine.rebalanceAll o m inp positions symbols).filter (fun t => t.parent.symbol = sym) = [] ∨
      ∃ t, SentFor engine o m inp positions sym t ∧
        (engine.rebalanceAll o m inp positions symbols).filter (fun t => t.parent.symbol = sym) = [t] := by
  induction symbols with
  | nil => cases h
  | cons u rest ih =>
    unfold AutonomousTradingEngine.rebalanceAll
    split
    · exact .inl rfl
    · rename_i task htask
      rw [List.filter_append]
      by_cases hu : strip u = sym
      · -- the one name of the symbol: the rest of the universe sends nothing for it
        rw [List.filter_cons_of_pos (by simpa using hu)] at h
        obtain ⟨rfl, hrest⟩ := List.cons.inj h
        rw [filter_rebalanceAll_nil hrest, List.append_nil]
        cases task with
        | none => exact .inl rfl
        | some t =>
          have hsent := sentFor_of_rebalance htask
          refine .inr ⟨t, hsent, ?_⟩
          rw [Option.toList_some, List.filter_cons_of_pos (by simpa [hsent.symbol] using hu), List.filter_nil]
      · rw [List.filter_cons_of_neg (by simpa using hu)] at h
        have hhead : task.toList.filter (fun t => t.parent.symbol = sym) = [] := by
          cases task with
          | none => rfl
          | some t =>
            have hsent := sentFor_of_rebalance htask
            rw [Option.toList_some, List.filter_cons_of_neg (by simpa [hsent.symbol] using hu), List.filter_nil]
        rw [hhead, List.nil_append]
        exact ih h

namespace AutonomousWorld

/-! ## The condition -/

/-- A call of `step_once` that goes on with the positions it was given. -/
structure Resumption where
  m : StepMeets
  inp : StepInputs
  positions : Dict String ℚ
  asOf : Option (List SliceTask)

/-- The call that an operation lets go on so. -/
def resumption (w : AutonomousWorld) : AutonomousOp → Option Resumption
  | .resume n m =>
    match w.steps[n]? with
    | some (.answered inp positions asOf) => some ⟨m, inp, positions, asOf⟩
    | _ => none
  | _ => none

/-- Every order of the symbol counts once: what the gateway had executed of them when the positions were read, and what is
reserved for them now, is all that was dispatched. -/
def CountsOnce (w : AutonomousWorld) (sym : String) (r : Resumption) : Prop :=
  ∃ seen ∈ r.asOf, executedFor sym seen + reservedFor sym w.tasks = w.dispatched sym

/-- A step that looks for differences. -/
def Resumption.Live (r : Resumption) : Prop := r.inp.isKillActive = false ∧ 0 < r.inp.equity

/-- The bars and the equity of a step give the price and the target. -/
def Unchanged (w : AutonomousWorld) (sym : String) (price target : ℚ) (r : Resumption) : Prop :=
  r.Live → r.inp.bars.get? sym = some price ∧
    (w.engine.computeTargetAllocations r.inp.bars r.inp.equity r.inp.isKillActive).1.getD sym 0 = target

/-- The difference a step finds is worth a trade, and the gate lets it through. -/
def Trades (w : AutonomousWorld) (sym : String) (price target : ℚ) (r : Resumption) : Prop :=
  r.Live ∧ w.engine.minTradeNotional ≤
      |deltaShares target price (r.positions.getD sym 0) (w.orchestrator.state.pendingLeaves.getD sym 0) * price| ∧
    r.m.allows sym = true

/-- An operation in which a step, on the same bars and equity as the others, trades only if it counts every order once. -/
def Admits (sym : String) (price target : ℚ) (w : AutonomousWorld) (op : AutonomousOp) : Prop :=
  ∀ r ∈ w.resumption op, w.Unchanged sym price target r ∧ (w.Trades sym price target r → w.CountsOnce sym r)

/-- Before any step: nothing is reserved for the symbol, which the universe names once. -/
structure Fresh (w : AutonomousWorld) (sym : String) : Prop where
  steps : w.steps = []
  tasks : w.tasks = []
  leaves : w.orchestrator.state.pendingLeaves.getD sym 0 = 0
  named : w.engine.universeSymbols.filter (fun u => strip u = sym) = [sym]

/-! ## The invariant -/

/-- The books of a symbol: its leaves are what its tasks have reserved, its position is the initial one with what was executed of
them, and so were the positions that were read, with the tasks of that time. -/
structure Accounted (sym : String) (initial : ℚ) (w : AutonomousWorld) : Prop where
  leaves : w.orchestrator.state.pendingLeaves.getD sym 0 = reservedFor sym w.tasks
  inventory : w.positions.getD sym 0 = initial + executedFor sym w.tasks
  reads : ∀ inp positions seen, .answered inp positions (some seen) ∈ w.steps →
    positions.getD sym 0 = initial + executedFor sym seen
  placed : ∀ t ∈ w.tasks, t.Placed
  named : w.engine.universeSymbols.filter (fun u => strip u = sym) = [sym]

/-- The last order for a symbol brought what was dispatched to the difference, but for its own rounding. -/
def Within (sym : String) (difference : ℚ) (w : AutonomousWorld) : Prop :=
  ∀ r ∈ (w.orders sym).getLast?, |w.dispatched sym - difference| ≤ r.rounding ∧ r.rounding ≤ 1 / 1000

variable {sym : String} {initial price target : ℚ} {w w' : AutonomousWorld}

theorem Accounted.setStep (h : Accounted sym initial w) (n : ℕ) {phase : StepPhase}
    (hphase : ∀ inp positions seen, phase = .answered inp positions (some seen) →
      positions.getD sym 0 = initial + executedFor sym seen) : Accounted sym initial (w.setStep n phase) :=
  { h with
    reads := by
      intro inp positions seen hmem
      rcases List.mem_or_eq_of_mem_set hmem with hmem | rfl
      · exact h.reads inp positions seen hmem
      · exact hphase inp positions seen rfl }

theorem Accounted.setTask (h : Accounted sym initial w) {k : ℕ} {t : SliceTask} (ht : w.tasks[k]? = some t)
    {r : TaskPhase × RiskOrchestrator}
    (hleaves : ∀ sym, sym ≠ t.parent.symbol →
      r.2.state.pendingLeaves.getD sym 0 = w.orchestrator.state.pendingLeaves.getD sym 0)
    (hplaced : (t.movedTo w.orchestrator r.2 r.1).Placed) : Accounted sym initial (w.setTask k t r) := by
  have hparent : (t.movedTo w.orchestrator r.2 r.1).parent = t.parent := rfl
  constructor
  case leaves =>
    have hset : reservedFor sym (w.setTask k t r).tasks = _ := addUp_set ht hparent
    rw [hset, ← reservedFor, ← h.leaves]
    by_cases hsym : t.parent.symbol = sym
    · subst hsym
      rw [if_pos rfl]
      simp only [SliceTask.movedTo, AutonomousWorld.setTask]
      ring
    · rw [if_neg hsym, add_zero]
      exact hleaves sym (Ne.symm hsym)
  case inventory =>
    have hset : executedFor sym (w.setTask k t r).tasks = _ := addUp_set ht hparent
    have hsame : (t.movedTo w.orchestrator r.2 r.1).executed = t.executed := rfl
    rw [hset, hsame, sub_self, ite_self, add_zero]
    exact h.inventory
  case reads => exact h.reads
  case placed =>
    intro x hx
    rcases List.mem_or_eq_of_mem_set hx with hx | rfl
    · exact h.placed x hx
    · exact hplaced
  case named => exact h.named

theorem Accounted.execute (h : Accounted sym initial w) {k : ℕ} {t : SliceTask} (ht : w.tasks[k]? = some t)
    (hphase : t.phase ≠ .created) (qty : ℚ) : Accounted sym initial (w.execute k t qty) := by
  have hparent : { t with executed := t.executed + t.parent.side.signed qty }.parent = t.parent := rfl
  constructor
  case leaves =>
    have hset : reservedFor sym (w.execute k t qty).tasks = _ := addUp_set ht hparent
    rw [hset, sub_self, ite_self, add_zero]
    exact h.leaves
  case inventory =>
    have hset : executedFor sym (w.execute k t qty).tasks = _ := addUp_set ht hparent
    rw [hset, add_sub_cancel_left, ← executedFor, ← add_assoc, ← h.inventory]
    by_cases hsym : t.parent.symbol = sym
    · subst hsym
      rw [if_pos rfl]
      exact Dict.getD_set_self _ _ _ _
    · rw [if_neg hsym, add_zero]
      exact Dict.getD_set_of_ne _ _ _ (Ne.symm hsym)
  case reads => exact h.reads
  case placed =>
    intro x hx
    rcases List.mem_or_eq_of_mem_set hx with hx | rfl
    · exact h.placed x hx
    · have hplaced := h.placed t (List.mem_of_getElem? ht)
      exact ⟨hplaced.whole, fun hcreated => absurd hcreated hphase, hplaced.routing⟩
  case named => exact h.named

/-- The orders of a symbol are those before when a task is replaced by one of the same order. -/
theorem orders_of_set {k : ℕ} {t x : SliceTask} (ht : w.tasks[k]? = some t) (hx : x.toRebalanceOrder = t.toRebalanceOrder)
    (hw : w'.tasks = w.tasks.set k x) : w'.orders sym = w.orders sym := by
  have hmap : (w.tasks.map SliceTask.toRebalanceOrder)[k]? = some x.toRebalanceOrder := by
    rw [List.getElem?_map, ht, hx]
    rfl
  obtain ⟨hlt, hget⟩ := List.getElem?_eq_some_iff.1 hmap
  unfold orders
  rw [hw, List.map_set, ← hget, List.set_getElem_self]

theorem Within.congr {difference : ℚ} (h : Within sym difference w) (horders : w'.orders sym = w.orders sym) :
    Within sym difference w' := by
  unfold Within dispatched at h ⊢
  rw [horders]
  exact h

theorem dispatched_eq (sym : String) (w : AutonomousWorld) :
    w.dispatched sym = addUp sym (fun t => t.signedQuantity) w.tasks := by
  unfold dispatched orders addUp
  induction w.tasks with
  | nil => rfl
  | cons t tasks ih =>
    rw [List.map_cons, List.filter_cons, List.map_cons, List.sum_cons, ← ih]
    by_cases hsym : t.parent.symbol = sym
    · simp [hsym]
    · simp [hsym]

/-- Orders that all await the gateway, of which nothing was executed when the positions were read, count once. -/
theorem countsOnce_of_routing (h : Accounted sym initial w) {r : Resumption} {seen : List SliceTask} (hread : r.asOf = some seen)
    (hnone : executedFor sym seen = 0)
    (hrouting : ∀ t ∈ w.tasks, t.parent.symbol = sym → ∃ call gw, t.phase = .routing call gw) : w.CountsOnce sym r := by
  refine ⟨seen, hread, ?_⟩
  rw [hnone, zero_add, dispatched_eq]
  unfold reservedFor addUp
  refine congrArg List.sum (List.map_congr_left fun t ht => ?_)
  by_cases hsym : t.parent.symbol = sym
  · obtain ⟨call, gw, hphase⟩ := hrouting t ht hsym
    rw [if_pos hsym, if_pos hsym, ((h.placed t ht).routing call gw hphase).2]
  · rw [if_neg hsym, if_neg hsym]

/-! ### A step that goes on -/

/-- A step goes on and starts its tasks. -/
def resumed (w : AutonomousWorld) (n : ℕ) (r : Resumption) : AutonomousWorld :=
  { w.setStep n .done with tasks := w.tasks ++ w.engine.dispatched w.orchestrator r.m r.inp r.positions }

theorem fresh_of_dispatched {r : Resumption} {t : SliceTask}
    (ht : t ∈ w.engine.dispatched w.orchestrator r.m r.inp r.positions) :
    t.phase = .created ∧ t.executed = 0 ∧ t.reserved = 0 ∧ t.slice.quantity = t.parent.totalQuantity := by
  unfold AutonomousTradingEngine.dispatched at ht
  split at ht
  · cases ht
  · obtain ⟨sym, -, hsent⟩ := sentFor_of_mem ht
    obtain ⟨hphase, hexecuted, hreserved⟩ := hsent.fresh
    exact ⟨hphase, hexecuted, hreserved, hsent.whole⟩

theorem Accounted.resumed (h : Accounted sym initial w) (n : ℕ) (r : Resumption) : Accounted sym initial (w.resumed n r) := by
  have hdone : Accounted sym initial (w.setStep n .done) := h.setStep n nofun
  constructor
  case leaves =>
    have hnew : reservedFor sym (w.engine.dispatched w.orchestrator r.m r.inp r.positions) = 0 :=
      addUp_eq_zero fun t ht => (fresh_of_dispatched ht).2.2.1
    have happend : reservedFor sym (w.resumed n r).tasks = _ := addUp_append _ _ _ _
    rw [happend, ← reservedFor, ← reservedFor, hnew, add_zero]
    exact h.leaves
  case inventory =>
    have hnew : executedFor sym (w.engine.dispatched w.orchestrator r.m r.inp r.positions) = 0 :=
      addUp_eq_zero fun t ht => (fresh_of_dispatched ht).2.1
    have happend : executedFor sym (w.resumed n r).tasks = _ := addUp_append _ _ _ _
    rw [happend, ← executedFor, ← executedFor, hnew, add_zero]
    exact h.inventory
  case reads => exact hdone.reads
  case placed =>
    intro t ht
    rcases List.mem_append.1 ht with ht | ht
    · exact h.placed t ht
    · obtain ⟨hphase, hexecuted, hreserved, hwhole⟩ := fresh_of_dispatched ht
      refine ⟨hwhole, fun _ => ⟨hreserved, hexecuted⟩, fun call gw hrouting => ?_⟩
      rw [hphase] at hrouting
      cases hrouting
  case named => exact h.named

/-- A step adds no order for the symbol, or the one it was sent for. -/
theorem orders_resumed (h : Accounted sym initial w) (n : ℕ) (r : Resumption) :
    (w.resumed n r).orders sym = w.orders sym ∨
    ∃ t, r.inp.isKillActive = false ∧ 0 < r.inp.equity ∧ SentFor w.engine w.orchestrator r.m r.inp r.positions sym t ∧
      (w.resumed n r).orders sym = w.orders sym ++ [t.toRebalanceOrder] := by
  have horders : (w.resumed n r).orders sym = w.orders sym ++
      ((w.engine.dispatched w.orchestrator r.m r.inp r.positions).filter (fun t => t.parent.symbol = sym)).map
        SliceTask.toRebalanceOrder := by
    unfold orders resumed
    rw [List.map_append, List.filter_append, List.filter_map, List.filter_map]
    rfl
  rw [horders]
  unfold AutonomousTradingEngine.dispatched
  split
  · exact .inl (List.append_nil _)
  · rename_i hlive
    rw [not_or, Bool.not_eq_true, not_le] at hlive
    rcases filter_rebalanceAll w.engine w.orchestrator r.m r.inp r.positions h.named with hnil | ⟨t, hsent, ht⟩
    · rw [hnil]
      exact .inl (List.append_nil _)
    · rw [ht]
      exact .inr ⟨t, hlive.1, hlive.2, hsent, rfl⟩

/-- A step that counts every order once leaves what is dispatched within the rounding of its own order. -/
theorem Within.resumed (hwithin : Within sym (target / price - initial) w) (h : Accounted sym initial w) (n : ℕ)
    {r : Resumption} (hsame : w.Unchanged sym price target r) (hcounts : w.Trades sym price target r → w.CountsOnce sym r)
    (hread : .answered r.inp r.positions r.asOf ∈ w.steps) :
    Within sym (target / price - initial) (w.resumed n r) := by
  rcases orders_resumed h n r with horders | ⟨t, hkill, hequity, hsent, horders⟩
  · exact hwithin.congr horders
  · intro last hlast
    rw [horders, List.getLast?_concat, Option.mem_some_iff] at hlast
    subst hlast
    obtain ⟨hbar, htarget⟩ := hsame ⟨hkill, hequity⟩
    obtain ⟨price', hprice', hdelta, hdue, hallows⟩ := hsent.price
    obtain rfl : price = price' := Option.some.inj (hbar.symm.trans hprice')
    rw [htarget] at hdelta
    rw [hdelta] at hdue
    obtain ⟨seen, hseen, hcount⟩ := hcounts ⟨⟨hkill, hequity⟩, hdue, hallows⟩
    rw [Option.mem_def] at hseen
    rw [hseen] at hread
    -- the shares the step counts are the initial position and all that was dispatched before it
    have hcounted : t.delta = target / price - (initial + w.dispatched sym) := by
      rw [hdelta, deltaShares, h.reads _ _ _ hread, h.leaves, ← hcount]
      ring
    have hsigned : t.signedQuantity = (orderSide t.delta).signed t.parent.totalQuantity := by
      rw [RebalanceOrder.signedQuantity, hsent.side]
    have hdispatched : (w.resumed n r).dispatched sym = w.dispatched sym + t.signedQuantity := by
      rw [dispatched, horders, List.map_append, List.sum_append, List.map_singleton, List.sum_singleton]
      rfl
    have hdiff : (w.resumed n r).dispatched sym - (target / price - initial) =
        (orderSide t.delta).signed t.parent.totalQuantity - t.delta := by
      rw [hdispatched, hsigned, hcounted]
      ring
    refine ⟨le_of_eq ?_, ?_⟩
    · rw [hdiff]
      exact abs_signed_sub _ _
    · rw [RebalanceOrder.rounding, hsent.quantity]
      exact abs_orderQuantity_sub_le _

/-! ### Runs -/

/-- The books, and the law of what was dispatched. -/
structure Sound (sym : String) (initial difference : ℚ) (w : AutonomousWorld) : Prop where
  accounted : Accounted sym initial w
  within : Within sym difference w

theorem Sound.setStep {difference : ℚ} (h : Sound sym initial difference w) (n : ℕ) {phase : StepPhase}
    (hphase : ∀ inp positions seen, phase = .answered inp positions (some seen) →
      positions.getD sym 0 = initial + executedFor sym seen) : Sound sym initial difference (w.setStep n phase) :=
  ⟨h.accounted.setStep n hphase, h.within.congr rfl⟩

theorem Sound.setTask {difference : ℚ} (h : Sound sym initial difference w) {k : ℕ} {t : SliceTask} (ht : w.tasks[k]? = some t)
    {r : TaskPhase × RiskOrchestrator}
    (hleaves : ∀ sym, sym ≠ t.parent.symbol →
      r.2.state.pendingLeaves.getD sym 0 = w.orchestrator.state.pendingLeaves.getD sym 0)
    (hplaced : (t.movedTo w.orchestrator r.2 r.1).Placed) : Sound sym initial difference (w.setTask k t r) :=
  ⟨h.accounted.setTask ht hleaves hplaced, h.within.congr (orders_of_set (x := t.movedTo w.orchestrator r.2 r.1) ht rfl rfl)⟩

/-- A task runs to the await of the gateway, with its order reserved, or ends. -/
theorem Sound.taskRuns {difference : ℚ} (h : Sound sym initial difference w) {k : ℕ} {t : SliceTask} (ht : w.tasks[k]? = some t)
    (hcreated : t.phase = .created) (m : SliceMeets) (isConnected : GatewayRef → Bool) :
    Sound sym initial difference (w.setTask k t (t.run w.orchestrator w.maxSliceDelaySec m isConnected)) := by
  have hplaced := h.accounted.placed t (List.mem_of_getElem? ht)
  obtain ⟨hleaves, hphase, hrouting⟩ := SliceTask.run_cases hplaced w.orchestrator w.maxSliceDelaySec m isConnected
  refine h.setTask ht hleaves ⟨hplaced.whole, fun hc => absurd hc hphase, fun call gw hroute => ?_⟩
  obtain ⟨hsym, hreserved⟩ := hrouting call gw hroute
  refine ⟨hsym, ?_⟩
  simp only [SliceTask.movedTo, hreserved, (hplaced.created hcreated).1]
  ring

theorem Sound.execute {difference : ℚ} (h : Sound sym initial difference w) {k : ℕ} {t : SliceTask} (ht : w.tasks[k]? = some t)
    (hphase : t.phase ≠ .created) (qty : ℚ) : Sound sym initial difference (w.execute k t qty) := by
  have horders : (w.execute k t qty).orders sym = w.orders sym :=
    orders_of_set (x := { t with executed := t.executed + t.parent.side.signed qty }) ht rfl rfl
  exact ⟨h.accounted.execute ht hphase qty, h.within.congr horders⟩

/-- The report of an order arrives, and its leaves are reconciled. -/
theorem Sound.reportArrives {difference : ℚ} (h : Sound sym initial difference w) {k : ℕ} {t : SliceTask}
    (ht : w.tasks[k]? = some t) {call : RouteCall} {gw : GatewayRef} (hrouting : t.phase = .routing call gw)
    (answer : Except Exc ExecutionReport) :
    Sound sym initial difference (w.setTask k t (.ended, (w.orchestrator.resumeOrder call (.direct gw) answer).2)) := by
  have hplaced := h.accounted.placed t (List.mem_of_getElem? ht)
  have hsym := (hplaced.routing call gw hrouting).1
  refine h.setTask ht (fun sym hne => ?_) (hplaced.ended _ _)
  rw [← hsym] at hne
  exact resumeOrder_leaves_of_ne _ _ _ _ hne

/-- One operation that is admitted keeps the books and the law. -/
theorem Sound.step (h : Sound sym initial (target / price - initial) w) {op : AutonomousOp}
    (hadmits : Admits sym price target w op) (hstep : w.step op = some w') : Sound sym initial (target / price - initial) w' := by
  cases op with
  | stepOnce =>
    cases hstep
    refine ⟨{ h.accounted with reads := fun inp positions seen hmem => ?_ }, h.within.congr rfl⟩
    rcases List.mem_append.1 hmem with hmem | hmem
    · exact h.accounted.reads inp positions seen hmem
    · cases List.mem_singleton.1 hmem
  | barsArrive n bars =>
    rw [AutonomousWorld.step] at hstep
    split at hstep
    · simp only at hstep
      split at hstep
      · cases hstep
        exact h.setStep n nofun
      · cases hstep
        exact h.setStep n nofun
    · cases hstep
  | balanceArrives n equity =>
    rw [AutonomousWorld.step] at hstep
    split at hstep
    · cases hstep
      exact h.setStep n nofun
    · cases hstep
  | positionsRead n =>
    rw [AutonomousWorld.step] at hstep
    split at hstep
    · cases hstep
      refine h.setStep n fun inp positions seen heq => ?_
      cases heq
      exact h.accounted.inventory
    · cases hstep
  | positionsLost n =>
    rw [AutonomousWorld.step] at hstep
    split at hstep
    · cases hstep
      exact h.setStep n nofun
    · cases hstep
  | resume n m =>
    rw [AutonomousWorld.step] at hstep
    split at hstep
    · rename_i inp positions asOf hn
      have hres : w.resumption (.resume n m) = some ⟨m, inp, positions, asOf⟩ := by
        simp only [resumption, hn]
      obtain ⟨hsame, hcounts⟩ := hadmits _ hres
      cases hstep
      exact ⟨h.accounted.resumed n ⟨m, inp, positions, asOf⟩,
        h.within.resumed h.accounted n hsame hcounts (List.mem_of_getElem? hn)⟩
    · cases hstep
  | stepRaises n =>
    rw [AutonomousWorld.step] at hstep
    split at hstep
    · cases hstep
      exact h.setStep n nofun
    · cases hstep
  | updatePriors priors =>
    cases hstep
    exact ⟨{ h.accounted with named := h.accounted.named }, h.within.congr rfl⟩
  | taskRuns k m isConnected =>
    rw [AutonomousWorld.step] at hstep
    split at hstep
    · rename_i t ht
      split at hstep
      · rename_i hcreated
        cases hstep
        exact h.taskRuns ht hcreated m isConnected
      · cases hstep
    · cases hstep
  | executes k qty =>
    rw [AutonomousWorld.step] at hstep
    split at hstep
    · rename_i t ht
      split at hstep
      · cases hstep
      · rename_i hphase
        split at hstep
        · cases hstep
          exact h.execute ht (fun hc => hphase hc) qty
        · cases hstep
    · cases hstep
  | reportArrives k answer =>
    rw [AutonomousWorld.step] at hstep
    split at hstep
    · rename_i t ht
      split at hstep
      · rename_i call gw hrouting
        cases hstep
        exact h.reportArrives ht hrouting answer
      · cases hstep
    · cases hstep

/-- In every state of an admitted run in which an order was dispatched for the symbol, what was dispatched differs from the
difference between the target and the initial position by at most the rounding of the last order. -/
theorem dispatched_of_run {w₀ : AutonomousWorld} (hfresh : w₀.Fresh sym)
    (hrun : Run (fun w op w' => w.step op = some w') (Admits sym price target) w₀ w) :
    ∀ r ∈ (w.orders sym).getLast?,
      |w.dispatched sym - (target / price - w₀.positions.getD sym 0)| ≤ r.rounding ∧ r.rounding ≤ 1 / 1000 := by
  have hsound : Sound sym (w₀.positions.getD sym 0) (target / price - w₀.positions.getD sym 0) w := by
    refine hrun.invariant (fun _ _ _ h hadmits hstep => h.step hadmits hstep) ⟨?_, ?_⟩
    · constructor
      case leaves =>
        rw [hfresh.tasks]
        exact hfresh.leaves
      case inventory =>
        rw [hfresh.tasks]
        exact (add_zero _).symm
      case reads =>
        intro inp positions seen hmem
        rw [hfresh.steps] at hmem
        exact absurd hmem List.not_mem_nil
      case placed =>
        intro t ht
        rw [hfresh.tasks] at ht
        exact absurd ht List.not_mem_nil
      case named => exact hfresh.named
    · simp [Within, orders, hfresh.tasks]
  exact hsound.within

/-! Two steps one after the other, and two steps that go on before the order of the first is routed. -/

instance (r : Resumption) : Decidable r.Live := inferInstanceAs (Decidable (_ ∧ _))

instance (w : AutonomousWorld) (sym : String) (price target : ℚ) (r : Resumption) : Decidable (w.Unchanged sym price target r) :=
  inferInstanceAs (Decidable (r.Live → _ ∧ _))

instance (w : AutonomousWorld) (sym : String) (price target : ℚ) (r : Resumption) : Decidable (w.Trades sym price target r) :=
  inferInstanceAs (Decidable (r.Live ∧ _ ∧ _))

instance (w : AutonomousWorld) (sym : String) (r : Resumption) : Decidable (w.CountsOnce sym r) :=
  inferInstanceAs (Decidable (∃ seen ∈ r.asOf, executedFor sym seen + reservedFor sym w.tasks = w.dispatched sym))

instance (sym : String) (price target : ℚ) (w : AutonomousWorld) (op : AutonomousOp) : Decidable (Admits sym price target w op) :=
  inferInstanceAs (Decidable (∀ r ∈ w.resumption op, w.Unchanged sym price target r ∧
    (w.Trades sym price target r → w.CountsOnce sym r)))

/-- The program of a task has ended. -/
def isEnded : TaskPhase → Bool
  | .ended => true
  | _ => false

/-- An operation with which no slice fails: a task gets to the gateway, and its report is not of a dead order. -/
def unfailing (w : AutonomousWorld) : AutonomousOp → Bool
  | .taskRuns k m isConnected =>
    (w.tasks[k]?).all fun t => !isEnded (t.run w.orchestrator w.maxSliceDelaySec m isConnected).1
  | .reportArrives _ (.ok rep) => rep.execType ≠ .rejected ∧ rep.execType ≠ .cancelled ∧ rep.execType ≠ .expired
  | .reportArrives _ (.error _) => false
  | _ => true

/-- An engine that trades one stock, on an account without shares. -/
def traderDesk : AutonomousWorld where
  engine := AutonomousTradingEngine.create ["AAPL"] 100
  orchestrator := wideOrchestrator

/-- Where operations of this engine lead. -/
def traded (ops : List AutonomousOp) : AutonomousWorld := (ops.foldlM AutonomousWorld.step traderDesk).getD traderDesk

/-- Two steps, the second after the order of the first was routed. -/
def apart : List AutonomousOp :=
  [.stepOnce, .barsArrive 0 (Dict.set ∅ "AAPL" 100), .positionsRead 0, .resume 0 {}, .taskRuns 0 {} fun _ => true,
    .stepOnce, .barsArrive 1 (Dict.set ∅ "AAPL" 100), .positionsRead 1, .resume 1 {}]

/-- Two steps at a time, and the routing of their orders. -/
def together : List AutonomousOp :=
  [.stepOnce, .stepOnce, .barsArrive 0 (Dict.set ∅ "AAPL" 100), .barsArrive 1 (Dict.set ∅ "AAPL" 100), .positionsRead 0,
    .positionsRead 1, .resume 0 {}, .resume 1 {}, .taskRuns 0 {} (fun _ => true), .taskRuns 1 {} fun _ => true]

theorem fresh_traderDesk : traderDesk.Fresh "AAPL" := ⟨rfl, rfl, by decide, by decide⟩

theorem dispatched_apart : (traded apart).dispatched "AAPL" = 2000 ∧ ∀ r ∈ ((traded apart).orders "AAPL").getLast?,
    |(traded apart).dispatched "AAPL" - (200000 / 100 - traderDesk.positions.getD "AAPL" 0)| ≤ r.rounding ∧
      r.rounding ≤ 1 / 1000 :=
  ⟨by decide +kernel, dispatched_of_run fresh_traderDesk (Run.of_guarded apart (by decide +kernel))⟩

theorem multiplied_together : ¬ ∀ (sym : String) (price target : ℚ) (w₀ w : AutonomousWorld), w₀.Fresh sym →
    Run (fun w op w' => w.step op = some w')
      (fun w op => (∀ r ∈ w.resumption op, w.Unchanged sym price target r) ∧ w.unfailing op = true) w₀ w →
    ∀ r ∈ (w.orders sym).getLast?, |w.dispatched sym - (target / price - w₀.positions.getD sym 0)| ≤ r.rounding := by
  intro h
  have hlast := h "AAPL" 100 200000 traderDesk (traded together) fresh_traderDesk
    (Run.of_guarded together (by decide +kernel))
  exact absurd hlast (by decide +kernel)

end AutonomousWorld

end Quant
