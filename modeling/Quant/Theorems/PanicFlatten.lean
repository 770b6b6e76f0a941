import Mathlib.Algebra.BigOperators.Group.List.Basic
import Mathlib.Algebra.Order.Ring.Abs
import Mathlib.Tactic.Ring
import Quant.Execution.PanicTasks
import Quant.Lemmas.KillSwitch
import Quant.Pylib.Runs

/-!
# Flattening under aliased registrations

What a panic in the mode `CANCEL_AND_FLATTEN` leaves of the positions. It asks for the positions under every registration before
it submits anything, so a gateway object that answers under two identifiers is flattened twice, and ends on the other side.
-/

namespace Quant

open Pylib EmergencyKillSwitch

/-! ## The orders of one gateway -/

/-- What a flattening order will do to a position once it is filled. -/
def FlattenTask.effect (gw : GatewayRef) (sym : String) (task : FlattenTask) : ℚ :=
  if task.gateway = gw ∧ task.order.symbol = sym then task.order.signedQuantity else 0

/-- What flattening orders without an answer will still do to a position. -/
def pending (tasks : List FlattenTask) (gw : GatewayRef) (sym : String) : ℚ :=
  (tasks.map fun task => if task.result.isSome then 0 else task.effect gw sym).sum

/-- The part of a position that is not negligible. -/
def sizable (q : ℚ) : ℚ := if |q| ≤ 1 / 10 ^ 7 then 0 else q

/-- What the loop over the positions of one gateway offsets of a symbol. -/
def offset (l : List (String × ℚ)) (sym : String) : ℚ := (l.map fun p => if p.1 = sym then sizable p.2 else 0).sum

/-- The offsetting order of a position. -/
theorem signedQuantity_flatOrder {c : PanicCall} {gid sym : String} {qty : ℚ} {n : ℕ} {o : Order}
    (h : (flatOrder c gid sym qty n).create = .ok o) : o.symbol = sym ∧ o.signedQuantity = -qty := by
  have hf := OrderFields.create_ok h
  have hside : o.side = if 0 < qty then .sell else .buy := congrArg OrderFields.side hf
  have hqty : o.quantity = |qty| := congrArg OrderFields.quantity hf
  refine ⟨congrArg OrderFields.symbol hf, ?_⟩
  rw [Order.signedQuantity, hside, hqty]
  split
  · rename_i hpos
    rw [OrderSide.signed, abs_of_pos hpos]
  · rename_i hpos
    rw [OrderSide.signed, abs_of_nonpos (not_lt.1 hpos)]

/-- The loop over the positions of one gateway appends orders that offset what is not negligible. -/
theorem flatOrders_pending {c : PanicCall} {gid : String} {gw : GatewayRef} {l : List (String × ℚ)}
    {tasks tasks' : List FlattenTask} (h : flatOrders c gid gw l tasks = .ok tasks')
    (hopen : ∀ task ∈ tasks, task.result = none) :
    (∀ task ∈ tasks', task.result = none) ∧
      ∀ gw' sym, pending tasks' gw' sym = pending tasks gw' sym - (if gw' = gw then offset l sym else 0) := by
  induction l generalizing tasks with
  | nil =>
    cases h
    exact ⟨hopen, fun gw' sym => by simp [offset]⟩
  | cons p l ih =>
    obtain ⟨sym₀, qty⟩ := p
    unfold flatOrders at h
    have hcons : ∀ sym, offset ((sym₀, qty) :: l) sym = (if sym₀ = sym then sizable qty else 0) + offset l sym :=
      fun sym => List.sum_cons
    split at h
    · rename_i hsmall
      obtain ⟨hopen', hpend⟩ := ih h hopen
      refine ⟨hopen', fun gw' sym => ?_⟩
      rw [hpend, hcons, sizable, if_pos hsmall, ite_self, zero_add]
    · rename_i hlarge
      split at h
      · cases h
      · rename_i o ho
        obtain ⟨hosym, hoqty⟩ := signedQuantity_flatOrder ho
        have hopen' : ∀ task ∈ tasks ++ [({ gateway := gw, order := o } : FlattenTask)], task.result = none := by
          intro task htask
          rcases List.mem_append.1 htask with htask | htask
          · exact hopen task htask
          · rw [List.mem_singleton.1 htask]
        obtain ⟨hopen'', hpend⟩ := ih h hopen'
        refine ⟨hopen'', fun gw' sym => ?_⟩
        have hnew : pending (tasks ++ [{ gateway := gw, order := o }]) gw' sym =
            pending tasks gw' sym + (if gw = gw' ∧ sym₀ = sym then -qty else 0) := by
          simp [pending, FlattenTask.effect, hosym, hoqty]
        rw [hpend, hnew, hcons, sizable, if_neg hlarge]
        by_cases hgw : gw' = gw
        · subst hgw
          by_cases hsym : sym₀ = sym
          · simp only [hsym, and_self, if_true]
            ring
          · simp only [hsym, and_false, if_false, if_true]
            ring
        · simp only [hgw, Ne.symm hgw, false_and, if_false, sub_zero, add_zero]

/-- Over a whole book the loop offsets each position that is not negligible. -/
theorem offset_items (d : Dict String ℚ) (sym : String) : offset d.items sym = sizable (d.getD sym 0) := by
  have hzero : sizable 0 = 0 := by simp [sizable]
  obtain ⟨l, hl⟩ := d
  unfold Dict.getD Dict.get?
  dsimp only
  induction l with
  | nil => simp [offset, hzero]
  | cons p l ih =>
    obtain ⟨sym₀, qty⟩ := p
    rw [List.map_cons, List.nodup_cons] at hl
    have hcons : offset ((sym₀, qty) :: l) sym = (if sym₀ = sym then sizable qty else 0) + offset l sym := List.sum_cons
    rw [hcons, ih hl.2, Dict.lookup_cons_ite]
    by_cases hsym : sym₀ = sym
    · subst hsym
      have hnone : l.lookup sym₀ = none := List.lookup_eq_none_iff.2 fun p hp => by
        rw [bne_iff_ne]
        rintro rfl
        exact hl.1 (List.mem_map.2 ⟨p, hp, rfl⟩)
      simp [hnone, hzero]
    · simp [hsym, Ne.symm hsym]

/-- The loop refuses exactly a blank symbol. -/
theorem blank_of_flatOrders {c : PanicCall} {gid : String} {gw : GatewayRef} {d : Dict String ℚ} {tasks : List FlattenTask}
    {exc : Exc} (h : flatOrders c gid gw d.items tasks = .error exc) : 1 / 10 ^ 7 < |d.getD "" 0| := by
  by_contra hno
  have hblank : ¬ ∃ q, ("", q) ∈ d.items ∧ 1 / 10 ^ 7 < |q| := by
    rintro ⟨q, hq, hlt⟩
    rw [Dict.getD_of_get?_some 0 ((Dict.mem_items_iff _ _ _).1 hq)] at hno
    exact hno hlt
  obtain ⟨tasks', heq⟩ := flatOrders_ok c gid gw hblank tasks
  rw [heq] at h
  cases h

theorem not_blank_of_flatOrders {c : PanicCall} {gid : String} {gw : GatewayRef} {l : List (String × ℚ)}
    {tasks tasks' : List FlattenTask} (h : flatOrders c gid gw l tasks = .ok tasks') : ∀ q, ("", q) ∈ l → |q| ≤ 1 / 10 ^ 7 := by
  induction l generalizing tasks with
  | nil => exact fun q hq => absurd hq List.not_mem_nil
  | cons p l ih =>
    obtain ⟨sym₀, qty⟩ := p
    unfold flatOrders at h
    intro q hq
    split at h
    · rename_i hsmall
      rcases List.mem_cons.1 hq with heq | hq
      · rw [(Prod.mk.inj heq).2]
        exact hsmall
      · exact ih h q hq
    · split at h
      · cases h
      · rename_i o ho
        rcases List.mem_cons.1 hq with heq | hq
        · exact absurd ((signedQuantity_flatOrder ho).1.trans (Prod.mk.inj heq).1.symm) o.symbol_ne
        · exact ih h q hq

/-! ## The answers to the orders -/

theorem pending_set {tasks : List FlattenTask} {j : ℕ} {gw : GatewayRef} {o : Order} (r : Except Exc Unit)
    (h : tasks[j]? = some ⟨gw, o, none⟩) (gw' : GatewayRef) (sym : String) :
    pending (tasks.set j ⟨gw, o, some r⟩) gw' sym + (if gw = gw' ∧ o.symbol = sym then o.signedQuantity else 0) =
      pending tasks gw' sym := by
  have := sum_set (fun task : FlattenTask => if task.result.isSome then 0 else task.effect gw' sym) ⟨gw, o, some r⟩ h
  exact this.trans (add_zero _)

theorem pending_answered {tasks : List FlattenTask} (h : tasks.all (fun task => task.result.isSome) = true) (gw : GatewayRef)
    (sym : String) : pending tasks gw sym = 0 := by
  refine List.sum_eq_zero fun x hx => ?_
  obtain ⟨task, htask, rfl⟩ := List.mem_map.1 hx
  exact if_pos (List.all_eq_true.1 h task htask)

theorem pending_nil (gw : GatewayRef) (sym : String) : pending [] gw sym = 0 := rfl

/-! ## The panic -/

/-- What a panic starts from: the switch, the identifiers that answer for the positions, and the books. -/
structure FlattenStart where
  switch : EmergencyKillSwitch
  answers : String → Bool
  books : Books

namespace FlattenStart

variable (f : FlattenStart)

/-- The registrations. -/
def registered : List (String × GatewayRef) := f.switch.gateways.items

/-- What the first registrations that answer offset of a position. -/
def planned (n : ℕ) (gw : GatewayRef) (sym : String) : ℚ :=
  answeredRegistrations (f.registered.take n) f.answers gw * sizable (f.books.position gw sym)

/-- What is left of a position in the end. -/
def left (gw : GatewayRef) (sym : String) : ℚ := f.books.position gw sym - f.planned f.registered.length gw sym

/-- One of the first registrations answers with a position under the blank symbol. -/
def BlankUpTo (n : ℕ) : Prop := ∃ p ∈ f.registered.take n, f.answers p.1 = true ∧ 1 / 10 ^ 7 < |f.books.position p.2 ""|

/-- The switch is armed. -/
def Armed : Prop := f.switch.state = .armedStandby

/-- A switch with the same registry. -/
def SameRegistry (ks : EmergencyKillSwitch) : Prop :=
  ks.gateways = f.switch.gateways ∧ ks.registryVersion = f.switch.registryVersion

/-- The phases of a panic before it flattens. -/
def Sweeps : PanicPhase → Prop
  | .hook _ => True
  | .fetching _ => True
  | .cancelling _ _ => True
  | _ => False

/-- The phases after the flattening. -/
def Settles : PanicPhase → Prop
  | .notifying _ _ => True
  | .done (.ok _) => True
  | _ => False

/-- Where a panic stands with the books. -/
inductive Tracks : PanicPhase → Books → Prop
  | waits : Tracks .waiting f.books
  | sweeps {phase : PanicPhase} (harmed : f.Armed) (h : Sweeps phase) : Tracks phase f.books
  | scans {scan : Scan} {count : ℕ} {snapshot : Dict String ℚ} (harmed : f.Armed)
      (hget : f.registered[scan.position]? = some (scan.gatewayId, scan.gateway)) (hsize : scan.size = f.registered.length)
      (hversion : scan.version = f.switch.registryVersion) (hopen : ∀ task ∈ scan.tasks, task.result = none)
      (hpend : ∀ gw sym, pending scan.tasks gw sym = -f.planned scan.position gw sym) (hblank : ¬ f.BlankUpTo scan.position) :
      Tracks (.scanning scan count snapshot) f.books
  | flattens {tasks : List FlattenTask} {count : ℕ} {snapshot : Dict String ℚ} {books : Books} (harmed : f.Armed)
      (hblank : ¬ f.BlankUpTo f.registered.length)
      (hsum : ∀ gw sym, books.position gw sym + pending tasks gw sym = f.left gw sym) :
      Tracks (.flattening tasks count snapshot) books
  | settles {phase : PanicPhase} {books : Books} (harmed : f.Armed) (h : Settles phase)
      (hblank : ¬ f.BlankUpTo f.registered.length) (hsum : ∀ gw sym, books.position gw sym = f.left gw sym) :
      Tracks phase books
  | unarmed {res : Except Exc KillSwitchEvent} (harmed : ¬ f.Armed) : Tracks (.done res) f.books
  | refused {exc : Exc} (hblank : f.BlankUpTo f.registered.length) : Tracks (.done (.error exc)) f.books
  | cut {exc : Exc} {books : Books} (h : exc.isException = false) : Tracks (.done (.error exc)) books

/-- The next await of a panic. -/
structure Next (r : PanicPhase × EmergencyKillSwitch) (books : Books) : Prop where
  registry : f.SameRegistry r.2
  tracks : f.Tracks r.1 books
  entered : r.1 ≠ .waiting

variable {f}
variable {ks : EmergencyKillSwitch} {c : PanicCall} {books : Books}

theorem next_cut (hks : f.SameRegistry ks) {exc : Exc} (h : exc.isException = false) : f.Next (ks.leave (.error exc)) books :=
  ⟨hks, .cut h, nofun⟩

theorem next_notifyFrom (hks : f.SameRegistry ks) (harmed : f.Armed) (hblank : ¬ f.BlankUpTo f.registered.length)
    (hsum : ∀ gw sym, books.position gw sym = f.left gw sym) (i : ℕ) (event : KillSwitchEvent) :
    f.Next (ks.notifyFrom i event) books := by
  unfold notifyFrom
  split
  · exact ⟨hks, .settles harmed trivial hblank hsum, nofun⟩
  · exact ⟨hks, .settles harmed trivial hblank hsum, nofun⟩

theorem next_finish (hks : f.SameRegistry ks) (harmed : f.Armed) (hblank : ¬ f.BlankUpTo f.registered.length)
    (hsum : ∀ gw sym, books.position gw sym = f.left gw sym) (count : ℕ) (snapshot : Dict String ℚ) :
    f.Next (ks.finish c count snapshot) books := by
  have hks' : f.SameRegistry { ks with lastEvent := some (c.event count snapshot) } := hks
  exact next_notifyFrom hks' harmed hblank hsum 0 _

/-- The registry is at its end: the orders are submitted. -/
theorem next_flattenFrom (hks : f.SameRegistry ks) (harmed : f.Armed) {tasks : List FlattenTask}
    (hpend : ∀ gw sym, pending tasks gw sym = -f.planned f.registered.length gw sym)
    (hblank : ¬ f.BlankUpTo f.registered.length) (count : ℕ) (snapshot : Dict String ℚ) :
    f.Next (ks.flattenFrom c tasks count snapshot) f.books := by
  unfold flattenFrom
  split
  · rename_i hnil
    refine next_finish hks harmed hblank (fun gw sym => ?_) count snapshot
    have := hpend gw sym
    rw [hnil, pending_nil] at this
    rw [left]
    linarith
  · refine ⟨hks, .flattens harmed hblank fun gw sym => ?_, nofun⟩
    rw [hpend, left]
    ring

theorem next_scanFrom (hks : f.SameRegistry ks) (harmed : f.Armed) {n : ℕ} (hn : n ≤ f.registered.length)
    {tasks : List FlattenTask} (hopen : ∀ task ∈ tasks, task.result = none)
    (hpend : ∀ gw sym, pending tasks gw sym = -f.planned n gw sym) (hblank : ¬ f.BlankUpTo n) (count : ℕ)
    (snapshot : Dict String ℚ) :
    f.Next (ks.scanFrom c f.registered.length f.switch.registryVersion n tasks count snapshot) f.books := by
  have hitems : ks.gateways.items = f.registered := congrArg Dict.items hks.1
  unfold scanFrom
  rw [hitems]
  split
  · rename_i hnone
    have hlen : n = f.registered.length := le_antisymm hn (List.getElem?_eq_none_iff.1 hnone)
    rw [hlen] at hpend hblank
    exact next_flattenFrom hks harmed hpend hblank count snapshot
  · rename_i gid gw hget
    exact ⟨hks, .scans harmed hget rfl rfl hopen hpend hblank, nofun⟩

theorem next_afterCancel (hmode : c.panicMode = .cancelAndFlatten) (hks : f.SameRegistry ks) (harmed : f.Armed) (count : ℕ)
    (snapshot : Dict String ℚ) : f.Next (ks.afterCancel c count snapshot) f.books := by
  have hitems : ks.gateways.items = f.registered := congrArg Dict.items hks.1
  unfold afterCancel
  rw [hmode, hitems, hks.2]
  refine next_scanFrom hks harmed (Nat.zero_le _) (fun task htask => absurd htask List.not_mem_nil) ?_ ?_ count snapshot
  · intro gw sym
    simp [pending_nil, planned, answeredRegistrations]
  · rintro ⟨p, hp, -⟩
    cases hp

theorem next_hooksFrom (hmode : c.panicMode = .cancelAndFlatten) (hks : f.SameRegistry ks) (harmed : f.Armed) (i : ℕ) :
    f.Next (ks.hooksFrom c i) f.books := by
  unfold hooksFrom fetchFrom
  split
  · exact ⟨hks, .sweeps harmed trivial, nofun⟩
  · split
    · exact next_afterCancel hmode hks harmed 0 ∅
    · exact ⟨hks, .sweeps harmed trivial, nofun⟩

theorem next_cancelFrom (hmode : c.panicMode = .cancelAndFlatten) (hks : f.SameRegistry ks) (harmed : f.Armed)
    (tasks : List FetchTask) : f.Next (ks.cancelFrom c tasks) f.books := by
  unfold cancelFrom
  split
  · exact next_afterCancel hmode hks harmed 0 _
  · exact ⟨hks, .sweeps harmed trivial, nofun⟩

theorem next_enter (hmode : c.panicMode = .cancelAndFlatten) (hks : f.SameRegistry ks) (hstate : ks.state = f.switch.state)
    (t : ℕ) : f.Next (ks.enter c t) f.books := by
  unfold enter
  split
  · rename_i h
    refine ⟨hks, .unarmed ?_, nofun⟩
    rw [Armed, ← hstate, h]
    decide
  · rename_i h
    have harmed : ¬ f.Armed := by
      rw [Armed, ← hstate, h]
      decide
    split
    · exact ⟨hks, .unarmed harmed, nofun⟩
    · exact ⟨hks, .unarmed harmed, nofun⟩
  · rename_i h
    have hks' : f.SameRegistry { ks with state := .panicTriggered, lock := some t } := hks
    exact next_hooksFrom hmode hks' (hstate.symm.trans h) 0

/-! ## The loop over the registrations -/

theorem take_succ {n : ℕ} {p : String × GatewayRef} (hget : f.registered[n]? = some p) :
    f.registered.take (n + 1) = f.registered.take n ++ [p] := by
  rw [List.take_add_one, hget]
  rfl

theorem planned_succ {n : ℕ} {gid : String} {gw₀ : GatewayRef} (hget : f.registered[n]? = some (gid, gw₀)) (gw : GatewayRef)
    (sym : String) : f.planned (n + 1) gw sym =
      f.planned n gw sym + (if gw₀ = gw ∧ f.answers gid = true then sizable (f.books.position gw sym) else 0) := by
  unfold planned answeredRegistrations
  rw [take_succ hget, List.countP_append, List.countP_singleton]
  by_cases h : gw₀ = gw ∧ f.answers gid = true
  · simp only [h, and_self, decide_true, if_true, Nat.cast_add, Nat.cast_one]
    ring
  · simp only [h, decide_false, Bool.false_eq_true, if_false, add_zero]

theorem blankUpTo_succ {n : ℕ} {gid : String} {gw : GatewayRef} (hget : f.registered[n]? = some (gid, gw)) :
    f.BlankUpTo (n + 1) ↔ f.BlankUpTo n ∨ (f.answers gid = true ∧ 1 / 10 ^ 7 < |f.books.position gw ""|) := by
  unfold BlankUpTo
  rw [take_succ hget]
  simp only [List.mem_append, List.mem_singleton, or_and_right, exists_or, exists_eq_left]

theorem next_scanNext (hks : f.SameRegistry ks) (harmed : f.Armed) {scan : Scan} (hlt : scan.position < f.registered.length)
    (hsize : scan.size = f.registered.length) (hversion : scan.version = f.switch.registryVersion) {tasks : List FlattenTask}
    (hopen : ∀ task ∈ tasks, task.result = none)
    (hpend : ∀ gw sym, pending tasks gw sym = -f.planned (scan.position + 1) gw sym)
    (hblank : ¬ f.BlankUpTo (scan.position + 1)) (pick : ScanPick) (count : ℕ) (snapshot : Dict String ℚ) :
    f.Next (ks.scanNext c scan tasks pick count snapshot) f.books := by
  have hitems : ks.gateways.items = f.registered := congrArg Dict.items hks.1
  unfold scanNext
  rw [hitems, hsize, hversion, if_neg (not_not.2 rfl), if_pos hks.2]
  exact next_scanFrom hks harmed hlt hopen hpend hblank count snapshot

/-- The positions of one gateway lead to its orders, a gateway that does not answer is passed over. -/
theorem next_afterFlatPositions (hks : f.SameRegistry ks) (harmed : f.Armed) {scan : Scan}
    (hget : f.registered[scan.position]? = some (scan.gatewayId, scan.gateway)) (hsize : scan.size = f.registered.length)
    (hversion : scan.version = f.switch.registryVersion) (hopen : ∀ task ∈ scan.tasks, task.result = none)
    (hpend : ∀ gw sym, pending scan.tasks gw sym = -f.planned scan.position gw sym) (hblank : ¬ f.BlankUpTo scan.position)
    {r : Except Exc (Dict String ℚ)}
    (hr : if f.answers scan.gatewayId then r = .ok (f.books scan.gateway) else ∃ exc, r = .error exc) (pick : ScanPick)
    (count : ℕ) (snapshot : Dict String ℚ) : f.Next (ks.afterFlatPositions c scan r pick count snapshot) f.books := by
  have hlt := (List.getElem?_eq_some_iff.1 hget).1
  unfold afterFlatPositions
  split at hr
  · rename_i hanswers
    subst hr
    dsimp only
    split
    · rename_i exc hfl
      refine ⟨hks, .refused ⟨(scan.gatewayId, scan.gateway), ?_, hanswers, blank_of_flatOrders hfl⟩, nofun⟩
      rw [List.take_length]
      exact List.mem_of_getElem? hget
    · rename_i tasks hfl
      obtain ⟨hopen', hpend'⟩ := flatOrders_pending hfl hopen
      refine next_scanNext hks harmed hlt hsize hversion hopen' (fun gw sym => ?_) ?_ pick count snapshot
      · rw [hpend', hpend, planned_succ hget, offset_items]
        by_cases hgw : gw = scan.gateway
        · subst hgw
          simp only [if_true, hanswers, and_self, Books.position]
          ring
        · simp only [hgw, Ne.symm hgw, false_and, if_false]
          ring
      · rw [blankUpTo_succ hget]
        rintro (h | ⟨-, h⟩)
        · exact hblank h
        · have hmem : 1 / 10 ^ 7 < |(f.books scan.gateway).getD "" 0| := h
          cases hq : (f.books scan.gateway).get? "" with
          | none =>
            rw [Dict.getD_of_get?_none 0 hq] at hmem
            norm_num at hmem
          | some q =>
            rw [Dict.getD_of_get?_some 0 hq] at hmem
            exact absurd (not_blank_of_flatOrders hfl q ((Dict.mem_items_iff _ _ _).2 hq)) (not_le.2 hmem)
  · rename_i hanswers
    obtain ⟨exc, rfl⟩ := hr
    dsimp only
    split
    · refine next_scanNext hks harmed hlt hsize hversion hopen (fun gw sym => ?_) ?_ pick count snapshot
      · rw [hpend, planned_succ hget, if_neg fun h => hanswers h.2, add_zero]
      · rw [blankUpTo_succ hget]
        rintro (h | ⟨h, -⟩)
        · exact hblank h
        · exact hanswers h
    · rename_i hexc
      exact next_cut hks (by simpa using hexc)

/-! ## One step -/

variable (f) in
/-- A world in which a panic that started so has come some way. -/
structure Follows (w : FlattenWorld) : Prop where
  registry : f.SameRegistry w.switch
  tracks : f.Tracks w.phase w.books
  state : w.phase = .waiting → w.switch.state = f.switch.state

theorem Next.follows {r : PanicPhase × EmergencyKillSwitch} (h : f.Next r books) : f.Follows ⟨r.2, r.1, books⟩ :=
  ⟨h.registry, h.tracks, fun hw => absurd hw h.entered⟩

theorem next_sweeps (hmode : c.panicMode = .cancelAndFlatten) (hks : f.SameRegistry ks) (harmed : f.Armed) {phase : PanicPhase}
    (hp : Sweeps phase) {t : ℕ} {a : PanicAnswer} {r : PanicPhase × EmergencyKillSwitch}
    (h : ks.resumePanic c t phase a = some r) : f.Next r f.books := by
  cases continues_of_resumePanic h with
  | hook => exact next_hooksFrom hmode hks harmed _
  | hookBreaks i exc hexc => exact next_cut hks (Bool.eq_false_iff.2 hexc)
  | orders => exact ⟨hks, .sweeps harmed trivial, nofun⟩
  | positions => exact ⟨hks, .sweeps harmed trivial, nofun⟩
  | fetched => exact next_cancelFrom hmode hks harmed _
  | cancelOrder => exact ⟨hks, .sweeps harmed trivial, nofun⟩
  | cancelled => exact next_afterCancel hmode hks harmed _ _
  | abort => exact next_cut hks rfl
  | _ => cases hp

theorem next_settles (hks : f.SameRegistry ks) (harmed : f.Armed) {phase : PanicPhase} (hp : Settles phase)
    (hblank : ¬ f.BlankUpTo f.registered.length) (hsum : ∀ gw sym, books.position gw sym = f.left gw sym) {t : ℕ}
    {a : PanicAnswer} {r : PanicPhase × EmergencyKillSwitch} (h : ks.resumePanic c t phase a = some r) : f.Next r books := by
  cases continues_of_resumePanic h with
  | listener i event => exact next_notifyFrom hks harmed hblank hsum _ event
  | listenerBreaks i event exc hexc => exact next_cut hks (Bool.eq_false_iff.2 hexc)
  | abort => exact next_cut hks rfl
  | _ => cases hp

theorem next_flattens (hks : f.SameRegistry ks) (harmed : f.Armed) (hblank : ¬ f.BlankUpTo f.registered.length)
    {tasks : List FlattenTask} {count : ℕ} {snapshot : Dict String ℚ}
    (hsum : ∀ gw sym, books.position gw sym + pending tasks gw sym = f.left gw sym) {t : ℕ} {a : PanicAnswer}
    (ht : FlattenWorld.Truthful f.answers ⟨ks, .flattening tasks count snapshot, books⟩ a)
    {r : PanicPhase × EmergencyKillSwitch} (h : ks.resumePanic c t (.flattening tasks count snapshot) a = some r) :
    f.Next r (FlattenWorld.executed ⟨ks, .flattening tasks count snapshot, books⟩ a) := by
  cases continues_of_resumePanic h with
  | @flatOrder tasks j gw o count snapshot res hj =>
    obtain rfl : res = .ok () := ht
    refine ⟨hks, .flattens harmed hblank fun gw' sym => ?_, nofun⟩
    have hfill : FlattenWorld.executed ⟨ks, .flattening tasks count snapshot, books⟩ (.flatOrder j (.ok ())) =
        books.fill gw o := by
      simp only [FlattenWorld.executed, hj]
    rw [hfill, Books.position_fill, ← hsum gw' sym, ← pending_set (.ok ()) hj]
    ring
  | flattened count snapshot hall =>
    refine next_finish hks harmed hblank (fun gw sym => ?_) _ _
    rw [← hsum gw sym, pending_answered hall, add_zero]
    rfl
  | abort => exact next_cut hks rfl

/-- A truthful answer leads on, with the books in step. -/
theorem follows_step (hmode : c.panicMode = .cancelAndFlatten) {t : ℕ} {w w' : FlattenWorld} {a : PanicAnswer} (h : f.Follows w)
    (ht : w.Truthful f.answers a) (hs : w.step c t a w') : f.Follows w' := by
  obtain ⟨ks, phase, books⟩ := w
  obtain ⟨ks', phase', books'⟩ := w'
  obtain ⟨hks, htracks, hstate⟩ := h
  obtain ⟨hresume, hbooks⟩ := hs
  dsimp only at hks htracks hstate hresume hbooks
  suffices hnext : f.Next (phase', ks') books' from hnext.follows
  cases htracks with
  | waits =>
    subst hbooks
    rcases waiting_step ks c hresume with ⟨-, -, heq⟩ | ⟨-, heq⟩
    · rw [heq]
      exact next_enter hmode hks (hstate rfl) t
    · rw [heq]
      exact ⟨hks, .cut rfl, nofun⟩
  | sweeps harmed hp =>
    have hsame : books' = f.books := by
      rw [hbooks]
      cases phase <;> first | rfl | cases hp
    rw [hsame]
    exact next_sweeps hmode hks harmed hp hresume
  | scans harmed hget hsize hversion hopen hpend hblank =>
    subst hbooks
    cases a with
    | flatPositions r pick =>
      rw [← Option.some.inj hresume]
      exact next_afterFlatPositions hks harmed hget hsize hversion hopen hpend hblank ht pick _ _
    | abort =>
      cases hresume
      exact next_cut hks rfl
    | _ => cases hresume
  | flattens harmed hblank hsum =>
    rw [hbooks]
    exact next_flattens hks harmed hblank hsum ht hresume
  | settles harmed hp hblank hsum =>
    have hsame : books' = books := by
      rw [hbooks]
      cases phase <;> first | rfl | cases hp
    rw [hsame]
    exact next_settles hks harmed hp hblank hsum hresume
  | unarmed => cases a <;> cases hresume
  | refused => cases a <;> cases hresume
  | cut => cases a <;> cases hresume

end FlattenStart

/-! ## Whole panics -/

/-- Each position that is not negligible is under a symbol, at a gateway object that answers for its positions under exactly one
of its registrations, and the switch is armed. -/
def FlattenedOnce (ks : EmergencyKillSwitch) (answers : String → Bool) (books : Books) : Prop :=
  ∀ id gw, ks.gateways.get? id = some gw → ∀ sym, 1 / 10 ^ 7 < |books.position gw sym| →
    ks.state = .armedStandby ∧ sym ≠ "" ∧ answeredRegistrations ks.gateways.items answers gw = 1

theorem FlattenWorld.flat_iff_position (w : FlattenWorld) :
    w.Flat ↔ ∀ id gw, w.switch.gateways.get? id = some gw → ∀ sym, |w.books.position gw sym| ≤ 1 / 10 ^ 7 := by
  unfold FlattenWorld.Flat Books.position
  constructor
  · intro h id gw hget sym
    cases hq : (w.books gw).get? sym with
    | none =>
      rw [Dict.getD_of_get?_none 0 hq]
      norm_num
    | some q =>
      rw [Dict.getD_of_get?_some 0 hq]
      exact h id gw hget sym q hq
  · intro h id gw hget sym q hq
    have := h id gw hget sym
    rwa [Dict.getD_of_get?_some 0 hq] at this

/-- What is left of a sizable position is negligible exactly when it is offset once. -/
theorem abs_sub_mul_sizable {q : ℚ} {k : ℕ} (hq : 1 / 10 ^ 7 < |q|) : |q - k * sizable q| ≤ 1 / 10 ^ 7 ↔ k = 1 := by
  have hsizable : sizable q = q := if_neg (not_le.2 hq)
  have hfactor : q - k * sizable q = (1 - k : ℤ) * q := by
    rw [hsizable]
    push_cast
    ring
  rw [hfactor, abs_mul]
  constructor
  · intro h
    by_contra hk
    have hone : (1 : ℚ) ≤ |((1 - k : ℤ) : ℚ)| := by
      rw [← Int.cast_abs]
      exact_mod_cast Int.one_le_abs (show (1 - (k : ℤ)) ≠ 0 by omega)
    have := mul_le_mul_of_nonneg_right hone (abs_nonneg q)
    linarith
  · rintro rfl
    norm_num

/-- What a settled panic leaves of a position is negligible exactly when it offset once what was not negligible before. -/
theorem FlattenStart.abs_left_le_iff (f : FlattenStart) (gw : GatewayRef) (sym : String) :
    |f.left gw sym| ≤ 1 / 10 ^ 7 ↔
      (1 / 10 ^ 7 < |f.books.position gw sym| → answeredRegistrations f.registered f.answers gw = 1) := by
  rw [left, planned, List.take_length]
  by_cases hbig : 1 / 10 ^ 7 < |f.books.position gw sym|
  · rw [abs_sub_mul_sizable hbig]
    exact ⟨fun h _ => h, fun h => h hbig⟩
  · have hsmall : sizable (f.books.position gw sym) = 0 := if_pos (not_lt.1 hbig)
    rw [hsmall, mul_zero, sub_zero]
    exact iff_of_true (not_lt.1 hbig) fun h => absurd h hbig

/-- A position that was offset is not under the blank symbol, for the orders of its gateway could be created. -/
theorem FlattenStart.ne_blank {f : FlattenStart} {gw : GatewayRef} {sym : String} (hblank : ¬ f.BlankUpTo f.registered.length)
    (hbig : 1 / 10 ^ 7 < |f.books.position gw sym|) (honce : answeredRegistrations f.registered f.answers gw = 1) :
    sym ≠ "" := by
  rintro rfl
  have hpos : 0 < answeredRegistrations f.registered f.answers gw := by omega
  obtain ⟨p, hp, hdec⟩ := List.countP_pos_iff.1 hpos
  obtain ⟨rfl, hanswers⟩ := of_decide_eq_true hdec
  exact hblank ⟨p, by rw [List.take_length]; exact hp, hanswers, hbig⟩

/-- A panic that has come to its own end leaves no position exactly when every position was flattened once. -/
theorem flat_iff {ks : EmergencyKillSwitch} {c : PanicCall} (hmode : c.panicMode = .cancelAndFlatten) {t : ℕ}
    {answers : String → Bool} {books : Books} {w : FlattenWorld}
    (hrun : Run (FlattenWorld.step c t) (FlattenWorld.Truthful answers) { switch := ks, books := books } w)
    {res : Except Exc KillSwitchEvent} (hdone : w.phase = .done res) (hown : ∀ exc, res = .error exc → exc.isException = true) :
    w.Flat ↔ FlattenedOnce ks answers books := by
  have hstart : FlattenStart.Follows ⟨ks, answers, books⟩ { switch := ks, books := books } :=
    ⟨⟨rfl, rfl⟩, .waits, fun _ => rfl⟩
  have hfollows := hrun.invariant (I := FlattenStart.Follows ⟨ks, answers, books⟩)
    (fun w a w' h ht hs => FlattenStart.follows_step hmode h ht hs) hstart
  obtain ⟨⟨hgateways, -⟩, htracks, -⟩ := hfollows
  rw [w.flat_iff_position, show w.switch.gateways = ks.gateways from hgateways]
  unfold FlattenedOnce
  rw [hdone] at htracks
  cases htracks with
  | sweeps harmed hp => cases hp
  | cut hexc => rw [hown _ rfl] at hexc; cases hexc
  | unarmed harmed =>
    -- the panic did nothing, and the books are as they were
    constructor
    · intro h id gw hget sym hbig
      exact absurd (h id gw hget sym) (not_le.2 hbig)
    · intro h id gw hget sym
      by_contra hbig
      exact harmed (h id gw hget sym (not_le.1 hbig)).1
  | refused hblank =>
    obtain ⟨⟨id, gw⟩, hmem, -, hbig⟩ := hblank
    rw [List.take_length] at hmem
    have hget : ks.gateways.get? id = some gw := (Dict.mem_items_iff _ _ _).1 hmem
    refine iff_of_false (fun h => ?_) fun h => (h id gw hget "" hbig).2.1 rfl
    exact absurd (h id gw hget "") (not_le.2 hbig)
  | settles harmed hp hblank hsum =>
    constructor
    · intro h id gw hget sym hbig
      have hleft := h id gw hget sym
      rw [hsum, FlattenStart.abs_left_le_iff] at hleft
      exact ⟨harmed, FlattenStart.ne_blank hblank hbig (hleft hbig), hleft hbig⟩
    · intro h id gw hget sym
      rw [hsum, FlattenStart.abs_left_le_iff]
      exact fun hbig => (h id gw hget sym hbig).2.2

/-! ## One gateway under two identifiers, and under one -/

theorem FlattenWorld.run_of_follow {c : PanicCall} {t : ℕ} {answers : String → Bool} {w₀ w w' : FlattenWorld}
    {l : List PanicAnswer} (hrun : Run (FlattenWorld.step c t) (FlattenWorld.Truthful answers) w₀ w)
    (h : FlattenWorld.follow c t answers w l = some w') :
    Run (FlattenWorld.step c t) (FlattenWorld.Truthful answers) w₀ w' := by
  induction l generalizing w with
  | nil =>
    rw [← Option.some.inj h]
    exact hrun
  | cons a l ih =>
    unfold FlattenWorld.follow at h
    split at h
    · rename_i htruthful
      split at h
      · cases h
      · rename_i hresume
        exact ih (hrun.tail htruthful ⟨hresume, rfl⟩) h
    · cases h

/-- An operator's panic that flattens. -/
def flattenPanic : PanicCall where
  reason := .manualOperator
  source := "desk"
  panicMode := .cancelAndFlatten
  timestampNs := 1
  source_ne := Literal.desk_ne
  timestampNs_pos := Nat.one_pos

/-- A hundred shares long. -/
def longBook : Dict String ℚ := (∅ : Dict String ℚ).set "AAPL" 100

/-- One gateway object under some identifiers. -/
def aliased (ids : List String) : EmergencyKillSwitch where
  adminToken := "T"
  gateways := ids.foldl (fun d id => d.set id 0) ∅
  registryVersion := ids.length

/-- It answers everything a panic asks, under each of its identifiers. -/
def longAnswers (n : ℕ) : List PanicAnswer :=
  [.acquired] ++ (List.range n).flatMap (fun j => [.orders j (.ok []), .positions j (.ok longBook)]) ++ [.fetched] ++
    List.replicate n (.flatPositions (.ok longBook) .fail) ++ (List.range n).map (fun j => .flatOrder j (.ok ())) ++ [.flattened]

/-- Where such a panic ends. -/
theorem run_aliased (ids : List String) (q : ℚ)
    (h : (FlattenWorld.follow flattenPanic 0 (fun _ => true) { switch := aliased ids, books := fun _ => longBook }
      (longAnswers ids.length)).any (fun w => w.phase.isDone ∧ w.phase.event.isSome ∧ (w.switch.gateways.get? "a" = some 0) ∧
        (w.books 0).get? "AAPL" = some q) = true) :
    ∃ w e, Run (FlattenWorld.step flattenPanic 0) (FlattenWorld.Truthful fun _ => true)
      { switch := aliased ids, books := fun _ => longBook } w ∧ w.phase = .done (.ok e) ∧
      w.switch.gateways.get? "a" = some 0 ∧ (w.books 0).get? "AAPL" = some q := by
  obtain ⟨w, hw, hend⟩ := (Option.any_eq_true _ _).1 h
  obtain ⟨hdone, hevent, hget, hbook⟩ := of_decide_eq_true hend
  cases hp : w.phase with
  | done res =>
    rw [hp] at hevent
    cases res with
    | error exc => cases hevent
    | ok e => exact ⟨w, e, FlattenWorld.run_of_follow Run.refl hw, hp, hget, hbook⟩
  | _ =>
    rw [hp] at hdone
    cases hdone

/-- A panic that succeeds in everything leaves a position. -/
theorem not_flat_of_run : ¬ ∀ (adminToken : String) (timeout : ℚ) (ks₀ : EmergencyKillSwitch),
    EmergencyKillSwitch.create adminToken .armedStandby timeout = .ok ks₀ →
    ∀ (registrations : List (GatewayRef × String)) (ks : EmergencyKillSwitch),
      registrations.foldlM (fun ks r => ks.registerGateway r.1 (some r.2) "") ks₀ = .ok ks →
      ∀ (c : PanicCall), c.panicMode = .cancelAndFlatten → ∀ (books : Books) (w : FlattenWorld),
        Run (FlattenWorld.step c 0) (FlattenWorld.Truthful fun _ => true) { switch := ks, books := books } w →
        ∀ e, w.phase = .done (.ok e) → w.Flat := by
  intro h
  obtain ⟨w, e, hrun, hdone, hget, hbook⟩ := run_aliased ["a", "b"] (-100) (by decide +kernel)
  have hflat := h "T" 2 (aliased []) rfl [(0, "a"), (0, "b")] (aliased ["a", "b"]) rfl flattenPanic rfl _ w hrun e hdone
  have hbound := hflat "a" 0 hget "AAPL" (-100) hbook
  norm_num at hbound

/-- Under one identifier nothing is left of it. -/
theorem flat_aliased_single : ∃ w : FlattenWorld,
    w.Flat ∧ w.switch.gateways.get? "a" = some 0 ∧ (w.books 0).get? "AAPL" = some 0 := by
  obtain ⟨w, e, hrun, hdone, hget, hbook⟩ := run_aliased ["a"] 0 (by decide +kernel)
  refine ⟨w, (flat_iff rfl hrun hdone nofun).2 ?_, hget, hbook⟩
  intro id gw hid sym hbig
  have hitems : (id, gw) ∈ (aliased ["a"]).gateways.items := (Dict.mem_items_iff _ _ _).2 hid
  obtain ⟨rfl, rfl⟩ := Prod.mk.inj (List.mem_singleton.1 hitems)
  refine ⟨rfl, ?_, by decide⟩
  rintro rfl
  have hnone : Books.position (fun _ => longBook) 0 "" = 0 := by decide
  rw [hnone, abs_zero] at hbig
  norm_num at hbig

end Quant
