import Quant.Execution.KillSwitch

/-!
# Panics side by side

The tasks that run `trigger_panic` on one switch, with the operations that interleave with them at the awaits. Each step is one
call of an operation or one answer to one task.
-/

namespace Quant

open Pylib

/-- The phases between the lock and its release. -/
def PanicPhase.holds : PanicPhase → Bool
  | .waiting => false
  | .done _ => false
  | _ => true

/-- The phases between the lock and the event. -/
def PanicPhase.works : PanicPhase → Bool
  | .waiting => false
  | .notifying _ _ => false
  | .done _ => false
  | _ => true

/-- A call that has ended. -/
def PanicPhase.isDone : PanicPhase → Bool
  | .done _ => true
  | _ => false

/-- The event of a phase that has recorded or returned one. -/
def PanicPhase.event : PanicPhase → Option KillSwitchEvent
  | .notifying _ e => some e
  | .done (.ok e) => some e
  | _ => none

/-- A task that runs `trigger_panic`: its call, what it found under the lock, whether it was cancelled, and its event. -/
structure PanicTask where
  call : PanicCall
  phase : PanicPhase := .waiting
  found : Option KillSwitchState := none
  aborted : Bool := false
  event : Option KillSwitchEvent := none

/-- The task after an answer that led it to a phase. -/
def PanicTask.answered (task : PanicTask) (ks : EmergencyKillSwitch) (a : PanicAnswer) (phase : PanicPhase) : PanicTask :=
  { task with
    phase := phase
    found := match a with
      | .acquired => some ks.state
      | _ => task.found
    aborted := match a with
      | .abort => true
      | _ => task.aborted
    event := phase.event.orElse fun _ => task.event }

/-- The switch, the tasks in the order they were started, and the one that put the switch into its panic. -/
structure PanicWorld where
  switch : EmergencyKillSwitch
  tasks : List PanicTask := []
  owner : Option ℕ := none

/-- The operations on a switch, and the answers to its panics. -/
inductive PanicOp where
  | trigger (c : PanicCall)
  | answer (t : ℕ) (a : PanicAnswer)
  | registerGateway (gw : GatewayRef) (gatewayId : Option String) (derived : String)
  | unregisterGateway (gatewayId : String)
  | reset (token : String)
  | arm (token : String)
  | disarm (token : String)

namespace PanicWorld

/-- An operation that raises leaves the switch alone. -/
def attempt (w : PanicWorld) (r : Except Exc EmergencyKillSwitch) : PanicWorld :=
  match r with
  | .ok ks => { w with switch := ks }
  | .error _ => w

/-- The world after an answer that led a task to a phase. -/
def resumed (w : PanicWorld) (t : ℕ) (task : PanicTask) (a : PanicAnswer) (r : PanicPhase × EmergencyKillSwitch) :
    PanicWorld :=
  { switch := r.2
    tasks := w.tasks.set t (task.answered w.switch a r.1)
    owner := if w.switch.state ≠ .panicTriggered ∧ r.2.state = .panicTriggered then some t else w.owner }

/-- One step; nothing for an answer that no task waits for. -/
def step (w : PanicWorld) : PanicOp → Option PanicWorld
  | .trigger c => some { w with tasks := w.tasks ++ [{ call := c }] }
  | .answer t a =>
    match w.tasks[t]? with
    | none => none
    | some task => (w.switch.resumePanic task.call t task.phase a).map (w.resumed t task a)
  | .registerGateway gw gatewayId derived => some (w.attempt (w.switch.registerGateway gw gatewayId derived))
  | .unregisterGateway gatewayId => some (w.attempt (w.switch.unregisterGateway gatewayId))
  | .reset token => some (w.attempt (w.switch.reset token))
  | .arm token => some (w.attempt (w.switch.arm token))
  | .disarm token => some (w.attempt (w.switch.disarm token))

end PanicWorld

/-!
## A panic and the positions of its gateways

One call of `trigger_panic` against gateways that keep a book of positions each: a gateway that answers reports its book, and a
flattening order, which is a market order, fills in full. Two registrations of one gateway object share its book.
-/

/-- The positions of each gateway object. -/
abbrev Books := GatewayRef → Dict String ℚ

namespace Books

/-- The position of a gateway in a symbol. -/
def position (books : Books) (gw : GatewayRef) (sym : String) : ℚ := (books gw).getD sym 0

/-- Fill an order in full. -/
def fill (books : Books) (gw : GatewayRef) (o : Order) : Books :=
  fun gw' => if gw' = gw then (books gw).set o.symbol (books.position gw o.symbol + o.signedQuantity) else books gw'

theorem position_fill (books : Books) (gw gw' : GatewayRef) (o : Order) (sym : String) :
    (books.fill gw o).position gw' sym =
      books.position gw' sym + (if gw = gw' ∧ o.symbol = sym then o.signedQuantity else 0) := by
  unfold position fill
  by_cases hgw : gw' = gw
  · subst hgw
    by_cases hsym : sym = o.symbol
    · subst hsym
      simp [position]
    · simp [Dict.getD_set_of_ne _ _ _ hsym, Ne.symm hsym]
  · simp [hgw, Ne.symm hgw]

end Books

/-- A panic and the books of the gateways. -/
structure FlattenWorld where
  switch : EmergencyKillSwitch
  phase : PanicPhase := .waiting
  books : Books

namespace FlattenWorld

/-- The books after an answer: the answer to a flattening order that succeeded says that it is filled. -/
def executed (w : FlattenWorld) (a : PanicAnswer) : Books :=
  match w.phase, a with
  | .flattening tasks _ _, .flatOrder j (.ok ()) =>
    match tasks[j]? with
    | some task => w.books.fill task.gateway task.order
    | none => w.books
  | _, _ => w.books

/-- One step of the panic of a task. -/
def step (c : PanicCall) (t : ℕ) (w : FlattenWorld) (a : PanicAnswer) (w' : FlattenWorld) : Prop :=
  w.switch.resumePanic c t w.phase a = some (w'.phase, w'.switch) ∧ w'.books = w.executed a

/-- Answers of gateways that do what they are asked: the flattening orders succeed, and whoever is asked for positions under an
identifier that answers reports its book. Under another identifier the question fails. -/
def Truthful (answers : String → Bool) (w : FlattenWorld) (a : PanicAnswer) : Prop :=
  match w.phase, a with
  | .scanning scan _ _, .flatPositions r _ =>
    if answers scan.gatewayId then r = .ok (w.books scan.gateway) else ∃ exc, r = .error exc
  | .flattening _ _ _, .flatOrder _ r => r = .ok ()
  | _, _ => True

instance (answers : String → Bool) (w : FlattenWorld) (a : PanicAnswer) : Decidable (w.Truthful answers a) := by
  unfold FlattenWorld.Truthful
  split <;> try split
  · infer_instance
  · rename_i r _ _ _
    exact match r with
      | .error exc => isTrue ⟨exc, rfl⟩
      | .ok _ => isFalse nofun
  · infer_instance
  · infer_instance

/-- The world after a list of answers, each truthful and waited for. -/
def follow (c : PanicCall) (t : ℕ) (answers : String → Bool) : FlattenWorld → List PanicAnswer → Option FlattenWorld
  | w, [] => some w
  | w, a :: l =>
    if w.Truthful answers a then
      match w.switch.resumePanic c t w.phase a with
      | none => none
      | some (phase, ks) => follow c t answers { switch := ks, phase := phase, books := w.executed a } l
    else none

/-- No registered gateway holds more than a negligible position. -/
def Flat (w : FlattenWorld) : Prop :=
  ∀ id gw, w.switch.gateways.get? id = some gw → ∀ sym q, (w.books gw).get? sym = some q → |q| ≤ 1 / 10 ^ 7

end FlattenWorld

/-- The registrations of a gateway object whose questions for positions are answered. -/
def answeredRegistrations (gateways : List (String × GatewayRef)) (answers : String → Bool) (gw : GatewayRef) : ℕ :=
  gateways.countP fun p => p.2 = gw ∧ answers p.1

end Quant
