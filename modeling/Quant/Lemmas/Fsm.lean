import Mathlib.Tactic.Linarith
import Quant.Execution.Fsm

/-!
# Helpers for the order state machine

What a report does to an order: it leaves the order's terms as they are (`Order.SameTerms`), and for the two kinds of report
the paper gateway applies, a fill in full and a cancellation, it is refused exactly when its cumulative quantity is.
-/

namespace Quant

namespace Order

/-- Two states of one order: the terms it was created with are the same. -/
structure SameTerms (o o' : Order) : Prop where
  clOrdId : o'.clOrdId = o.clOrdId
  symbol : o'.symbol = o.symbol
  side : o'.side = o.side
  orderType : o'.orderType = o.orderType
  quantity : o'.quantity = o.quantity
  price : o'.price = o.price

theorem SameTerms.refl (o : Order) : o.SameTerms o := ⟨rfl, rfl, rfl, rfl, rfl, rfl⟩

theorem SameTerms.trans {o o' o'' : Order} (h : o.SameTerms o') (h' : o'.SameTerms o'') : o.SameTerms o'' :=
  ⟨h'.clOrdId.trans h.clOrdId, h'.symbol.trans h.symbol, h'.side.trans h.side, h'.orderType.trans h.orderType,
    h'.quantity.trans h.quantity, h'.price.trans h.price⟩

theorem sameTerms_setState (o : Order) (s : OrderState) (ts : ℕ) : o.SameTerms (o.setState s ts) :=
  ⟨rfl, rfl, rfl, rfl, rfl, rfl⟩

theorem sameTerms_withExchangeId (o : Order) (id : String) : o.SameTerms (o.withExchangeId id) := by
  unfold withExchangeId
  split
  · exact SameTerms.refl o
  · exact ⟨rfl, rfl, rfl, rfl, rfl, rfl⟩

theorem sameTerms_book (o : Order) (rep : ExecutionReport) : o.SameTerms (o.book rep) :=
  (o.sameTerms_withExchangeId rep.exchangeOrderId).trans ⟨rfl, rfl, rfl, rfl, rfl, rfl⟩

/-- A report leaves the terms of an order as they are, whether it is booked or refused. -/
theorem sameTerms_applyExecutionReport (o : Order) (rep : ExecutionReport) :
    o.SameTerms (o.applyExecutionReport rep).2 := by
  unfold applyExecutionReport
  split
  · exact SameTerms.refl o
  split
  · exact SameTerms.refl o
  split
  · exact SameTerms.refl o
  split
  · exact SameTerms.refl o
  · have hn := (o.sameTerms_setState .new rep.timestampNs).trans (sameTerms_withExchangeId _ rep.exchangeOrderId)
    simp only
    split
    · split
      · exact hn.trans (sameTerms_book _ rep)
      · exact hn
    · split
      · exact o.sameTerms_book rep
      · exact SameTerms.refl o

theorem isTerminal_eq_false_iff (o : Order) :
    o.isTerminal = false ↔ o.state ≠ .filled ∧ o.state ≠ .cancelled ∧ o.state ≠ .rejected ∧ o.state ≠ .expired := by
  simp [isTerminal]

/-- A new order becomes `NEW`. -/
theorem transition_new {o : Order} (h : o.state = .pendingNew) (ts : ℕ) :
    o.transition .new ts = (.ok (), o.setState .new ts) := by
  have ht : o.isTerminal = false := by simp [isTerminal, h]
  simp [transition, ht, reconcile, h, canTransition, validTransitions]

/-- The tolerance of the state machine. -/
theorem tolerance_pos : (0 : ℚ) < 1 / 10 ^ 7 := by norm_num

/-- The report the state machine refuses: it would take back more than a rounding error of what was filled before. -/
def overfilled (o : Order) : Prop := o.quantity + 1 / 10 ^ 7 < o.filledQuantity

instance (o : Order) : Decidable o.overfilled := inferInstanceAs (Decidable (_ < _))

/-- The report of a fill in full on an order that is not terminal: refused when the order is overfilled, else booked. -/
theorem applyExecutionReport_filled {o : Order} {rep : ExecutionReport} (hid : o.clOrdId = rep.clOrdId)
    (ht : o.isTerminal = false) (hx : rep.execType = .filled) (hc : rep.cumQuantity = o.quantity) :
    (o.overfilled ∧ ∃ exc, o.applyExecutionReport rep = (.error exc, o)) ∨
      (¬ o.overfilled ∧ ∃ o', o.applyExecutionReport rep = (.ok (), o') ∧ o.SameTerms o' ∧ o'.state = .filled) := by
  have hcum : ¬ o.quantity + 1 / 10 ^ 7 < rep.cumQuantity := by
    rw [hc, not_lt]
    linarith [tolerance_pos]
  have hiff : rep.cumQuantity < o.filledQuantity - 1 / 10 ^ 7 ↔ o.overfilled := by
    rw [hc, overfilled]
    constructor <;> intro h <;> linarith
  unfold applyExecutionReport
  rw [if_neg (not_not.2 hid), ht, if_neg Bool.false_ne_true, if_neg hcum]
  by_cases hover : o.overfilled
  · rw [if_pos (hiff.2 hover)]
    exact Or.inl ⟨hover, _, rfl⟩
  · rw [if_neg (fun h => hover (hiff.1 h))]
    refine Or.inr ⟨hover, ?_⟩
    obtain ⟨h1, h2, h3, h4⟩ := o.isTerminal_eq_false_iff.1 ht
    by_cases hp : o.state = .pendingNew
    · have hs : ((o.setState .new rep.timestampNs).withExchangeId rep.exchangeOrderId).state = .new := by
        unfold withExchangeId
        split <;> rfl
      simp only [hp, hx, or_true, and_self, if_true, hs]
      refine ⟨_, rfl, ?_, hx⟩
      exact ((o.sameTerms_setState _ _).trans (sameTerms_withExchangeId _ _)).trans (sameTerms_book _ rep)
    · have hcan : canTransition o.state .filled = true := by
        cases hst : o.state <;> simp_all [canTransition, validTransitions]
      simp only [hp, false_and, if_false, hx, hcan, if_true]
      exact ⟨_, rfl, o.sameTerms_book rep, hx⟩

/-- The report of a cancellation that repeats what is filled: refused on an overfilled order and on one not acknowledged yet,
else booked. -/
theorem applyExecutionReport_cancelled {o : Order} {rep : ExecutionReport} (hid : o.clOrdId = rep.clOrdId)
    (ht : o.isTerminal = false) (hx : rep.execType = .cancelled) (hc : rep.cumQuantity = o.filledQuantity) :
    ((o.overfilled ∨ o.state = .pendingNew) ∧ ∃ exc, o.applyExecutionReport rep = (.error exc, o)) ∨
      (¬ (o.overfilled ∨ o.state = .pendingNew) ∧
        ∃ o', o.applyExecutionReport rep = (.ok (), o') ∧ o.SameTerms o' ∧ o'.state = .cancelled) := by
  have hback : ¬ rep.cumQuantity < o.filledQuantity - 1 / 10 ^ 7 := by
    rw [hc, not_lt]
    linarith [tolerance_pos]
  unfold applyExecutionReport
  rw [if_neg (not_not.2 hid), ht, if_neg Bool.false_ne_true]
  by_cases hover : o.overfilled
  · rw [if_pos (by rw [hc]; exact hover)]
    exact Or.inl ⟨Or.inl hover, _, rfl⟩
  · rw [if_neg (by rw [hc]; exact hover), if_neg hback]
    obtain ⟨h1, h2, h3, h4⟩ := o.isTerminal_eq_false_iff.1 ht
    have hxn : ¬ (o.state = .pendingNew ∧ (rep.execType = .partiallyFilled ∨ rep.execType = .filled)) := by simp [hx]
    simp only [hxn, if_false]
    by_cases hp : o.state = .pendingNew
    · left
      refine ⟨Or.inr hp, ?_⟩
      simp [hp, hx, canTransition, validTransitions]
    · right
      have hcan : canTransition o.state .cancelled = true := by
        cases hst : o.state <;> simp_all [canTransition, validTransitions]
      rw [hx, hcan, if_pos rfl]
      exact ⟨fun h => h.elim hover hp, _, rfl, o.sameTerms_book rep, hx⟩

/-- The texts of the state machine's errors. -/
def reportFaults : List String :=
  ["Order cl_ord_id '%' does not match ExecutionReport cl_ord_id '%'",
    "Cannot apply execution report % to order % in immutable terminal state %",
    "Execution report cumulative quantity % exceeds order target quantity % (INV-GW-003 violation)",
    "Execution report cumulative quantity % is less than previously filled quantity % (monotonicity violation)",
    "Invalid state transition from % to % for order %"]

theorem text_of_applyExecutionReport {o : Order} {rep : ExecutionReport} {exc : Exc}
    (h : (o.applyExecutionReport rep).1 = .error exc) : exc.text ∈ reportFaults := by
  unfold applyExecutionReport at h
  split at h
  · cases h
    simp [reportFaults]
  split at h
  · cases h
    simp [reportFaults]
  split at h
  · cases h
    simp [reportFaults]
  split at h
  · cases h
    simp [reportFaults]
  · simp only at h
    split at h
    · split at h
      · cases h
      · cases h
        simp [reportFaults]
    · split at h
      · cases h
      · cases h
        simp [reportFaults]

/-! ## What a call does -/

theorem isTerminal_iff (o : Order) : o.isTerminal = true ↔ validTransitions o.state = [] := by
  unfold isTerminal
  cases o.state <;> simp [validTransitions]

theorem isTerminal_of_canTransition {o : Order} {s : OrderState} (h : canTransition o.state s = true) :
    o.isTerminal = false := by
  rw [Bool.eq_false_iff, ne_eq, isTerminal_iff]
  intro hnil
  simp [canTransition, hnil] at h

/-- A fill may follow `PENDING_NEW` directly as well as by way of `NEW`. -/
theorem canTransition_fill {s : OrderState} (h : s = .partiallyFilled ∨ s = .filled) :
    canTransition .pendingNew s = true ∧ canTransition .pendingNew .new = true ∧ canTransition .new s = true := by
  rcases h with rfl | rfl <;> decide

/-- A bare transition moves the order or leaves it alone: passing through `NEW` is never the last thing it does. -/
theorem transition_eq (o : Order) (next : OrderState) (ts : ℕ) :
    (canTransition o.state next = true ∧ o.transition next ts = (.ok (), o.setState next ts)) ∨
      (canTransition o.state next = false ∧ ∃ exc, o.transition next ts = (.error exc, o)) := by
  unfold transition
  by_cases ht : o.isTerminal = true
  · rw [if_pos ht]
    have hnil := o.isTerminal_iff.1 ht
    exact .inr ⟨by simp [canTransition, hnil], _, rfl⟩
  · rw [if_neg ht]
    by_cases hrec : o.state = .pendingNew ∧ (next = .partiallyFilled ∨ next = .filled)
    · obtain ⟨h1, -, h2⟩ := canTransition_fill hrec.2
      have hvia : o.reconcile next ts = o.setState .new ts := if_pos hrec
      have hstate : (o.setState .new ts).state = .new := rfl
      refine .inl ⟨by rw [hrec.1]; exact h1, ?_⟩
      simp only [hvia, hstate, h2, if_true]
      rfl
    · have hsame : o.reconcile next ts = o := if_neg hrec
      simp only [hsame]
      cases hcan : canTransition o.state next with
      | true => exact .inl ⟨rfl, by simp⟩
      | false => exact .inr ⟨rfl, by simp⟩

/-- The reports an order accepts. -/
structure Accepts (o : Order) (rep : ExecutionReport) : Prop where
  clOrdId : o.clOrdId = rep.clOrdId
  within : rep.cumQuantity ≤ o.quantity + 1 / 10 ^ 7
  monotone : o.filledQuantity - 1 / 10 ^ 7 ≤ rep.cumQuantity
  reachable : canTransition o.state rep.execType = true

/-- The fields of an order after a report. -/
theorem book_fields (o : Order) (rep : ExecutionReport) :
    (o.book rep).toOrderFields =
      { o.toOrderFields with
        exchangeOrderId := if rep.exchangeOrderId = "" then o.exchangeOrderId else some rep.exchangeOrderId
        state := rep.execType
        filledQuantity := rep.cumQuantity
        filledQuoteAmount := rep.cumQuoteAmount
        averagePrice := rep.averagePrice
        feesPaid := o.feesPaid + rep.fee
        updatedAtNs := rep.timestampNs } := by
  by_cases hid : rep.exchangeOrderId = "" <;> simp [book, withExchangeId, hid]

@[simp]
theorem state_book (o : Order) (rep : ExecutionReport) : (o.book rep).state = rep.execType := rfl

@[simp]
theorem filledQuantity_book (o : Order) (rep : ExecutionReport) : (o.book rep).filledQuantity = rep.cumQuantity := rfl

@[simp]
theorem quantity_book (o : Order) (rep : ExecutionReport) : (o.book rep).quantity = o.quantity :=
  (o.sameTerms_book rep).quantity

@[simp]
theorem feesPaid_book (o : Order) (rep : ExecutionReport) : (o.book rep).feesPaid = o.feesPaid + rep.fee := rfl

/-- Orders are equal when their fields are. -/
theorem ext_fields {o o' : Order} (h : o.toOrderFields = o'.toOrderFields) : o = o' := by
  cases o
  cases o'
  cases h
  rfl

/-- The state and the time that are written on the way through `NEW` are overwritten by the report. -/
theorem book_reconciled (o : Order) (rep : ExecutionReport) :
    ((o.setState .new rep.timestampNs).withExchangeId rep.exchangeOrderId).book rep = o.book rep := by
  apply ext_fields
  rw [book_fields, book_fields]
  by_cases hid : rep.exchangeOrderId = "" <;> simp [withExchangeId, setState, hid]

/-- An accepted report is booked, whatever the order passes through; a refused one changes nothing. -/
theorem applyExecutionReport_eq (o : Order) (rep : ExecutionReport) :
    (o.Accepts rep ∧ o.applyExecutionReport rep = (.ok (), o.book rep)) ∨
      (¬ o.Accepts rep ∧ ∃ exc, o.applyExecutionReport rep = (.error exc, o)) := by
  unfold applyExecutionReport
  by_cases hid : o.clOrdId = rep.clOrdId
  · rw [if_neg (not_not.2 hid)]
    by_cases ht : o.isTerminal = true
    · rw [if_pos ht]
      refine .inr ⟨fun h => ?_, _, rfl⟩
      rw [isTerminal_of_canTransition h.reachable] at ht
      cases ht
    rw [if_neg ht]
    by_cases hcum : o.quantity + 1 / 10 ^ 7 < rep.cumQuantity
    · rw [if_pos hcum]
      exact .inr ⟨fun h => absurd h.within (not_le.2 hcum), _, rfl⟩
    rw [if_neg hcum]
    by_cases hback : rep.cumQuantity < o.filledQuantity - 1 / 10 ^ 7
    · rw [if_pos hback]
      exact .inr ⟨fun h => absurd h.monotone (not_le.2 hback), _, rfl⟩
    rw [if_neg hback]
    by_cases hrec : o.state = .pendingNew ∧ (rep.execType = .partiallyFilled ∨ rep.execType = .filled)
    · obtain ⟨h1, -, h2⟩ := canTransition_fill hrec.2
      have hstate : ((o.setState .new rep.timestampNs).withExchangeId rep.exchangeOrderId).state = .new := by
        unfold withExchangeId
        split <;> rfl
      simp only [if_pos hrec, hstate, h2, if_true, book_reconciled]
      exact .inl ⟨⟨hid, not_lt.1 hcum, not_lt.1 hback, by rw [hrec.1]; exact h1⟩, trivial⟩
    · simp only [if_neg hrec]
      cases hcan : canTransition o.state rep.execType with
      | true => exact .inl ⟨⟨hid, not_lt.1 hcum, not_lt.1 hback, hcan⟩, by simp⟩
      | false => exact .inr ⟨fun h => by simp [h.reachable] at hcan, by simp⟩
  · rw [if_pos hid]
    exact .inr ⟨fun h => hid h.clOrdId, _, rfl⟩

theorem apply_of_accepts {o : Order} {rep : ExecutionReport} (h : o.Accepts rep) :
    o.applyExecutionReport rep = (.ok (), o.book rep) := by
  rcases o.applyExecutionReport_eq rep with ⟨-, heq⟩ | ⟨hno, -⟩
  · exact heq
  · exact absurd h hno

/-- The ways a call changes an order: a bare transition, or a report. -/
inductive Moves (o : Order) : FsmCall → Order → Prop
  | transition {next : OrderState} {time : TransitionTime} (ts : ℕ) (hbare : ∀ rep, time ≠ .report rep)
      (h : canTransition o.state next = true) : Moves o (.transition next time) (o.setState next ts)
  | report {rep : ExecutionReport} (h : o.Accepts rep) :
      Moves o (.transition rep.execType (.report rep)) (o.book rep)
  | apply {rep : ExecutionReport} (h : o.Accepts rep) : Moves o (.apply rep) (o.book rep)

/-- A call that raises leaves the order alone, and one that does not moves it. -/
theorem fsmStep_cases (o : Order) (c : FsmCall) :
    (∃ exc, o.fsmStep c = (.error exc, o)) ∨ ∃ o', o.fsmStep c = (.ok (), o') ∧ o.Moves c o' := by
  have hbare : ∀ (next : OrderState) (time : TransitionTime) (ts : ℕ), (∀ rep, time ≠ .report rep) →
      (∃ exc, o.transition next ts = (.error exc, o)) ∨
        ∃ o', o.transition next ts = (.ok (), o') ∧ o.Moves (.transition next time) o' := by
    intro next time ts hne
    rcases o.transition_eq next ts with ⟨hcan, heq⟩ | ⟨-, herr⟩
    · exact .inr ⟨_, heq, .transition ts hne hcan⟩
    · exact .inl herr
  cases c with
  | transition next time =>
    cases time with
    | clock nowNs => exact hbare next _ nowNs (by intro rep h; cases h)
    | given ts =>
      simp only [fsmStep, transitionAt]
      by_cases hneg : ts < 0
      · rw [if_pos hneg]
        exact .inl ⟨_, rfl⟩
      · rw [if_neg hneg]
        exact hbare next _ ts.toNat (by intro rep h; cases h)
    | report rep =>
      simp only [fsmStep, transitionAt]
      by_cases hne : rep.execType ≠ next
      · rw [if_pos hne]
        exact .inl ⟨_, rfl⟩
      · rw [if_neg hne]
        obtain rfl := not_not.1 hne
        rcases o.applyExecutionReport_eq rep with ⟨hacc, heq⟩ | ⟨-, herr⟩
        · exact .inr ⟨_, heq, .report hacc⟩
        · exact .inl herr
  | apply rep =>
    rcases o.applyExecutionReport_eq rep with ⟨hacc, heq⟩ | ⟨-, herr⟩
    · exact .inr ⟨_, heq, .apply hacc⟩
    · exact .inl herr

/-- Every move follows the table of transitions. -/
theorem Moves.canTransition {o o' : Order} {c : FsmCall} (h : o.Moves c o') :
    Quant.canTransition o.state o'.state = true := by
  cases h with
  | transition ts hbare h => exact h
  | report h => exact h.reachable
  | apply h => exact h.reachable

theorem sameTerms_of_moves {o o' : Order} {c : FsmCall} (h : o.Moves c o') : o.SameTerms o' := by
  cases h with
  | transition ts hbare h => exact o.sameTerms_setState _ ts
  | report h => exact o.sameTerms_book _
  | apply h => exact o.sameTerms_book _

/-- A terminal order is never moved. -/
theorem fsmStep_terminal {o : Order} (h : o.isTerminal = true) (c : FsmCall) : (o.fsmStep c).2 = o := by
  rcases o.fsmStep_cases c with ⟨exc, heq⟩ | ⟨o', -, hm⟩
  · rw [heq]
  · rw [isTerminal_of_canTransition hm.canTransition] at h
    cases h

end Order

end Quant
