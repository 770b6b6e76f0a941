import Mathlib.Data.List.Chain
import Quant.Lemmas.Fsm
import Quant.Pylib.Runs

/-!
# The life of an order

An order under any sequence of calls on its state machine: what a call that raises leaves behind, what a terminal state locks, the
quantity that is filled, the path through the table of transitions, and what late and repeated reports change.
-/

namespace Quant

open Pylib

namespace Order

/-! ## Safety over whole runs -/

/-- The states a call leads to: a fill of a pending order is read as passing through `NEW`. -/
def statesOf (o : Order) (c : FsmCall) : List OrderState :=
  match (o.fsmStep c).1 with
  | .error _ => []
  | .ok () =>
    let s := (o.fsmStep c).2.state
    if o.state = .pendingNew ∧ (s = .partiallyFilled ∨ s = .filled) then [.new, s] else [s]

/-- The states of an order after the one it is in, over a sequence of calls. -/
def laterStates : Order → List FsmCall → List OrderState
  | _, [] => []
  | o, c :: calls => o.statesOf c ++ laterStates (o.fsmStep c).2 calls

/-- What the state machine promises of an order after a sequence of calls. -/
structure Safe (o : Order) (calls : List FsmCall) : Prop where
  unchanged : ∀ c exc, ((o.afterCalls calls).fsmStep c).1 = .error exc →
    ((o.afterCalls calls).fsmStep c).2 = o.afterCalls calls
  locked : (o.afterCalls calls).isTerminal = true → ∀ later, o.afterCalls (calls ++ later) = o.afterCalls calls
  filled : 0 ≤ (o.afterCalls calls).filledQuantity ∧ (o.afterCalls calls).filledQuantity ≤ o.quantity + 1 / 10 ^ 7
  path : (o.state :: o.laterStates calls).IsChain (fun s t => canTransition s t = true)
  last : (o.state :: o.laterStates calls).getLast? = some (o.afterCalls calls).state

theorem unchanged_of_error {o : Order} {c : FsmCall} {exc : Exc} (h : (o.fsmStep c).1 = .error exc) :
    (o.fsmStep c).2 = o := by
  rcases o.fsmStep_cases c with ⟨exc', heq⟩ | ⟨o', heq, -⟩
  · rw [heq]
  · rw [heq] at h
    cases h

theorem afterCalls_append (o : Order) (calls later : List FsmCall) :
    o.afterCalls (calls ++ later) = (o.afterCalls calls).afterCalls later := List.foldl_append

theorem afterCalls_terminal {o : Order} (h : o.isTerminal = true) (calls : List FsmCall) : o.afterCalls calls = o := by
  induction calls with
  | nil => rfl
  | cons c calls ih =>
    change Order.afterCalls (o.fsmStep c).2 calls = o
    rw [fsmStep_terminal h c]
    exact ih

/-- An order that is filled within its quantity. -/
def WithinQuantity (o : Order) : Prop := o.filledQuantity ≤ o.quantity + 1 / 10 ^ 7

theorem Moves.withinQuantity {o o' : Order} {c : FsmCall} (h : o.Moves c o') (hw : o.WithinQuantity) : o'.WithinQuantity := by
  unfold WithinQuantity at hw ⊢
  rw [(sameTerms_of_moves h).quantity]
  cases h with
  | transition ts hbare h => exact hw
  | report h => exact h.within
  | apply h => exact h.within

/-- Whatever a call does, the terms and the bound stay. -/
theorem fsmStep_keeps {o : Order} (hw : o.WithinQuantity) (c : FsmCall) :
    o.SameTerms (o.fsmStep c).2 ∧ (o.fsmStep c).2.WithinQuantity := by
  rcases o.fsmStep_cases c with ⟨exc, heq⟩ | ⟨o', heq, hm⟩
  · rw [heq]
    exact ⟨SameTerms.refl o, hw⟩
  · rw [heq]
    exact ⟨sameTerms_of_moves hm, hm.withinQuantity hw⟩

theorem afterCalls_keeps {o : Order} (hw : o.WithinQuantity) (calls : List FsmCall) :
    o.SameTerms (o.afterCalls calls) ∧ (o.afterCalls calls).WithinQuantity := by
  induction calls generalizing o with
  | nil => exact ⟨SameTerms.refl o, hw⟩
  | cons c calls ih =>
    obtain ⟨hterms, hw'⟩ := fsmStep_keeps hw c
    obtain ⟨hterms', hw''⟩ := ih hw'
    exact ⟨hterms.trans hterms', hw''⟩

/-- The states of one call continue the path and end in the state the call leaves. -/
theorem statesOf_path (o : Order) (c : FsmCall) :
    (o.state :: o.statesOf c).IsChain (fun s t => canTransition s t = true) ∧
      (o.state :: o.statesOf c).getLast? = some (o.fsmStep c).2.state := by
  unfold statesOf
  rcases o.fsmStep_cases c with ⟨exc, heq⟩ | ⟨o', heq, hm⟩
  · simp [heq]
  · have hcan := hm.canTransition
    simp only [heq]
    split
    · rename_i hrec
      obtain ⟨-, h1, h2⟩ := canTransition_fill hrec.2
      simp [hrec.1, h1, h2]
    · simp [hcan]

theorem laterStates_path (o : Order) (calls : List FsmCall) :
    (o.state :: o.laterStates calls).IsChain (fun s t => canTransition s t = true) ∧
      (o.state :: o.laterStates calls).getLast? = some (o.afterCalls calls).state := by
  induction calls generalizing o with
  | nil => simp [laterStates, afterCalls]
  | cons c calls ih =>
    obtain ⟨hchain, hlast⟩ := o.statesOf_path c
    obtain ⟨hchain', hlast'⟩ := ih (o.fsmStep c).2
    obtain ⟨hhead, htail⟩ := List.isChain_cons.1 hchain'
    change ((o.state :: o.statesOf c) ++ laterStates (o.fsmStep c).2 calls).IsChain _ ∧
      ((o.state :: o.statesOf c) ++ laterStates (o.fsmStep c).2 calls).getLast? = _
    constructor
    · -- the first part ends in the state the second one starts from
      refine List.isChain_append.2 ⟨hchain, htail, ?_⟩
      intro s hs t ht
      rw [hlast] at hs
      cases hs
      exact hhead t ht
    · rw [List.getLast?_append, hlast]
      rw [List.getLast?_cons] at hlast'
      cases hl : (laterStates (o.fsmStep c).2 calls).getLast? <;> simp_all [afterCalls]

/-- The promises hold of a fresh order after every sequence of calls. -/
theorem safe_of_fresh {o : Order} (h : o.Fresh) (calls : List FsmCall) : o.Safe calls := by
  have hw : o.WithinQuantity := by
    unfold WithinQuantity
    rw [h.filledQuantity]
    have := o.quantity_pos
    linarith [tolerance_pos]
  obtain ⟨hterms, hw'⟩ := afterCalls_keeps hw calls
  obtain ⟨hpath, hlast⟩ := o.laterStates_path calls
  refine ⟨fun c exc => unchanged_of_error, fun ht later => ?_, ⟨(o.afterCalls calls).filledQuantity_nonneg, ?_⟩, hpath, hlast⟩
  · rw [afterCalls_append]
    exact afterCalls_terminal ht later
  · rw [← hterms.quantity]
    exact hw'

/-! ## Filled orders -/

/-- An order that is `FILLED` is filled, up to the tolerance. -/
def FilledInFull (o : Order) : Prop := o.state = .filled → |o.filledQuantity - o.quantity| ≤ 1 / 10 ^ 7

/-- The condition on a call: a report that fills the order shows all of its quantity, and a bare transition to `FILLED` finds it
filled. -/
def FillsInFull (o : Order) : FsmCall → Prop
  | .apply rep => rep.execType = .filled → |rep.cumQuantity - o.quantity| ≤ 1 / 10 ^ 7
  | .transition next (.report rep) => next = .filled → |rep.cumQuantity - o.quantity| ≤ 1 / 10 ^ 7
  | .transition next _ => next = .filled → |o.filledQuantity - o.quantity| ≤ 1 / 10 ^ 7

/-- An accepted call leads to an order that is filled when it says so exactly when it meets the condition. -/
theorem filledInFull_step_iff {o o' : Order} {c : FsmCall} (h : o.fsmStep c = (.ok (), o')) :
    o'.FilledInFull ↔ o.FillsInFull c := by
  rcases o.fsmStep_cases c with ⟨exc, heq⟩ | ⟨o'', heq, hm⟩
  · cases heq.symm.trans h
  · cases heq.symm.trans h
    cases hm with
    | @transition next time ts hbare hcan =>
      cases time with
      | clock nowNs => exact Iff.rfl
      | given ts' => exact Iff.rfl
      | report rep => exact absurd rfl (hbare rep)
    | @report rep hacc => simp [FilledInFull, FillsInFull]
    | @apply rep hacc => simp [FilledInFull, FillsInFull]

/-- In a run of accepted calls that fill in full, a fresh order is filled whenever it is `FILLED`. -/
theorem filledInFull_of_run {o o' : Order} (h : o.Fresh)
    (hrun : Run (fun o c o' => o.fsmStep c = (.ok (), o')) FillsInFull o o') : o'.FilledInFull := by
  refine hrun.invariant (I := FilledInFull) ?_ ?_
  · intro o c o' _ hc hs
    exact (filledInFull_step_iff hs).2 hc
  intro hf
  rw [h.state] at hf
  cases hf

/-! ## Late acknowledgements -/

/-- The reports are accepted one after the other. -/
def AcceptsAll : Order → List ExecutionReport → Prop
  | _, [] => True
  | o, rep :: reps => o.Accepts rep ∧ AcceptsAll (o.book rep) reps

/-- The order after deliveries, where one that raises is dropped. -/
def deliver (o : Order) (reps : List ExecutionReport) : Order :=
  reps.foldl (fun o rep => (o.applyExecutionReport rep).2) o

theorem deliver_append (o : Order) (reps later : List ExecutionReport) :
    o.deliver (reps ++ later) = (o.deliver reps).deliver later := List.foldl_append

theorem deliver_cons_of_accepts {o : Order} {rep : ExecutionReport} (h : o.Accepts rep) (reps : List ExecutionReport) :
    o.deliver (rep :: reps) = (o.book rep).deliver reps := by
  change Order.deliver (o.applyExecutionReport rep).2 reps = _
  rw [apply_of_accepts h]

theorem deliver_cons_of_refused {o : Order} {rep : ExecutionReport} (h : ¬ o.Accepts rep) (reps : List ExecutionReport) :
    o.deliver (rep :: reps) = o.deliver reps := by
  rcases o.applyExecutionReport_eq rep with ⟨hacc, -⟩ | ⟨-, exc, heq⟩
  · exact absurd hacc h
  · change Order.deliver (o.applyExecutionReport rep).2 reps = _
    rw [heq]

/-- No report makes an order pending again. -/
theorem deliver_state_ne {o : Order} (h : o.state ≠ .pendingNew) (reps : List ExecutionReport) :
    (o.deliver reps).state ≠ .pendingNew := by
  induction reps generalizing o with
  | nil => exact h
  | cons rep reps ih =>
    by_cases hacc : o.Accepts rep
    · rw [deliver_cons_of_accepts hacc]
      refine ih ?_
      intro heq
      have hcan := hacc.reachable
      rw [state_book] at heq
      rw [heq] at hcan
      revert hcan
      cases o.state <;> decide
    · rw [deliver_cons_of_refused hacc]
      exact ih h

/-- Only a pending order accepts an acknowledgement. -/
theorem state_of_accepts_new {o : Order} {ack : ExecutionReport} (hack : ack.execType = .new) (h : o.Accepts ack) :
    o.state = .pendingNew := by
  have hcan := h.reachable
  rw [hack] at hcan
  revert hcan
  cases o.state <;> decide

/-- The fill after an acknowledgement overwrites all that the acknowledgement wrote. -/
theorem book_ack {o : Order} {ack rep : ExecutionReport} (hfee : ack.fee = 0)
    (hid : rep.exchangeOrderId = ack.exchangeOrderId) : (o.book ack).book rep = o.book rep := by
  apply ext_fields
  rw [book_fields, book_fields, book_fields]
  by_cases he : ack.exchangeOrderId = "" <;> simp [hfee, hid, he]

/-- An acknowledgement that arrives after a fill, at any place, changes nothing: the order ends as if it had come first. -/
theorem late_acknowledgement {o : Order} (h : o.Fresh) {ack rep : ExecutionReport} {reps : List ExecutionReport}
    (hack : ack.execType = .new) (hcum : ack.cumQuantity = 0) (hfee : ack.fee = 0)
    (hfill : rep.execType = .partiallyFilled ∨ rep.execType = .filled)
    (hid : ∀ rep' ∈ rep :: reps, rep'.exchangeOrderId = ack.exchangeOrderId) (hacc : o.AcceptsAll (ack :: rep :: reps))
    (i : ℕ) : o.deliver (rep :: (reps.take i ++ ack :: reps.drop i)) = o.deliver (ack :: rep :: reps) := by
  obtain ⟨hfirst, hsecond, -⟩ := hacc
  have hbook : (o.book ack).book rep = o.book rep := book_ack hfee (hid rep List.mem_cons_self)
  have hdirect : o.Accepts rep := by
    refine ⟨hsecond.clOrdId.symm ▸ (o.sameTerms_book ack).clOrdId.symm, ?_, ?_, ?_⟩
    · have := hsecond.within
      rwa [quantity_book] at this
    · have := hsecond.monotone
      rw [filledQuantity_book, hcum] at this
      rwa [h.filledQuantity]
    · rw [h.state]
      exact (canTransition_fill hfill).1
  have hne : (o.book rep).state ≠ .pendingNew := by
    rw [state_book]
    rcases hfill with hf | hf <;> rw [hf] <;> decide
  rw [deliver_cons_of_accepts hdirect, deliver_cons_of_accepts hfirst, deliver_cons_of_accepts hsecond, hbook,
    deliver_append, deliver_cons_of_refused, ← deliver_append, List.take_append_drop]
  intro hlate
  exact deliver_state_ne hne _ (state_of_accepts_new hack hlate)

/-! ## Repeated reports -/

/-- A report does no harm: it is refused, or every field of the order stays. -/
def Harmless (o : Order) (rep : ExecutionReport) : Prop :=
  (∃ exc, (o.applyExecutionReport rep).1 = .error exc) ∨ (o.applyExecutionReport rep).2 = o

/-- Only a partial fill may come a second time. -/
theorem partiallyFilled_of_accepts_again {o : Order} {rep : ExecutionReport} (h : (o.book rep).Accepts rep) :
    rep.execType = .partiallyFilled := by
  have hcan := h.reachable
  rw [state_book] at hcan
  revert hcan
  cases rep.execType <;> decide

/-- A partial fill that was accepted is accepted again. -/
theorem accepts_again {o : Order} {rep : ExecutionReport} (h : o.Accepts rep) (hpart : rep.execType = .partiallyFilled) :
    (o.book rep).Accepts rep := by
  refine ⟨?_, ?_, ?_, ?_⟩
  · exact (o.sameTerms_book rep).clOrdId.trans h.clOrdId
  · rw [quantity_book]
    exact h.within
  · rw [filledQuantity_book]
    linarith [tolerance_pos]
  · rw [state_book, hpart]
    rfl

/-- All that a second booking adds is the fee. -/
theorem book_again (o : Order) (rep : ExecutionReport) :
    ((o.book rep).book rep).toOrderFields =
      { (o.book rep).toOrderFields with feesPaid := (o.book rep).feesPaid + rep.fee } := by
  rw [book_fields, book_fields]
  by_cases he : rep.exchangeOrderId = "" <;> simp [he]

theorem book_again_eq_iff (o : Order) (rep : ExecutionReport) : (o.book rep).book rep = o.book rep ↔ rep.fee = 0 := by
  constructor
  · intro h
    have hfees := congrArg (fun o : OrderFields => o.feesPaid) ((book_again o rep).symm.trans (congrArg toOrderFields h))
    simpa using hfees
  · intro h
    apply ext_fields
    rw [book_again, h, add_zero]

/-- A report that was just accepted is refused when it comes again, or it is a partial fill, and then only its fee is paid again:
it does no harm exactly when it is no partial fill or brings no fee. -/
theorem repeated_report {o o' : Order} {rep : ExecutionReport} (h : o.applyExecutionReport rep = (.ok (), o')) :
    ((∃ exc, o'.applyExecutionReport rep = (.error exc, o')) ∨
      (rep.execType = .partiallyFilled ∧ ∃ o'', o'.applyExecutionReport rep = (.ok (), o'') ∧
        o''.toOrderFields = { o'.toOrderFields with feesPaid := o'.feesPaid + rep.fee })) ∧
    (o'.Harmless rep ↔ (rep.execType = .partiallyFilled → rep.fee = 0)) := by
  rcases o.applyExecutionReport_eq rep with ⟨hfirst, heq⟩ | ⟨-, exc, heq⟩
  · obtain rfl : o.book rep = o' := by simpa [heq] using h
    rcases (o.book rep).applyExecutionReport_eq rep with ⟨hacc, heq⟩ | ⟨hrefused, exc, herr⟩
    · have hself := partiallyFilled_of_accepts_again hacc
      refine ⟨.inr ⟨hself, _, heq, book_again o rep⟩, ?_⟩
      simp [Harmless, heq, hself, book_again_eq_iff]
    · have hraises : (o.book rep).Harmless rep := .inl ⟨exc, by rw [herr]⟩
      exact ⟨.inl ⟨exc, herr⟩, fun _ hpart => absurd (accepts_again hfirst hpart) hrefused, fun _ => hraises⟩
  · simp [heq] at h

/-! ## An order for one hundred -/

/-- A fresh order to buy one hundred. -/
def hundred : Order where
  clOrdId := "order"
  symbol := "AAPL"
  side := .buy
  orderType := .limit
  quantity := 100
  price := some 100
  clOrdId_ne := Literal.order_ne
  symbol_ne := Literal.aapl_ne
  quantity_pos := Literal.hundred_pos
  price_pos := Literal.some_hundred_pos
  stopPrice_pos := Literal.none_pos
  filledQuantity_nonneg := Literal.zero_nonneg
  filledQuoteAmount_nonneg := Literal.zero_nonneg
  averagePrice_nonneg := Literal.zero_nonneg
  feesPaid_nonneg := Literal.zero_nonneg

theorem hundred_fresh : hundred.Fresh := ⟨rfl, rfl, rfl, rfl, rfl, rfl⟩

/-- A report on it, with its fee. -/
def hundredReport (st : OrderState) (cum : ℚ) (h : 0 ≤ cum) (fee : ℚ) (hfee : 0 ≤ fee) : ExecutionReport where
  reportId := "report"
  clOrdId := "order"
  exchangeOrderId := "exchange"
  symbol := "AAPL"
  side := .buy
  execType := st
  lastQuantity := cum
  lastPrice := 100
  cumQuantity := cum
  leavesQuantity := 0
  cumQuoteAmount := 100 * cum
  averagePrice := 100
  fee := fee
  timestampNs := 1
  reportId_ne := Literal.report_ne
  clOrdId_ne := Literal.order_ne
  symbol_ne := Literal.aapl_ne
  lastQuantity_nonneg := h
  lastPrice_nonneg := Literal.hundred_nonneg
  cumQuantity_nonneg := h
  leavesQuantity_nonneg := Literal.zero_nonneg
  cumQuoteAmount_nonneg := Literal.hundred_mul_nonneg h
  averagePrice_nonneg := Literal.hundred_nonneg
  fee_nonneg := hfee

/-- A partial fill of forty for a fee of one. -/
def fortyFilled : ExecutionReport := hundredReport .partiallyFilled 40 (by norm_num) 1 Literal.one_nonneg

/-- A report that calls the order `FILLED` at forty. -/
def filledAtForty : ExecutionReport := hundredReport .filled 40 (by norm_num) 1 Literal.one_nonneg

/-- A report that calls it `FILLED` at one hundred. -/
def filledAtHundred : ExecutionReport := hundredReport .filled 100 Literal.hundred_nonneg 1 Literal.one_nonneg

theorem hundred_accepts (st : OrderState) (hst : canTransition .pendingNew st = true) (cum : ℚ) (h : 0 ≤ cum) (hle : cum ≤ 100)
    (fee : ℚ) (hfee : 0 ≤ fee) : hundred.Accepts (hundredReport st cum h fee hfee) := by
  refine ⟨rfl, ?_, ?_, hst⟩
  · change cum ≤ 100 + 1 / 10 ^ 7
    linarith [tolerance_pos]
  · change 0 - 1 / 10 ^ 7 ≤ cum
    linarith [tolerance_pos]

/-- An order that is acknowledged, filled in part and asked to be cancelled. -/
theorem safe_partlyFilled :
    hundred.Safe [.transition .new (.clock 1), .apply fortyFilled, .transition .pendingCancel (.given 2)] :=
  safe_of_fresh hundred_fresh _

/-- A report may call an order `FILLED` at any quantity. -/
theorem not_filledInFull :
    ¬ ∀ o o' : Order, o.Fresh → Run (fun o c o' => o.fsmStep c = (.ok (), o')) (fun _ _ => True) o o' → o'.FilledInFull := by
  intro h
  have hacc : hundred.Accepts filledAtForty := hundred_accepts .filled (by decide) 40 _ (by norm_num) 1 _
  have hfull := h hundred (hundred.book filledAtForty) hundred_fresh
    (Run.refl.tail (i := .apply filledAtForty) trivial (apply_of_accepts hacc)) rfl
  revert hfull
  decide +kernel

/-- An order that is filled by a report of all of it. -/
theorem filledInFull_hundred : (hundred.book filledAtHundred).FilledInFull := by
  have hacc : hundred.Accepts filledAtHundred := hundred_accepts .filled (by decide) 100 _ le_rfl 1 _
  have hcond : hundred.FillsInFull (.apply filledAtHundred) := by
    intro _
    decide +kernel
  exact filledInFull_of_run hundred_fresh (Run.refl.tail (i := .apply filledAtHundred) hcond (apply_of_accepts hacc))

/-- An acknowledgement that arrives after a partial fill. -/
theorem late_acknowledgement_forty :
    hundred.deliver [fortyFilled, hundredReport .new 0 le_rfl 0 le_rfl] =
      hundred.deliver [hundredReport .new 0 le_rfl 0 le_rfl, fortyFilled] := by
  refine late_acknowledgement hundred_fresh rfl rfl rfl (.inl rfl) ?_ ?_ 0
  · intro rep hm
    rw [List.mem_singleton.1 hm]
    rfl
  · refine ⟨hundred_accepts .new (by decide) 0 _ (by norm_num) 0 _, ⟨by decide, ?_, ?_, by decide⟩, trivial⟩
    · decide +kernel
    · decide +kernel

/-- The same partial fill applied twice pays its fee twice. -/
theorem not_harmless_forty :
    ¬ ∀ (o o' : Order) (rep : ExecutionReport), o.Fresh → o.applyExecutionReport rep = (.ok (), o') → o'.Harmless rep := by
  intro h
  have hacc : hundred.Accepts fortyFilled := hundred_accepts .partiallyFilled (by decide) 40 _ (by norm_num) 1 _
  have hacc' : (hundred.book fortyFilled).Accepts fortyFilled := accepts_again hacc rfl
  rcases h _ _ _ hundred_fresh (apply_of_accepts hacc) with ⟨exc, herr⟩ | hsame
  · rw [apply_of_accepts hacc'] at herr
    cases herr
  · rw [apply_of_accepts hacc'] at hsame
    have hfees := congrArg (fun o : Order => o.feesPaid) hsame
    revert hfees
    decide +kernel

/-- A partial fill with a fee does harm when it comes again. -/
theorem repeated_report_forty :
    ∃ o', hundred.applyExecutionReport fortyFilled = (.ok (), o') ∧ ¬ o'.Harmless fortyFilled := by
  have hacc : hundred.Accepts fortyFilled := hundred_accepts .partiallyFilled (by decide) 40 _ (by norm_num) 1 _
  refine ⟨_, apply_of_accepts hacc, ?_⟩
  rw [(repeated_report (apply_of_accepts hacc)).2]
  decide

end Order

end Quant
