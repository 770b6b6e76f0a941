import Mathlib.Algebra.BigOperators.Group.List.Basic
import Mathlib.Algebra.Order.BigOperators.Group.List
import Mathlib.Tactic.Linarith
import Quant.Services.ExecutionService
import Quant.Theorems.LeavesAccounting
import Quant.Theorems.Shortfall

namespace Quant

open Pylib

/-! ## What a parent order knows of its children

A parent records the fills its slice loop is told of. Of the quantity the gateway executes for a child it misses what an exception
of the dispatch hides, what a check of the record refuses, and what is filled after the dispatch.
-/

/-! ### One report -/

/-- The record takes a report: its order is named, its quantity fits the target, and its time is not before the start. -/
def TakesReport (t : ParentTarget) (filled : ℚ) (clockNs : ℕ) (report : ExecutionReport) : Prop :=
  strip report.clOrdId ≠ "" ∧ filled + fillQty report ≤ t.totalQuantity + massConservationTolerance ∧
    ¬ (0 < stampNs clockNs report ∧ (stampNs clockNs report : ℤ) < t.startTimeNs)

theorem fillQty_nonneg (report : ExecutionReport) : 0 ≤ fillQty report := by
  unfold fillQty
  split
  · rename_i h
    exact h.le
  · split
    · exact report.cumQuantity_nonneg
    · exact le_rfl

theorem fillPx_pos {arrivalPrice : ℚ} (h : 0 < arrivalPrice) (report : ExecutionReport) : 0 < fillPx arrivalPrice report := by
  unfold fillPx
  split
  · assumption
  · split
    · exact h
    · rename_i hne
      exact lt_of_le_of_ne report.averagePrice_nonneg (Ne.symm hne)

/-- What the record does with a report that has a quantity. -/
theorem recordChildFill_childFill (p : ParentOrder) (clockNs : ℕ) {report : ExecutionReport} (hq : 0 < fillQty report) :
    (TakesReport p.toParentTarget p.filledQuantity clockNs report ∧
      ∃ fill : ChildFillRecord, fill.quantity = fillQty report ∧
        p.recordChildFill (childFill p.arrivalPrice clockNs report) = (.ok (), p.withFill fill)) ∨
    ¬ TakesReport p.toParentTarget p.filledQuantity clockNs report ∧
      ∃ exc, p.recordChildFill (childFill p.arrivalPrice clockNs report) = (.error exc, p) := by
  have hprice := fillPx_pos p.arrivalPrice_pos report
  by_cases hid : strip report.clOrdId = ""
  · refine .inr ⟨fun h => h.1 hid, ?_⟩
    unfold ParentOrder.recordChildFill ChildFillFields.create
    rw [dif_pos (show strip (childFill p.arrivalPrice clockNs report).childId = "" from hid)]
    exact ⟨_, rfl⟩
  · have hcreate : ∃ fill : ChildFillRecord, fill.toChildFillFields = childFill p.arrivalPrice clockNs report ∧
        (childFill p.arrivalPrice clockNs report).create = .ok fill := by
      unfold ChildFillFields.create
      rw [dif_neg (show ¬ strip (childFill p.arrivalPrice clockNs report).childId = "" from hid),
        dif_neg (show ¬ (childFill p.arrivalPrice clockNs report).quantity ≤ 0 from not_le.2 hq),
        dif_neg (show ¬ (childFill p.arrivalPrice clockNs report).price ≤ 0 from not_le.2 hprice),
        dif_neg (show ¬ (childFill p.arrivalPrice clockNs report).fee < 0 from not_lt.2 report.fee_nonneg),
        dif_neg (show ¬ (childFill p.arrivalPrice clockNs report).timestampNs < 0 from not_lt.2 (Int.natCast_nonneg _))]
      exact ⟨_, rfl, rfl⟩
    obtain ⟨fill, hfields, hok⟩ := hcreate
    have hqty : fill.quantity = fillQty report := congrArg ChildFillFields.quantity hfields
    have htime : fill.timestampNs = stampNs clockNs report := congrArg ChildFillFields.timestampNs hfields
    simp only [ParentOrder.recordChildFill, hok, hqty, htime]
    by_cases hmass : p.totalQuantity + massConservationTolerance < p.filledQuantity + fillQty report
    · rw [if_pos hmass]
      exact .inr ⟨fun h => absurd h.2.1 (not_le.2 hmass), _, rfl⟩
    · rw [if_neg hmass]
      by_cases hstart : (0 : ℤ) < stampNs clockNs report ∧ (stampNs clockNs report : ℤ) < p.startTimeNs
      · rw [if_pos hstart]
        refine .inr ⟨fun h => h.2.2 ⟨Int.natCast_pos.1 hstart.1, hstart.2⟩, _, rfl⟩
      · rw [if_neg hstart]
        exact .inl ⟨⟨hid, not_lt.1 hmass, fun h => hstart ⟨Int.natCast_pos.2 h.1, h.2⟩⟩, fill, hqty, rfl⟩

/-! ### The reports of a child -/

/-- The quantity that reports tell of. -/
def toldQty (reports : List ExecutionReport) : ℚ := (reports.map fillQty).sum

/-- Every report with a quantity is taken, from report number `k` on: the record accepts it, and no failure to log comes before
it. -/
def TakesAll (m : SliceMeets) (t : ParentTarget) : ℕ → ℚ → List ExecutionReport → Prop
  | _, _, [] => True
  | k, filled, report :: reports =>
    (0 < fillQty report → TakesReport t filled (m.clockNs k) report) ∧
      (m.logFails k = true → ∀ r ∈ reports, fillQty r = 0) ∧
      TakesAll m t (k + 1) (filled + fillQty report) reports

theorem toldQty_nonneg (reports : List ExecutionReport) : 0 ≤ toldQty reports := by
  refine List.sum_nonneg fun x hx => ?_
  obtain ⟨r, -, rfl⟩ := List.mem_map.1 hx
  exact fillQty_nonneg r

theorem toldQty_cons (report : ExecutionReport) (reports : List ExecutionReport) :
    toldQty (report :: reports) = fillQty report + toldQty reports := by
  simp [toldQty]

theorem toldQty_eq_zero {reports : List ExecutionReport} : toldQty reports = 0 ↔ ∀ r ∈ reports, fillQty r = 0 := by
  induction reports with
  | nil => simp [toldQty]
  | cons report reports ih =>
    have hreport := fillQty_nonneg report
    have hreports := toldQty_nonneg reports
    rw [toldQty_cons, List.forall_mem_cons, ← ih]
    constructor
    · intro h
      exact ⟨by linarith, by linarith⟩
    · rintro ⟨h1, h2⟩
      rw [h1, h2, add_zero]

theorem takesAll_of_none {m : SliceMeets} {t : ParentTarget} {reports : List ExecutionReport}
    (h : ∀ r ∈ reports, fillQty r = 0) (k : ℕ)
    (filled : ℚ) : TakesAll m t k filled reports := by
  induction reports generalizing k filled with
  | nil => trivial
  | cons report reports ih =>
    obtain ⟨hreport, hreports⟩ := List.forall_mem_cons.1 h
    exact ⟨fun hpos => absurd hreport hpos.ne', fun _ => hreports, ih hreports _ _⟩

/-- The loop over the reports of a child books at most what they tell of, and all of it exactly where every one is taken. -/
theorem recordReports_filled (m : SliceMeets) (k : ℕ) (p : ParentOrder) (reports : List ExecutionReport) :
    (recordReports m k p reports).2.toParentTarget = p.toParentTarget ∧
      (recordReports m k p reports).2.filledQuantity ≤ p.filledQuantity + toldQty reports ∧
      ((recordReports m k p reports).2.filledQuantity = p.filledQuantity + toldQty reports ↔
        TakesAll m p.toParentTarget k p.filledQuantity reports) := by
  induction reports generalizing k p with
  | nil => simp [recordReports, toldQty, TakesAll]
  | cons report reports ih =>
    have hrest := toldQty_nonneg reports
    -- after a report that is taken, or has no quantity, the loop goes on unless the log fails
    have hgo : ∀ p' : ParentOrder, p'.toParentTarget = p.toParentTarget → p'.filledQuantity = p.filledQuantity + fillQty report →
        let next := if m.logFails k then ((.error ⟨.queueFull, "", []⟩ : Except Exc Unit), p')
          else recordReports m (k + 1) p' reports
        next.2.toParentTarget = p.toParentTarget ∧ next.2.filledQuantity ≤ p.filledQuantity + toldQty (report :: reports) ∧
          (next.2.filledQuantity = p.filledQuantity + toldQty (report :: reports) ↔
            (m.logFails k = true → ∀ r ∈ reports, fillQty r = 0) ∧
              TakesAll m p.toParentTarget (k + 1) (p.filledQuantity + fillQty report) reports) := by
      intro p' htarget hfilled
      obtain ⟨htarget', hle, hiff⟩ := ih (k + 1) p'
      rw [htarget, hfilled] at hiff
      rw [hfilled] at hle
      rw [toldQty_cons, ← add_assoc]
      by_cases hlog : m.logFails k = true
      · simp only [hlog, if_true, forall_const]
        refine ⟨htarget, by linarith, ?_⟩
        rw [hfilled, left_eq_add, toldQty_eq_zero]
        exact ⟨fun h => ⟨h, takesAll_of_none h _ _⟩, fun h => h.1⟩
      · simp only [hlog, if_false, Bool.false_eq_true]
        exact ⟨htarget'.trans htarget, hle, hiff.trans ⟨fun h => ⟨fun h' => h'.elim, h⟩, fun h => h.2⟩⟩
    rw [recordReports, TakesAll]
    by_cases hq : 0 < fillQty report
    · rcases recordChildFill_childFill p (m.clockNs k) hq with ⟨htakes, fill, hqty, hok⟩ | ⟨hrefuses, exc, herr⟩
      · simp only [hq, if_true, hok, htakes, forall_const, true_and]
        exact hgo (p.withFill fill) rfl (congrArg (p.filledQuantity + ·) hqty)
      · simp only [hq, if_true, herr, hrefuses, forall_const, false_and, iff_false]
        rw [toldQty_cons]
        exact ⟨trivial, by linarith, fun h => by linarith⟩
    · have hzero : fillQty report = 0 := le_antisymm (not_lt.1 hq) (fillQty_nonneg report)
      simp only [hq, if_false, false_implies, true_and]
      exact hgo p rfl (by rw [hzero, add_zero])

/-! ### The slices -/

/-- What the gateway executes for a child. -/
def SliceMeets.executed (m : SliceMeets) : ℚ := m.executedNow + m.executedLater

/-- The quantity the loop is told of. -/
def SliceMeets.told (m : SliceMeets) : ℚ :=
  match m.routed with
  | .error _ => 0
  | .ok reports => toldQty reports

/-- The parent learns of all that is executed for a child: its dispatch tells of it, the record takes every report, and nothing is
filled later. -/
def Tracked (p : ParentOrder) (m : SliceMeets) : Prop :=
  m.executedNow = m.told ∧ m.executedLater = 0 ∧ ∀ reports, m.routed = .ok reports →
    TakesAll m p.toParentTarget 0 p.filledQuantity reports

/-- A gateway whose reports of a child tell of no more than it executed. -/
def SliceMeets.Honest (m : SliceMeets) : Prop := m.told ≤ m.executedNow ∧ 0 ≤ m.executedLater

theorem dispatchSlice_filled (p : ParentOrder) (m : SliceMeets) :
    (dispatchSlice p m).2.filledQuantity ≤ p.filledQuantity + m.told ∧
      ((dispatchSlice p m).2.filledQuantity = p.filledQuantity + m.told ↔
        ∀ reports, m.routed = .ok reports → TakesAll m p.toParentTarget 0 p.filledQuantity reports) := by
  unfold dispatchSlice SliceMeets.told
  cases hrouted : m.routed with
  | error exc => simp
  | ok reports =>
    obtain ⟨-, hle, hiff⟩ := recordReports_filled m 0 p reports
    simp only [Except.ok.injEq, forall_eq']
    exact ⟨hle, hiff⟩

theorem dispatchSlice_of_tracked {p : ParentOrder} {m : SliceMeets} (h : Tracked p m) :
    (dispatchSlice p m).2.filledQuantity = p.filledQuantity + m.executed := by
  rw [(dispatchSlice_filled p m).2.2 h.2.2, SliceMeets.executed, h.1, h.2.1, add_zero]

theorem dispatchSlice_of_honest {p : ParentOrder} {m : SliceMeets} (h : m.Honest) :
    (dispatchSlice p m).2.filledQuantity ≤ p.filledQuantity + m.executed ∧
      ((dispatchSlice p m).2.filledQuantity = p.filledQuantity + m.executed → Tracked p m) := by
  obtain ⟨hle, hiff⟩ := dispatchSlice_filled p m
  obtain ⟨htold, hlater⟩ := h
  unfold SliceMeets.executed
  refine ⟨by linarith, fun heq => ?_⟩
  have hnow : m.executedNow = m.told := by linarith
  have hzero : m.executedLater = 0 := by linarith
  refine ⟨hnow, hzero, hiff.1 ?_⟩
  rw [heq, hnow, hzero, add_zero]

/-- What the gateway executed for the children of a loop. -/
def SliceLoop.executed (l : SliceLoop) : ℚ := (l.routed.map fun s => s.2.executed).sum

section

variable (maxSliceDelaySec : Option ℚ) (orderType : OrderType) (limitPrice : Option ℚ)

@[simp]
theorem executeSlices_nil (p : ParentOrder) : executeSlices maxSliceDelaySec orderType limitPrice p [] = ⟨.ok (), p, []⟩ := rfl

/-- What a loop does at a slice: it ends there, or it routes the child and goes on from the parent that leaves, or ends after
it. -/
theorem executeSlices_cons (p : ParentOrder) (s : ScheduledSlice) (m : SliceMeets) (rest : List (ScheduledSlice × SliceMeets)) :
    (∃ res, executeSlices maxSliceDelaySec orderType limitPrice p ((s, m) :: rest) = ⟨res, p, []⟩) ∨
    (∃ res, executeSlices maxSliceDelaySec orderType limitPrice p ((s, m) :: rest) = ⟨res, (dispatchSlice p m).2, [(p, m)]⟩) ∨
    ∃ next, next = executeSlices maxSliceDelaySec orderType limitPrice (dispatchSlice p m).2 rest ∧
      executeSlices maxSliceDelaySec orderType limitPrice p ((s, m) :: rest) = { next with routed := (p, m) :: next.routed } := by
  rw [executeSlices]
  split
  · exact .inl ⟨_, rfl⟩
  · exact .inl ⟨_, rfl⟩
  · rcases hdispatch : dispatchSlice p m with ⟨res, p'⟩
    cases res with
    | error exc =>
      dsimp only
      split
      · exact .inr (.inr ⟨_, rfl, rfl⟩)
      · exact .inr (.inl ⟨_, rfl⟩)
    | ok u => exact .inr (.inr ⟨_, rfl, rfl⟩)

theorem executeSlices_of_tracked (p : ParentOrder) (slices : List (ScheduledSlice × SliceMeets))
    (h : ∀ s ∈ (executeSlices maxSliceDelaySec orderType limitPrice p slices).routed, Tracked s.1 s.2) :
    (executeSlices maxSliceDelaySec orderType limitPrice p slices).parent.filledQuantity =
      p.filledQuantity + (executeSlices maxSliceDelaySec orderType limitPrice p slices).executed := by
  induction slices generalizing p with
  | nil => simp [SliceLoop.executed]
  | cons sm rest ih =>
    obtain ⟨s, m⟩ := sm
    rcases executeSlices_cons maxSliceDelaySec orderType limitPrice p s m rest with ⟨res, heq⟩ | ⟨res, heq⟩ | ⟨next, hnext, heq⟩
    · rw [heq]
      simp [SliceLoop.executed]
    · rw [heq] at h ⊢
      simp only [SliceLoop.executed, List.map_cons, List.map_nil, List.sum_cons, List.sum_nil, add_zero]
      exact dispatchSlice_of_tracked (h (p, m) List.mem_cons_self)
    · rw [heq] at h ⊢
      have hrest := ih (dispatchSlice p m).2 fun s hs => h s (List.mem_cons_of_mem _ (hnext ▸ hs))
      rw [← hnext, dispatchSlice_of_tracked (h (p, m) List.mem_cons_self)] at hrest
      simp only [SliceLoop.executed, List.map_cons, List.sum_cons] at hrest ⊢
      rw [hrest, add_assoc]

theorem executeSlices_of_honest (p : ParentOrder) (slices : List (ScheduledSlice × SliceMeets))
    (h : ∀ s ∈ (executeSlices maxSliceDelaySec orderType limitPrice p slices).routed, s.2.Honest) :
    (executeSlices maxSliceDelaySec orderType limitPrice p slices).parent.filledQuantity ≤
        p.filledQuantity + (executeSlices maxSliceDelaySec orderType limitPrice p slices).executed ∧
      ((executeSlices maxSliceDelaySec orderType limitPrice p slices).parent.filledQuantity =
          p.filledQuantity + (executeSlices maxSliceDelaySec orderType limitPrice p slices).executed →
        ∀ s ∈ (executeSlices maxSliceDelaySec orderType limitPrice p slices).routed, Tracked s.1 s.2) := by
  induction slices generalizing p with
  | nil => simp [SliceLoop.executed]
  | cons sm rest ih =>
    obtain ⟨s, m⟩ := sm
    rcases executeSlices_cons maxSliceDelaySec orderType limitPrice p s m rest with ⟨res, heq⟩ | ⟨res, heq⟩ | ⟨next, hnext, heq⟩
    · rw [heq]
      simp [SliceLoop.executed]
    · rw [heq] at h ⊢
      simp only [SliceLoop.executed, List.map_cons, List.map_nil, List.sum_cons, List.sum_nil, add_zero,
        List.mem_singleton, forall_eq]
      exact dispatchSlice_of_honest (h (p, m) List.mem_cons_self)
    · rw [heq] at h ⊢
      obtain ⟨hle, hiff⟩ := ih (dispatchSlice p m).2 fun s hs => h s (List.mem_cons_of_mem _ (hnext ▸ hs))
      obtain ⟨hle', hiff'⟩ := dispatchSlice_of_honest (p := p) (h (p, m) List.mem_cons_self)
      rw [← hnext] at hle hiff
      simp only [SliceLoop.executed, List.map_cons, List.sum_cons, List.forall_mem_cons] at hle hiff ⊢
      refine ⟨by linarith, fun hsum => ?_⟩
      have hhead : (dispatchSlice p m).2.filledQuantity = p.filledQuantity + m.executed := by linarith
      exact ⟨hiff' hhead, hiff (by linarith)⟩

/-- The slices a loop routes are slices of the schedule. -/
theorem routed_subset (p : ParentOrder) (slices : List (ScheduledSlice × SliceMeets)) :
    ∀ s ∈ (executeSlices maxSliceDelaySec orderType limitPrice p slices).routed, ∃ sm ∈ slices, sm.2 = s.2 := by
  induction slices generalizing p with
  | nil => simp
  | cons sm rest ih =>
    obtain ⟨s, m⟩ := sm
    rcases executeSlices_cons maxSliceDelaySec orderType limitPrice p s m rest with ⟨res, heq⟩ | ⟨res, heq⟩ | ⟨next, hnext, heq⟩
    · rw [heq]
      simp
    · rw [heq]
      simp
    · rw [heq]
      intro r hr
      obtain rfl | hr := List.mem_cons.1 hr
      · exact ⟨_, List.mem_cons_self, rfl⟩
      · obtain ⟨sm, hsm, heq'⟩ := ih (dispatchSlice p m).2 r (hnext ▸ hr)
        exact ⟨sm, List.mem_cons_of_mem _ hsm, heq'⟩

end

/-- After a slice loop the parent has filled what the gateway executed for its children in every run in which each child that was
routed is tracked, and, with a gateway whose reports tell of no more than it executed, in no other. -/
theorem filledQuantity_eq_executed_iff {f : ParentOrderFields} {p : ParentOrder} (h : f.create = .ok p)
    (maxSliceDelaySec : Option ℚ)
    (orderType : OrderType) (limitPrice : Option ℚ) (slices : List (ScheduledSlice × SliceMeets)) :
    ((∀ s ∈ (executeSlices maxSliceDelaySec orderType limitPrice p slices).routed, Tracked s.1 s.2) →
      (executeSlices maxSliceDelaySec orderType limitPrice p slices).parent.filledQuantity =
        (executeSlices maxSliceDelaySec orderType limitPrice p slices).executed) ∧
    ((∀ sm ∈ slices, sm.2.Honest) →
      ((executeSlices maxSliceDelaySec orderType limitPrice p slices).parent.filledQuantity =
          (executeSlices maxSliceDelaySec orderType limitPrice p slices).executed ↔
        ∀ s ∈ (executeSlices maxSliceDelaySec orderType limitPrice p slices).routed, Tracked s.1 s.2)) := by
  obtain ⟨t, rfl, -⟩ := ParentOrderFields.create_fresh h
  have hzero : t.fresh.filledQuantity = 0 := rfl
  have hforward := executeSlices_of_tracked maxSliceDelaySec orderType limitPrice t.fresh slices
  rw [hzero, zero_add] at hforward
  refine ⟨hforward, fun hhonest => ⟨fun heq => ?_, hforward⟩⟩
  refine (executeSlices_of_honest maxSliceDelaySec orderType limitPrice t.fresh slices fun s hs => ?_).2
    (by rw [heq, hzero, zero_add])
  obtain ⟨sm, hsm, hm⟩ := routed_subset maxSliceDelaySec orderType limitPrice t.fresh slices s hs
  exact hm ▸ hhonest sm hsm

/-! An order for one share that starts at time ten, filled at once at a time. -/

def shareOrder : ParentOrderFields :=
  { parentId := "p", symbol := "AAPL", side := .buy, totalQuantity := 1, arrivalPrice := 100, startTimeNs := 10 }

example : shareOrder.create.isOk = true := by decide

def shareSlice : ScheduledSlice where
  sliceIndex := 0
  quantity := 1
  scheduledTimeNs := 10
  quantity_pos := Literal.one_pos
  priceLimit_pos := Literal.none_pos

/-- The fill of the share. -/
def shareReport (timestampNs : ℕ) : ExecutionReport :=
  { reportAtHundred .buy .filled 1 Literal.one_nonneg with timestampNs := timestampNs }

/-- The child is filled at once, at a time. -/
def filledShare (timestampNs : ℕ) : List (ScheduledSlice × SliceMeets) :=
  [(shareSlice, { routed := .ok [shareReport timestampNs], executedNow := 1 })]

theorem tracked_filledShare : ∃ p, shareOrder.create = .ok p ∧
    ∀ s ∈ (executeSlices none .market none p (filledShare 20)).routed, Tracked s.1 s.2 := by
  cases hp : shareOrder.create with
  | error exc =>
    have hok : shareOrder.create.isOk = true := by decide
    rw [hp] at hok
    cases hok
  | ok p =>
    refine ⟨p, rfl, (((filledQuantity_eq_executed_iff hp none .market none (filledShare 20)).2 ?_).1 ?_)⟩
    · intro sm hsm
      rw [List.mem_singleton.1 hsm]
      exact ⟨by decide +kernel, le_rfl⟩
    · have hrun : shareOrder.create.map (fun p => ((executeSlices none .market none p (filledShare 20)).parent.filledQuantity,
          (executeSlices none .market none p (filledShare 20)).executed)) = .ok (1, 1) := by decide +kernel
      rw [hp] at hrun
      have hpair := Prod.mk.inj (Except.ok.inj hrun)
      exact hpair.1.trans hpair.2.symm

/-- The child rests, and is filled after the loop. -/
def restingShare : List (ScheduledSlice × SliceMeets) :=
  [(shareSlice, { routed := .ok [reportAtHundred .buy .new 0 Literal.zero_nonneg], executedLater := 1 })]

theorem untracked_share :
    shareOrder.create.map (fun p => ((executeSlices none .market none p (filledShare 5)).parent.filledQuantity,
      (executeSlices none .market none p (filledShare 5)).executed)) = .ok (0, 1) ∧
    shareOrder.create.map (fun p => ((executeSlices none .market none p restingShare).parent.filledQuantity,
      (executeSlices none .market none p restingShare).executed)) = .ok (0, 1) := by
  decide +kernel

end Quant
