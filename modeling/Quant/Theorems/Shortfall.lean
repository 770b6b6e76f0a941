import Mathlib.Algebra.BigOperators.Group.List.Basic
import Mathlib.Algebra.Order.BigOperators.Group.List
import Mathlib.Tactic.FieldSimp
import Mathlib.Tactic.Linarith
import Mathlib.Tactic.Ring
import Quant.Execution.ParentOrder

namespace Quant

open Pylib

/-! ## Shortfall over runs of fills

The running sums of a parent order are sums over the fills it accepted. The decision price cancels between delay cost and price
impact, so the total is what the fills cost against the arrival price.
-/

namespace ParentOrder

/-- The order after a sequence of fills. -/
def recordAll (self : ParentOrder) : List ChildFillFields → ParentOrder
  | [] => self
  | f :: fs => (self.recordChildFill f).2.recordAll fs

/-- The fills of a sequence that are accepted. -/
def acceptedFills (self : ParentOrder) : List ChildFillFields → List ChildFillFields
  | [] => []
  | f :: fs =>
    if (self.recordChildFill f).1.isOk then f :: (self.recordChildFill f).2.acceptedFills fs
    else (self.recordChildFill f).2.acceptedFills fs

/-- `+1` for a buy, `-1` for a sell. -/
def sideSign (self : ParentOrder) : ℚ := if self.side = .buy then 1 else -1

end ParentOrder

/-- The quantity of fills. -/
def filledOf (fills : List ChildFillFields) : ℚ := (fills.map (·.quantity)).sum

/-- What fills cost without fees. -/
def notionalOf (fills : List ChildFillFields) : ℚ := (fills.map fun f => f.quantity * f.price).sum

/-- The fees of fills. -/
def feesOf (fills : List ChildFillFields) : ℚ := (fills.map (·.fee)).sum

namespace ParentOrder

/-- What the order recorded is the sum of the fills, which do not exceed the target. -/
structure Recorded (t : ParentTarget) (fills : List ChildFillFields) (p : ParentOrder) : Prop where
  target : p.toParentTarget = t
  childFills_eq : p.childFills.map (·.toChildFillFields) = fills
  filledQuantity_eq : p.filledQuantity = filledOf fills
  cumNotional_eq : p.cumNotional = notionalOf fills
  totalFees_eq : p.totalFees = feesOf fills
  filledQuantity_le : p.filledQuantity ≤ t.totalQuantity + massConservationTolerance

theorem recorded_fresh (t : ParentTarget) : Recorded t [] t.fresh where
  target := rfl
  childFills_eq := rfl
  filledQuantity_eq := rfl
  cumNotional_eq := rfl
  totalFees_eq := rfl
  filledQuantity_le := by
    have := t.totalQuantity_pos
    have h := massConservationTolerance_pos.le
    change (0 : ℚ) ≤ _
    linarith

/-- A constructor that returns keeps the fields it was given. -/
theorem create_fields {f : ChildFillFields} {fill : ChildFillRecord} (h : f.create = .ok fill) : fill.toChildFillFields = f := by
  unfold ChildFillFields.create at h
  obtain ⟨_, h⟩ := of_check_ok h
  obtain ⟨_, h⟩ := of_check_ok h
  obtain ⟨_, h⟩ := of_check_ok h
  obtain ⟨_, h⟩ := of_check_ok h
  obtain ⟨_, h⟩ := of_check_ok h
  rw [← Except.ok.inj h]

/-- What a call can do: raise and change nothing, or add a fill within the target. -/
theorem recordChildFill_cases (p : ParentOrder) (f : ChildFillFields) :
    (∃ exc, p.recordChildFill f = (.error exc, p)) ∨
      ∃ fill : ChildFillRecord, fill.toChildFillFields = f ∧ p.filledQuantity + f.quantity ≤ p.totalQuantity +
        massConservationTolerance ∧
        p.recordChildFill f = (.ok (), p.withFill fill) := by
  unfold recordChildFill
  cases hf : f.create with
  | error exc => exact .inl ⟨exc, rfl⟩
  | ok fill =>
    have hfields := create_fields hf
    simp only
    split
    · exact .inl ⟨_, rfl⟩
    · rename_i hmass
      split
      · exact .inl ⟨_, rfl⟩
      · refine .inr ⟨fill, hfields, ?_, rfl⟩
        rw [← hfields]
        exact not_lt.1 hmass

/-- A call that raises changes nothing. -/
theorem recordChildFill_error {p : ParentOrder} {f : ChildFillFields} {exc : Exc} (h : (p.recordChildFill f).1 = .error exc) :
    (p.recordChildFill f).2 = p := by
  rcases p.recordChildFill_cases f with ⟨_, he⟩ | ⟨fill, -, -, hok⟩
  · rw [he]
  · rw [hok] at h
    cases h

/-- An accepted fill keeps the sums. -/
theorem Recorded.withFill {t : ParentTarget} {fills : List ChildFillFields} {p : ParentOrder} {fill : ChildFillRecord}
    (h : Recorded t fills p) (hle : p.filledQuantity + fill.quantity ≤ p.totalQuantity + massConservationTolerance) :
    Recorded t (fills ++ [fill.toChildFillFields]) (p.withFill fill) where
  target := h.target
  childFills_eq := by simp [ParentOrder.withFill, h.childFills_eq]
  filledQuantity_eq := by simp [ParentOrder.withFill, filledOf, h.filledQuantity_eq]
  cumNotional_eq := by simp [ParentOrder.withFill, notionalOf, h.cumNotional_eq]
  totalFees_eq := by simp [ParentOrder.withFill, feesOf, h.totalFees_eq]
  filledQuantity_le := by
    rw [← h.target]
    exact hle

/-- A run keeps the sums. -/
theorem Recorded.recordAll {t : ParentTarget} {fills : List ChildFillFields} {p : ParentOrder} (h : Recorded t fills p)
    (fs : List ChildFillFields) : Recorded t (fills ++ p.acceptedFills fs) (p.recordAll fs) := by
  induction fs generalizing fills p with
  | nil => simpa [acceptedFills, ParentOrder.recordAll] using h
  | cons f fs ih =>
    rw [ParentOrder.recordAll, acceptedFills]
    rcases p.recordChildFill_cases f with ⟨exc, herr⟩ | ⟨fill, hfields, hle, hok⟩
    · rw [herr]
      exact ih h
    · rw [hok]
      rw [← hfields] at hle
      have hnext := ih (h.withFill hle)
      rw [List.append_assoc, hfields] at hnext
      exact hnext

/-! ### The report -/

/-- A report that meets the checks is built. -/
theorem shortfall_create (r : ShortfallFields) (h1 : 0 ≤ r.filledQuantity ∧ 0 ≤ r.unfilledQuantity)
    (h2 : 0 < r.arrivalPrice ∧ 0 < r.decisionPrice ∧ 0 < r.terminalPrice)
    (h3 : massConservationTolerance < r.filledQuantity → 0 < r.averagePrice)
    (h4 : r.totalShortfall = r.delayCost + r.priceImpact + r.feesPaid + r.opportunityCost) :
    ∃ r', r.create = .ok r' ∧ r'.toShortfallFields = r := by
  have h5 : |r.totalShortfall - (r.delayCost + r.priceImpact + r.feesPaid + r.opportunityCost)| ≤ massConservationTolerance := by
    rw [h4, sub_self, abs_zero]
    exact massConservationTolerance_pos.le
  refine ⟨⟨r, h1, h2, h3, h5⟩, ?_, rfl⟩
  unfold ShortfallFields.create
  rw [dif_neg (not_not.2 h1), dif_neg (not_not.2 h2), dif_neg (not_not.2 h3), dif_neg (not_lt.2 h5)]

/-- The fills of a parent order have quantities and prices above zero, so its sums are not below zero. -/
theorem childFills_nonneg (fills : List ChildFillRecord) :
    0 ≤ filledOf (fills.map (·.toChildFillFields)) ∧ 0 ≤ notionalOf (fills.map (·.toChildFillFields)) ∧
      (fills ≠ [] → 0 < filledOf (fills.map (·.toChildFillFields)) ∧ 0 < notionalOf (fills.map (·.toChildFillFields))) := by
  induction fills with
  | nil => exact ⟨le_rfl, le_rfl, fun h => absurd rfl h⟩
  | cons f fills ih =>
    obtain ⟨h1, h2, -⟩ := ih
    have hq := f.quantity_pos
    have hn := mul_pos f.quantity_pos f.price_pos
    simp only [filledOf, notionalOf, List.map_cons, List.sum_cons] at h1 h2 ⊢
    exact ⟨by linarith, by linarith, fun _ => ⟨by linarith, by linarith⟩⟩

/-- The leaves are zero or above the tolerance. -/
theorem leavesQuantity_cases (p : ParentOrder) : p.leavesQuantity = 0 ∨ massConservationTolerance < p.leavesQuantity := by
  unfold leavesQuantity
  simp only
  split
  · exact .inl rfl
  · rename_i h
    exact .inr (not_le.1 h)

/-- The terminal price a report is made with is above zero. -/
theorem resolvedTerminal_pos {t : ParentTarget} {fills : List ChildFillFields} {p : ParentOrder} (h : Recorded t fills p)
    {terminal : Option ℚ} (ht : ∀ x ∈ terminal, 0 < x) : 0 < p.resolvedTerminal terminal := by
  unfold resolvedTerminal
  cases terminal with
  | some x => exact ht x rfl
  | none =>
    simp only [Option.getD_none]
    split
    · rename_i hfilled
      rw [averageExecutionPrice, if_neg (not_le.2 hfilled)]
      have hne : p.childFills ≠ [] := by
        intro h0
        have hzero := h.filledQuantity_eq
        rw [← h.childFills_eq, h0] at hzero
        rw [hzero] at hfilled
        exact absurd hfilled (not_lt.2 massConservationTolerance_pos.le)
      have hpos := (childFills_nonneg p.childFills).2.2 hne
      rw [h.childFills_eq, ← h.cumNotional_eq, ← h.filledQuantity_eq] at hpos
      exact div_pos hpos.2 hpos.1
    · exact p.arrivalPrice_pos

/-- The total of a report: what the fills cost against the arrival price, what the leaves would, and the fees. -/
theorem totalShortfall_eq (p : ParentOrder) (terminal : ℚ) :
    (p.shortfallFields terminal).totalShortfall =
      p.sideSign * ((if massConservationTolerance < p.filledQuantity then p.cumNotional - p.filledQuantity *
        p.arrivalPrice else 0) +
        p.leavesQuantity * (terminal - p.arrivalPrice)) + p.totalFees := by
  have hleaves : (if massConservationTolerance < p.leavesQuantity then
      p.sideSign * p.leavesQuantity * (terminal - p.arrivalPrice) else 0) =
        p.sideSign * p.leavesQuantity * (terminal - p.arrivalPrice) := by
    rcases p.leavesQuantity_cases with h0 | hlt
    · rw [h0, mul_zero, zero_mul, ite_self]
    · rw [if_pos hlt]
  simp only [shortfallFields]
  rw [← sideSign, hleaves]
  by_cases hfilled : massConservationTolerance < p.filledQuantity
  · have hpos : p.filledQuantity ≠ 0 := (massConservationTolerance_pos.trans hfilled).ne'
    rw [if_pos hfilled, if_pos hfilled, if_pos hfilled, averageExecutionPrice, if_neg (not_le.2 hfilled)]
    -- the decision price cancels between delay and impact
    have hcancel : p.sideSign * p.filledQuantity * (p.decisionPrice - p.arrivalPrice) +
        p.sideSign * p.filledQuantity * (p.cumNotional / p.filledQuantity - p.decisionPrice) =
          p.sideSign * (p.cumNotional - p.filledQuantity * p.arrivalPrice) := by
      field_simp
      ring
    rw [hcancel]
    ring
  · rw [if_neg hfilled, if_neg hfilled, if_neg hfilled]
    ring

/-- The report of an order is built for every terminal price above zero. -/
theorem computeImplementationShortfall_eq {t : ParentTarget} {fills : List ChildFillFields} {p : ParentOrder}
    (h : Recorded t fills p)
    {terminal : Option ℚ} (ht : ∀ x ∈ terminal, 0 < x) :
    ∃ r, p.computeImplementationShortfall terminal = .ok r ∧
      r.toShortfallFields = p.shortfallFields (p.resolvedTerminal terminal) := by
  have hterm := resolvedTerminal_pos h ht
  have hfilled : 0 ≤ p.filledQuantity := by
    rw [h.filledQuantity_eq, ← h.childFills_eq]
    exact (childFills_nonneg p.childFills).1
  have hleaves : 0 ≤ p.leavesQuantity := by
    rcases p.leavesQuantity_cases with h0 | hlt
    · exact h0.ge
    · exact (massConservationTolerance_pos.trans hlt).le
  have havg : massConservationTolerance < p.filledQuantity → 0 < p.averageExecutionPrice := by
    intro hlt
    have hdefault := resolvedTerminal_pos h (show ∀ x ∈ (none : Option ℚ), 0 < x by simp)
    rwa [resolvedTerminal, Option.getD_none, if_pos hlt] at hdefault
  obtain ⟨r, hr, hfields⟩ := shortfall_create (p.shortfallFields (p.resolvedTerminal terminal)) ⟨hfilled, hleaves⟩
    ⟨p.arrivalPrice_pos, p.decisionPrice_pos, hterm⟩ havg rfl
  refine ⟨r, ?_, hfields⟩
  cases terminal with
  | none => exact hr
  | some x =>
    rw [computeImplementationShortfall, if_neg (not_le.2 (ht x rfl))]
    exact hr

/-- The sums of fills do not depend on their order. -/
theorem sums_perm {fills fills' : List ChildFillFields} (h : fills.Perm fills') :
    filledOf fills = filledOf fills' ∧ notionalOf fills = notionalOf fills' ∧ feesOf fills = feesOf fills' :=
  ⟨(h.map _).sum_eq, (h.map _).sum_eq, (h.map _).sum_eq⟩

/-- Orders of one side, quantity and arrival price that recorded the same sums have one total. -/
theorem totalShortfall_congr {p q : ParentOrder} (hside : p.side = q.side) (htotal : p.totalQuantity = q.totalQuantity)
    (harrival : p.arrivalPrice = q.arrivalPrice) (hfilled : p.filledQuantity = q.filledQuantity)
    (hnotional : p.cumNotional = q.cumNotional) (hfees : p.totalFees = q.totalFees) (terminal : Option ℚ) :
    (p.shortfallFields (p.resolvedTerminal terminal)).totalShortfall =
      (q.shortfallFields (q.resolvedTerminal terminal)).totalShortfall := by
  rw [totalShortfall_eq, totalShortfall_eq]
  simp only [sideSign, leavesQuantity, resolvedTerminal, averageExecutionPrice, hside, htotal, harrival, hfilled,
    hnotional, hfees]

/-- In every state a sequence of fills reaches: a call that raises changes nothing, the filled quantity is the sum of the accepted
fills and within the target, and the total shortfall is what the accepted fills and the leaves cost against the arrival price,
whatever the decision price was and in whichever order the fills came. -/
theorem shortfall_of_run {f : ParentOrderFields} {p : ParentOrder} (h : f.create = .ok p) (fs : List ChildFillFields) :
    (∀ g exc, ((p.recordAll fs).recordChildFill g).1 = .error exc → ((p.recordAll fs).recordChildFill g).2 = p.recordAll fs) ∧
    (p.recordAll fs).filledQuantity = filledOf (p.acceptedFills fs) ∧
    (p.recordAll fs).filledQuantity ≤ f.totalQuantity + massConservationTolerance ∧
    (∀ terminal : Option ℚ, (∀ x ∈ terminal, 0 < x) →
      ((p.recordAll fs).filledQuantity = 0 ∨ massConservationTolerance < (p.recordAll fs).filledQuantity) →
      ∃ r, (p.recordAll fs).computeImplementationShortfall terminal = .ok r ∧
        r.totalShortfall = p.sideSign * (notionalOf (p.acceptedFills fs) - (p.recordAll fs).filledQuantity * f.arrivalPrice +
          (p.recordAll fs).leavesQuantity * ((p.recordAll fs).resolvedTerminal terminal - f.arrivalPrice)) +
            feesOf (p.acceptedFills fs)) ∧
    ∀ (f' : ParentOrderFields) (p' : ParentOrder) (fs' : List ChildFillFields), f'.create = .ok p' → f'.side = f.side →
      f'.totalQuantity = f.totalQuantity → f'.arrivalPrice = f.arrivalPrice → (p'.acceptedFills fs').Perm (p.acceptedFills fs) →
      ∀ terminal : Option ℚ, (∀ x ∈ terminal, 0 < x) → ∃ r r', (p.recordAll fs).computeImplementationShortfall terminal = .ok r ∧
        (p'.recordAll fs').computeImplementationShortfall terminal = .ok r' ∧ r'.totalShortfall = r.totalShortfall := by
  have hrun : ∀ (f : ParentOrderFields) (p : ParentOrder) (fs : List ChildFillFields), f.create = .ok p → ∃ t : ParentTarget,
      Recorded t (p.acceptedFills fs) (p.recordAll fs) ∧ t.side = p.side ∧ t.side = f.side ∧ t.totalQuantity = f.totalQuantity ∧
        t.arrivalPrice = f.arrivalPrice := by
    intro f p fs h
    obtain ⟨t, rfl, -, hside, htotal, harrival⟩ := ParentOrderFields.create_fresh h
    have hrec := (recorded_fresh t).recordAll fs
    rw [List.nil_append] at hrec
    exact ⟨t, hrec, rfl, hside, htotal, harrival⟩
  obtain ⟨t, hrec, hside0, hside, htotal, harrival⟩ := hrun f p fs h
  have htarget := hrec.target
  refine ⟨fun g exc => recordChildFill_error, hrec.filledQuantity_eq, htotal ▸ hrec.filledQuantity_le, ?_, ?_⟩
  · intro terminal ht hfilled
    obtain ⟨r, hr, hfields⟩ := computeImplementationShortfall_eq hrec ht
    refine ⟨r, hr, ?_⟩
    have hsign : (p.recordAll fs).sideSign = p.sideSign := by
      unfold sideSign
      rw [← hside0, ← htarget]
    have hfees := hrec.totalFees_eq
    have hnotional := hrec.cumNotional_eq
    have hcost : (if massConservationTolerance < (p.recordAll fs).filledQuantity then
        (p.recordAll fs).cumNotional - (p.recordAll fs).filledQuantity * (p.recordAll fs).arrivalPrice else 0) =
          notionalOf (p.acceptedFills fs) - (p.recordAll fs).filledQuantity * f.arrivalPrice := by
      rw [← harrival, ← htarget]
      rcases hfilled with h0 | hlt
      · rw [if_neg (by rw [h0]; exact not_lt.2 massConservationTolerance_pos.le), h0, zero_mul, sub_zero, ← hrec.childFills_eq]
        -- without quantity there are no fills
        have hempty : (p.recordAll fs).childFills = [] := by
          by_contra hne
          have hpos := ((childFills_nonneg (p.recordAll fs).childFills).2.2 hne).1
          rw [hrec.childFills_eq, ← hrec.filledQuantity_eq, h0] at hpos
          exact lt_irrefl 0 hpos
        rw [hempty]
        rfl
      · rw [if_pos hlt, hnotional]
    rw [hfields, totalShortfall_eq, hcost, hsign, hfees, show (p.recordAll fs).arrivalPrice =
      f.arrivalPrice by rw [← harrival, ← htarget]]
  · intro f' p' fs' h' hs' ht' ha' hperm terminal hpos
    obtain ⟨t', hrec', -, hside', htotal', harrival'⟩ := hrun f' p' fs' h'
    have htarget' := hrec'.target
    obtain ⟨r, hr, hfields⟩ := computeImplementationShortfall_eq hrec hpos
    obtain ⟨r', hr', hfields'⟩ := computeImplementationShortfall_eq hrec' hpos
    obtain ⟨h1, h2, h3⟩ := sums_perm hperm
    refine ⟨r, r', hr, hr', ?_⟩
    rw [hfields, hfields']
    exact totalShortfall_congr (by rw [htarget', htarget, hside', hside, hs']) (by rw [htarget', htarget, htotal', htotal, ht'])
      (by rw [htarget', htarget, harrival', harrival, ha']) (by rw [hrec'.filledQuantity_eq, hrec.filledQuantity_eq, h1])
      (by rw [hrec'.cumNotional_eq, hrec.cumNotional_eq, h2]) (by rw [hrec'.totalFees_eq, hrec.totalFees_eq, h3]) terminal

/-! A sale of ten in three fills, one of them refused. -/

def saleOrder : ParentOrderFields :=
  { parentId := "p", symbol := "AAPL", side := .sell, totalQuantity := 10, arrivalPrice := 100 }

def saleFills : List ChildFillFields :=
  [{ childId := "c1", quantity := 4, price := 99, fee := 1 }, { childId := "c2", quantity := 7, price := 98 },
    { childId := "c3", quantity := 5, price := 101, fee := 2 }]

theorem recordAll_saleFills :
    ∃ p, saleOrder.create = .ok p ∧ (p.recordAll saleFills).filledQuantity = filledOf (p.acceptedFills saleFills) ∧
      filledOf (p.acceptedFills saleFills) = 9 := by
  cases hp : saleOrder.create with
  | error exc =>
    have hok : saleOrder.create.isOk = true := by decide
    rw [hp] at hok
    cases hok
  | ok p =>
    refine ⟨p, rfl, (shortfall_of_run hp saleFills).2.1, ?_⟩
    have hsum : saleOrder.create.map (fun p => filledOf (p.acceptedFills saleFills)) = .ok 9 := by decide +kernel
    rw [hp] at hsum
    exact Except.ok.inj hsum

end ParentOrder
end Quant
