import Quant.Pylib.Lists
import Quant.Pylib.Runs
import Quant.Services.ParentOrders
import Quant.Theorems.LeavesAccounting
import Quant.Theorems.Shortfall

/-!
# Interleaved parent orders

Whatever the order in which the tasks of parent orders, new orders, cancellations and the kill switch come: the children of an
order are those of its schedule, in its order and each once, and come to no more than was asked for; and an order that is
cancelled, or any order once the switch is thrown, dispatches at most the child it was already connecting for.
-/

namespace Quant

open Pylib ParentOrder

/-! ## The mass of a schedule -/

section Mass

variable {M : ScheduleMath} {r : ParentOrderCreateRequest} {start : ℤ} {slices : List ScheduledSlice}

theorem checkMass_le {text : String} {total : ℚ} {slices out : List ScheduledSlice} (h : checkMass text total slices = .ok out) :
    |scheduledQuantity out - total| ≤ massConservationTolerance := by
  unfold checkMass at h
  split_ifs at h with hmass
  obtain rfl := Except.ok.inj h
  exact not_lt.1 hmass

/-- A slice has the quantity it was made with. -/
theorem ScheduledSliceFields.create_quantity {f : ScheduledSliceFields} {s : ScheduledSlice} (h : f.create = .ok s) :
    s.quantity = f.quantity := by
  unfold ScheduledSliceFields.create at h
  iterate 4 obtain ⟨_, h⟩ := of_check_ok h
  rw [← Except.ok.inj h]

theorem singleSlice_le {f : ScheduledSliceFields} (h : (f.create.bind fun slice => .ok [slice]) = .ok slices) :
    |scheduledQuantity slices - f.quantity| ≤ massConservationTolerance := by
  obtain ⟨s, hs, hslices⟩ := exists_of_bind_ok h
  obtain rfl := Except.ok.inj hslices
  rw [scheduledQuantity_cons, scheduledQuantity_nil, add_zero, ScheduledSliceFields.create_quantity hs, sub_self, abs_zero]
  exact massConservationTolerance_pos.le

theorem twapSlices_le (h : twapSlices M r start = .ok slices) :
    |scheduledQuantity slices - r.quantity| ≤ massConservationTolerance := by
  obtain ⟨twap, hcreate, hgenerate⟩ := exists_of_bind_ok h
  have htotal : twap.totalQuantity = r.quantity := by
    unfold PoissonTWAPFields.create at hcreate
    iterate 7 obtain ⟨_, hcreate⟩ := of_check_ok hcreate
    rw [← Except.ok.inj hcreate]
  obtain ⟨n, -, hrest⟩ := exists_of_bind_ok hgenerate
  rw [← htotal]
  split_ifs at hrest
  · exact singleSlice_le (f := ⟨0, twap.totalQuantity, n, none⟩) hrest
  · obtain ⟨⟨loop, qFinal, time⟩, -, hrest⟩ := exists_of_bind_ok hrest
    obtain ⟨final, -, hrest⟩ := exists_of_bind_ok hrest
    exact checkMass_le hrest

theorem vwapSlices_le (h : vwapSlices r start = .ok slices) :
    |scheduledQuantity slices - r.quantity| ≤ massConservationTolerance := by
  obtain ⟨vwap, hcreate, hgenerate⟩ := exists_of_bind_ok h
  have htotal : vwap.totalQuantity = r.quantity := by
    unfold VolumeAdaptiveVWAPFields.create at hcreate
    obtain ⟨_, hcreate⟩ := of_check_ok hcreate
    obtain ⟨_, hcreate⟩ := of_check_ok (c := (histVol r).length < 1) hcreate
    split at hcreate
    · cases hcreate
    · iterate 4 obtain ⟨_, hcreate⟩ := of_check_ok hcreate
      rw [← Except.ok.inj hcreate]
  obtain ⟨n, -, hrest⟩ := exists_of_bind_ok hgenerate
  obtain ⟨⟨loop, left⟩, -, hrest⟩ := exists_of_bind_ok hrest
  obtain ⟨final, -, hrest⟩ := exists_of_bind_ok hrest
  rw [← htotal]
  split_ifs at hrest
  exact checkMass_le hrest

theorem arrivalSlices_le (h : arrivalSlices M r start = .ok slices) :
    |scheduledQuantity slices - r.quantity| ≤ massConservationTolerance := by
  obtain ⟨ac, hcreate, hgenerate⟩ := exists_of_bind_ok h
  have htotal : ac.totalQuantity = r.quantity := by
    unfold NonlinearArrivalPriceFields.create at hcreate
    iterate 7 obtain ⟨_, hcreate⟩ := of_check_ok hcreate
    rw [← Except.ok.inj hcreate]
  obtain ⟨n, -, hrest⟩ := exists_of_bind_ok hgenerate
  obtain ⟨trajectory, -, hrest⟩ := exists_of_bind_ok hrest
  obtain ⟨⟨loop, left⟩, -, hrest⟩ := exists_of_bind_ok hrest
  rw [← htotal]
  exact checkMass_le hrest

/-- Whatever the algorithm: a schedule that is made comes to the quantity. -/
theorem generateSlices_le (h : generateSlices M r start = .ok slices) :
    |scheduledQuantity slices - r.quantity| ≤ massConservationTolerance := by
  unfold generateSlices at h
  cases halg : r.algorithm <;> rw [halg] at h
  · exact twapSlices_le h
  · exact vwapSlices_le h
  · exact arrivalSlices_le h
  · exact singleSlice_le (f := ⟨0, r.quantity, start, r.price⟩) h

end Mass

/-! ## The numbers of its slices -/

section Numbers

variable {M : ScheduleMath} {r : ParentOrderCreateRequest} {start : ℤ} {slices : List ScheduledSlice}

/-- The slices are numbered in order, from `i` on. -/
def NumberedFrom (i : ℕ) (slices : List ScheduledSlice) : Prop := slices.map (·.sliceIndex) = List.range' i slices.length

theorem NumberedFrom.cons {i : ℕ} {s : ScheduledSlice} (hs : s.sliceIndex = i) (h : NumberedFrom (i + 1) slices) :
    NumberedFrom i (s :: slices) := by
  unfold NumberedFrom at h ⊢
  rw [List.map_cons, hs, h, List.length_cons, List.range'_succ]

theorem NumberedFrom.concat {i : ℕ} {s : ScheduledSlice} (h : NumberedFrom i slices) (hs : s.sliceIndex = i + slices.length) :
    NumberedFrom i (slices ++ [s]) := by
  unfold NumberedFrom at h ⊢
  rw [List.map_append, h, List.map_singleton, hs, List.length_append, List.length_singleton, List.range'_concat, one_mul]

/-- A slice has the number it was made with. -/
theorem ScheduledSliceFields.create_sliceIndex {f : ScheduledSliceFields} {s : ScheduledSlice} (h : f.create = .ok s) {i : ℕ}
    (hi : f.sliceIndex = i) :
    s.sliceIndex = i := by
  unfold ScheduledSliceFields.create at h
  iterate 4 obtain ⟨_, h⟩ := of_check_ok h
  rw [← Except.ok.inj h]
  exact (congrArg Int.toNat hi).trans (Int.toNat_natCast i)

theorem numbered_single {f : ScheduledSliceFields} (hf : f.sliceIndex = 0)
    (h : (f.create.bind fun slice => .ok [slice]) = .ok slices) :
    NumberedFrom 0 slices := by
  obtain ⟨s, hs, hslices⟩ := exists_of_bind_ok h
  obtain rfl := Except.ok.inj hslices
  exact .cons (ScheduledSliceFields.create_sliceIndex hs hf) rfl

/-- The loop makes as many slices as it is asked for. -/
theorem numbered_slicingLoop {twap : PoissonTWAPScheduler} {uniform : PoissonTWAPScheduler.Draws} {n k : ℕ} {rem left : ℚ}
    {time time' : ℕ}
    (h : twap.slicingLoop uniform n k rem time = .ok (slices, left, time')) : NumberedFrom k slices ∧ slices.length = n := by
  induction n generalizing k rem time slices with
  | zero =>
    cases h
    exact ⟨rfl, rfl⟩
  | succ n ih =>
    obtain ⟨s, hs, h⟩ := exists_of_bind_ok h
    obtain ⟨⟨rest, left', time''⟩, hrest, h⟩ := exists_of_bind_ok h
    cases h
    obtain ⟨hnumbered, hlength⟩ := ih hrest
    exact ⟨.cons (ScheduledSliceFields.create_sliceIndex hs rfl) hnumbered, congrArg (· + 1) hlength⟩

theorem numbered_profileLoop {vwap : VolumeAdaptiveVWAPScheduler} {ws : List ℚ} {time k i : ℕ} {rem left : ℚ}
    (h : vwap.profileLoop time k i rem ws = .ok (slices, left)) : NumberedFrom i slices := by
  induction ws generalizing k i rem slices with
  | nil =>
    cases h
    rfl
  | cons w ws ih =>
    rw [VolumeAdaptiveVWAPScheduler.profileLoop] at h
    split_ifs at h with hpos
    · obtain ⟨s, hs, h⟩ := exists_of_bind_ok h
      obtain ⟨⟨rest, left'⟩, hrest, h⟩ := exists_of_bind_ok h
      cases h
      exact .cons (ScheduledSliceFields.create_sliceIndex hs rfl) (ih hrest)
    · exact ih h

theorem numbered_dischargeLoop {ac : NonlinearArrivalPriceScheduler} {xs : List ℚ} {t j i : ℕ} {rem left prev : ℚ} {last : ℤ}
    (h : ac.dischargeLoop t j i rem last prev xs = .ok (slices, left)) : NumberedFrom i slices := by
  induction xs generalizing j i rem last prev slices with
  | nil =>
    cases h
    rfl
  | cons x xs ih =>
    rw [NonlinearArrivalPriceScheduler.dischargeLoop] at h
    by_cases hrem : rem ≤ 0
    · rw [if_pos hrem] at h
      cases h
      rfl
    · rw [if_neg hrem] at h
      by_cases hq : (if j = ac.numIntervals ∨ rem ≤ prev - x then rem else prev - x) ≤ 0
      · rw [if_pos hq] at h
        exact ih h
      · rw [if_neg hq] at h
        obtain ⟨s, hs, h⟩ := exists_of_bind_ok h
        obtain ⟨⟨rest, left'⟩, hrest, h⟩ := exists_of_bind_ok h
        cases h
        exact .cons (ScheduledSliceFields.create_sliceIndex hs rfl) (ih hrest)

/-- What is left goes to the last slice under its number. -/
theorem NumberedFrom.absorbResidual {i : ℕ} (h : NumberedFrom i slices) (rem : ℚ) :
    NumberedFrom i (absorbResidual rem slices) := by
  unfold Quant.absorbResidual
  split_ifs with hrem
  · cases slices using List.reverseRecOn with
    | nil => exact h
    | append_singleton slices s =>
      have hmap : (slices ++ [s]).map (·.sliceIndex) = List.range' i (slices.length + 1) := by simpa [NumberedFrom] using h
      simpa [NumberedFrom] using hmap
  · exact h

theorem checkMass_eq {text : String} {total : ℚ} {slices out : List ScheduledSlice} (h : checkMass text total slices = .ok out) :
    out = slices := by
  unfold checkMass at h
  split_ifs at h
  exact (Except.ok.inj h).symm

theorem numbered_twapSlices (h : twapSlices M r start = .ok slices) : NumberedFrom 0 slices := by
  obtain ⟨twap, -, hgenerate⟩ := exists_of_bind_ok h
  obtain ⟨n, -, hrest⟩ := exists_of_bind_ok hgenerate
  split_ifs at hrest
  · exact numbered_single rfl hrest
  · obtain ⟨⟨loop, qFinal, time⟩, hloop, hrest⟩ := exists_of_bind_ok hrest
    obtain ⟨final, hfinal, hrest⟩ := exists_of_bind_ok hrest
    obtain ⟨hnumbered, hlength⟩ := numbered_slicingLoop hloop
    rw [checkMass_eq hrest]
    exact hnumbered.concat (by rw [ScheduledSliceFields.create_sliceIndex hfinal rfl, hlength, zero_add])

theorem numbered_vwapSlices (h : vwapSlices r start = .ok slices) : NumberedFrom 0 slices := by
  obtain ⟨vwap, -, hgenerate⟩ := exists_of_bind_ok h
  obtain ⟨n, -, hrest⟩ := exists_of_bind_ok hgenerate
  obtain ⟨⟨loop, left⟩, hloop, hrest⟩ := exists_of_bind_ok hrest
  obtain ⟨final, hfinal, hrest⟩ := exists_of_bind_ok hrest
  split_ifs at hrest
  rw [checkMass_eq hrest]
  unfold VolumeAdaptiveVWAPScheduler.residualSlice at hfinal
  split_ifs at hfinal
  · obtain ⟨s, hs, hfinal⟩ := exists_of_bind_ok hfinal
    cases hfinal
    exact (numbered_profileLoop hloop).concat (by rw [ScheduledSliceFields.create_sliceIndex hs rfl, zero_add])
  · cases hfinal
    rw [List.append_nil]
    exact numbered_profileLoop hloop

theorem numbered_arrivalSlices (h : arrivalSlices M r start = .ok slices) : NumberedFrom 0 slices := by
  obtain ⟨ac, -, hgenerate⟩ := exists_of_bind_ok h
  obtain ⟨n, -, hrest⟩ := exists_of_bind_ok hgenerate
  obtain ⟨trajectory, -, hrest⟩ := exists_of_bind_ok hrest
  obtain ⟨⟨loop, left⟩, hloop, hrest⟩ := exists_of_bind_ok hrest
  rw [checkMass_eq hrest]
  exact (numbered_dischargeLoop hloop).absorbResidual left

/-- Whatever the algorithm: the slices are numbered in order. -/
theorem numbered_generateSlices (h : generateSlices M r start = .ok slices) : NumberedFrom 0 slices := by
  unfold generateSlices at h
  cases halg : r.algorithm <;> rw [halg] at h
  · exact numbered_twapSlices h
  · exact numbered_vwapSlices h
  · exact numbered_arrivalSlices h
  · exact numbered_single rfl h

end Numbers

/-! ## The names of children -/

/-- The name of the child of a slice. -/
def sliceId (parentId : String) (i : ℕ) : String := parentId ++ "-slice-" ++ toString i

/-- The children of different orders, and of different slices, have different names. -/
theorem sliceId_inj {id id' : String} {i j : ℕ} (h : sliceId id i = sliceId id' j) : id = id' ∧ i = j := by
  have hchars : (id ++ "-slice-").toList ++ Nat.toDigits 10 i = (id' ++ "-slice-").toList ++ Nat.toDigits 10 j := by
    simpa only [sliceId, String.toList_append, Nat.toString_eq_repr, Nat.toList_repr] using congrArg String.toList h
  have hdigits : ∀ {n : ℕ} {c : Char}, c ∈ Nat.toDigits 10 n → c.isDigit = true :=
    Nat.isDigit_of_mem_toDigits (by decide) (by decide)
  have hdash : ∀ s : String, ∀ c ∈ (s ++ "-slice-").toList.getLast?, c.isDigit = false := fun s c hc => by
    have hlast : (s ++ "-slice-").toList.getLast? = some '-' := by
      rw [String.toList_append]
      simp
    obtain rfl := Option.some.inj (hlast.symm.trans hc)
    decide
  obtain ⟨hid, hnumber⟩ := append_inj_of_last (fun c => c.isDigit) hchars (hdash id) (hdash id')
    (fun _ => hdigits) fun _ => hdigits
  refine ⟨?_, by simpa using congrArg (fun digits => Nat.ofDigitChars 10 digits 0) hnumber⟩
  rw [String.toList_append, String.toList_append] at hid
  exact String.toList_injective (List.append_cancel_right hid)

/-! ## Where a task goes -/

/-- The child a task dispatches when it comes to where it awaits. -/
def SliceAwait.child : SliceAwait → Option Order
  | .routing child => some child
  | _ => none

/-- The child it connects for. -/
def SliceAwait.pending : SliceAwait → Option Order
  | .connecting child => some child
  | _ => none

namespace ExecutionDesk

section Tasks

variable {M : ScheduleMath} {w : ExecutionDesk} {p : ParentOrder} {t : ParentTask}

/-- The children dispatched for an order. -/
def children (w : ExecutionDesk) (id : String) : List Order := (w.dispatched.filter (·.1 = id)).map Prod.snd

theorem children_goOn (id id' : String) :
    (w.goOn id t).children id' = w.children id' ++ if id' = id then t.await.child.toList else [] := by
  unfold children goOn
  by_cases hid : id' = id
  · subst hid
    cases t.await <;> simp [SliceAwait.child]
  · cases t.await <;> simp [Ne.symm hid, hid]

theorem children_goOn_of_ne {id id' : String} (h : id' ≠ id) : (w.goOn id t).children id' = w.children id' := by
  rw [children_goOn, if_neg h, List.append_nil]

theorem children_goOn_of_none {id : String} (h : t.await.child = none) : (w.goOn id t).children id = w.children id := by
  rw [children_goOn, if_pos rfl, h, Option.toList_none, List.append_nil]

/-- From a sleep the loop ends, or goes on with the child of the slice where neither flag is up. -/
theorem wake_cases (w : ExecutionDesk) (p : ParentOrder) (t : ParentTask) (s : ScheduledSlice) (horizonNs : ℤ)
    (connected : Bool) :
    (∃ result, w.wake p t s horizonNs connected = .done result) ∨
      ∃ child, p.childOrder t.orderType t.limitPrice s = .ok child ∧ w.stopped p = false ∧
        (w.wake p t s horizonNs connected = .routing child ∨ w.wake p t s horizonNs connected = .connecting child) := by
  unfold wake
  cases hchild : p.childOrder t.orderType t.limitPrice s with
  | error exc =>
    refine .inl ?_
    split_ifs <;> exact ⟨_, rfl⟩
  | ok child =>
    split_ifs with hhorizon hstopped
    · exact .inl ⟨_, rfl⟩
    · exact .inl ⟨_, rfl⟩
    · exact .inr ⟨child, rfl, Bool.eq_false_iff.2 hstopped, .inl rfl⟩
    · exact .inr ⟨child, rfl, Bool.eq_false_iff.2 hstopped, .inr rfl⟩

/-- From its head the loop ends, or takes the next slice where neither flag is up. -/
theorem head_cases (w : ExecutionDesk) (p : ParentOrder) (t : ParentTask) (nowNs horizonNs : ℤ) (connected : Bool) :
    (∃ result, w.head p t nowNs horizonNs connected = { t with await := .done result }) ∨
      ∃ s, t.slices[t.taken]? = some s ∧ w.stopped p = false ∧
        (w.head p t nowNs horizonNs connected = { t with taken := t.taken + 1, await := .sleeping s } ∨
          w.head p t nowNs horizonNs connected = { t with taken := t.taken + 1, await := w.wake p t s horizonNs connected }) := by
  unfold head
  cases hs : t.slices[t.taken]? with
  | none => exact .inl ⟨_, rfl⟩
  | some s =>
    simp only
    split_ifs with hstop hdelay
    · exact .inl ⟨_, rfl⟩
    · exact .inr ⟨s, rfl, Bool.eq_false_iff.2 fun h => hstop (.inl h), .inl rfl⟩
    · exact .inr ⟨s, rfl, Bool.eq_false_iff.2 fun h => hstop (.inl h), .inr rfl⟩

end Tasks

/-! ## The children of a schedule -/

section Schedule

variable {M : ScheduleMath} {w : ExecutionDesk} {id : String} {p : ParentOrder} {t : ParentTask} {k : ℕ}

/-- Where a task is whose first `k` slices have been dispatched. -/
def Stage (p : ParentOrder) (t : ParentTask) (k : ℕ) : Prop :=
  match t.await with
  | .atTop | .routing _ => t.taken = k
  | .sleeping s => t.taken = k + 1 ∧ t.slices[k]? = some s
  | .connecting child => t.taken = k + 1 ∧ ∃ s, t.slices[k]? = some s ∧ p.childOrder t.orderType t.limitPrice s = .ok child
  | .done _ => True

/-- The children are those of the first slices, one for each. -/
def Sent (p : ParentOrder) (t : ParentTask) (cs : List Order) (k : ℕ) : Prop :=
  List.Forall₂ (fun child s => p.childOrder t.orderType t.limitPrice s = .ok child) cs (t.slices.take k)

/-- A task follows its schedule. -/
structure Follows (w : ExecutionDesk) (id : String) (p : ParentOrder) (t : ParentTask) : Prop where
  parentId : p.parentId = id
  mass : |scheduledQuantity t.slices - p.totalQuantity| ≤ massConservationTolerance
  numbered : NumberedFrom 0 t.slices
  filled : p.filledQuantity ≤ p.totalQuantity + massConservationTolerance
  sent : ∃ k, Sent p t (w.children id) k ∧ Stage p t k

/-- The child of the next slice comes after the others. -/
theorem Sent.concat {cs : List Order} (h : Sent p t cs k) {s : ScheduledSlice} (hs : t.slices[k]? = some s) {child : Order}
    (hchild : p.childOrder t.orderType t.limitPrice s = .ok child) : Sent p t (cs ++ [child]) (k + 1) := by
  unfold Sent
  rw [List.take_add_one, hs]
  exact List.rel_append h (.cons hchild .nil)

/-- A task that goes on from its head follows its schedule. -/
theorem Follows.head (h : w.Follows id p t) (htop : t.await = .atTop) (nowNs horizonNs : ℤ) (connected : Bool) :
    (w.goOn id (w.head p t nowNs horizonNs connected)).Follows id p (w.head p t nowNs horizonNs connected) := by
  obtain ⟨k, hsent, hstage⟩ := h.sent
  have htaken : t.taken = k := by simpa only [Stage, htop] using hstage
  rcases head_cases w p t nowNs horizonNs connected with ⟨result, hdone⟩ | ⟨s, hs, -, hsleep | hwake⟩
  · rw [hdone]
    exact ⟨h.parentId, h.mass, h.numbered, h.filled, k, by rw [children_goOn_of_none rfl]; exact hsent, trivial⟩
  · rw [hsleep]
    exact ⟨h.parentId, h.mass, h.numbered, h.filled, k,
      by rw [children_goOn_of_none rfl]; exact hsent, by rw [htaken], htaken ▸ hs⟩
  · rw [hwake]
    rcases wake_cases w p t s horizonNs connected with ⟨result, hdone⟩ | ⟨child, hchild, -, hrouting | hconnecting⟩
    · rw [hdone]
      exact ⟨h.parentId, h.mass, h.numbered, h.filled, k, by rw [children_goOn_of_none rfl]; exact hsent, trivial⟩
    · rw [hrouting]
      refine ⟨h.parentId, h.mass, h.numbered, h.filled, k + 1, ?_, by rw [Stage, htaken]⟩
      rw [children_goOn, if_pos rfl]
      exact hsent.concat (htaken ▸ hs) hchild
    · rw [hconnecting]
      exact ⟨h.parentId, h.mass, h.numbered, h.filled, k,
        by rw [children_goOn_of_none rfl]; exact hsent, by rw [htaken], s, htaken ▸ hs, hchild⟩

/-- So does one that wakes. -/
theorem Follows.wake (h : w.Follows id p t) {s : ScheduledSlice} (hsleep : t.await = .sleeping s) (horizonNs : ℤ)
    (connected : Bool) :
    (w.goOn id { t with await := w.wake p t s horizonNs connected }).Follows id p
    { t with await := w.wake p t s horizonNs connected } := by
  obtain ⟨k, hsent, hstage⟩ := h.sent
  obtain ⟨htaken, hs⟩ : t.taken = k + 1 ∧ t.slices[k]? = some s := by simpa only [Stage, hsleep] using hstage
  rcases wake_cases w p t s horizonNs connected with ⟨result, hdone⟩ | ⟨child, hchild, -, hrouting | hconnecting⟩
  · rw [hdone]
    exact ⟨h.parentId, h.mass, h.numbered, h.filled, k, by rw [children_goOn_of_none rfl]; exact hsent, trivial⟩
  · rw [hrouting]
    refine ⟨h.parentId, h.mass, h.numbered, h.filled, k + 1, ?_, htaken⟩
    rw [children_goOn, if_pos rfl]
    exact hsent.concat hs hchild
  · rw [hconnecting]
    exact ⟨h.parentId, h.mass, h.numbered, h.filled, k, by rw [children_goOn_of_none rfl]; exact hsent, htaken, s, hs, hchild⟩

/-- So does one that has connected. -/
theorem Follows.connected (h : w.Follows id p t) {child : Order} (hconnecting : t.await = .connecting child) :
    (w.goOn id { t with await := .routing child }).Follows id p { t with await := .routing child } := by
  obtain ⟨k, hsent, hstage⟩ := h.sent
  obtain ⟨htaken, s, hs, hchild⟩ : t.taken = k + 1 ∧ ∃ s, t.slices[k]? = some s ∧
      p.childOrder t.orderType t.limitPrice s = .ok child := by
    simpa only [Stage, hconnecting] using hstage
  refine ⟨h.parentId, h.mass, h.numbered, h.filled, k + 1, ?_, htaken⟩
  rw [children_goOn, if_pos rfl]
  exact hsent.concat hs hchild

/-- A task that ends follows its schedule so far. -/
theorem Follows.done (h : w.Follows id p t) (result : Except Exc Unit) :
    (w.goOn id { t with await := .done result }).Follows id p { t with await := .done result } := by
  obtain ⟨k, hsent, -⟩ := h.sent
  exact ⟨h.parentId, h.mass, h.numbered, h.filled, k, by rw [children_goOn_of_none rfl]; exact hsent, trivial⟩

/-- What every fill within the target keeps, the reports of a child keep. -/
theorem recordReports_keeps {P : ParentOrder → Prop}
    (hfill : ∀ (q : ParentOrder) (fill : ChildFillRecord), P q → q.filledQuantity + fill.quantity ≤ q.totalQuantity +
      massConservationTolerance →
      P (q.withFill fill)) (m : SliceMeets) (k : ℕ) (reports : List ExecutionReport) (hp : P p) : P
      (recordReports m k p reports).2 := by
  induction reports generalizing k p with
  | nil => exact hp
  | cons report reports ih =>
    have hnext : ∀ q, P q →
        P (if m.logFails k then ((.error ⟨.queueFull, "", []⟩ : Except Exc Unit), q) else recordReports m (k + 1) q reports).2 :=
          fun q hq => by
      split_ifs
      · exact hq
      · exact ih (k + 1) hq
    rw [recordReports]
    by_cases hqty : 0 < fillQty report
    · simp only [if_pos hqty]
      rcases p.recordChildFill_cases (childFill p.arrivalPrice (m.clockNs k) report) with ⟨exc, herr⟩ | ⟨fill, hfields, hle, hok⟩
      · rw [herr]
        exact hp
      · rw [hok]
        rw [← hfields] at hle
        exact hnext _ (hfill p fill hp hle)
    · simp only [if_neg hqty]
      exact hnext p hp

theorem dispatchSlice_keeps {P : ParentOrder → Prop}
    (hfill : ∀ (q : ParentOrder) (fill : ChildFillRecord), P q → q.filledQuantity + fill.quantity ≤ q.totalQuantity +
      massConservationTolerance →
      P (q.withFill fill)) (m : SliceMeets) (hp : P p) : P (dispatchSlice p m).2 := by
  unfold dispatchSlice
  cases m.routed with
  | error exc => exact hp
  | ok reports => exact recordReports_keeps hfill m 0 reports hp

/-- A dispatch leaves the target alone. -/
theorem dispatchSlice_target (p : ParentOrder) (m : SliceMeets) : (dispatchSlice p m).2.toParentTarget = p.toParentTarget :=
  dispatchSlice_keeps (P := fun q => q.toParentTarget = p.toParentTarget) (fun _ _ hq _ => hq) m rfl

/-- It fills no more than the target. -/
theorem dispatchSlice_filled (m : SliceMeets) (hp : p.filledQuantity ≤ p.totalQuantity + massConservationTolerance) :
    (dispatchSlice p m).2.filledQuantity ≤ (dispatchSlice p m).2.totalQuantity + massConservationTolerance :=
  dispatchSlice_keeps (P := fun q => q.filledQuantity ≤ q.totalQuantity + massConservationTolerance) (fun _ _ _ hle => hle) m hp

/-- A child is of its slice: its name and its quantity. -/
theorem childOrder_ok {ot : OrderType} {limit : Option ℚ} {s : ScheduledSlice} {child : Order}
    (h : p.childOrder ot limit s = .ok child) :
    child.clOrdId = sliceId p.parentId s.sliceIndex ∧ child.quantity = s.quantity := by
  have hfields := OrderFields.create_ok h
  exact ⟨congrArg OrderFields.clOrdId hfields, congrArg OrderFields.quantity hfields⟩

theorem Sent.of_target {cs : List Order} (h : Sent p t cs k) {q : ParentOrder} (hq : q.toParentTarget = p.toParentTarget) :
    Sent q t cs k := by
  refine List.Forall₂.imp (fun child s hchild => ?_) h
  unfold ParentOrder.childOrder at hchild ⊢
  rw [hq]
  exact hchild

/-- The names of the children, in order. -/
theorem Sent.names {cs : List Order} (h : Sent p t cs k) (hnumbered : NumberedFrom 0 t.slices) :
    cs.map (·.clOrdId) = (List.range cs.length).map (sliceId p.parentId) := by
  have hlength := h.length_eq
  have hnumbers : (t.slices.take k).map (·.sliceIndex) = List.range cs.length := by
    rw [List.map_take, hnumbered, hlength, List.length_take, ← List.range_eq_range', List.take_range]
  have hnames : cs.map (·.clOrdId) = (t.slices.take k).map fun s => sliceId p.parentId s.sliceIndex :=
    List.forall₂_eq_eq_eq ▸ List.forall₂_map_left_iff.2
      (List.forall₂_map_right_iff.2 (h.imp fun _ _ hchild => (childOrder_ok hchild).1))
  rw [hnames, ← hnumbers, List.map_map]
  rfl

/-- The quantities of the children are those of the first slices. -/
theorem Sent.quantity_le {cs : List Order} (h : Sent p t cs k) : (cs.map (·.quantity)).sum ≤ scheduledQuantity t.slices := by
  have hquantities : cs.map (·.quantity) = (t.slices.take k).map (·.quantity) :=
    List.forall₂_eq_eq_eq ▸ List.forall₂_map_left_iff.2
      (List.forall₂_map_right_iff.2 (h.imp fun _ _ hchild => (childOrder_ok hchild).2))
  have hrest : 0 ≤ scheduledQuantity (t.slices.drop k) := List.sum_nonneg fun q hq => by
    obtain ⟨s, -, rfl⟩ := List.mem_map.1 hq
    exact s.quantity_pos.le
  calc (cs.map (·.quantity)).sum = scheduledQuantity (t.slices.take k) := by rw [hquantities, scheduledQuantity]
    _ ≤ scheduledQuantity (t.slices.take k) + scheduledQuantity (t.slices.drop k) := le_add_of_nonneg_right hrest
    _ = scheduledQuantity t.slices := by rw [← scheduledQuantity_append, List.take_append_drop]

theorem Follows.of_children {w' : ExecutionDesk} (h : w.Follows id p t) (hchildren : w'.children id = w.children id) :
    w'.Follows id p t :=
  ⟨h.parentId, h.mass, h.numbered, h.filled, hchildren ▸ h.sent⟩

/-- After a child was routed a task goes back to the head of its loop, or ends. -/
theorem Follows.routed (h : w.Follows id p t) {child : Order} (hrouting : t.await = .routing child) (m : SliceMeets)
    (result : Except Exc Unit) :
    w.Follows id (dispatchSlice p m).2 { t with await := afterRoute result } := by
  obtain ⟨k, hsent, hstage⟩ := h.sent
  have htaken : t.taken = k := by simpa only [Stage, hrouting] using hstage
  have htarget := dispatchSlice_target p m
  have htotal : (dispatchSlice p m).2.totalQuantity = p.totalQuantity := congrArg ParentTarget.totalQuantity htarget
  refine ⟨(congrArg ParentTarget.parentId htarget).trans h.parentId, htotal ▸ h.mass, h.numbered,
    dispatchSlice_filled m h.filled, k,
    hsent.of_target htarget, ?_⟩
  unfold afterRoute
  split
  · split_ifs
    · exact htaken
    · trivial
  · exact htaken

end Schedule

/-! ## The whole desk -/

section Desk

variable {M : ScheduleMath} {w : ExecutionDesk}

/-- The identifier a submission makes is not in use yet. -/
def Op.Fresh (w : ExecutionDesk) : Op → Prop
  | .submit c | .submitSync c => w.orders.get? c.orderId = none
  | _ => True

/-- The tasks follow their schedules, and only they dispatch. -/
structure OnSchedule (w : ExecutionDesk) : Prop where
  filled : ∀ id p, w.orders.get? id = some p → p.filledQuantity ≤ p.totalQuantity + massConservationTolerance
  follows : ∀ id t, w.tasks.get? id = some t → ∃ p, w.orders.get? id = some p ∧ w.Follows id p t
  idle : ∀ id, w.tasks.get? id = none → w.children id = []

theorem OnSchedule.start (maxSliceDelaySec : Option ℚ) : OnSchedule { maxSliceDelaySec := maxSliceDelaySec } :=
  ⟨fun _ _ h => (nomatch h), fun _ _ h => (nomatch h), fun _ _ => rfl⟩

/-- One order and its task change, and what they dispatch. -/
theorem OnSchedule.settle (h : w.OnSchedule) {w' : ExecutionDesk} {id : String} {p : ParentOrder} {t : ParentTask}
    (horders : w'.orders = w.orders.set id p) (htasks : w'.tasks = w.tasks.set id t)
    (hothers : ∀ id', id' ≠ id → w'.children id' = w.children id') (hfollows : w'.Follows id p t) : w'.OnSchedule where
  filled id' p' hp' := by
    rw [horders] at hp'
    rcases Dict.get?_set_cases hp' with hp' | ⟨-, rfl⟩
    · exact h.filled id' p' hp'
    · exact hfollows.filled
  follows id' t' ht' := by
    rw [htasks, Dict.get?_set] at ht'
    rw [horders]
    split_ifs at ht' with hid
    · obtain rfl := Option.some.inj ht'
      exact ⟨p, hid ▸ Dict.get?_set_self _ _ _, hid ▸ hfollows⟩
    · obtain ⟨p', hp', hfollows'⟩ := h.follows id' t' ht'
      exact ⟨p', by rw [Dict.get?_set_of_ne _ _ hid, hp'], hfollows'.of_children (hothers id' hid)⟩
  idle id' ht' := by
    rw [htasks, Dict.get?_set] at ht'
    split_ifs at ht' with hid
    rw [hothers id' hid]
    exact h.idle id' ht'

/-- A task goes on. -/
theorem OnSchedule.goOn (h : w.OnSchedule) {id : String} {p : ParentOrder} {t : ParentTask} (hp : w.orders.get? id = some p)
    (hfollows : (w.goOn id t).Follows id p t) : (w.goOn id t).OnSchedule :=
  h.settle (Dict.set_of_get?_some hp).symm rfl (fun _ hid => children_goOn_of_ne hid) hfollows

theorem OnSchedule.resume (h : w.OnSchedule) {id : String} {p : ParentOrder} {t : ParentTask} (hp : w.orders.get? id = some p)
    (ht : w.tasks.get? id = some t) (e : TaskEvent) : (w.resume id p t e).OnSchedule := by
  obtain ⟨p', hp', hfollows⟩ := h.follows id t ht
  obtain rfl := Option.some.inj (hp.symm.trans hp')
  unfold ExecutionDesk.resume
  split
  · exact h.goOn hp (hfollows.head ‹_› _ _ _)
  · exact h.goOn hp (hfollows.done _)
  · exact h.goOn hp (hfollows.wake ‹_› _ _)
  · exact h.goOn hp (hfollows.done _)
  · exact h.goOn hp (hfollows.connected ‹_›)
  · exact h.settle rfl rfl (fun _ _ => rfl) ((hfollows.routed ‹_› _ _).of_children rfl)
  · exact h

/-- What is planned for a call. -/
theorem plan_ok {c : SubmitCall} {slices : List ScheduledSlice} {p : ParentOrder} (h : plan M c = .ok (slices, p)) :
    generateSlices M c.request c.t0Ns = .ok slices ∧ p.parentId = c.orderId ∧ p.totalQuantity = c.request.quantity ∧
    p.filledQuantity = 0 := by
  obtain ⟨slices', hslices, h⟩ := exists_of_bind_ok h
  obtain ⟨p', hp, h⟩ := exists_of_bind_ok h
  cases h
  refine ⟨hslices, ?_⟩
  unfold ParentOrderFields.create at hp
  iterate 7 obtain ⟨_, hp⟩ := of_check_ok hp
  rw [← Except.ok.inj hp]
  exact ⟨c.orderId_strip, rfl, rfl⟩

theorem OnSchedule.accept (h : w.OnSchedule) {c : SubmitCall} (hfresh : w.orders.get? c.orderId = none)
    {slices : List ScheduledSlice}
    {p : ParentOrder} (hplan : plan M c = .ok (slices, p)) : (w.accept c slices p).OnSchedule := by
  obtain ⟨hslices, hid, htotal, hfilled⟩ := plan_ok hplan
  have hle : p.filledQuantity ≤ p.totalQuantity + massConservationTolerance := by
    rw [hfilled]
    exact add_nonneg p.totalQuantity_pos.le massConservationTolerance_pos.le
  have hnone : w.tasks.get? c.orderId = none := by
    cases ht : w.tasks.get? c.orderId with
    | none => rfl
    | some t =>
      obtain ⟨p', hp', -⟩ := h.follows _ _ ht
      rw [hfresh] at hp'
      cases hp'
  cases hrunning : c.running with
  | true =>
    have htasks : (w.accept c slices p).tasks = w.tasks.set c.orderId ⟨slices, c.request.orderType, c.request.price,
        0, .atTop⟩ := by
      simp only [ExecutionDesk.accept, hrunning, if_true]
    refine h.settle (p := p) rfl htasks (fun _ _ => rfl) ?_
    refine ⟨hid, htotal ▸ generateSlices_le hslices, numbered_generateSlices hslices, hle, 0, ?_, rfl⟩
    rw [show (w.accept c slices p).children c.orderId = w.children c.orderId from rfl, h.idle _ hnone]
    exact .nil
  | false =>
    have htasks : (w.accept c slices p).tasks = w.tasks := by simp [ExecutionDesk.accept, hrunning]
    refine ⟨fun id q hq => ?_, fun id t ht => ?_, fun id ht => h.idle id (htasks ▸ ht)⟩
    · rcases Dict.get?_set_cases hq with hq | ⟨-, rfl⟩
      · exact h.filled id q hq
      · exact hle
    · obtain ⟨q, hq, hfollows⟩ := h.follows id t (htasks ▸ ht)
      have hne : id ≠ c.orderId := fun heq => by
        rw [heq, hfresh] at hq
        cases hq
      exact ⟨q, (Dict.get?_set_of_ne _ _ hne).trans hq, hfollows.of_children rfl⟩

theorem OnSchedule.submitParentOrderSync (h : w.OnSchedule) {c : SubmitCall} (hfresh : w.orders.get? c.orderId = none) :
    (w.submitParentOrderSync M c).2.OnSchedule := by
  unfold ExecutionDesk.submitParentOrderSync
  cases hplan : plan M c with
  | error exc => exact h
  | ok planned => exact h.accept (M := M) (c := { c with running := true }) hfresh hplan

theorem OnSchedule.submitParentOrder (h : w.OnSchedule) {c : SubmitCall} (hfresh : w.orders.get? c.orderId = none) :
    (w.submitParentOrder M c).2.OnSchedule := by
  unfold ExecutionDesk.submitParentOrder
  split_ifs
  · exact h
  · cases hplan : plan M c with
    | error exc => exact h
    | ok planned => exact h.accept hfresh hplan

theorem cancelOrder_cases (w : ExecutionDesk) (id : String) :
    w.cancelOrder id = (false, w) ∨ w.cancelOrder id = (true, { w with cancelledOrders := id :: w.cancelledOrders }) := by
  unfold cancelOrder
  split
  · exact .inl rfl
  · split_ifs
    · exact .inl rfl
    · exact .inr rfl

theorem OnSchedule.step (h : w.OnSchedule) {op : Op} (hop : op.Fresh w) : (w.step M op).OnSchedule := by
  cases op with
  | submit c => exact h.submitParentOrder hop
  | submitSync c => exact h.submitParentOrderSync hop
  | cancel id =>
    change (w.cancelOrder id).2.OnSchedule
    rcases cancelOrder_cases w id with heq | heq <;> rw [heq]
    · exact h
    · exact ⟨h.filled, fun id' t ht => (h.follows id' t ht).imp fun _ hp => ⟨hp.1, hp.2.of_children rfl⟩, h.idle⟩
  | setKillSwitch active =>
    exact ⟨h.filled, fun id t ht => (h.follows id t ht).imp fun _ hp => ⟨hp.1, hp.2.of_children rfl⟩, h.idle⟩
  | task id e =>
    unfold ExecutionDesk.step
    dsimp only
    split
    · exact h.resume ‹_› ‹_› e
    · exact h

theorem OnSchedule.of_run (h : w.OnSchedule) {w' : ExecutionDesk} (hrun : Run (stepOf (ExecutionDesk.step M)) Op.Fresh w w') :
    w'.OnSchedule :=
  hrun.invariant (I := OnSchedule) (fun t op u ht hop (hu : u = ExecutionDesk.step M t op) => hu ▸ ht.step hop) h

/-- The functions of a desk that only takes market orders. -/
def marketMath : ScheduleMath where
  random := fun _ _ _ _ => 0
  impact := ⟨fun _ => 0, fun _ => 1, fun _ => 0⟩

/-- An order of a hundred at the market. -/
def marketCall : SubmitCall where
  request :=
    { symbol := "BTC-USD"
      side := .buy
      orderType := .market
      quantity := 100
      algorithm := .directMarket
      quantity_pos := Literal.hundred_pos
      price_pos := Literal.none_pos
      horizonSeconds_mem := by norm_num
      numSlices_mem := by norm_num }
  orderId := "PARENT-1"
  t0Ns := 0
  orderId_strip := by decide

/-- The desk where its child is being connected for. -/
def connectingDesk : ExecutionDesk :=
  (({} : ExecutionDesk).step marketMath (.submit marketCall)).step marketMath (.task "PARENT-1" (.run 0 0 false))

instance (w : ExecutionDesk) : DecidablePred (Op.Fresh w)
  | .submit _ | .submitSync _ => inferInstanceAs (Decidable (_ = none))
  | .cancel _ | .setKillSwitch _ | .task _ _ => isTrue trivial

/-- An order of a hundred in two slices of fifty, half a minute apart. -/
def slicedCall (orderId : String) (h : strip orderId = orderId) : SubmitCall where
  request :=
    { symbol := "AAPL"
      side := .buy
      orderType := .market
      quantity := 100
      algorithm := .volumeAdaptiveVwap
      numSlices := 2
      quantity_pos := Literal.hundred_pos
      price_pos := Literal.none_pos
      horizonSeconds_mem := by norm_num
      numSlices_mem := by norm_num }
  orderId := orderId
  t0Ns := 0
  orderId_strip := h

/-- A report that fifty were filled. -/
def fiftyFilled : SliceMeets :=
  { routed := .ok [reportAtHundred .buy .filled 50 Literal.fifty_pos.le]
    executedNow := 50 }

/-- Two orders of two slices each are worked off in turn; the second slice of the first one sleeps, and the dispatch of a slice
fails. -/
def bookOps : List Op :=
  [.submit (slicedCall "PARENT-1" (by decide)), .submit (slicedCall "PARENT-2" (by decide)), .task "PARENT-1" (.run 0 0 false),
    .task "PARENT-2" (.run 0 0 true), .task "PARENT-1" (.connected (.ok ())), .task "PARENT-2" (.routed fiftyFilled),
    .task "PARENT-1" (.routed fiftyFilled), .task "PARENT-1" (.run 0 0 true),
    .task "PARENT-2" (.run 30000000000 30000000000 true), .task "PARENT-1" (.slept (.ok ()) 30000000000 true),
    .task "PARENT-2" (.routed { routed := .error ⟨.runtimeError, "", []⟩ }), .task "PARENT-1" (.routed fiftyFilled)]

/-- The desk where both have been worked off. -/
def workedDesk : ExecutionDesk := bookOps.foldl (ExecutionDesk.step marketMath) {}

theorem run_workedDesk : Run (stepOf (ExecutionDesk.step marketMath)) Op.Fresh {} workedDesk :=
  Run.of_foldl bookOps (by decide +kernel)

theorem workedDesk_books :
    (workedDesk.dispatched.map fun entry => entry.2.clOrdId) =
        [sliceId "PARENT-2" 0, sliceId "PARENT-1" 0, sliceId "PARENT-2" 1, sliceId "PARENT-1" 1] ∧
      (workedDesk.orders.get? "PARENT-1").map (·.filledQuantity) = some 100 ∧
      (workedDesk.orders.get? "PARENT-2").map (·.filledQuantity) = some 50 := by
  decide +kernel

/-- The names of the children of an order, in order: no number is left out, and none comes twice. -/
theorem OnSchedule.names (h : w.OnSchedule) (id : String) :
    (w.children id).map (·.clOrdId) = (List.range (w.children id).length).map (sliceId id) := by
  cases ht : w.tasks.get? id with
  | none =>
    rw [h.idle id ht]
    rfl
  | some t =>
    obtain ⟨p, -, hfollows⟩ := h.follows id t ht
    obtain ⟨k, hsent, -⟩ := hfollows.sent
    rw [hsent.names hfollows.numbered, hfollows.parentId]

/-- No name is dispatched twice, for one order or for two. -/
theorem OnSchedule.nodup (h : w.OnSchedule) : (w.dispatched.map fun entry => entry.2.clOrdId).Nodup := by
  have hname : ∀ entry ∈ w.dispatched, ∃ i, entry.2.clOrdId = sliceId entry.1 i := fun entry hentry => by
    have hmem : entry.2.clOrdId ∈ (w.children entry.1).map (·.clOrdId) :=
      List.mem_map.2 ⟨entry.2, List.mem_map.2 ⟨entry, List.mem_filter.2 ⟨hentry, by simp⟩, rfl⟩, rfl⟩
    rw [h.names] at hmem
    obtain ⟨i, -, hi⟩ := List.mem_map.1 hmem
    exact ⟨i, hi.symm⟩
  refine nodup_map_of_keys w.dispatched (fun x hx y hy hxy => ?_) fun id => ?_
  · obtain ⟨i, hi⟩ := hname x hx
    obtain ⟨j, hj⟩ := hname y hy
    exact (sliceId_inj (hi.symm.trans (hxy.trans hj))).1
  · have hmap : (w.dispatched.filter (·.1 = id)).map (fun entry => entry.2.clOrdId) = (w.children id).map (·.clOrdId) := by
      rw [children, List.map_map]
      rfl
    rw [hmap, h.names id]
    exact List.nodup_range.map fun _ _ hij => (sliceId_inj hij).2

/-- Over every run the children of an order are named after its first slices, in order and each once, and no name is dispatched
twice. -/
theorem numbered_of_run {maxSliceDelaySec : Option ℚ}
    (hrun : Run (stepOf (ExecutionDesk.step M)) Op.Fresh { maxSliceDelaySec := maxSliceDelaySec } w) :
    (∀ id, (w.children id).map (·.clOrdId) = (List.range (w.children id).length).map (sliceId id)) ∧
      (w.dispatched.map fun entry => entry.2.clOrdId).Nodup :=
  have h := (OnSchedule.start maxSliceDelaySec).of_run hrun
  ⟨h.names, h.nodup⟩

theorem numbered_of_run_sliced :
    (workedDesk.dispatched.map fun entry => entry.2.clOrdId) =
        [sliceId "PARENT-2" 0, sliceId "PARENT-1" 0, sliceId "PARENT-2" 1, sliceId "PARENT-1" 1] ∧
      (∀ id, (workedDesk.children id).map (·.clOrdId) = (List.range (workedDesk.children id).length).map (sliceId id)) ∧
      (workedDesk.dispatched.map fun entry => entry.2.clOrdId).Nodup :=
  ⟨workedDesk_books.1, numbered_of_run run_workedDesk⟩

/-- Over every run the children of an order come to no more than was asked for, and so do its fills. -/
theorem within_of_run {maxSliceDelaySec : Option ℚ}
    (hrun : Run (stepOf (ExecutionDesk.step M)) Op.Fresh { maxSliceDelaySec := maxSliceDelaySec } w) {id : String}
    {p : ParentOrder}
    (hp : w.orders.get? id = some p) :
    ((w.children id).map (·.quantity)).sum ≤ p.totalQuantity + massConservationTolerance ∧
      p.filledQuantity ≤ p.totalQuantity + massConservationTolerance := by
  have h := (OnSchedule.start maxSliceDelaySec).of_run hrun
  refine ⟨?_, h.filled id p hp⟩
  cases ht : w.tasks.get? id with
  | none =>
    rw [h.idle id ht]
    exact add_nonneg p.totalQuantity_pos.le massConservationTolerance_pos.le
  | some t =>
    obtain ⟨p', hp', hfollows⟩ := h.follows id t ht
    obtain rfl := Option.some.inj (hp.symm.trans hp')
    obtain ⟨k, hsent, -⟩ := hfollows.sent
    have hmass := (abs_le.1 hfollows.mass).2
    linarith [hsent.quantity_le]

/-- All of the first order is filled, and half of the second. -/
theorem within_of_run_sliced : ∃ p q, workedDesk.orders.get? "PARENT-1" = some p ∧ workedDesk.orders.get? "PARENT-2" = some q ∧
    (p.filledQuantity = 100 ∧ ((workedDesk.children "PARENT-1").map (·.quantity)).sum ≤ p.totalQuantity +
      massConservationTolerance ∧
      p.filledQuantity ≤ p.totalQuantity + massConservationTolerance) ∧
    (q.filledQuantity = 50 ∧ ((workedDesk.children "PARENT-2").map (·.quantity)).sum ≤ q.totalQuantity +
      massConservationTolerance ∧
      q.filledQuantity ≤ q.totalQuantity + massConservationTolerance) := by
  obtain ⟨-, hfilled, hhalf⟩ := workedDesk_books
  obtain ⟨p, hp, hpq⟩ := Option.map_eq_some_iff.1 hfilled
  obtain ⟨q, hq, hqq⟩ := Option.map_eq_some_iff.1 hhalf
  exact ⟨p, q, hp, hq, ⟨hpq, within_of_run run_workedDesk hp⟩, hqq, within_of_run run_workedDesk hq⟩

end Desk

/-! ## Stopping -/

section Stops

variable {M : ScheduleMath} {w w' : ExecutionDesk} {id : String}

/-- The child an order is connecting for. -/
def connecting (w : ExecutionDesk) (id : String) : Option Order := (w.tasks.get? id).bind fun t => t.await.pending

/-- The children of an order, and the one it is connecting for. -/
def committed (w : ExecutionDesk) (id : String) : List Order := w.children id ++ (w.connecting id).toList

/-- An order whose flags are up, if it is there. -/
def Halted (w : ExecutionDesk) (id : String) : Prop := ∀ p, w.orders.get? id = some p → w.stopped p = true

/-- Children are only ever added. -/
theorem children_prefix (h : w.dispatched <+: w'.dispatched) (id : String) : w.children id <+: w'.children id :=
  (h.filter _).map _

theorem dispatched_goOn (w : ExecutionDesk) (id : String) (t : ParentTask) : w.dispatched <+: (w.goOn id t).dispatched := by
  unfold goOn
  cases t.await <;> simp

theorem dispatched_resume (w : ExecutionDesk) (id : String) (p : ParentOrder) (t : ParentTask) (e : TaskEvent) :
    w.dispatched <+: (w.resume id p t e).dispatched := by
  unfold resume
  split <;> first | exact dispatched_goOn w id _ | exact List.prefix_rfl

/-- Nothing is dispatched, and no task goes on; at most one is made. -/
def Waits (w w' : ExecutionDesk) : Prop :=
  w'.dispatched = w.dispatched ∧ (w'.tasks = w.tasks ∨ ∃ id, ∃ t : ParentTask, t.await = .atTop ∧ w'.tasks = w.tasks.set id t)

theorem waits_refl (w : ExecutionDesk) : w.Waits w := ⟨rfl, .inl rfl⟩

theorem waits_accept (w : ExecutionDesk) (c : SubmitCall) (slices : List ScheduledSlice) (p : ParentOrder) :
    w.Waits (w.accept c slices p) := by
  refine ⟨rfl, ?_⟩
  unfold accept
  split_ifs
  · exact .inr ⟨_, _, rfl, rfl⟩
  · exact .inl rfl

theorem waits_submitParentOrderSync (w : ExecutionDesk) (c : SubmitCall) : w.Waits (w.submitParentOrderSync M c).2 := by
  unfold submitParentOrderSync
  cases plan M c with
  | error exc => exact waits_refl w
  | ok planned => exact waits_accept w { c with running := true } planned.1 planned.2

theorem waits_submitParentOrder (w : ExecutionDesk) (c : SubmitCall) : w.Waits (w.submitParentOrder M c).2 := by
  unfold submitParentOrder
  split_ifs
  · exact waits_refl w
  · cases plan M c with
    | error exc => exact waits_refl w
    | ok planned => exact waits_accept w c planned.1 planned.2

/-- What a step does: a task goes on, or everything waits. -/
theorem step_cases (w : ExecutionDesk) (op : Op) :
    w.Waits (w.step M op) ∨
      ∃ id p t e, w.orders.get? id = some p ∧ w.tasks.get? id = some t ∧ w.step M op = w.resume id p t e := by
  cases op with
  | submit c => exact .inl (waits_submitParentOrder w c)
  | submitSync c => exact .inl (waits_submitParentOrderSync w c)
  | cancel id =>
    left
    change w.Waits (w.cancelOrder id).2
    rcases cancelOrder_cases w id with heq | heq <;> rw [heq] <;> exact ⟨rfl, .inl rfl⟩
  | setKillSwitch active => exact .inl ⟨rfl, .inl rfl⟩
  | task id e =>
    cases hp : w.orders.get? id with
    | none => exact .inl (by simp only [step, hp]; exact waits_refl w)
    | some p =>
      cases ht : w.tasks.get? id with
      | none => exact .inl (by simp only [step, hp, ht]; exact waits_refl w)
      | some t => exact .inr ⟨id, p, t, e, hp, ht, by simp only [step, hp, ht]⟩

theorem children_step (w : ExecutionDesk) (op : Op) (id : String) : w.children id <+: (w.step M op).children id := by
  refine children_prefix ?_ id
  rcases step_cases (M := M) w op with ⟨hdispatched, -⟩ | ⟨id', p, t, e, -, -, hstep⟩
  · rw [hdispatched]
  · rw [hstep]
    exact dispatched_resume w id' p t e

theorem connecting_goOn (id id' : String) (t : ParentTask) :
    (w.goOn id t).connecting id' = if id' = id then t.await.pending else w.connecting id' := by
  unfold connecting goOn
  rw [Dict.get?_set]
  split_ifs <;> rfl

theorem committed_goOn_of_ne {id' : String} (h : id ≠ id') (t : ParentTask) : (w.goOn id' t).committed id = w.committed id := by
  rw [committed, children_goOn_of_ne h, connecting_goOn, if_neg h, committed]

/-- What connects for nothing commits to nothing new. -/
theorem committed_prefix (hchildren : w'.children id = w.children id) (hnone : w'.connecting id = none) :
    w'.committed id <+: w.committed id := by
  rw [committed, hchildren, hnone]
  exact (List.append_nil (w.children id)).symm ▸ List.prefix_append _ _

theorem committed_done (w : ExecutionDesk) (id : String) {t : ParentTask} {result : Except Exc Unit}
    (h : t.await = .done result) :
    (w.goOn id t).committed id <+: w.committed id :=
  committed_prefix (children_goOn_of_none (by rw [h]; rfl)) (by rw [connecting_goOn, if_pos rfl, h]; rfl)

theorem Waits.committed (h : w.Waits w') (id : String) : w'.committed id <+: w.committed id := by
  obtain ⟨hdispatched, htasks⟩ := h
  have hchildren : w'.children id = w.children id := by rw [children, hdispatched, children]
  have hsame : w'.connecting id = w.connecting id → w'.committed id <+: w.committed id := fun hconnecting => by
    rw [ExecutionDesk.committed, hchildren, hconnecting, ExecutionDesk.committed]
  rcases htasks with htasks | ⟨id', t, htop, htasks⟩
  · exact hsame (by rw [connecting, htasks, connecting])
  · by_cases hid : id = id'
    · refine committed_prefix hchildren ?_
      rw [connecting, htasks, hid, Dict.get?_set_self, Option.bind_some, htop]
      rfl
    · exact hsame (by rw [connecting, htasks, Dict.get?_set_of_ne _ _ hid, connecting])

/-- Where its flags are up a task goes nowhere but to the child it is connecting for. -/
theorem committed_resume (h : w.Halted id) {p : ParentOrder} {t : ParentTask} (hp : w.orders.get? id = some p)
    (ht : w.tasks.get? id = some t)
    (e : TaskEvent) : (w.resume id p t e).committed id <+: w.committed id := by
  have hstopped := h p hp
  have hconnecting : w.connecting id = t.await.pending := by rw [connecting, ht, Option.bind_some]
  unfold resume
  split
  · rename_i nowNs horizonNs connected htop
    rcases head_cases w p t nowNs horizonNs connected with ⟨result, hdone⟩ | ⟨s, -, hfree, -⟩
    · exact committed_done w id (by rw [hdone])
    · rw [hstopped] at hfree
      cases hfree
  · exact committed_done w id rfl
  · rename_i s horizonNs connected hsleep
    rcases wake_cases w p t s horizonNs connected with ⟨result, hdone⟩ | ⟨child, -, hfree, -⟩
    · exact committed_done w id hdone
    · rw [hstopped] at hfree
      cases hfree
  · exact committed_done w id rfl
  · rename_i child hawait
    rw [committed, children_goOn, if_pos rfl, connecting_goOn, if_pos rfl, committed, hconnecting, hawait]
    simp [SliceAwait.child, SliceAwait.pending]
  · rename_i child m hawait
    refine committed_prefix rfl ?_
    rw [connecting, Dict.get?_set_self, Option.bind_some]
    unfold afterRoute
    split
    · split_ifs <;> rfl
    · rfl
  · exact List.prefix_rfl

theorem committed_resume_of_ne {id' : String} (hid : id ≠ id') (w : ExecutionDesk) (p : ParentOrder) (t : ParentTask)
    (e : TaskEvent) :
    (w.resume id' p t e).committed id = w.committed id := by
  unfold resume
  split
  · exact committed_goOn_of_ne hid _
  · exact committed_goOn_of_ne hid _
  · exact committed_goOn_of_ne hid _
  · exact committed_goOn_of_ne hid _
  · exact committed_goOn_of_ne hid _
  · rw [committed, connecting, Dict.get?_set_of_ne _ _ hid]
    rfl
  · rfl

/-- One step of anything, where the flags of an order are up. -/
theorem committed_step (h : w.Halted id) (op : Op) : (w.step M op).committed id <+: w.committed id := by
  rcases step_cases (M := M) w op with hwaits | ⟨id', p, t, e, hp, ht, hstep⟩
  · exact hwaits.committed id
  · rw [hstep]
    by_cases hid : id = id'
    · subst hid
      exact committed_resume h hp ht e
    · rw [committed_resume_of_ne hid]

/-- While the flags of an order stay up its children grow to those it was committed to at most. -/
theorem children_of_halted {cond : ExecutionDesk → Op → Prop} {I : ExecutionDesk → Prop} (hI : I w)
    (hhalted : ∀ w, I w → w.Halted id)
    (hstep : ∀ w op, I w → cond w op → I (w.step M op)) (hrun : Run (stepOf (step M)) cond w w') :
    w.children id <+: w'.children id ∧ w'.children id <+: w.committed id := by
  have hinv : I w' ∧ w.children id <+: w'.children id ∧ w'.committed id <+: w.committed id := by
    refine hrun.invariant (I := fun u => I u ∧ w.children id <+: u.children id ∧ u.committed id <+: w.committed id) ?_
      ⟨hI, List.prefix_rfl, List.prefix_rfl⟩
    rintro t op u ⟨ht, hchildren, hcommitted⟩ hcond (hu : u = t.step M op)
    rw [hu]
    exact ⟨hstep t op ht hcond, hchildren.trans (children_step t op id), (committed_step (hhalted t ht) op).trans hcommitted⟩
  exact ⟨hinv.2.1, (List.prefix_append _ _).trans hinv.2.2⟩

/-- Every order is kept under its own name. -/
def Keyed (w : ExecutionDesk) : Prop := ∀ id p, w.orders.get? id = some p → p.parentId = id

theorem Keyed.set (h : w.Keyed) {id : String} {p : ParentOrder} (hp : p.parentId = id)
    (horders : w'.orders = w.orders.set id p) : w'.Keyed := by
  intro id' p' hp'
  rw [horders] at hp'
  rcases Dict.get?_set_cases hp' with hp' | ⟨rfl, rfl⟩
  · exact h id' p' hp'
  · exact hp

theorem Keyed.step (h : w.Keyed) (op : Op) : (w.step M op).Keyed := by
  have hplan : ∀ {c : SubmitCall} {planned}, plan M c = .ok planned → (w.accept c planned.1 planned.2).Keyed := fun hplan =>
    h.set (plan_ok hplan).2.1 rfl
  cases op with
  | submit c =>
    change (w.submitParentOrder M c).2.Keyed
    unfold submitParentOrder
    cases heq : plan M c with
    | error exc => split_ifs <;> exact h
    | ok planned =>
      split_ifs
      · exact h
      · exact hplan heq
  | submitSync c =>
    change (w.submitParentOrderSync M c).2.Keyed
    unfold submitParentOrderSync
    cases heq : plan M c with
    | error exc => exact h
    | ok planned => exact hplan (c := { c with running := true }) heq
  | cancel id =>
    change (w.cancelOrder id).2.Keyed
    rcases cancelOrder_cases w id with heq | heq <;> rw [heq] <;> exact h
  | setKillSwitch active => exact h
  | task id e =>
    cases hp : w.orders.get? id with
    | none => simpa only [ExecutionDesk.step, hp] using h
    | some p =>
      cases ht : w.tasks.get? id with
      | none => simpa only [ExecutionDesk.step, hp, ht] using h
      | some t =>
        simp only [ExecutionDesk.step, hp, ht]
        unfold resume
        split <;> try exact h
        exact h.set ((congrArg ParentTarget.parentId (dispatchSlice_target p _)).trans (h id p hp)) rfl

/-- A task, or a submission, leaves the flags alone. -/
theorem flags_step (w : ExecutionDesk) {op : Op} (hcancel : ∀ id, op ≠ .cancel id)
    (hswitch : ∀ active, op ≠ .setKillSwitch active) :
    (w.step M op).cancelledOrders = w.cancelledOrders ∧ (w.step M op).killSwitchActive = w.killSwitchActive := by
  cases op with
  | submit c =>
    simp only [ExecutionDesk.step, submitParentOrder]
    cases plan M c <;> split_ifs <;> exact ⟨rfl, rfl⟩
  | submitSync c =>
    simp only [ExecutionDesk.step, submitParentOrderSync]
    cases plan M c <;> exact ⟨rfl, rfl⟩
  | cancel id => exact absurd rfl (hcancel id)
  | setKillSwitch active => exact absurd rfl (hswitch active)
  | task id e =>
    cases hp : w.orders.get? id with
    | none => simp only [ExecutionDesk.step, hp, and_self]
    | some p =>
      cases ht : w.tasks.get? id with
      | none => simp only [ExecutionDesk.step, hp, ht, and_self]
      | some t =>
        simp only [ExecutionDesk.step, hp, ht]
        unfold resume
        split <;> exact ⟨rfl, rfl⟩

/-- A cancellation is never taken back. -/
theorem cancelled_step (h : id ∈ w.cancelledOrders) (op : Op) : id ∈ (w.step M op).cancelledOrders := by
  cases op with
  | cancel id' =>
    change id ∈ (w.cancelOrder id').2.cancelledOrders
    rcases cancelOrder_cases w id' with heq | heq <;> rw [heq]
    · exact h
    · exact .tail _ h
  | setKillSwitch active => exact h
  | submit c | submitSync c | task id' e => rwa [(flags_step w (by simp) (by simp)).1]

theorem killSwitch_step (h : w.killSwitchActive = true) {op : Op} (hop : op ≠ .setKillSwitch false) :
    (w.step M op).killSwitchActive = true := by
  cases op with
  | cancel id' =>
    change (w.cancelOrder id').2.killSwitchActive = true
    rcases cancelOrder_cases w id' with heq | heq <;> rw [heq] <;> exact h
  | setKillSwitch active =>
    cases active with
    | false => exact absurd rfl hop
    | true => rfl
  | submit c | submitSync c | task id' e => rwa [(flags_step w (by simp) (by simp)).2]

theorem halted_of_cancelled (h : w.Keyed) (hcancelled : id ∈ w.cancelledOrders) : w.Halted id := by
  intro p hp
  unfold stopped
  rw [h id p hp, List.contains_iff_mem.2 hcancelled, Bool.true_or]

theorem halted_of_killSwitch (h : w.killSwitchActive = true) (id : String) : w.Halted id := by
  intro p _
  rw [stopped, h, Bool.or_true]

/-- An order that was cancelled dispatches no more than the child it was connecting for, whatever follows. -/
theorem children_of_cancelled {maxSliceDelaySec : Option ℚ}
    (hrun : Run (stepOf (step M)) (fun _ _ => True) { maxSliceDelaySec := maxSliceDelaySec } w)
    (hcancelled : id ∈ w.cancelledOrders)
    (hrun' : Run (stepOf (step M)) (fun _ _ => True) w w') :
    w.children id <+: w'.children id ∧ w'.children id <+: w.children id ++ (w.connecting id).toList := by
  have hkeyed : w.Keyed := hrun.invariant (I := Keyed) (fun t op u ht _ (hu : u = t.step M op) => hu ▸ ht.step op)
    fun _ _ h => nomatch h
  exact children_of_halted (I := fun u => u.Keyed ∧ id ∈ u.cancelledOrders) ⟨hkeyed, hcancelled⟩
    (fun u hu => halted_of_cancelled hu.1 hu.2)
    (fun u op hu _ => ⟨hu.1.step op, cancelled_step hu.2 op⟩) hrun'

/-- The child that was being connected for is dispatched after all. -/
theorem children_of_cancelled_market :
    ((connectingDesk.step marketMath (.cancel "PARENT-1")).connecting "PARENT-1").isSome = true ∧
      ((connectingDesk.step marketMath (.cancel "PARENT-1")).step marketMath (.task "PARENT-1" (.connected (.ok ())))).children
      "PARENT-1" <+:
        (connectingDesk.step marketMath (.cancel "PARENT-1")).children "PARENT-1" ++
          ((connectingDesk.step marketMath (.cancel "PARENT-1")).connecting "PARENT-1").toList :=
  have hrun : Run (stepOf (step marketMath)) (fun _ _ => True) { maxSliceDelaySec := none }
    (connectingDesk.step marketMath (.cancel "PARENT-1")) :=
    ((Run.refl.tail trivial rfl).tail trivial rfl).tail trivial rfl
  ⟨by decide +kernel, (children_of_cancelled hrun (by decide +kernel) (Run.refl.tail trivial rfl)).2⟩

/-- While the kill switch is active no order dispatches more than the child it was connecting for. -/
theorem children_of_killSwitch (hactive : w.killSwitchActive = true)
    (hrun : Run (stepOf (step M)) (fun _ op => op ≠ .setKillSwitch false) w w') (id : String) :
    w.children id <+: w'.children id ∧ w'.children id <+: w.children id ++ (w.connecting id).toList :=
  children_of_halted (I := fun u => u.killSwitchActive = true) hactive (fun _ hu => halted_of_killSwitch hu id)
    (fun _ _ hu hop => killSwitch_step hu hop) hrun

theorem children_of_killSwitch_market :
    ((connectingDesk.step marketMath (.setKillSwitch true)).step marketMath (.task "PARENT-1" (.connected (.ok ())))).children
    "PARENT-1" <+:
      (connectingDesk.step marketMath (.setKillSwitch true)).children "PARENT-1" ++
        ((connectingDesk.step marketMath (.setKillSwitch true)).connecting "PARENT-1").toList :=
  (children_of_killSwitch rfl (Run.refl.tail (by simp) rfl) "PARENT-1").2

end Stops

/-! ## Pages -/

/-- The orders a listing looks for, the newest first. -/
def matching (w : ExecutionDesk) (symbol : Option String) (isClosed : Option Bool) : List ParentOrder :=
  w.orders.values.reverse.filter fun order => symbol.all (· = order.symbol) ∧ isClosed.all (· = order.isCompleted)

/-- The pages of a listing, one after the other, are what it looks for: no order is left out or comes on two pages. -/
theorem flatMap_listOrders (w : ExecutionDesk) (symbol : Option String) (isClosed : Option Bool) {limit : ℕ} (hpos : 1 ≤ limit)
    (hle : limit ≤ 500)
    (pages : ℕ) :
    (List.range pages).flatMap (fun page => w.listOrders symbol isClosed limit (page * limit : ℕ)) =
      (w.matching symbol isClosed).take (pages * limit) := by
  have hlimit : (max 1 (min 500 (limit : ℤ))).toNat = limit := by omega
  have hoffset : ∀ page : ℕ, (max 0 ((page * limit : ℕ) : ℤ)).toNat = page * limit := fun page => by omega
  have hpage : ∀ page : ℕ, w.listOrders symbol isClosed limit (page * limit : ℕ) =
      ((w.matching symbol isClosed).drop (page * limit)).take limit :=
    fun page => by
      simp only [listOrders, hlimit, hoffset]
      rfl
  induction pages with
  | zero => simp
  | succ pages ih =>
    rw [List.range_succ, List.flatMap_append, ih, List.flatMap_singleton, hpage, ← List.take_add, Nat.succ_mul]

end ExecutionDesk

end Quant
