import Quant.Lemmas.Waterfill
import Quant.Theorems.SliceMass

/-!
# The lit waterfilling is the cheapest one

The lit phase of `compute_routing_allocation` over every set of venues, each under its own identifier, every health, quote and
quantity. Depth up to the tolerance does not count: a venue with so little is passed over, and without any other depth the phase
raises however small the quantity is.
-/

namespace Quant

open Pylib

namespace SmartOrderRouter

variable {r : SmartOrderRouter} {a : Slice} {orders : Dict String RoutedVenueOrder} {rem : ℚ}

/-! ## The allocation of the venues -/

/-- A venue without usable depth gets nothing. -/
theorem Poured.get?_of_unusable (hkeys : r.OwnKeys) (h : Poured (ranked (r.candidates a)) ∅ a.quantity orders rem)
    {v : VenueProfile} (hv : v ∈ r.litVenues) (hu : r.usableDepth a v = none) : orders.get? v.venueId = none := by
  refine (h.others v.venueId fun c hc he => ?_).trans (Dict.get?_empty _)
  obtain ⟨hc, hd⟩ := mem_candidates.1 ((ranked_perm _).mem_iff.1 hc)
  have hcv : c.1 = v := List.inj_on_of_nodup_map hkeys.nodup hc hv he
  rw [hcv, hu] at hd
  cases hd

/-- What the venues get together is what was poured. -/
theorem Poured.allocated (hkeys : r.OwnKeys) (h : Poured (ranked (r.candidates a)) ∅ a.quantity orders rem) :
    r.allocated (quantityAt orders) = poured (ranked (r.candidates a)) orders := by
  rw [poured, ((ranked_perm (r.candidates a)).map _).sum_eq, sum_candidates, SmartOrderRouter.allocated]
  refine congrArg List.sum (List.map_congr_left fun v hv => ?_)
  cases hu : r.usableDepth a v with
  | none => exact quantityAt_of_none (h.get?_of_unusable hkeys hv hu)
  | some d => rfl

/-- The allocation has a threshold in the fees. -/
theorem Poured.exists_threshold (hkeys : r.OwnKeys) (h : Poured (ranked (r.candidates a)) ∅ a.quantity orders rem) :
    ∃ φ, Threshold r.litVenues (fun v => v.takerFeeBps) (r.capacity a) (fun v => quantityAt orders v.venueId) φ := by
  obtain ⟨φ, hφ⟩ := h.threshold
  have hmem : ∀ v ∈ r.litVenues, ∀ d, r.usableDepth a v = some d → (v, d) ∈ ranked (r.candidates a) :=
    fun v hv d hd => (ranked_perm _).mem_iff.2 (mem_candidates.2 ⟨hv, hd⟩)
  refine ⟨φ, fun v hv hlt => ?_, fun v hv hlt => ?_⟩
  · cases hu : r.usableDepth a v with
    | none => rw [capacity, hu, Option.getD_none, quantityAt_of_none (h.get?_of_unusable hkeys hv hu)]
    | some d =>
      rw [capacity, hu, Option.getD_some]
      exact hφ.full (v, d) (hmem v hv d hu) hlt
  · cases hu : r.usableDepth a v with
    | none => exact quantityAt_of_none (h.get?_of_unusable hkeys hv hu)
    | some d => exact hφ.empty (v, d) (hmem v hv d hu) hlt

theorem sum_ranked (r : SmartOrderRouter) (a : Slice) : ((ranked (r.candidates a)).map (fun c => c.2)).sum = r.totalDepth a := by
  rw [((ranked_perm (r.candidates a)).map _).sum_eq, sum_depths]

/-- No more is poured than there is depth. -/
theorem Poured.le_totalDepth (h : Poured (ranked (r.candidates a)) ∅ a.quantity orders rem) :
    poured (ranked (r.candidates a)) orders ≤ r.totalDepth a := by
  rw [← sum_ranked]
  exact List.sum_le_sum h.bounded

/-- A rest beyond the tolerance means that the depth is used up. -/
theorem Poured.eq_totalDepth (h : Poured (ranked (r.candidates a)) ∅ a.quantity orders rem) (hlt : routingEpsilon < rem) :
    poured (ranked (r.candidates a)) orders = r.totalDepth a := by
  have hfull := h.ends.resolve_left (not_le.2 hlt)
  rw [← sum_ranked, poured]
  exact congrArg List.sum (List.map_congr_left hfull)

/-- The rest is beyond the tolerance exactly if the depth falls short by more. -/
theorem Poured.short_iff (h : Poured (ranked (r.candidates a)) ∅ a.quantity orders rem) :
    routingEpsilon < rem ↔ routingEpsilon < a.quantity - r.totalDepth a := by
  have htotal := h.total
  constructor
  · intro hlt
    have hpoured := h.eq_totalDepth hlt
    linarith
  · intro hlt
    have hle := h.le_totalDepth
    linarith

/-- What is left out by the end: nothing beyond the tolerance, or the depth is used up. -/
theorem Poured.near (h : Poured (ranked (r.candidates a)) ∅ a.quantity orders rem) :
    |poured (ranked (r.candidates a)) orders - min a.quantity (r.totalDepth a)| ≤ routingEpsilon := by
  have htotal := h.total
  have hle := h.le_totalDepth
  have hnonneg := h.nonneg
  obtain hrem | hrem := le_or_gt rem routingEpsilon
  · have hmin : poured (ranked (r.candidates a)) orders ≤ min a.quantity (r.totalDepth a) := le_min (by linarith) hle
    have hmin' := min_le_left a.quantity (r.totalDepth a)
    rw [abs_le]
    constructor <;> linarith [routingEpsilon_pos]
  · have hpoured := h.eq_totalDepth hrem
    rw [hpoured, min_eq_right (by linarith), sub_self, abs_zero]
    exact routingEpsilon_pos.le

/-- A rest within the tolerance leaves out no more than that. -/
theorem Poured.covers (h : Poured (ranked (r.candidates a)) ∅ a.quantity orders rem) (hle : rem ≤ routingEpsilon) :
    |poured (ranked (r.candidates a)) orders - a.quantity| ≤ routingEpsilon := by
  have htotal := h.total
  have hnonneg := h.nonneg
  rw [abs_le]
  constructor <;> linarith [routingEpsilon_pos]

/-- An order is one to an active lit venue, within its depth. -/
theorem Poured.placed (h : Poured (ranked (r.candidates a)) ∅ a.quantity orders rem) {k : String} {o : RoutedVenueOrder}
    (ho : orders.get? k = some o) :
    ∃ v ∈ r.litVenues, v.venueId = k ∧ r.activeAt k a.nowNs = true ∧ ∃ d, depthOn a k = some d ∧ o.quantity ≤ d := by
  by_contra hno
  have hk : orders.get? k = none := by
    refine (h.others k fun c hc he => hno ?_).trans (Dict.get?_empty _)
    obtain ⟨hv, hu⟩ := mem_candidates.1 ((ranked_perm _).mem_iff.1 hc)
    obtain ⟨hd, hactive, -⟩ := usableDepth_eq_some hu
    have hle := h.bounded c hc
    rw [he] at hd hactive hle
    rw [quantityAt_of_get? ho] at hle
    exact ⟨c.1, hv, he, hactive, c.2, hd, hle⟩
  rw [hk] at ho
  cases ho

theorem candidates_eq_nil_iff : r.candidates a = [] ↔ r.totalDepth a = 0 := by
  rw [← sum_depths]
  constructor
  · intro h
    rw [h]
    rfl
  · intro h
    rw [List.eq_nil_iff_forall_not_mem]
    intro c hc
    have hpos : ∀ c ∈ r.candidates a, 0 < c.2 := fun c hc =>
      routingEpsilon_pos.trans (usableDepth_eq_some (mem_candidates.1 (Prod.mk.eta (p := c) ▸ hc)).2).2.2
    have hle : c.2 ≤ ((r.candidates a).map (fun c => c.2)).sum := by
      refine List.single_le_sum (fun x hx => ?_) _ (List.mem_map_of_mem hc)
      obtain ⟨c', hc', rfl⟩ := List.mem_map.1 hx
      exact (hpos c' hc').le
    linarith [hpos c hc]

/-! ## The phase -/

/-- What the phase raises on: the rest must be covered, and there is no candidate or the rest is beyond the tolerance. -/
def Short (r : SmartOrderRouter) (a : Slice) (allowPartial : Bool) (rem : ℚ) : Prop :=
  allowPartial = false ∧ (r.candidates a = [] ∨ routingEpsilon < rem)

/-- The phase is one run of the loop. -/
theorem litAllocation_poured (hkeys : r.OwnKeys) (ha : sliceFault a = none) (allowPartial : Bool) :
    ∃ (orders : Dict String RoutedVenueOrder) (rem : ℚ), Poured (ranked (r.candidates a)) ∅ a.quantity orders rem ∧
      (r.Short a allowPartial rem →
        ∃ exc : Exc, exc.cls = .insufficientLiquidity ∧ (r.litAllocation a allowPartial).1 = .error exc) ∧
      (¬ r.Short a allowPartial rem → (r.litAllocation a allowPartial).1 = .ok orders) := by
  obtain ⟨orders, rem, hrun, hpoured⟩ := waterfill_poured (a := a) (symbol_of_sliceFault ha) (pourable_candidates hkeys a)
    (quantity_of_sliceFault ha).le
  obtain ⟨r', hcands⟩ := litCandidates_eq (a := a)
    (fun v hv => (r.contains_health v.venueId).trans (hkeys.contains hv))
  rw [← candidates] at hcands
  have hempty : r.candidates a = [] → orders = ∅ := by
    intro hnil
    rw [hnil] at hrun
    cases hrun
    rfl
  refine ⟨orders, rem, hpoured, ?_⟩
  unfold litAllocation Short
  by_cases hlit : r.litVenues = []
  · have hnil : r.candidates a = [] := by rw [candidates, hlit, List.filterMap_nil]
    rw [if_pos hlit, hempty hnil]
    cases allowPartial <;> simp [hnil]
  · rw [if_neg hlit, hcands]
    by_cases hnil : r.candidates a = []
    · simp only [hnil, if_true, hempty hnil]
      cases allowPartial <;> simp
    · rw [ranked] at hrun
      simp only [hnil, if_false, hrun, false_or]
      by_cases hshort : routingEpsilon < rem <;> cases allowPartial <;> simp [hshort]

/-- The lit phase, for venues under their own identifiers and arguments that pass the checks. It raises only for want of
liquidity, and exactly if the quantity must be covered and the total depth is zero or falls short by more than the tolerance. What
it allocates goes to active lit venues and is within their depths, comes to the quantity up to the tolerance, or in part to what
there is, and costs no more than any other allocation of the same total within those depths. -/
theorem litAllocation_cheapest (hkeys : r.OwnKeys) (ha : sliceFault a = none) (allowPartial : Bool) :
    (∀ exc : Exc, (r.litAllocation a allowPartial).1 = .error exc → exc.cls = .insufficientLiquidity) ∧
      ((∃ exc : Exc, (r.litAllocation a allowPartial).1 = .error exc) ↔
        allowPartial = false ∧ (r.totalDepth a = 0 ∨ routingEpsilon < a.quantity - r.totalDepth a)) ∧
      ∀ orders : Dict String RoutedVenueOrder, (r.litAllocation a allowPartial).1 = .ok orders →
        (∀ k o, orders.get? k = some o → ∃ v ∈ r.litVenues, v.venueId = k ∧ r.activeAt k a.nowNs = true ∧
          ∃ d, depthOn a k = some d ∧ o.quantity ≤ d) ∧
        |r.allocated (quantityAt orders) - if allowPartial then min a.quantity (r.totalDepth a) else a.quantity| ≤
          routingEpsilon ∧
        ∀ x : String → ℚ, (∀ v ∈ r.litVenues, 0 ≤ x v.venueId ∧ x v.venueId ≤ r.capacity a v) →
          r.allocated x = r.allocated (quantityAt orders) → r.takerCost (quantityAt orders) ≤ r.takerCost x := by
  obtain ⟨orders, rem, hpoured, herr, hok⟩ := litAllocation_poured hkeys ha allowPartial
  have hshort : r.Short a allowPartial rem ↔
      allowPartial = false ∧ (r.totalDepth a = 0 ∨ routingEpsilon < a.quantity - r.totalDepth a) := by
    rw [Short, candidates_eq_nil_iff, hpoured.short_iff]
  by_cases h : r.Short a allowPartial rem
  · obtain ⟨exc, hcls, hres⟩ := herr h
    rw [hres]
    refine ⟨fun exc' he => ?_, iff_of_true ⟨exc, rfl⟩ (hshort.1 h), fun orders' ho => (by cases ho)⟩
    cases he
    exact hcls
  · rw [hok h]
    refine ⟨fun exc he => (by cases he), iff_of_false ?_ (mt hshort.2 h), fun orders' ho => ?_⟩
    · rintro ⟨exc, he⟩
      cases he
    cases ho
    refine ⟨fun k o ho => hpoured.placed ho, ?_, fun x hx htotal => ?_⟩
    · rw [hpoured.allocated hkeys]
      cases allowPartial with
      | true => exact hpoured.near
      | false =>
        have hnot : ¬ routingEpsilon < rem := fun hlt => h ⟨rfl, .inr hlt⟩
        rw [if_neg Bool.false_ne_true]
        exact hpoured.covers (not_lt.1 hnot)
    · obtain ⟨φ, hφ⟩ := hpoured.exists_threshold hkeys
      exact hφ.minimal hx htotal

/-! ## Two exchanges, one of them with next to nothing -/

/-- Own identifiers, as the items show them. -/
theorem ownKeys_of_items {r : SmartOrderRouter} (h : ∀ p ∈ r.venues.items, p.2.venueId = p.1) : r.OwnKeys :=
  fun k v hk => h (k, v) ((Dict.mem_items_iff r.venues k v).2 hk)

/-- A dearer lit exchange. -/
def iex : VenueProfile := { nyse with venueId := "IEX", takerFeeBps := 1, venueId_ne := by decide }

def twoExchanges : SmartOrderRouter := ofVenues ⟨[("NYSE", nyse), ("IEX", iex)], by decide⟩ (by simp) (by decide)

theorem twoExchanges_ownKeys : twoExchanges.OwnKeys := ownKeys_of_items (by decide)

/-- The cheaper exchange has as much as the tolerance. -/
def dustyQuote : ConsolidatedQuote :=
  { deepQuote with
    venueDepths := ⟨[("NYSE", 1 / 10 ^ 7, 1 / 10 ^ 7), ("IEX", 1000, 1000)], by decide⟩
    depths_nonneg := by decide +kernel }

/-- No exchange shows any depth. -/
def emptyQuote : ConsolidatedQuote := { deepQuote with venueDepths := ∅, depths_nonneg := by decide }

/-- One to buy. -/
def buyOne : Slice := { symbol := "AAPL", side := .buy, quantity := 1, quote := dustyQuote }

/-- Half the tolerance to buy. -/
def buyNothing : Slice := { symbol := "AAPL", side := .buy, quantity := 1 / 10 ^ 7 / 2, quote := emptyQuote }

/-- The cheaper exchange first. -/
def dustFirst (vid : String) : ℚ := if vid = "NYSE" then 1 / 10 ^ 7 else 1 - 1 / 10 ^ 7

/-- A shortfall within the tolerance raises where there is no depth at all, and a depth of the tolerance is not used although it
is cheaper. -/
theorem litAllocation_dust :
    (twoExchanges.OwnKeys ∧ sliceFault buyNothing = none ∧
      ¬ routingEpsilon < buyNothing.quantity - twoExchanges.totalDepth buyNothing ∧
      (twoExchanges.litAllocation buyNothing false).1 =
        .error ⟨.insufficientLiquidity, "Zero available lit depth for % on % side", [.str "AAPL", .str "BUY"]⟩) ∧
    sliceFault buyOne = none ∧
      ∃ orders : Dict String RoutedVenueOrder, (twoExchanges.litAllocation buyOne false).1 = .ok orders ∧
        (∀ v ∈ twoExchanges.litVenues, twoExchanges.activeAt v.venueId buyOne.nowNs = true ∧
          0 ≤ dustFirst v.venueId ∧ dustFirst v.venueId ≤ (depthOn buyOne v.venueId).getD 0) ∧
        twoExchanges.allocated dustFirst = twoExchanges.allocated (quantityAt orders) ∧
        twoExchanges.takerCost dustFirst < twoExchanges.takerCost (quantityAt orders) := by
  refine ⟨⟨twoExchanges_ownKeys, by decide +kernel, by decide +kernel, by decide +kernel⟩, by decide +kernel, ?_⟩
  have hok : (twoExchanges.litAllocation buyOne false).1 =
      .ok ((twoExchanges.litAllocation buyOne false).1.toOption.getD ∅) := by decide +kernel
  exact ⟨_, hok, by decide +kernel, by decide +kernel, by decide +kernel⟩

theorem litAllocation_cheapest_dust :
    (∀ exc : Exc, (twoExchanges.litAllocation buyOne false).1 = .error exc → exc.cls = .insufficientLiquidity) ∧
      ((∃ exc : Exc, (twoExchanges.litAllocation buyOne false).1 = .error exc) ↔
        false = false ∧ (twoExchanges.totalDepth buyOne = 0 ∨ routingEpsilon < buyOne.quantity -
        twoExchanges.totalDepth buyOne)) ∧
      ∀ orders : Dict String RoutedVenueOrder, (twoExchanges.litAllocation buyOne false).1 = .ok orders →
        (∀ k o, orders.get? k = some o → ∃ v ∈ twoExchanges.litVenues, v.venueId = k ∧
          twoExchanges.activeAt k buyOne.nowNs = true ∧ ∃ d, depthOn buyOne k = some d ∧ o.quantity ≤ d) ∧
        |twoExchanges.allocated (quantityAt orders) -
          if false then min buyOne.quantity (twoExchanges.totalDepth buyOne) else buyOne.quantity| ≤ routingEpsilon ∧
        ∀ x : String → ℚ, (∀ v ∈ twoExchanges.litVenues, 0 ≤ x v.venueId ∧ x v.venueId ≤ twoExchanges.capacity buyOne v) →
          twoExchanges.allocated x = twoExchanges.allocated (quantityAt orders) →
          twoExchanges.takerCost (quantityAt orders) ≤ twoExchanges.takerCost x :=
  litAllocation_cheapest twoExchanges_ownKeys (by decide) false

end SmartOrderRouter

end Quant
