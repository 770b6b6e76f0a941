import Quant.Lemmas.RoutedLegs
import Quant.Theorems.Waterfill

/-!
# The profiles of venues

What the checks of a profile and of the map of profiles leave open: the smallest order and the lot of a venue against what it is
sent, and keys that differ from the identifiers.
-/

namespace Quant

open Pylib

/-- A venue takes a quantity: no less than its smallest order, and in whole lots. -/
def VenueProfile.Takes (v : VenueProfile) (q : ℚ) : Prop := v.minOrderSize ≤ q ∧ ∃ n : ℕ, q = n * v.lotSize

namespace SmartOrderRouter

/-- Every venue with an identifier takes a quantity. -/
def TakenAt (r : SmartOrderRouter) (vid : String) (q : ℚ) : Prop := ∀ v ∈ r.venues.values, v.venueId = vid → v.Takes q

/-- Every order is one its venue takes. -/
def Respected (r : SmartOrderRouter) (orders : Dict String RoutedVenueOrder) : Prop :=
  ∀ o ∈ orders.values, r.TakenAt o.venueId o.quantity

/-- The dark pool a request goes to. -/
def probed (r : SmartOrderRouter) (a : Slice) (dark : Bool) : Option VenueProfile :=
  if dark then bestDark (r.darkTakers a) else none

/-- The exchanges take what there is for them: each one the quantity gets to its depth, or what the depths before it leave. Of two
with one identifier the later one counts. -/
def LotsFit (r : SmartOrderRouter) (a : Slice) : Prop :=
  ∀ (i : ℕ) (v : VenueProfile) (d : ℚ), (r.queue a)[i]? = some (v, d) → routingEpsilon < leftAt (r.queue a) a.quantity i →
    (∀ (j : ℕ) (w : VenueProfile) (e : ℚ), i < j → (r.queue a)[j]? = some (w, e) →
      routingEpsilon < leftAt (r.queue a) a.quantity j → w.venueId ≠ v.venueId) →
    r.TakenAt v.venueId (min (leftAt (r.queue a) a.quantity i) d)

/-- The condition on the venues, the quote and the quantity: all of it goes to a dark pool that takes it, or the exchanges take
what there is for them. -/
def Fits (r : SmartOrderRouter) (a : Slice) (dark : Bool) : Prop :=
  match r.probed a dark with
  | some v => r.TakenAt v.venueId a.quantity
  | none => r.LotsFit a

variable {r : SmartOrderRouter} {a : Slice}

/-- A request that was allocated asked for dark pools the router knows. -/
theorem listed_of_allocation {dark part : Bool} {orders : Dict String RoutedVenueOrder}
    (h : (r.computeRoutingAllocation a dark part).1 = .ok orders) (hdark : dark = true) : r.Listed r.darkVenues := by
  subst hdark
  have ha := sliceFault_of_fst h
  by_contra hl
  obtain ⟨exc, herr, -⟩ := allocation_of_unlisted ha hl part
  rw [h] at herr
  cases herr

/-- The stored orders of the legs are ones their venues take exactly if the lots fit. -/
theorem respected_legs_iff (hcs : Usable (r.queue a)) {os : List RoutedVenueOrder}
    (hlegs : List.Forall₂ (fun l o => o.toRoutedFields = litLeg a l.1 l.2) (legs (r.queue a) a.quantity) os) :
    r.Respected (Dict.upsert ∅ (fun o => o.venueId) os) ↔ r.LotsFit a := by
  constructor
  · intro h i v d hd hlt hlast
    obtain ⟨o, ho, hid, hq⟩ := exists_order hcs hlegs hd hlt
    rw [← hid, ← hq]
    refine h o ((Dict.mem_values_iff _ o).2 ⟨o.venueId, Dict.get?_upsert_empty_iff.2 ⟨i, ho, rfl, fun j o' hj ho' => ?_⟩⟩)
    obtain ⟨w, e, he, hlt', hid', -⟩ := getElem?_orders hcs hlegs ho'
    rw [hid', hid]
    exact hlast j w e hj he hlt'
  · intro h o ho
    obtain ⟨k, hk⟩ := (Dict.mem_values_iff _ o).1 ho
    obtain ⟨i, hi, rfl, hlast⟩ := Dict.get?_upsert_empty_iff.1 hk
    obtain ⟨v, d, hd, hlt, hid, hq⟩ := getElem?_orders hcs hlegs hi
    rw [hid, hq]
    refine h i v d hd hlt fun j w e hj he hlt' => ?_
    obtain ⟨o', ho', hid', -⟩ := exists_order hcs hlegs he hlt'
    rw [← hid', ← hid]
    exact hlast j o' hj ho'

/-- Of an allocation every order is one its venue takes, exactly if the quantity and the depths fit the smallest orders and the
lots. -/
theorem respected_iff {dark part : Bool} {orders : Dict String RoutedVenueOrder}
    (h : (r.computeRoutingAllocation a dark part).1 = .ok orders) : r.Respected orders ↔ r.Fits a dark := by
  have ha := sliceFault_of_fst h
  unfold Fits
  cases hv : r.probed a dark with
  | some v =>
    unfold probed at hv
    split at hv
    · rename_i hdark
      obtain ⟨o, hok, hfields⟩ := allocation_dark ha (listed_of_allocation h hdark) hv part
      rw [hdark, hok] at h
      cases h
      have hid : o.venueId = v.venueId := congrArg RoutedFields.venueId hfields
      have hq : o.quantity = a.quantity := congrArg RoutedFields.quantity hfields
      have hvalues : (Dict.set ∅ v.venueId o).values = [o] := rfl
      rw [Respected, hvalues, List.forall_mem_singleton, hid, hq]
    · cases hv
  | none =>
    have hnone : dark = true → r.Listed r.darkVenues ∧ r.darkTakers a = [] := by
      intro hdark
      rw [probed, if_pos hdark] at hv
      exact ⟨listed_of_allocation h hdark, bestDark_eq_none.1 hv⟩
    have hout := litOutcome ha hnone part
    rw [h] at hout
    cases hout with
    | filled os hl hshort hlegs => exact respected_legs_iff (usable_queue hl) hlegs

/-! ## A thousand shares, and a half more -/

/-- A thousand at each of two exchanges. -/
def evenQuote : ConsolidatedQuote :=
  { deepQuote with
    venueDepths := ⟨[("NYSE", 1000, 1000), ("IEX", 1000, 1000)], by decide⟩
    depths_nonneg := by decide }

/-- Some shares to buy. -/
def buyShares (quantity : ℚ) : Slice := { symbol := "AAPL", side := .buy, quantity := quantity, quote := evenQuote }

/-- The half that the first exchange leaves goes to the second, which takes no order of less than one. -/
theorem not_respected_half : ∃ orders : Dict String RoutedVenueOrder,
    (twoExchanges.computeRoutingAllocation (buyShares (2001 / 2)) true false).1 = .ok orders ∧
    ¬ twoExchanges.Respected orders := by
  have hok : (twoExchanges.computeRoutingAllocation (buyShares (2001 / 2)) true false).1 =
      .ok ((twoExchanges.computeRoutingAllocation (buyShares (2001 / 2)) true false).1.toOption.getD ∅) := by decide +kernel
  have hhalf : ∃ o ∈ ((twoExchanges.computeRoutingAllocation (buyShares (2001 / 2)) true false).1.toOption.getD ∅).values,
      o.venueId = iex.venueId ∧ o.quantity = 1 / 2 := by decide +kernel
  refine ⟨_, hok, fun h => ?_⟩
  obtain ⟨o, ho, hid, hq⟩ := hhalf
  have hmin := (h o ho iex (by decide +kernel) hid.symm).1
  rw [hq] at hmin
  exact absurd hmin (by decide +kernel)

/-- A thousand shares go to the first exchange, which takes them. -/
theorem respected_iff_thousand : ∃ orders : Dict String RoutedVenueOrder,
    (twoExchanges.computeRoutingAllocation (buyShares 1000) true false).1 = .ok orders ∧
      (twoExchanges.Respected orders ↔ twoExchanges.Fits (buyShares 1000) true) := by
  have hok : (twoExchanges.computeRoutingAllocation (buyShares 1000) true false).1 =
      .ok ((twoExchanges.computeRoutingAllocation (buyShares 1000) true false).1.toOption.getD ∅) := by decide +kernel
  exact ⟨_, hok, respected_iff hok⟩

end SmartOrderRouter

/-!
## Any map of venues

The constructor asks of a venue only that its key is not blank: the key may differ from the identifier, and two venues may have
one identifier. An allocation then fails on a missing key, or keeps one order of two, in some cases and not in others.
-/

namespace SmartOrderRouter

/-- The errors an allocation is documented to raise. -/
def Documented (exc : Exc) : Prop :=
  exc.cls = .nbboViolation ∨ exc.cls = .insufficientLiquidity ∨ exc.cls = .invalidSORInput

/-- An allocation raises a documented error, or comes to the quantity up to the tolerance, or in part to what there is. -/
structure Routes (r : SmartOrderRouter) (a : Slice) (dark part : Bool) : Prop where
  raises : ∀ exc : Exc, (r.computeRoutingAllocation a dark part).1 = .error exc → Documented exc
  covers : ∀ orders : Dict String RoutedVenueOrder, (r.computeRoutingAllocation a dark part).1 = .ok orders →
    |legTotal orders.values - a.quantity| ≤ routingEpsilon ∨
      part = true ∧ |legTotal orders.values - min a.quantity (r.totalDepth a)| ≤ routingEpsilon

/-- Of the exchanges the quantity gets to no two have one identifier. -/
def ReachedApart (r : SmartOrderRouter) (a : Slice) : Prop :=
  ∀ (i j : ℕ) (v w : VenueProfile) (d e : ℚ), i < j → (r.queue a)[i]? = some (v, d) → (r.queue a)[j]? = some (w, e) →
    routingEpsilon < leftAt (r.queue a) a.quantity j → v.venueId ≠ w.venueId

/-- The condition on the map, the quote and the quantity. The identifiers of the venues that are asked are keys: those of the dark
pools, if they are probed, and those of the exchanges, if no dark pool takes the order. Of the exchanges the quantity gets to no
two have one identifier, or it must be covered and cannot be. -/
def WellMapped (r : SmartOrderRouter) (a : Slice) (dark part : Bool) : Prop :=
  (dark = true → r.Listed r.darkVenues) ∧
    (dark = true ∧ r.darkTakers a ≠ [] ∨
      r.Listed r.litVenues ∧ (r.ReachedApart a ∨ part = false ∧ routingEpsilon < a.quantity - r.totalDepth a))

variable {r : SmartOrderRouter} {a : Slice}

theorem documented_of_sliceFault {exc : Exc} (h : sliceFault a = some exc) : Documented exc := by
  unfold sliceFault at h
  split_ifs at h <;> cases h <;> simp [Documented, invalidSORInput]

theorem not_documented_keyError {exc : Exc} (h : exc.cls = .keyError) : ¬ Documented exc := by
  simp [Documented, h]

/-- The quantity gets to a later exchange only past the earlier ones. -/
theorem Usable.leftAt_mono {cs : List (VenueProfile × ℚ)} (h : Usable cs) (q : ℚ) {i j : ℕ} (hij : i ≤ j) :
    leftAt cs q j ≤ leftAt cs q i := by
  obtain ⟨k, rfl⟩ := Nat.exists_eq_add_of_le hij
  have hnonneg := Usable.depthOf_nonneg
    (fun c hc => h c (List.mem_of_mem_drop (List.mem_of_mem_take hc)) : Usable ((cs.drop i).take k))
  have hsplit : depthOf (cs.take (i + k)) = depthOf (cs.take i) + depthOf ((cs.drop i).take k) := by
    rw [List.take_add, depthOf, List.map_append, List.sum_append]
    rfl
  rw [leftAt, leftAt, hsplit]
  linarith

/-- The legs go to different identifiers exactly if the exchanges that are reached do. -/
theorem reachedApart_iff (hcs : Usable (r.queue a)) :
    r.ReachedApart a ↔ ((legs (r.queue a) a.quantity).map (fun l => l.1.venueId)).Nodup := by
  rw [List.nodup_iff_getElem?_ne_getElem?]
  simp only [List.length_map, List.getElem?_map]
  constructor
  · intro h i j hij hj
    have hi := List.getElem?_eq_getElem (hij.trans hj)
    have hj := List.getElem?_eq_getElem hj
    obtain ⟨d, hd, -⟩ := (getElem?_legs hcs).1 hi
    obtain ⟨e, he, hlt, -⟩ := (getElem?_legs hcs).1 hj
    rw [hi, hj]
    exact fun heq => h i j _ _ d e hij hd he hlt (Option.some.inj heq)
  · intro h i j v w d e hij hv hw hlt
    have hi := (getElem?_legs hcs).2 ⟨d, hv, hlt.trans_le (hcs.leftAt_mono a.quantity hij.le), rfl⟩
    have hj := (getElem?_legs hcs).2 ⟨e, hw, hlt, rfl⟩
    have hne := h i j hij (List.getElem?_eq_some_iff.1 hj).1
    rw [hi, hj] at hne
    exact fun heq => hne (congrArg some heq)

/-- The whole of what the legs come to is what the stored orders come to, unless two of them have one identifier: then it is less
by more than the tolerance. -/
theorem legTotal_orders (hcs : Usable (r.queue a)) {os : List RoutedVenueOrder}
    (hlegs : List.Forall₂ (fun l o => o.toRoutedFields = litLeg a l.1 l.2) (legs (r.queue a) a.quantity) os) :
    r.ReachedApart a ∧ legTotal (Dict.upsert ∅ (fun o => o.venueId) os).values = depthOf (legs (r.queue a) a.quantity) ∨
      ¬ r.ReachedApart a ∧
        legTotal (Dict.upsert ∅ (fun o => o.venueId) os).values < depthOf (legs (r.queue a) a.quantity) - routingEpsilon := by
  have hids : os.map (fun o => o.venueId) = (legs (r.queue a) a.quantity).map (fun l => l.1.venueId) :=
    (map_eq_of_forall₂ (hlegs.imp fun _ _ h => (congrArg RoutedFields.venueId h).symm)).symm
  have htotal : legTotal os = depthOf (legs (r.queue a) a.quantity) :=
    congrArg List.sum (map_eq_of_forall₂ (hlegs.imp fun _ _ h => (congrArg RoutedFields.quantity h).symm)).symm
  have hbig : ∀ o ∈ os, routingEpsilon < o.quantity := by
    intro o ho
    obtain ⟨i, hi⟩ := List.mem_iff_getElem?.1 ho
    obtain ⟨v, d, hd, hlt, -, hq⟩ := getElem?_orders hcs hlegs hi
    rw [hq]
    exact lt_min hlt (hcs (v, d) (List.mem_of_getElem? hd)).2
  rw [reachedApart_iff hcs, ← hids, ← htotal]
  exact legTotal_upsert hbig

/-- All of the quantity goes to a dark pool. -/
theorem routes_dark (ha : sliceFault a = none) {dark : Bool} (hl : r.Listed r.darkVenues) (h : dark = true ∧ r.darkTakers a ≠ [])
    (part : Bool) : r.Routes a dark part := by
  obtain ⟨rfl, htakers⟩ := h
  obtain ⟨v, hv⟩ := Option.ne_none_iff_exists'.1 (mt bestDark_eq_none.1 htakers)
  obtain ⟨o, hok, hfields⟩ := allocation_dark ha hl hv part
  have hq : o.quantity = a.quantity := congrArg RoutedFields.quantity hfields
  refine ⟨fun exc herr => ?_, fun orders h => .inl ?_⟩
  · rw [hok] at herr
    cases herr
  · rw [hok] at h
    cases h
    have htotal : legTotal (Dict.set ∅ v.venueId o).values = o.quantity := by
      have hvalues : (Dict.set ∅ v.venueId o).values = [o] := rfl
      rw [hvalues, legTotal_cons, legTotal_nil, add_zero]
    rw [htotal, hq, sub_self, abs_zero]
    exact routingEpsilon_pos.le

/-- What the legs come to is near the quantity if it must be covered, and near what there is otherwise. -/
theorem depthOf_legs_near (ha : sliceFault a = none) (hcs : Usable (r.queue a)) {part : Bool} (hshort : ¬ r.LitShort a part) :
    |depthOf (legs (r.queue a) a.quantity) - a.quantity| ≤ routingEpsilon ∨
      part = true ∧ |depthOf (legs (r.queue a) a.quantity) - min a.quantity (r.totalDepth a)| ≤ routingEpsilon := by
  have hq := (quantity_of_sliceFault ha).le
  have heps := routingEpsilon_pos
  obtain ⟨hle, hdepth, hend⟩ := depthOf_legs hcs hq
  rw [depthOf_queue] at hdepth hend
  cases part with
  | false =>
    have hcovered : ¬ routingEpsilon < a.quantity - r.totalDepth a := fun hlt => hshort ⟨rfl, .inr hlt⟩
    rw [← depthOf_queue, ← left_of_legs_iff hcs hq, not_lt] at hcovered
    left
    rw [abs_le]
    constructor <;> linarith
  | true =>
    have hmin : depthOf (legs (r.queue a) a.quantity) ≤ min a.quantity (r.totalDepth a) := le_min hle hdepth
    have hmin' : min a.quantity (r.totalDepth a) - depthOf (legs (r.queue a) a.quantity) ≤ routingEpsilon := by
      rcases hend with hsmall | hall
      · linarith [min_le_left a.quantity (r.totalDepth a)]
      · linarith [min_le_right a.quantity (r.totalDepth a)]
    refine .inr ⟨rfl, ?_⟩
    rw [abs_le]
    constructor <;> linarith

/-- Orders of which one took the place of another come to too little, with what the legs come to at most the quantity and what
there is. -/
theorem not_covered (ha : sliceFault a = none) (hcs : Usable (r.queue a)) {total : ℚ}
    (h : total < depthOf (legs (r.queue a) a.quantity) - routingEpsilon) :
    ¬ |total - a.quantity| ≤ routingEpsilon ∧ ¬ |total - min a.quantity (r.totalDepth a)| ≤ routingEpsilon := by
  obtain ⟨hle, hdepth, -⟩ := depthOf_legs hcs (quantity_of_sliceFault ha).le
  rw [depthOf_queue] at hdepth
  have hmin := le_min hle hdepth
  rw [abs_le, abs_le]
  constructor
  · rintro ⟨hlow, -⟩
    linarith
  · rintro ⟨hlow, -⟩
    linarith

/-- What becomes of a request that comes to the exchanges. -/
theorem routes_lit_iff (ha : sliceFault a = none) {dark : Bool} (h : dark = true → r.Listed r.darkVenues ∧ r.darkTakers a = [])
    (part : Bool) : r.Routes a dark part ↔
      r.Listed r.litVenues ∧ (r.ReachedApart a ∨ part = false ∧ routingEpsilon < a.quantity - r.totalDepth a) := by
  have hout := litOutcome ha h part
  generalize hres : (r.computeRoutingAllocation a dark part).1 = res at hout
  cases hout with
  | unlisted exc hl hcls => exact iff_of_false (fun hr => not_documented_keyError hcls (hr.raises exc hres)) (fun hc => hl hc.1)
  | short exc hl hshort hcls =>
    refine iff_of_true ⟨fun exc' h' => ?_, fun orders h' => ?_⟩ ⟨hl, ?_⟩
    · rw [hres] at h'
      cases h'
      exact .inr (.inl hcls)
    · rw [hres] at h'
      cases h'
    · rcases hshort.2 with hnil | hlt
      · left
        intro i j v w d e _ hi
        rw [hnil] at hi
        cases hi
      · exact .inr ⟨hshort.1, hlt⟩
  | filled os hl hshort hlegs =>
    have hcs := usable_queue (a := a) hl
    rcases legTotal_orders hcs hlegs with ⟨hapart, htotal⟩ | ⟨hapart, htotal⟩
    · refine iff_of_true ⟨fun exc h' => ?_, fun orders h' => ?_⟩ ⟨hl, .inl hapart⟩
      · rw [hres] at h'
        cases h'
      · rw [hres] at h'
        cases h'
        rw [htotal]
        exact depthOf_legs_near ha hcs hshort
    · obtain ⟨hno, hno'⟩ := not_covered ha hcs htotal
      refine iff_of_false (fun hr => ?_) (fun hc => ?_)
      · rcases hr.covers _ hres with hnear | ⟨-, hnear⟩
        · exact hno hnear
        · exact hno' hnear
      · rcases hc.2 with hapart' | ⟨hpart, hlt⟩
        · exact hapart hapart'
        · exact hshort ⟨hpart, .inr hlt⟩

/-- An allocation raises a documented error or comes to the quantity, or in part to what there is, exactly if the venues are well
mapped for it; a request that fails the checks is raised at once. -/
theorem routes_iff (r : SmartOrderRouter) (a : Slice) (dark part : Bool) :
    r.Routes a dark part ↔ sliceFault a ≠ none ∨ r.WellMapped a dark part := by
  cases ha : sliceFault a with
  | some exc =>
    have herr : (r.computeRoutingAllocation a dark part).1 = .error exc := by
      rw [computeRoutingAllocation, ha]
    refine iff_of_true ⟨fun exc' h => ?_, fun orders h => ?_⟩ (.inl (by simp))
    · rw [herr] at h
      cases h
      exact documented_of_sliceFault ha
    · rw [herr] at h
      cases h
  | none =>
    rw [or_iff_right (fun h => h rfl)]
    by_cases hlisted : dark = true → r.Listed r.darkVenues
    · by_cases htakers : dark = true ∧ r.darkTakers a ≠ []
      · exact iff_of_true (routes_dark ha (hlisted htakers.1) htakers part) ⟨hlisted, .inl htakers⟩
      · have hnone : dark = true → r.Listed r.darkVenues ∧ r.darkTakers a = [] :=
          fun hdark => ⟨hlisted hdark, by_contra fun hne => htakers ⟨hdark, hne⟩⟩
        rw [routes_lit_iff ha hnone part, WellMapped, or_iff_right htakers]
        exact (and_iff_right hlisted).symm
    · refine iff_of_false (fun h => ?_) (fun h => hlisted h.1)
      obtain ⟨hdark, hl⟩ := Classical.not_imp.1 hlisted
      subst hdark
      obtain ⟨exc, herr, hcls⟩ := allocation_of_unlisted ha hl part
      exact not_documented_keyError hcls (h.raises exc herr)

/-! ### One exchange under another name, and one exchange twice -/

/-- An exchange under a key that is not its identifier. -/
def misnamed : SmartOrderRouter := ofVenues ⟨[("EXCHANGE", nyse)], by decide⟩ (by simp) (by decide)

/-- An exchange under two keys. -/
def doubled : SmartOrderRouter := ofVenues ⟨[("NYSE", nyse), ("EXCHANGE", nyse)], by decide⟩ (by simp) (by decide)

/-- Fifteen hundred to buy, where a thousand are shown. -/
def buyMore : Slice := { symbol := "AAPL", side := .buy, quantity := 1500, quote := deepQuote }

/-- The constructor accepts both maps. Under another key the exchange is not found. Under two keys it gets a thousand, and then
five hundred in the place of that. -/
theorem not_routes_maps :
    (create misnamed.venues = .ok misnamed ∧
      (misnamed.computeRoutingAllocation buyMore true false).1 = .error ⟨.keyError, "%", [.str "NYSE"]⟩ ∧
      ¬ misnamed.Routes buyMore true false) ∧
    create doubled.venues = .ok doubled ∧
      (∃ orders : Dict String RoutedVenueOrder, (doubled.computeRoutingAllocation buyMore true false).1 = .ok orders ∧
        legTotal orders.values = 500) ∧
      ¬ doubled.Routes buyMore true false := by
  have herr : (misnamed.computeRoutingAllocation buyMore true false).1 = .error ⟨.keyError, "%", [.str "NYSE"]⟩ := by
    decide
  have hok : (doubled.computeRoutingAllocation buyMore true false).1 =
      .ok ((doubled.computeRoutingAllocation buyMore true false).1.toOption.getD ∅) := by decide +kernel
  have htotal : legTotal ((doubled.computeRoutingAllocation buyMore true false).1.toOption.getD ∅).values = 500 := by
    decide +kernel
  refine ⟨⟨rfl, herr, fun h => not_documented_keyError rfl (h.raises _ herr)⟩, rfl, ⟨_, hok, htotal⟩, fun h => ?_⟩
  rcases h.covers _ hok with hnear | ⟨hpart, -⟩
  · rw [htotal] at hnear
    exact absurd hnear (by decide +kernel)
  · cases hpart

end SmartOrderRouter

end Quant
