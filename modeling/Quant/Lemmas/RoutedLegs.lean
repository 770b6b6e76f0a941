import Quant.Lemmas.Waterfill
import Quant.Pylib.Steps
import Quant.Pylib.Upsert

/-!
# The legs of an allocation, whatever the keys of the venues

A venue may be given under a key that is not its identifier. Its health is then looked up under an identifier the router may not
have, and of two venues with one identifier the later order takes the place of the earlier one. Here the outcomes of
`compute_routing_allocation` for every such map: the legs are a list, and the allocation is that list stored by identifier.
-/

namespace Quant

open Pylib

namespace SmartOrderRouter

/-! ## Legs -/

/-- What the depths of some candidates come to. -/
def depthOf (cs : List (VenueProfile × ℚ)) : ℚ := (cs.map (fun c => c.2)).sum

/-- What is left of a quantity at a place in the list, with the depths before it used up. -/
def leftAt (cs : List (VenueProfile × ℚ)) (q : ℚ) (i : ℕ) : ℚ := q - depthOf (cs.take i)

/-- The legs of a quantity: each venue it gets to, with its depth or what is left. -/
def legs : List (VenueProfile × ℚ) → ℚ → List (VenueProfile × ℚ)
  | [], _ => []
  | (v, d) :: cs, q => if q ≤ routingEpsilon then [] else (v, min q d) :: legs cs (q - min q d)

@[simp]
theorem leftAt_zero (cs : List (VenueProfile × ℚ)) (q : ℚ) : leftAt cs q 0 = q := by
  simp [leftAt, depthOf]

@[simp]
theorem leftAt_cons_succ (c : VenueProfile × ℚ) (cs : List (VenueProfile × ℚ)) (q : ℚ) (i : ℕ) :
    leftAt (c :: cs) q (i + 1) = leftAt cs (q - c.2) i := by
  simp only [leftAt, depthOf, List.take_succ_cons, List.map_cons, List.sum_cons]
  exact sub_add_eq_sub_sub q _ _

/-- Candidates with known venues and usable depths. -/
def Usable (cs : List (VenueProfile × ℚ)) : Prop := ∀ c ∈ cs, strip c.1.venueId ≠ "" ∧ routingEpsilon < c.2

theorem Usable.tail {c : VenueProfile × ℚ} {cs : List (VenueProfile × ℚ)} (h : Usable (c :: cs)) : Usable cs :=
  fun c' hc' => h c' (List.mem_cons_of_mem c hc')

theorem Usable.depthOf_nonneg {cs : List (VenueProfile × ℚ)} (h : Usable cs) : 0 ≤ depthOf cs := by
  refine List.sum_nonneg fun x hx => ?_
  obtain ⟨c, hc, rfl⟩ := List.mem_map.1 hx
  exact (routingEpsilon_pos.trans (h c hc).2).le

theorem Usable.leftAt_le {cs : List (VenueProfile × ℚ)} (h : Usable cs) (q : ℚ) (i : ℕ) : leftAt cs q i ≤ q := by
  have hnonneg := Usable.depthOf_nonneg (fun c hc => h c (List.mem_of_mem_take hc) : Usable (cs.take i))
  rw [leftAt]
  linarith

/-- The leg at a place: the quantity gets there, and the venue gets what is left, up to its depth. -/
theorem getElem?_legs {cs : List (VenueProfile × ℚ)} (h : Usable cs) {q : ℚ} {i : ℕ} {v : VenueProfile} {x : ℚ} :
    (legs cs q)[i]? = some (v, x) ↔ ∃ d, cs[i]? = some (v, d) ∧ routingEpsilon < leftAt cs q i ∧ x = min (leftAt cs q i) d := by
  induction cs generalizing q i with
  | nil => simp [legs]
  | cons c cs ih =>
    obtain ⟨w, d⟩ := c
    rw [legs]
    split
    · rename_i hstop
      simp only [List.getElem?_nil, reduceCtorEq, false_iff, not_exists, not_and]
      intro d' _ hlt
      exact absurd (hlt.trans_le (h.leftAt_le q i)) (not_lt.2 hstop)
    · rename_i hgo
      cases i with
      | zero => simp [not_le.1 hgo, eq_comm]
      | succ i =>
        rw [List.getElem?_cons_succ, List.getElem?_cons_succ, ih h.tail, leftAt_cons_succ]
        rcases le_or_gt d q with hd | hd
        · rw [min_eq_right hd]
        · -- the quantity ends here, so no later place is reached
          rw [min_eq_left hd.le, sub_self]
          have hzero := h.tail.leftAt_le 0 i
          have hneg := h.tail.leftAt_le (q - d) i
          have heps := routingEpsilon_pos
          constructor
          · rintro ⟨d', -, hlt, -⟩
            linarith
          · rintro ⟨d', -, hlt, -⟩
            dsimp only at hlt
            linarith

/-- The legs come to no more than the quantity and no more than the depths, and to one of the two up to the tolerance. -/
theorem depthOf_legs {cs : List (VenueProfile × ℚ)} (h : Usable cs) {q : ℚ} (hq : 0 ≤ q) :
    depthOf (legs cs q) ≤ q ∧ depthOf (legs cs q) ≤ depthOf cs ∧
      (q - depthOf (legs cs q) ≤ routingEpsilon ∨ depthOf (legs cs q) = depthOf cs) := by
  induction cs generalizing q with
  | nil =>
    refine ⟨?_, le_rfl, .inr rfl⟩
    simpa [legs, depthOf] using hq
  | cons c cs ih =>
    obtain ⟨v, d⟩ := c
    rw [legs]
    split
    · rename_i hstop
      have hnonneg := h.depthOf_nonneg
      have hnil : depthOf [] = 0 := rfl
      rw [hnil, sub_zero]
      exact ⟨hq, hnonneg, .inl hstop⟩
    · obtain ⟨hle, hdepth, hend⟩ := ih h.tail (sub_nonneg.2 (min_le_left q d))
      have hcons : ∀ (x : ℚ) (l : List (VenueProfile × ℚ)), depthOf ((v, x) :: l) = x + depthOf l := fun x l => by
        simp [depthOf]
      have hmin := min_le_right q d
      rw [hcons, hcons]
      refine ⟨by linarith, by linarith, ?_⟩
      rcases le_or_gt d q with hd | hd
      · rw [min_eq_right hd] at hend ⊢
        rcases hend with hsmall | hall
        · exact .inl (by linarith)
        · exact .inr (by rw [hall])
      · rw [min_eq_left hd.le] at hle hend ⊢
        rw [sub_self] at hle hend ⊢
        rcases hend with hsmall | hall
        · exact .inl (by linarith)
        · exact .inl (by linarith [h.tail.depthOf_nonneg, routingEpsilon_pos])

/-- The loop stores the orders of the legs by identifier, and what is left is the quantity without them. -/
theorem waterfill_eq {a : Slice} (hsym : strip a.symbol ≠ "") {cs : List (VenueProfile × ℚ)} (h : Usable cs) {q : ℚ}
    (orders : Dict String RoutedVenueOrder) : ∃ os,
      waterfill a cs q orders = .ok (orders.upsert (fun o => o.venueId) os, q - depthOf (legs cs q)) ∧
      List.Forall₂ (fun l o => o.toRoutedFields = litLeg a l.1 l.2) (legs cs q) os := by
  induction cs generalizing q orders with
  | nil => exact ⟨[], by simp [waterfill, legs, depthOf, Dict.upsert], .nil⟩
  | cons c cs ih =>
    obtain ⟨v, d⟩ := c
    by_cases hstop : q ≤ routingEpsilon
    · refine ⟨[], ?_, ?_⟩
      · rw [waterfill_of_le a _ orders hstop, legs, if_pos hstop]
        simp [depthOf, Dict.upsert]
      · rw [legs, if_pos hstop]
        exact .nil
    · obtain ⟨hid, hdepth⟩ := h (v, d) List.mem_cons_self
      have hfill : routingEpsilon < min q d := lt_min (not_le.1 hstop) hdepth
      obtain ⟨o, ho⟩ := RoutedFields.exists_create (o := litLeg a v (min q d)) hid hsym (routingEpsilon_pos.trans hfill)
        (targetPrice_pos a)
      have hfields := RoutedFields.create_ok ho
      have hkey : o.venueId = v.venueId := congrArg RoutedFields.venueId hfields
      obtain ⟨os, hrun, hlegs⟩ := ih h.tail (q := q - min q d) (orders.set v.venueId o)
      refine ⟨o :: os, ?_, ?_⟩
      · rw [waterfill, if_neg hstop, if_neg (not_le.2 hfill), ho]
        simp only [hrun, legs, if_neg hstop, depthOf, List.map_cons, List.sum_cons, Dict.upsert, List.foldl_cons, hkey,
          sub_add_eq_sub_sub]
      · rw [legs, if_neg hstop]
        exact .cons hfields hlegs

/-- The places of the orders of the legs. -/
theorem getElem?_orders {a : Slice} {cs : List (VenueProfile × ℚ)} (hcs : Usable cs) {q : ℚ} {os : List RoutedVenueOrder}
    (hlegs : List.Forall₂ (fun l o => o.toRoutedFields = litLeg a l.1 l.2) (legs cs q) os) {i : ℕ} {o : RoutedVenueOrder}
    (ho : os[i]? = some o) : ∃ v d, cs[i]? = some (v, d) ∧ routingEpsilon < leftAt cs q i ∧ o.venueId = v.venueId ∧
      o.quantity = min (leftAt cs q i) d := by
  obtain ⟨⟨v, x⟩, hleg, hfields⟩ := getElem?_of_forall₂ hlegs.flip ho
  obtain ⟨d, hd, hlt, rfl⟩ := (getElem?_legs hcs).1 hleg
  exact ⟨v, d, hd, hlt, congrArg RoutedFields.venueId hfields, congrArg RoutedFields.quantity hfields⟩

theorem exists_order {a : Slice} {cs : List (VenueProfile × ℚ)} (hcs : Usable cs) {q : ℚ} {os : List RoutedVenueOrder}
    (hlegs : List.Forall₂ (fun l o => o.toRoutedFields = litLeg a l.1 l.2) (legs cs q) os) {i : ℕ} {v : VenueProfile} {d : ℚ}
    (hd : cs[i]? = some (v, d)) (hlt : routingEpsilon < leftAt cs q i) : ∃ o, os[i]? = some o ∧ o.venueId = v.venueId ∧
      o.quantity = min (leftAt cs q i) d := by
  obtain ⟨o, ho, hfields⟩ := getElem?_of_forall₂ hlegs ((getElem?_legs hcs).2 ⟨d, hd, hlt, rfl⟩)
  exact ⟨o, ho, congrArg RoutedFields.venueId hfields, congrArg RoutedFields.quantity hfields⟩

/-! ## The questions about health -/

/-- The identifiers of some venues are keys of the router. -/
def Listed (r : SmartOrderRouter) (vs : List VenueProfile) : Prop := ∀ v ∈ vs, r.venues.contains v.venueId = true

/-- The dark pools that are active and take an order of the quantity. -/
def darkTakers (r : SmartOrderRouter) (a : Slice) : List VenueProfile :=
  r.darkVenues.filter (fun v => r.activeAt v.venueId a.nowNs = true ∧ v.minOrderSize ≤ a.quantity)

/-- With every identifier known the loop over the dark pools finds the ones that take the order, and changes no answer. -/
theorem eligibleDark_eq {q : ℚ} {now : ℕ} {vs : List VenueProfile} {r : SmartOrderRouter} (h : r.Listed vs) :
    ∃ r', eligibleDark q now vs r =
      (.ok (vs.filter (fun v => r.activeAt v.venueId now = true ∧ v.minOrderSize ≤ q)), r') ∧ SameAt now r r' := by
  induction vs generalizing r with
  | nil => exact ⟨r, rfl, SameAt.refl now r⟩
  | cons v vs ih =>
    obtain ⟨r₁, h₁⟩ := r.exists_venueActive ((r.contains_health v.venueId).trans (h v List.mem_cons_self)) now
    have hsame := sameAt_of_venueActive h₁
    obtain ⟨r₂, h₂, hsame'⟩ := ih (r := r₁) (fun w hw => by
      rw [hsame.venues]
      exact h w (List.mem_cons_of_mem v hw))
    simp only [hsame.activeAt] at h₂
    refine ⟨r₂, ?_, hsame.trans hsame'⟩
    rw [eligibleDark, h₁]
    simp only [h₂, List.filter_cons, decide_eq_true_eq]

theorem exists_darkTakers {r : SmartOrderRouter} {a : Slice} (h : r.Listed r.darkVenues) :
    ∃ r', eligibleDark a.quantity a.nowNs r.darkVenues r = (.ok (r.darkTakers a), r') ∧ SameAt a.nowNs r r' :=
  eligibleDark_eq h

/-- Where the router knows the first venue, it is one behind it that is unknown. -/
theorem unlisted_tail {r r' : SmartOrderRouter} {v : VenueProfile} {vs : List VenueProfile} {now : ℕ} {active : Bool}
    (h : ¬ r.Listed (v :: vs)) (hk : r.venueHealth.contains v.venueId = true)
    (h' : r.venueActive v.venueId now = (.ok active, r')) :
    ¬ r'.Listed vs := by
  intro hl
  refine h fun w hw => ?_
  rcases List.mem_cons.1 hw with rfl | hw
  · rw [← r.contains_health, hk]
  · rw [← (sameAt_of_venueActive h').venues]
    exact hl w hw

/-- A dark pool the router does not know ends the loop. -/
theorem eligibleDark_of_unlisted {q : ℚ} {now : ℕ} {vs : List VenueProfile} {r : SmartOrderRouter} (h : ¬ r.Listed vs) :
    ∃ (exc : Exc) (r' : SmartOrderRouter), eligibleDark q now vs r = (.error exc, r') ∧ exc.cls = .keyError := by
  induction vs generalizing r with
  | nil => exact absurd (fun v hv => by cases hv) h
  | cons v vs ih =>
    rw [eligibleDark]
    cases hk : r.venueHealth.contains v.venueId with
    | false =>
      rw [venueActive_of_unknown hk]
      exact ⟨_, _, rfl, rfl⟩
    | true =>
      obtain ⟨r₁, h₁⟩ := r.exists_venueActive hk now
      obtain ⟨exc, r₂, h₂, hcls⟩ := ih (unlisted_tail h hk h₁)
      rw [h₁]
      simp only [h₂]
      exact ⟨exc, r₂, rfl, hcls⟩

/-- A lit exchange the router does not know ends the loop. -/
theorem litCandidates_of_unlisted {a : Slice} {vs : List VenueProfile} {r : SmartOrderRouter} (h : ¬ r.Listed vs) :
    ∃ (exc : Exc) (r' : SmartOrderRouter), litCandidates a vs r = (.error exc, r') ∧ exc.cls = .keyError := by
  induction vs generalizing r with
  | nil => exact absurd (fun v hv => by cases hv) h
  | cons v vs ih =>
    rw [litCandidates]
    cases hk : r.venueHealth.contains v.venueId with
    | false =>
      rw [venueActive_of_unknown hk]
      exact ⟨_, _, rfl, rfl⟩
    | true =>
      obtain ⟨r₁, h₁⟩ := r.exists_venueActive hk a.nowNs
      obtain ⟨exc, r₂, h₂, hcls⟩ := ih (unlisted_tail h hk h₁)
      rw [h₁]
      simp only [h₂]
      exact ⟨exc, r₂, rfl, hcls⟩

/-! ## Outcomes -/

/-- The candidates of the lit phase in the order of the loop. -/
def queue (r : SmartOrderRouter) (a : Slice) : List (VenueProfile × ℚ) := ranked (r.candidates a)

theorem usable_queue {r : SmartOrderRouter} {a : Slice} (h : r.Listed r.litVenues) : Usable (r.queue a) := by
  intro c hc
  obtain ⟨hv, hu⟩ := mem_candidates.1 ((ranked_perm _).mem_iff.1 hc)
  exact ⟨r.venues_key_ne _ ((Dict.mem_keys_iff _ _).2 (h _ hv)), (usableDepth_eq_some hu).2.2⟩

theorem depthOf_queue (r : SmartOrderRouter) (a : Slice) : depthOf (r.queue a) = r.totalDepth a := by
  rw [depthOf, queue, ((ranked_perm _).map _).sum_eq, sum_depths]

/-- With a lit exchange the router does not know the lit phase fails. -/
theorem litAllocation_of_unlisted {r : SmartOrderRouter} {a : Slice} (h : ¬ r.Listed r.litVenues) (part : Bool) :
    ∃ exc : Exc, (r.litAllocation a part).1 = .error exc ∧ exc.cls = .keyError := by
  have hne : r.litVenues ≠ [] := fun hnil => h (by rw [hnil]; exact fun v hv => by cases hv)
  obtain ⟨exc, r', hrun, hcls⟩ := litCandidates_of_unlisted (a := a) h
  refine ⟨exc, ?_, hcls⟩
  rw [litAllocation, if_neg hne, hrun]

/-- What the lit phase raises on: the quantity must be covered, and there is no candidate or the depths fall short of it by more
than the tolerance. -/
def LitShort (r : SmartOrderRouter) (a : Slice) (part : Bool) : Prop :=
  part = false ∧ (r.queue a = [] ∨ routingEpsilon < a.quantity - r.totalDepth a)

/-- What is left of the quantity is beyond the tolerance exactly if the depths fall short by more. -/
theorem left_of_legs_iff {cs : List (VenueProfile × ℚ)} (h : Usable cs) {q : ℚ} (hq : 0 ≤ q) :
    routingEpsilon < q - depthOf (legs cs q) ↔ routingEpsilon < q - depthOf cs := by
  obtain ⟨-, hdepth, hend⟩ := depthOf_legs h hq
  constructor
  · intro hlt
    rw [← hend.resolve_left (not_le.2 hlt)]
    exact hlt
  · intro hlt
    linarith

/-- The lit phase with every exchange known: it raises for want of liquidity, or stores the orders of the legs. -/
theorem litAllocation_listed {r : SmartOrderRouter} {a : Slice} (ha : sliceFault a = none)
    (h : r.Listed r.litVenues) (part : Bool) :
    (r.LitShort a part ∧ ∃ exc : Exc, (r.litAllocation a part).1 = .error exc ∧ exc.cls = .insufficientLiquidity) ∨
      ¬ r.LitShort a part ∧ ∃ os, (r.litAllocation a part).1 = .ok (Dict.upsert ∅ (fun o => o.venueId) os) ∧
        List.Forall₂ (fun l o => o.toRoutedFields = litLeg a l.1 l.2) (legs (r.queue a) a.quantity) os := by
  have husable := usable_queue (a := a) h
  obtain ⟨os, hrun, hlegs⟩ := waterfill_eq (a := a) (symbol_of_sliceFault ha) husable (q := a.quantity) ∅
  obtain ⟨r', hcands⟩ := litCandidates_eq (a := a) (fun v hv => (r.contains_health v.venueId).trans (h v hv))
  rw [← candidates] at hcands
  have hnone : r.queue a = [] → os = [] := by
    intro hnil
    rw [hnil] at hlegs
    cases hlegs
    rfl
  have hqueue : r.queue a = [] ↔ r.candidates a = [] := by
    rw [queue, ← List.length_eq_zero_iff, (ranked_perm _).length_eq, List.length_eq_zero_iff]
  have hleft := left_of_legs_iff husable (quantity_of_sliceFault ha).le
  rw [depthOf_queue] at hleft
  unfold LitShort litAllocation
  rw [← hleft]
  generalize a.quantity - depthOf (legs (r.queue a) a.quantity) = left at hrun ⊢
  by_cases hlit : r.litVenues = []
  · have hnil : r.queue a = [] := by
      rw [hqueue, candidates, hlit, List.filterMap_nil]
    rw [hnone hnil] at hlegs
    rw [if_pos hlit]
    cases part
    · exact .inl ⟨⟨rfl, .inl hnil⟩, _, rfl, rfl⟩
    · exact .inr ⟨fun hshort => Bool.noConfusion hshort.1, [], rfl, hlegs⟩
  · rw [if_neg hlit, hcands]
    by_cases hnil : r.candidates a = []
    · have hempty := hqueue.2 hnil
      rw [hnone hempty] at hlegs
      simp only [hnil, if_true]
      cases part
      · exact .inl ⟨⟨rfl, .inl hempty⟩, _, rfl, rfl⟩
      · exact .inr ⟨fun hshort => Bool.noConfusion hshort.1, [], rfl, hlegs⟩
    · rw [queue, ranked] at hrun
      simp only [hnil, if_false, hrun, hqueue, false_or]
      by_cases hshort : routingEpsilon < left
      · cases part
        · simp only [hshort, not_false_eq_true, and_self, if_true, Bool.false_eq_true]
          exact .inl ⟨trivial, _, rfl, rfl⟩
        · simp only [not_true_eq_false, and_false, if_false]
          exact .inr ⟨fun hs => Bool.noConfusion hs.1, os, rfl, hlegs⟩
      · simp only [hshort, false_and, if_false]
        exact .inr ⟨fun hs => hs.2, os, rfl, hlegs⟩

/-! ## What the stored orders come to -/

theorem legTotal_append (os os' : List RoutedVenueOrder) : legTotal (os ++ os') = legTotal os + legTotal os' := by
  simp [legTotal]

/-- Setting the order of an identifier takes the quantity of the one that was there out of the total. -/
theorem legTotal_set (d : Dict String RoutedVenueOrder) (k : String) (o : RoutedVenueOrder) :
    legTotal (d.set k o).values + quantityAt d k = legTotal d.values + o.quantity := by
  rw [legTotal_values, legTotal_values]
  exact d.sum_set k o

/-- Stored by identifier, orders above the tolerance come to what they are together, or to less by more than the tolerance: it
depends on whether two of them have one identifier. -/
theorem legTotal_upsert {os : List RoutedVenueOrder} (h : ∀ o ∈ os, routingEpsilon < o.quantity) :
    (os.map (fun o => o.venueId)).Nodup ∧ legTotal (Dict.upsert ∅ (fun o => o.venueId) os).values = legTotal os ∨
      ¬ (os.map (fun o => o.venueId)).Nodup ∧
        legTotal (Dict.upsert ∅ (fun o => o.venueId) os).values < legTotal os - routingEpsilon := by
  induction os using List.reverseRecOn with
  | nil => exact .inl ⟨List.nodup_nil, rfl⟩
  | append_singleton os o ih =>
    have hold := ih (fun o' ho' => h o' (List.mem_append_left [o] ho'))
    have hset := legTotal_set (Dict.upsert ∅ (fun o => o.venueId) os) o.venueId o
    have hone : legTotal [o] = o.quantity := by simp
    have heps := routingEpsilon_pos
    have hnodup : ((os ++ [o]).map (fun o => o.venueId)).Nodup ↔
        o.venueId ∉ os.map (fun o => o.venueId) ∧ (os.map (fun o => o.venueId)).Nodup := by
      rw [List.map_append, List.map_singleton, ← List.concat_eq_append, List.nodup_concat]
    rw [Dict.upsert_concat, legTotal_append, hone, hnodup]
    cases hget : (Dict.upsert ∅ (fun o => o.venueId) os).get? o.venueId with
    | none =>
      -- nothing is stored under the identifier, so none of the orders has it
      have hfresh : o.venueId ∉ os.map (fun o => o.venueId) := fun hmem => by
        rw [Dict.get?_upsert, Dict.get?_empty, Option.or_none, List.find?_eq_none] at hget
        obtain ⟨o', ho', hkey⟩ := List.mem_map.1 hmem
        simpa [hkey] using hget o' (List.mem_reverse.2 ho')
      rw [quantityAt_of_none hget, add_zero] at hset
      rcases hold with ⟨hn, heq⟩ | ⟨hn, hlt⟩
      · exact .inl ⟨⟨hfresh, hn⟩, by rw [hset, heq]⟩
      · exact .inr ⟨fun hc => hn hc.2, by linarith⟩
    | some o' =>
      obtain ⟨ho', hkey⟩ := Dict.mem_of_get?_upsert_empty hget
      have hbig := h o' (List.mem_append_left [o] ho')
      rw [quantityAt_of_get? hget] at hset
      have hle : legTotal (Dict.upsert ∅ (fun o => o.venueId) os).values ≤ legTotal os := by
        rcases hold with ⟨-, heq⟩ | ⟨-, hlt⟩ <;> linarith
      exact .inr ⟨fun hc => hc.1 (List.mem_map.2 ⟨o', ho', hkey⟩), by linarith⟩

/-! ## The whole call -/

section SameAt

variable {a : Slice} {r r' : SmartOrderRouter}

theorem SameAt.litVenues {now : ℕ} (h : SameAt now r r') : r'.litVenues = r.litVenues := by
  rw [SmartOrderRouter.litVenues, SmartOrderRouter.litVenues, h.venues]

theorem SameAt.listed {now : ℕ} (h : SameAt now r r') (vs : List VenueProfile) : r'.Listed vs ↔ r.Listed vs := by
  rw [Listed, Listed, h.venues]

theorem SameAt.queue (h : SameAt a.nowNs r r') : r'.queue a = r.queue a := by
  simp only [SmartOrderRouter.queue, candidates, h.litVenues, h.usableDepth]

theorem SameAt.totalDepth (h : SameAt a.nowNs r r') : r'.totalDepth a = r.totalDepth a := by
  rw [← depthOf_queue, ← depthOf_queue, h.queue]

theorem SameAt.litShort (h : SameAt a.nowNs r r') (part : Bool) : r'.LitShort a part ↔ r.LitShort a part := by
  rw [LitShort, LitShort, h.queue, h.totalDepth]

end SameAt

section Call

variable {r : SmartOrderRouter} {a : Slice}

theorem bestDark_eq_none {vs : List VenueProfile} : bestDark vs = none ↔ vs = [] := by
  rw [bestDark, List.head?_eq_none_iff, ← List.length_eq_zero_iff, List.length_insertionSort, List.length_eq_zero_iff]

/-- A dark pool the router does not know ends a call that probes. -/
theorem allocation_of_unlisted (ha : sliceFault a = none) (h : ¬ r.Listed r.darkVenues) (part : Bool) :
    ∃ exc : Exc, (r.computeRoutingAllocation a true part).1 = .error exc ∧ exc.cls = .keyError := by
  obtain ⟨exc, r', hrun, hcls⟩ := @eligibleDark_of_unlisted a.quantity a.nowNs _ r h
  refine ⟨exc, ?_, hcls⟩
  rw [computeRoutingAllocation, ha]
  simp [hrun]

/-- With a dark pool that takes the order all of it goes to the first one by rank. -/
theorem allocation_dark (ha : sliceFault a = none) (h : r.Listed r.darkVenues) {v : VenueProfile}
    (hv : bestDark (r.darkTakers a) = some v) (part : Bool) : ∃ o : RoutedVenueOrder,
    (r.computeRoutingAllocation a true part).1 = .ok (Dict.set ∅ v.venueId o) ∧ o.toRoutedFields = darkProbe a v := by
  obtain ⟨r', hrun, -⟩ := exists_darkTakers (a := a) h
  have hmem : v ∈ r.darkVenues := (List.mem_filter.1 (bestDark_mem hv)).1
  have hid : strip (darkProbe a v).venueId ≠ "" := r.venues_key_ne _ ((Dict.mem_keys_iff _ _).2 (h v hmem))
  obtain ⟨o, ho⟩ := RoutedFields.exists_create hid (symbol_of_sliceFault ha) (quantity_of_sliceFault ha) a.quote.midpoint_pos
  refine ⟨o, ?_, RoutedFields.create_ok ho⟩
  rw [computeRoutingAllocation, ha]
  simp [hrun, hv, ho]

/-- Without one the lit phase answers. -/
theorem allocation_lit (ha : sliceFault a = none) {dark : Bool} (h : dark = true → r.Listed r.darkVenues ∧ r.darkTakers a = [])
    (part : Bool) : ∃ r', SameAt a.nowNs r r' ∧ (r.computeRoutingAllocation a dark part).1 = (r'.litAllocation a part).1 := by
  rw [computeRoutingAllocation, ha]
  cases dark with
  | false => exact ⟨r, SameAt.refl _ r, by simp⟩
  | true =>
    obtain ⟨hlisted, htakers⟩ := h rfl
    obtain ⟨r', hrun, hsame⟩ := exists_darkTakers (a := a) hlisted
    refine ⟨r', hsame, ?_⟩
    simp [hrun, htakers, bestDark]

/-- What a call does that comes to the lit phase. -/
inductive LitOutcome (r : SmartOrderRouter) (a : Slice) (part : Bool) : Except Exc (Dict String RoutedVenueOrder) → Prop
  | unlisted (exc : Exc) (h : ¬ r.Listed r.litVenues) (hcls : exc.cls = .keyError) : LitOutcome r a part (.error exc)
  | short (exc : Exc) (h : r.Listed r.litVenues) (hshort : r.LitShort a part) (hcls : exc.cls = .insufficientLiquidity) :
      LitOutcome r a part (.error exc)
  | filled (os : List RoutedVenueOrder) (h : r.Listed r.litVenues) (hshort : ¬ r.LitShort a part)
      (hlegs : List.Forall₂ (fun l o => o.toRoutedFields = litLeg a l.1 l.2) (legs (r.queue a) a.quantity) os) :
      LitOutcome r a part (.ok (Dict.upsert ∅ (fun o => o.venueId) os))

theorem litOutcome (ha : sliceFault a = none) {dark : Bool} (h : dark = true → r.Listed r.darkVenues ∧ r.darkTakers a = [])
    (part : Bool) : LitOutcome r a part (r.computeRoutingAllocation a dark part).1 := by
  obtain ⟨r', hsame, heq⟩ := allocation_lit ha h part
  rw [heq]
  by_cases hl : r.Listed r.litVenues
  · have hl' : r'.Listed r'.litVenues := by rwa [hsame.litVenues, hsame.listed]
    rcases litAllocation_listed ha hl' part with ⟨hshort, exc, hres, hcls⟩ | ⟨hshort, os, hres, hlegs⟩
    · rw [hres]
      exact .short exc hl ((hsame.litShort part).1 hshort) hcls
    · rw [hres]
      rw [hsame.queue] at hlegs
      exact .filled os hl (mt (hsame.litShort part).2 hshort) hlegs
  · have hl' : ¬ r'.Listed r'.litVenues := by rwa [hsame.litVenues, hsame.listed]
    obtain ⟨exc, hres, hcls⟩ := litAllocation_of_unlisted hl' part
    rw [hres]
    exact .unlisted exc hl hcls

end Call

end SmartOrderRouter

end Quant
