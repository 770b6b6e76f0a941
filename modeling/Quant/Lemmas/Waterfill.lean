import Quant.Lemmas.Sor
import Quant.Pylib.Greedy

/-!
# What the lit waterfilling pours

The quantity each venue gets, as a function of its identifier: the candidates are the lit venues with their usable depths, and the
loop over them leaves a filling with a threshold in their fees.
-/

namespace Quant

open Pylib

namespace SmartOrderRouter

/-- Every venue was given under its own identifier. -/
def OwnKeys (r : SmartOrderRouter) : Prop := ∀ k v, r.venues.get? k = some v → v.venueId = k

/-- Whether a venue is not quarantined at an instant. -/
def activeAt (r : SmartOrderRouter) (vid : String) (nowNs : ℕ) : Bool :=
  ((r.venueHealth.get? vid).map (fun h => (h.isActive nowNs).1)).getD false

/-- The depth of an active venue on the side an order takes, when it is above the tolerance. -/
def usableDepth (r : SmartOrderRouter) (a : Slice) (v : VenueProfile) : Option ℚ :=
  (depthOn a v.venueId).filter (fun d => r.activeAt v.venueId a.nowNs ∧ routingEpsilon < d)

/-- The most a venue can get. -/
def capacity (r : SmartOrderRouter) (a : Slice) (v : VenueProfile) : ℚ := (r.usableDepth a v).getD 0

/-- The total depth of the active lit venues with depth above the tolerance. -/
def totalDepth (r : SmartOrderRouter) (a : Slice) : ℚ := (r.litVenues.map (r.capacity a)).sum

/-- The quantity a venue gets. -/
def quantityAt (orders : Dict String RoutedVenueOrder) (vid : String) : ℚ := (orders.get? vid).elim 0 (fun o => o.quantity)

/-- What an allocation gives the lit venues together. -/
def allocated (r : SmartOrderRouter) (x : String → ℚ) : ℚ := (r.litVenues.map (fun v => x v.venueId)).sum

/-- What an allocation costs in taker fees. -/
def takerCost (r : SmartOrderRouter) (x : String → ℚ) : ℚ := (r.litVenues.map (fun v => x v.venueId * v.takerFeeBps)).sum

theorem routingEpsilon_pos : 0 < routingEpsilon := by
  norm_num [routingEpsilon]

/-! ## Health -/

theorem activeAt_of_get? {r : SmartOrderRouter} {vid : String} {h : VenueHealth}
    (hh : r.venueHealth.get? vid = some h) (now : ℕ) :
    r.activeAt vid now = (h.isActive now).1 := by
  rw [activeAt, hh, Option.map_some, Option.getD_some]

/-- Asked again at the same instant a venue gives the same answer. -/
theorem isActive_isActive (h : VenueHealth) (now : ℕ) : ((h.isActive now).2.isActive now).1 = (h.isActive now).1 := by
  unfold VenueHealth.isActive
  split_ifs <;> simp_all

/-- The same venues, with the same answers about their health at an instant. -/
structure SameAt (now : ℕ) (r r' : SmartOrderRouter) : Prop where
  venues : r'.venues = r.venues
  activeAt : ∀ vid, r'.activeAt vid now = r.activeAt vid now

theorem SameAt.refl (now : ℕ) (r : SmartOrderRouter) : SameAt now r r := ⟨rfl, fun _ => rfl⟩

theorem SameAt.trans {now : ℕ} {r r' r'' : SmartOrderRouter} (h : SameAt now r r') (h' : SameAt now r' r'') : SameAt now r r'' :=
  ⟨h'.venues.trans h.venues, fun vid => (h'.activeAt vid).trans (h.activeAt vid)⟩

theorem SameAt.contains {now : ℕ} {r r' : SmartOrderRouter} (h : SameAt now r r') (vid : String) :
    r'.venueHealth.contains vid = r.venueHealth.contains vid := by
  rw [r'.contains_health, r.contains_health, h.venues]

theorem SameAt.usableDepth {a : Slice} {r r' : SmartOrderRouter} (h : SameAt a.nowNs r r') (v : VenueProfile) :
    r'.usableDepth a v = r.usableDepth a v := by
  rw [SmartOrderRouter.usableDepth, SmartOrderRouter.usableDepth, h.activeAt]

/-- A question changes no answer at its instant. -/
theorem sameAt_of_venueActive {r r' : SmartOrderRouter} {vid : String} {now : ℕ} {res : Except Exc Bool}
    (h : r.venueActive vid now = (res, r')) : SameAt now r r' := by
  unfold venueActive at h
  split at h
  · cases h
    exact SameAt.refl now r
  · rename_i health hk
    cases h
    refine ⟨rfl, fun vid' => ?_⟩
    by_cases hvid : vid' = vid
    · subst hvid
      rw [activeAt_of_get? (Dict.get?_set_self _ _ _), activeAt_of_get? hk, isActive_isActive]
    · simp only [activeAt, setHealth, Dict.get?_set_of_ne _ _ hvid]

/-- A venue the router knows has its health there. -/
theorem exists_venueActive (r : SmartOrderRouter) {vid : String} (hk : r.venueHealth.contains vid = true) (now : ℕ) :
    ∃ r', r.venueActive vid now = (.ok (r.activeAt vid now), r') := by
  obtain ⟨h, hh⟩ := Option.isSome_iff_exists.1 hk
  unfold venueActive
  split
  · rename_i hnone
    rw [hh] at hnone
    cases hnone
  · rename_i h' hh'
    rw [activeAt_of_get? hh' now]
    exact ⟨_, rfl⟩

/-- Of a venue it does not know there is none. -/
theorem venueActive_of_unknown {r : SmartOrderRouter} {vid : String} (hk : r.venueHealth.contains vid = false) (now : ℕ) :
    r.venueActive vid now = (.error ⟨.keyError, "%", [.str vid]⟩, r) := by
  unfold venueActive
  split
  · rfl
  · rename_i h hh
    rw [Dict.contains, hh] at hk
    cases hk

/-! ## Candidates -/

/-- The candidates are the venues with usable depth, in their order. -/
theorem litCandidates_eq {a : Slice} {vs : List VenueProfile} {r : SmartOrderRouter}
    (hknown : ∀ v ∈ vs, r.venueHealth.contains v.venueId = true) :
    ∃ r', litCandidates a vs r = (.ok (vs.filterMap (fun v => (r.usableDepth a v).map (fun d => (v, d)))), r') := by
  induction vs generalizing r with
  | nil => exact ⟨r, rfl⟩
  | cons v vs ih =>
    obtain ⟨r₁, h₁⟩ := r.exists_venueActive (hknown v List.mem_cons_self) a.nowNs
    have hsame := sameAt_of_venueActive h₁
    obtain ⟨r₂, h₂⟩ := ih (fun w hw => (hsame.contains w.venueId).trans (hknown w (List.mem_cons_of_mem _ hw)))
    simp only [hsame.usableDepth] at h₂
    refine ⟨r₂, ?_⟩
    rw [litCandidates, h₁]
    simp only [h₂]
    cases hu : r.usableDepth a v with
    | none =>
      rw [List.filterMap_cons_none (by rw [hu, Option.map_none])]
      rw [usableDepth] at hu
      rw [hu]
    | some d =>
      rw [List.filterMap_cons_some (by rw [hu, Option.map_some])]
      rw [usableDepth] at hu
      rw [hu]

/-! ## The loop -/

theorem quantityAt_of_get? {orders : Dict String RoutedVenueOrder} {vid : String} {o : RoutedVenueOrder}
    (h : orders.get? vid = some o) : quantityAt orders vid = o.quantity := by
  rw [quantityAt, h, Option.elim_some]

theorem quantityAt_of_none {orders : Dict String RoutedVenueOrder} {vid : String} (h : orders.get? vid = none) :
    quantityAt orders vid = 0 := by
  rw [quantityAt, h, Option.elim_none]

/-- What the candidates got together. -/
def poured (cs : List (VenueProfile × ℚ)) (orders : Dict String RoutedVenueOrder) : ℚ :=
  (cs.map (fun c => quantityAt orders c.1.venueId)).sum

/-- What the loop over some candidates leaves. -/
structure Poured (cs : List (VenueProfile × ℚ)) (orders : Dict String RoutedVenueOrder) (rem : ℚ)
    (orders' : Dict String RoutedVenueOrder) (rem' : ℚ) : Prop where
  nonneg : 0 ≤ rem'
  total : poured cs orders' + rem' = rem
  bounded : ∀ c ∈ cs, quantityAt orders' c.1.venueId ≤ c.2
  ends : rem' ≤ routingEpsilon ∨ ∀ c ∈ cs, quantityAt orders' c.1.venueId = c.2
  others : ∀ k, (∀ c ∈ cs, c.1.venueId ≠ k) → orders'.get? k = orders.get? k
  threshold : ∃ φ, Threshold cs (fun c => c.1.takerFeeBps) (fun c => c.2) (fun c => quantityAt orders' c.1.venueId) φ

/-- Candidates in the order of their fees, with usable depths, and without orders so far. -/
structure Pourable (cs : List (VenueProfile × ℚ)) (orders : Dict String RoutedVenueOrder) : Prop where
  nodup : (cs.map (fun c => c.1.venueId)).Nodup
  sorted : cs.Pairwise (fun c c' => c.1.takerFeeBps ≤ c'.1.takerFeeBps)
  usable : ∀ c ∈ cs, strip c.1.venueId ≠ "" ∧ routingEpsilon < c.2
  fresh : ∀ c ∈ cs, orders.get? c.1.venueId = none

/-- Once the rest is within the tolerance the loop stops. -/
theorem waterfill_of_le (a : Slice) (cs : List (VenueProfile × ℚ)) {rem : ℚ} (orders : Dict String RoutedVenueOrder)
    (h : rem ≤ routingEpsilon) : waterfill a cs rem orders = .ok (orders, rem) := by
  cases cs with
  | nil => rfl
  | cons c cs => rw [waterfill, if_pos h]

theorem quantityAt_nonneg (orders : Dict String RoutedVenueOrder) (vid : String) : 0 ≤ quantityAt orders vid := by
  unfold quantityAt
  cases orders.get? vid with
  | none => exact le_refl 0
  | some o => exact o.quantity_pos.le

theorem quantityAt_le_poured {cs : List (VenueProfile × ℚ)} {c : VenueProfile × ℚ} (hc : c ∈ cs)
    (orders : Dict String RoutedVenueOrder) : quantityAt orders c.1.venueId ≤ poured cs orders := by
  refine List.single_le_sum (fun x hx => ?_) _ (List.mem_map_of_mem hc)
  obtain ⟨c', -, rfl⟩ := List.mem_map.1 hx
  exact quantityAt_nonneg orders _

theorem poured_nonneg (cs : List (VenueProfile × ℚ)) (orders : Dict String RoutedVenueOrder) : 0 ≤ poured cs orders := by
  refine List.sum_nonneg fun x hx => ?_
  obtain ⟨c, -, rfl⟩ := List.mem_map.1 hx
  exact quantityAt_nonneg orders _

theorem poured_eq_zero {cs : List (VenueProfile × ℚ)} {orders : Dict String RoutedVenueOrder}
    (h : ∀ c ∈ cs, orders.get? c.1.venueId = none) : poured cs orders = 0 := by
  refine List.sum_eq_zero fun x hx => ?_
  obtain ⟨c, hc, rfl⟩ := List.mem_map.1 hx
  exact quantityAt_of_none (h c hc)

/-- Candidates that get nothing. -/
theorem Pourable.stopped {cs : List (VenueProfile × ℚ)} {orders : Dict String RoutedVenueOrder} {rem : ℚ}
    (h : Pourable cs orders) (hnonneg : 0 ≤ rem) (hrem : rem ≤ routingEpsilon) : Poured cs orders rem orders rem := by
  have hzero : ∀ c ∈ cs, quantityAt orders c.1.venueId = 0 := fun c hc => quantityAt_of_none (h.fresh c hc)
  refine ⟨hnonneg, by rw [poured_eq_zero h.fresh, zero_add], fun c hc => ?_, .inl hrem, fun _ _ => rfl, ?_⟩
  · rw [hzero c hc]
    exact (routingEpsilon_pos.trans (h.usable c hc).2).le
  · cases cs with
    | nil => exact ⟨0, Threshold.nil _ _ _ _⟩
    | cons c cs =>
      exact ⟨_, Threshold.cons_empty (List.pairwise_cons.1 h.sorted).1 (fun c' hc' => hzero c' (List.mem_cons_of_mem _ hc'))⟩

/-- After an order to the first candidate the others are as they were. -/
theorem Pourable.tail {c : VenueProfile × ℚ} {cs : List (VenueProfile × ℚ)} {orders : Dict String RoutedVenueOrder}
    (h : Pourable (c :: cs) orders) (o : RoutedVenueOrder) : Pourable cs (orders.set c.1.venueId o) := by
  have hnodup := h.nodup
  rw [List.map_cons, List.nodup_cons] at hnodup
  refine ⟨hnodup.2, (List.pairwise_cons.1 h.sorted).2, fun c' hc' => h.usable c' (List.mem_cons_of_mem _ hc'), fun c' hc' => ?_⟩
  have hne : c'.1.venueId ≠ c.1.venueId := fun he => hnodup.1 (he ▸ List.mem_map_of_mem hc')
  rw [Dict.get?_set_of_ne _ _ hne]
  exact h.fresh c' (List.mem_cons_of_mem _ hc')

/-- The loop after an order to the first candidate: a filled one, or one that takes the rest. -/
theorem Poured.cons {c : VenueProfile × ℚ} {cs : List (VenueProfile × ℚ)} {orders orders' : Dict String RoutedVenueOrder}
    {rem rem' : ℚ} {o : RoutedVenueOrder} (hc : Pourable (c :: cs) orders) (ho : o.quantity = min rem c.2)
    (h : Poured cs (orders.set c.1.venueId o) (rem - min rem c.2) orders' rem') : Poured (c :: cs) orders rem orders' rem' := by
  have hnodup := hc.nodup
  rw [List.map_cons, List.nodup_cons] at hnodup
  have hother : ∀ c' ∈ cs, c'.1.venueId ≠ c.1.venueId := fun c' hc' he => hnodup.1 (he ▸ List.mem_map_of_mem hc')
  have hhead : quantityAt orders' c.1.venueId = min rem c.2 := by
    rw [quantityAt_of_get? ((h.others _ hother).trans (Dict.get?_set_self _ _ _)), ho]
  have htotal := h.total
  have hle := (List.pairwise_cons.1 hc.sorted).1
  have hnonneg := h.nonneg
  have hpoured := poured_nonneg cs orders'
  constructor
  case nonneg => exact hnonneg
  case total =>
    rw [poured, List.map_cons, List.sum_cons, hhead]
    rw [poured] at htotal
    linarith
  case bounded =>
    intro c' hc'
    obtain rfl | hc' := List.mem_cons.1 hc'
    · rw [hhead]
      exact min_le_right _ _
    · exact h.bounded c' hc'
  case ends =>
    obtain hlt | hge := lt_or_ge rem c.2
    · -- the first candidate takes the rest
      rw [min_eq_left hlt.le, sub_self] at htotal
      exact .inl (by linarith [routingEpsilon_pos])
    · refine h.ends.imp id fun hfull c' hc' => ?_
      obtain rfl | hc' := List.mem_cons.1 hc'
      · rw [hhead, min_eq_right hge]
      · exact hfull c' hc'
  case others =>
    intro k hk
    rw [h.others k (fun c' hc' => hk c' (List.mem_cons_of_mem _ hc'))]
    exact Dict.get?_set_of_ne _ _ (hk c List.mem_cons_self).symm
  case threshold =>
    obtain hlt | hge := lt_or_ge rem c.2
    · rw [min_eq_left hlt.le, sub_self] at htotal
      refine ⟨_, Threshold.cons_empty hle fun c' hc' => le_antisymm ?_ (quantityAt_nonneg _ _)⟩
      linarith [quantityAt_le_poured hc' orders']
    · obtain ⟨φ, hφ⟩ := h.threshold
      exact ⟨_, hφ.cons_full hle (by rw [hhead, min_eq_right hge])⟩

theorem targetPrice_pos (a : Slice) : 0 < targetPrice a := by
  unfold targetPrice
  split
  · exact a.quote.askPrice_pos
  · exact a.quote.bidPrice_pos

/-- The loop never raises, and pours what it can. -/
theorem waterfill_poured {a : Slice} (hsym : strip a.symbol ≠ "") {cs : List (VenueProfile × ℚ)} {rem : ℚ}
    {orders : Dict String RoutedVenueOrder} (h : Pourable cs orders) (hrem : 0 ≤ rem) :
    ∃ orders' rem', waterfill a cs rem orders = .ok (orders', rem') ∧ Poured cs orders rem orders' rem' := by
  induction cs generalizing rem orders with
  | nil =>
    refine ⟨orders, rem, rfl, hrem, by simp [poured], ?_, .inr ?_, fun _ _ => rfl, 0, Threshold.nil _ _ _ _⟩ <;>
      (intro c hc; cases hc)
  | cons c cs ih =>
    by_cases hstop : rem ≤ routingEpsilon
    · exact ⟨orders, rem, waterfill_of_le a _ orders hstop, h.stopped hrem hstop⟩
    · obtain ⟨hid, hdepth⟩ := h.usable c List.mem_cons_self
      have hfill : routingEpsilon < min rem c.2 := lt_min (not_le.1 hstop) hdepth
      obtain ⟨o, ho⟩ := RoutedFields.exists_create (o := litLeg a c.1 (min rem c.2)) hid hsym
        (routingEpsilon_pos.trans hfill) (targetPrice_pos a)
      have hq : o.quantity = min rem c.2 := congrArg RoutedFields.quantity (RoutedFields.create_ok ho)
      obtain ⟨orders', rem', hrun, hpoured⟩ := ih (h.tail o) (sub_nonneg.2 (min_le_left rem c.2))
      refine ⟨orders', rem', ?_, hpoured.cons h hq⟩
      rw [waterfill, if_neg hstop, if_neg (not_le.2 hfill), ho]
      exact hrun

/-! ## From the candidates to the venues -/

/-- The candidates with their depths. -/
def candidates (r : SmartOrderRouter) (a : Slice) : List (VenueProfile × ℚ) :=
  r.litVenues.filterMap (fun v => (r.usableDepth a v).map (fun d => (v, d)))

theorem mem_candidates {r : SmartOrderRouter} {a : Slice} {v : VenueProfile} {d : ℚ} :
    (v, d) ∈ r.candidates a ↔ v ∈ r.litVenues ∧ r.usableDepth a v = some d := by
  simp only [candidates, List.mem_filterMap, Option.map_eq_some_iff, Prod.mk.injEq]
  constructor
  · rintro ⟨w, hw, d', hd', rfl, rfl⟩
    exact ⟨hw, hd'⟩
  · rintro ⟨hv, hd⟩
    exact ⟨v, hv, d, hd, rfl, rfl⟩

/-- What a usable depth is. -/
theorem usableDepth_eq_some {r : SmartOrderRouter} {a : Slice} {v : VenueProfile} {d : ℚ} (h : r.usableDepth a v = some d) :
    depthOn a v.venueId = some d ∧ r.activeAt v.venueId a.nowNs = true ∧ routingEpsilon < d := by
  rw [usableDepth, Option.filter_eq_some_iff] at h
  simpa using h

/-- A sum over the candidates is a sum over the venues of what counts for nothing where there is no depth. -/
theorem sum_candidates (r : SmartOrderRouter) (a : Slice) (f : VenueProfile × ℚ → ℚ) :
    ((r.candidates a).map f).sum = (r.litVenues.map (fun v => (r.usableDepth a v).elim 0 (fun d => f (v, d)))).sum := by
  unfold candidates
  induction r.litVenues with
  | nil => rfl
  | cons v vs ih =>
    cases hu : r.usableDepth a v with
    | none =>
      rw [List.filterMap_cons_none (by rw [hu, Option.map_none]), ih]
      simp [hu]
    | some d =>
      rw [List.filterMap_cons_some (by rw [hu, Option.map_some]), List.map_cons, List.sum_cons, ih]
      simp [hu]

theorem sum_depths (r : SmartOrderRouter) (a : Slice) : ((r.candidates a).map (fun c => c.2)).sum = r.totalDepth a := by
  rw [sum_candidates, totalDepth]
  refine congrArg List.sum (List.map_congr_left fun v _ => ?_)
  rw [capacity]
  cases r.usableDepth a v <;> rfl

/-- No two lit venues have the same identifier. -/
theorem OwnKeys.nodup {r : SmartOrderRouter} (h : r.OwnKeys) : (r.litVenues.map (fun v => v.venueId)).Nodup := by
  refine List.Nodup.sublist (List.filter_sublist.map _) ?_
  have hkeys : r.venues.values.map (fun v => v.venueId) = r.venues.keys := by
    rw [Dict.values, Dict.keys, List.map_map]
    exact List.map_congr_left fun p hp => h p.1 p.2 ((Dict.mem_items_iff r.venues p.1 p.2).1 hp)
  rw [hkeys]
  exact r.venues.nodup

theorem OwnKeys.contains {r : SmartOrderRouter} (h : r.OwnKeys) {v : VenueProfile} (hv : v ∈ r.litVenues) :
    r.venues.contains v.venueId = true := by
  obtain ⟨k, hk⟩ := (Dict.mem_values_iff r.venues v).1 (List.mem_filter.1 hv).1
  rw [h k v hk, Dict.contains, hk, Option.isSome_some]

/-- The candidates are some of the lit venues. -/
theorem candidates_sublist (r : SmartOrderRouter) (a : Slice) : ((r.candidates a).map (fun c => c.1)).Sublist r.litVenues := by
  unfold candidates
  induction r.litVenues with
  | nil => exact List.Sublist.refl _
  | cons v vs ih =>
    cases hu : r.usableDepth a v with
    | none =>
      rw [List.filterMap_cons_none (by rw [hu, Option.map_none])]
      exact ih.cons v
    | some d =>
      rw [List.filterMap_cons_some (by rw [hu, Option.map_some])]
      exact ih.cons_cons v

theorem fee_le_of_litRank_le {v w : VenueProfile} (h : litRank v ≤ litRank w) : v.takerFeeBps ≤ w.takerFeeBps := by
  obtain hlt | ⟨heq, -⟩ := Prod.Lex.le_iff.1 h
  · exact le_of_lt hlt
  · exact le_of_eq heq

/-- The order of the loop. -/
def ranked (cs : List (VenueProfile × ℚ)) : List (VenueProfile × ℚ) := cs.insertionSort (fun c d => litRank c.1 ≤ litRank d.1)

theorem ranked_perm (cs : List (VenueProfile × ℚ)) : (ranked cs).Perm cs := List.perm_insertionSort _ cs

theorem ranked_sorted (cs : List (VenueProfile × ℚ)) :
    (ranked cs).Pairwise (fun c c' => c.1.takerFeeBps ≤ c'.1.takerFeeBps) := by
  have htotal : Std.Total (fun c d : VenueProfile × ℚ => litRank c.1 ≤ litRank d.1) := ⟨fun c d => le_total _ _⟩
  have htrans : IsTrans (VenueProfile × ℚ) (fun c d => litRank c.1 ≤ litRank d.1) := ⟨fun _ _ _ => le_trans⟩
  exact (List.pairwise_insertionSort _ cs).imp fun h => fee_le_of_litRank_le h

/-- The candidates in the order of the loop are ready for it. -/
theorem pourable_candidates {r : SmartOrderRouter} (h : r.OwnKeys) (a : Slice) : Pourable (ranked (r.candidates a)) ∅ := by
  have hperm := ranked_perm (r.candidates a)
  refine ⟨?_, ranked_sorted _, ?_, fun c hc => Dict.get?_empty _⟩
  · have hids := h.nodup.sublist ((candidates_sublist r a).map (fun v => v.venueId))
    rw [List.map_map] at hids
    exact ((hperm.map _).nodup_iff).2 hids
  · intro c hc
    obtain ⟨hv, hu⟩ := mem_candidates.1 (hperm.mem_iff.1 hc)
    exact ⟨r.venues_key_ne _ ((Dict.mem_keys_iff _ _).2 (h.contains hv)), (usableDepth_eq_some hu).2.2⟩

end SmartOrderRouter

end Quant
