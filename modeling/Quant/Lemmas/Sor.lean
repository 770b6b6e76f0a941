import Mathlib.Algebra.BigOperators.Group.List.Basic
import Mathlib.Tactic.Linarith
import Quant.Execution.Sor

/-!
# What the router allocates and what a slice does next

Allocations by their totals: a waterfilling never gives out more than it was asked for, and one that succeeds gives out at least
one order above the tolerance. After them, the outcomes of the three stretches of `route_slice`.
-/

namespace Quant

open Pylib

namespace SmartOrderRouter

/-! ## Constructors that accept -/

theorem RoutedFields.exists_create {o : RoutedFields} (h1 : strip o.venueId ≠ "") (h2 : strip o.symbol ≠ "")
    (h3 : 0 < o.quantity) (h4 : 0 < o.price) : ∃ o', o.create = .ok o' := by
  unfold RoutedFields.create
  rw [dif_neg h1, dif_neg h2, dif_neg (not_le.2 h3), dif_neg (not_le.2 h4)]
  exact ⟨_, rfl⟩

theorem RoutedFields.create_ok {o : RoutedFields} {o' : RoutedVenueOrder} (h : o.create = .ok o') :
    o'.toRoutedFields = o := by
  unfold RoutedFields.create at h
  iterate 4 obtain ⟨_, h⟩ := of_check_ok h
  rw [← Except.ok.inj h]

/-- The identifier of a child order is never empty. -/
theorem childOrder_clOrdId_ne (a : SliceCall) (kind : String) (n : ℕ) (o : RoutedVenueOrder) :
    (childOrder a kind n o).clOrdId ≠ "" := by
  simp [childOrder, String.ext_iff]

/-- The child order for an instruction is one its constructor accepts. -/
theorem exists_childOrder {a : SliceCall} (ha : strip a.symbol ≠ "") (kind : String) (n : ℕ) (o : RoutedVenueOrder) :
    ∃ child, (childOrder a kind n o).create = .ok child := by
  refine OrderFields.exists_create _ (childOrder_clOrdId_ne a kind n o) (ne_empty_of_strip_ne ha) o.quantity_pos ?_ rfl rfl
    rfl rfl rfl
  intro p hp
  cases hp
  exact o.price_pos

/-! ## Totals -/

/-- The quantity of a list of instructions. -/
def legTotal (os : List RoutedVenueOrder) : ℚ := (os.map (fun o => o.quantity)).sum

@[simp]
theorem legTotal_nil : legTotal [] = 0 := rfl

@[simp]
theorem legTotal_cons (o : RoutedVenueOrder) (os : List RoutedVenueOrder) : legTotal (o :: os) = o.quantity + legTotal os := by
  simp [legTotal]

theorem legTotal_nonneg (os : List RoutedVenueOrder) : 0 ≤ legTotal os := by
  induction os with
  | nil => exact le_rfl
  | cons o os ih =>
    rw [legTotal_cons]
    exact add_nonneg o.quantity_pos.le ih

theorem legTotal_values (d : Dict String RoutedVenueOrder) : legTotal d.values = d.sum fun _ o => o.quantity := by
  rw [legTotal, Dict.values, List.map_map]
  rfl

/-- Setting a venue's order adds at most its quantity: an order that was there is replaced. -/
theorem legTotal_set_le (d : Dict String RoutedVenueOrder) (k : String) (o : RoutedVenueOrder) :
    legTotal (d.set k o).values ≤ legTotal d.values + o.quantity := by
  have hset := d.sum_set (f := fun _ o => o.quantity) k o
  have hreplaced : 0 ≤ (d.get? k).elim 0 fun o => o.quantity := by
    cases d.get? k with
    | none => exact le_rfl
    | some o' => exact o'.quantity_pos.le
  rw [legTotal_values, legTotal_values]
  linarith

theorem values_set_ne (d : Dict String RoutedVenueOrder) (k : String) (o : RoutedVenueOrder) : (d.set k o).values ≠ [] := by
  intro h
  have hmem : o ∈ (d.set k o).values := (Dict.mem_values_iff _ o).2 ⟨k, Dict.get?_set_self d k o⟩
  rw [h] at hmem
  cases hmem

theorem mem_values_set {d : Dict String RoutedVenueOrder} {k : String} {o o' : RoutedVenueOrder}
    (h : o' ∈ (d.set k o).values) : o' = o ∨ o' ∈ d.values := by
  obtain ⟨k', hk'⟩ := (Dict.mem_values_iff _ o').1 h
  rw [Dict.get?_set] at hk'
  split at hk'
  · exact .inl (Option.some.inj hk').symm
  · exact .inr ((Dict.mem_values_iff _ o').2 ⟨k', hk'⟩)

/-! ## Waterfilling -/

/-- An instruction of a waterfilling: the leg of some venue, above the tolerance. -/
def IsLeg (a : Slice) (o : RoutedVenueOrder) : Prop :=
  routingEpsilon < o.quantity ∧ ∃ v, o.toRoutedFields = litLeg a v o.quantity

/-- What a waterfilling leaves of the quantity is not negative, what it gives out is no more than it takes from the quantity, what
it adds are legs, and without an order nothing is taken. -/
structure Filled (a : Slice) (orders : Dict String RoutedVenueOrder) (rem : ℚ) (orders' : Dict String RoutedVenueOrder)
    (rem' : ℚ) : Prop where
  nonneg : 0 ≤ rem'
  total : legTotal orders'.values + rem' ≤ legTotal orders.values + rem
  legs : ∀ o ∈ orders'.values, o ∈ orders.values ∨ IsLeg a o
  taken : orders'.values = [] → orders.values = [] ∧ rem' = rem

theorem Filled.refl (a : Slice) (orders : Dict String RoutedVenueOrder) {rem : ℚ} (hrem : 0 ≤ rem) :
    Filled a orders rem orders rem :=
  ⟨hrem, le_rfl, fun _ ho => .inl ho, fun h => ⟨h, rfl⟩⟩

theorem waterfill_filled {a : Slice} {cs : List (VenueProfile × ℚ)} {rem rem' : ℚ}
    {orders orders' : Dict String RoutedVenueOrder} (h : waterfill a cs rem orders = .ok (orders', rem')) (hrem : 0 ≤ rem) :
    Filled a orders rem orders' rem' := by
  induction cs generalizing rem orders with
  | nil =>
    cases h
    exact Filled.refl a _ hrem
  | cons c cs ih =>
    obtain ⟨v, depth⟩ := c
    unfold waterfill at h
    split at h
    · cases h
      exact Filled.refl a _ hrem
    · split at h
      · exact ih h hrem
      · rename_i hbig
        cases hc : (litLeg a v (min rem depth)).create with
        | error exc =>
          rw [hc] at h
          cases h
        | ok o =>
          rw [hc] at h
          have hfields := RoutedFields.create_ok hc
          have ho : o.quantity = min rem depth := congrArg RoutedFields.quantity hfields
          have hrec := ih h (sub_nonneg.2 (min_le_left rem depth))
          have htot := legTotal_set_le orders v.venueId o
          refine ⟨hrec.nonneg, ?_, fun o' ho' => ?_, fun hnil => ?_⟩
          · have := hrec.total
            linarith
          · rcases hrec.legs o' ho' with hold | hleg
            · rcases mem_values_set hold with rfl | hold
              · exact .inr ⟨ho ▸ not_le.1 hbig, v, ho ▸ hfields⟩
              · exact .inl hold
            · exact .inr hleg
          · exact absurd (hrec.taken hnil).1 (values_set_ne orders v.venueId o)

/-! ## Allocations -/

/-- What a lit allocation gives out comes from one waterfilling. -/
theorem litAllocation_ok {r r' : SmartOrderRouter} {a : Slice} {part : Bool} {orders : Dict String RoutedVenueOrder}
    (h : r.litAllocation a part = (.ok orders, r')) (hq : 0 ≤ a.quantity) :
    (part = true ∧ orders = ∅) ∨
      ∃ rem, Filled a ∅ a.quantity orders rem ∧ (part = true ∨ rem ≤ routingEpsilon) := by
  unfold litAllocation at h
  split at h
  · cases part with
    | false => simp at h
    | true =>
      cases h
      exact .inl ⟨rfl, rfl⟩
  · split at h
    · simp at h
    · split at h
      · cases part with
        | false => simp at h
        | true =>
        cases h
        exact .inl ⟨rfl, rfl⟩
      · split at h
        · simp at h
        · rename_i orders' rem hw
          split at h
          · simp at h
          · rename_i hrem
            obtain ⟨rfl, -⟩ : orders' = orders ∧ _ := by simpa using h
            refine .inr ⟨rem, waterfill_filled hw hq, ?_⟩
            cases part with
            | true => exact .inl rfl
            | false => exact .inr (by simpa using hrem)

theorem litAllocation_legs {r r' : SmartOrderRouter} {a : Slice} {part : Bool} {orders : Dict String RoutedVenueOrder}
    (h : r.litAllocation a part = (.ok orders, r')) (hq : 0 ≤ a.quantity) : ∀ o ∈ orders.values, IsLeg a o := by
  intro o ho
  rcases litAllocation_ok h hq with ⟨-, rfl⟩ | ⟨rem, hfill, -⟩
  · cases ho
  · exact (hfill.legs o ho).resolve_left (fun h => by cases h)

/-- A lit allocation that must cover its quantity starts with a leg, and gives out no more than the quantity. -/
theorem litAllocation_covers {r r' : SmartOrderRouter} {a : Slice} {orders : Dict String RoutedVenueOrder}
    (h : r.litAllocation a false = (.ok orders, r')) (hq : routingEpsilon < a.quantity) :
    ∃ o rest, orders.values = o :: rest ∧ o.quantity + legTotal rest ≤ a.quantity := by
  have hpos : 0 ≤ a.quantity := le_of_lt (lt_trans (by norm_num [routingEpsilon]) hq)
  rcases litAllocation_ok h hpos with ⟨hpart, -⟩ | ⟨rem, hfill, hpart | hrem⟩
  · cases hpart
  · cases hpart
  · have htot := hfill.total
    have hnn := hfill.nonneg
    have h0 : legTotal (∅ : Dict String RoutedVenueOrder).values = 0 := rfl
    cases hv : orders.values with
    | nil =>
      have := (hfill.taken hv).2
      linarith
    | cons o rest =>
      refine ⟨o, rest, rfl, ?_⟩
      rw [hv, legTotal_cons] at htot
      linarith

/-- An allocation was made only for arguments that pass the checks. -/
theorem sliceFault_of_allocation {r r' : SmartOrderRouter} {a : Slice} {dark part : Bool}
    {orders : Dict String RoutedVenueOrder} (h : r.computeRoutingAllocation a dark part = (.ok orders, r')) :
    sliceFault a = none := by
  unfold computeRoutingAllocation at h
  split at h
  · simp at h
  · rename_i hfault
    exact hfault

theorem sliceFault_of_fst {r : SmartOrderRouter} {a : Slice} {dark part : Bool} {orders : Dict String RoutedVenueOrder}
    (h : (r.computeRoutingAllocation a dark part).1 = .ok orders) : sliceFault a = none := by
  cases hc : r.computeRoutingAllocation a dark part with
  | mk res r' =>
    rw [hc] at h
    obtain rfl : res = .ok orders := h
    exact sliceFault_of_allocation hc

theorem symbol_of_sliceFault {a : Slice} (h : sliceFault a = none) : strip a.symbol ≠ "" := by
  unfold sliceFault at h
  split at h
  · cases h
  · assumption

theorem quantity_of_sliceFault {a : Slice} (h : sliceFault a = none) : 0 < a.quantity := by
  unfold sliceFault at h
  repeat' split at h
  all_goals simp_all

/-! ## The stretches of a slice -/

/-- The lit venues cover a residual quantity. -/
def LitCovers (r : SmartOrderRouter) (a : Slice) (unfilled : ℚ) : Prop :=
  (r.computeRoutingAllocation (a.withQuantity unfilled) false false).1.isOk = true

theorem nextLeg_cons {a : SliceCall} (ha : strip a.symbol ≠ "") (reports : List ExecutionReport) (sent : ℕ)
    (o : RoutedVenueOrder) (rest : List RoutedVenueOrder) :
    ∃ child, nextLeg a reports sent (o :: rest) = .litSubmit o.venueId child rest (sent + 1) reports ∧
      child.toOrderFields = childOrder a "lit" (sent + 1) o := by
  obtain ⟨child, hc⟩ := exists_childOrder ha "lit" (sent + 1) o
  exact ⟨child, by simp only [nextLeg, hc], OrderFields.create_ok hc⟩

/-- The lit phase of a residual the venues cover: the legs are above the tolerance and within the residual, and the first one is
submitted. -/
theorem litPhase_of_covers {r : SmartOrderRouter} {a : SliceCall} {unfilled : ℚ} (hu : routingEpsilon < unfilled)
    (hc : LitCovers r a.toSlice unfilled) (reports : List ExecutionReport) :
    ∃ o rest child r', r.litPhase a unfilled reports = (.litSubmit o.venueId child rest 1 reports, r') ∧
      child.toOrderFields = childOrder a "lit" 1 o ∧ o.quantity + legTotal rest ≤ unfilled ∧
      ∀ o' ∈ o :: rest, IsLeg (a.toSlice.withQuantity unfilled) o' := by
  obtain ⟨orders, r', heq⟩ : ∃ orders r', r.computeRoutingAllocation (a.toSlice.withQuantity unfilled) false false =
      (.ok orders, r') := by
    unfold LitCovers at hc
    cases hres : r.computeRoutingAllocation (a.toSlice.withQuantity unfilled) false false with
    | mk res r' =>
      cases res with
      | error exc =>
        rw [hres] at hc
        cases hc
      | ok orders => exact ⟨orders, r', rfl⟩
  have hsf := sliceFault_of_allocation heq
  have hlit := heq
  simp only [computeRoutingAllocation, hsf, Bool.false_eq_true, not_false_eq_true, if_true] at hlit
  obtain ⟨o, rest, hv, htot⟩ := litAllocation_covers hlit hu
  have hlegs := litAllocation_legs hlit (quantity_of_sliceFault hsf).le
  obtain ⟨child, hleg, hchild⟩ :=
    nextLeg_cons (a := a) (symbol_of_sliceFault (a := a.toSlice.withQuantity unfilled) hsf) reports 0 o rest
  refine ⟨o, rest, child, r', ?_, hchild, htot, fun o' ho' => hlegs o' (hv ▸ ho')⟩
  unfold litPhase
  rw [if_neg (not_le.2 hu), heq]
  simp only [hv, hleg]

/-- The lit phase of anything else ends the slice. -/
theorem litPhase_done {r : SmartOrderRouter} {a : SliceCall} {unfilled : ℚ}
    (h : ¬ (routingEpsilon < unfilled ∧ LitCovers r a.toSlice unfilled)) (reports : List ExecutionReport) :
    ∃ result r', r.litPhase a unfilled reports = (.done result, r') := by
  unfold litPhase
  split
  · exact ⟨_, _, rfl⟩
  · rename_i hu
    cases hc : r.computeRoutingAllocation (a.toSlice.withQuantity unfilled) false false with
    | mk res r' =>
      cases res with
      | error exc => exact ⟨_, _, rfl⟩
      | ok orders => exact absurd ⟨not_le.1 hu, by rw [LitCovers, hc]; rfl⟩ h

/-! ## The dark probe -/

/-- The dark pool a slice probes first, with the router that the questions about health leave. -/
def darkChoice (r : SmartOrderRouter) (a : Slice) : Option (VenueProfile × SmartOrderRouter) :=
  match sliceFault a, eligibleDark a.quantity a.nowNs r.darkVenues r with
  | none, (.ok eligible, r') => (bestDark eligible).map (fun v => (v, r'))
  | _, _ => none

/-- A venue whose health was found is one of the router's, so its identifier is not blank. -/
theorem venueActive_ok {r r' : SmartOrderRouter} {vid : String} {now : ℕ} {active : Bool}
    (h : r.venueActive vid now = (.ok active, r')) : strip vid ≠ "" := by
  unfold venueActive at h
  split at h
  · simp at h
  · rename_i hk
    refine r.venues_key_ne vid ((Dict.mem_keys_iff _ _).2 ?_)
    rw [← r.contains_health, Dict.contains, hk, Option.isSome_some]

theorem eligibleDark_ok {q : ℚ} {now : ℕ} {vs : List VenueProfile} {r r' : SmartOrderRouter} {eligible : List VenueProfile}
    (h : eligibleDark q now vs r = (.ok eligible, r')) : ∀ v ∈ eligible, strip v.venueId ≠ "" := by
  induction vs generalizing r eligible with
  | nil =>
    cases h
    intro v hv
    cases hv
  | cons v vs ih =>
    unfold eligibleDark at h
    split at h
    · simp at h
    · rename_i active r₁ hv
      split at h
      · simp at h
      · rename_i rest r₂ hrec
        obtain ⟨rfl, rfl⟩ : _ = eligible ∧ r₂ = r' := by simpa using h
        intro w hw
        split at hw
        · rcases List.mem_cons.1 hw with rfl | hw
          · exact venueActive_ok hv
          · exact ih hrec w hw
        · exact ih hrec w hw

theorem bestDark_mem {vs : List VenueProfile} {v : VenueProfile} (h : bestDark vs = some v) : v ∈ vs :=
  (List.perm_insertionSort _ vs).mem_iff.1 (List.mem_of_mem_head? h)

/-- A connected slice with a dark pool to probe submits the whole quantity there. -/
theorem routeSlice_dark {r r' : SmartOrderRouter} {a : SliceCall} {v : VenueProfile} (hd : a.enableDark = true)
    (hc : darkChoice r a.toSlice = some (v, r')) :
    ∃ child, r.routeSlice a true = (.darkSubmit v.venueId child, r') ∧ child.quantity = a.quantity := by
  unfold darkChoice at hc
  split at hc
  · rename_i eligible r₁ hsf hel
    cases hb : bestDark eligible with
    | none =>
      rw [hb] at hc
      cases hc
    | some w =>
      rw [hb] at hc
      obtain ⟨rfl, rfl⟩ : w = v ∧ r₁ = r' := by simpa using hc
      have hid : strip (darkProbe a.toSlice w).venueId ≠ "" := eligibleDark_ok hel w (bestDark_mem hb)
      obtain ⟨o, ho⟩ := RoutedFields.exists_create hid (symbol_of_sliceFault hsf) (quantity_of_sliceFault hsf)
        a.quote.midpoint_pos
      have hof := RoutedFields.create_ok ho
      obtain ⟨child, hchild⟩ := exists_childOrder (a := a) (symbol_of_sliceFault hsf) "dark" 0 o
      have hval : (Dict.set ∅ w.venueId o).values = [o] := rfl
      have hisDark : o.isDark = true := congrArg RoutedFields.isDark hof
      have hvid : o.venueId = w.venueId := congrArg RoutedFields.venueId hof
      refine ⟨child, ?_, ?_⟩
      · have hfil : Option.filter (fun o : RoutedVenueOrder => o.isDark) (some o) = some o := by simp [hisDark]
        simp [routeSlice, hd, computeRoutingAllocation, hsf, hel, hb, ho, hval, hfil, hchild, hvid]
      · have h1 := congrArg OrderFields.quantity (OrderFields.create_ok hchild)
        exact h1.trans (congrArg RoutedFields.quantity hof)
  · cases hc

/-- Any other slice ends before its first await or goes straight to the lit venues. -/
theorem routeSlice_lit {r : SmartOrderRouter} {a : SliceCall} {isConnected : Bool}
    (h : ¬ (isConnected = true ∧ a.enableDark = true ∧ (darkChoice r a.toSlice).isSome = true)) :
    (∃ exc r', r.routeSlice a isConnected = (.done (.error exc), r')) ∨
      ∃ r', r.routeSlice a isConnected = litPhase r' a a.quantity [] := by
  unfold routeSlice
  cases isConnected with
  | false => exact .inl ⟨_, _, rfl⟩
  | true =>
    cases hd : a.enableDark with
    | false => exact .inr ⟨r, rfl⟩
    | true =>
      have hnone : darkChoice r a.toSlice = none := by simpa [hd] using h
      cases hc : r.computeRoutingAllocation a.toSlice true true with
      | mk res r' =>
        cases res with
        | error exc => exact .inl ⟨_, _, rfl⟩
        | ok orders =>
          have hsf := sliceFault_of_allocation hc
          have hlit : ∀ o ∈ orders.values, o.isDark = false := by
            unfold computeRoutingAllocation at hc
            unfold darkChoice at hnone
            rw [hsf] at hc hnone
            simp only [not_true_eq_false, if_false] at hc
            cases hel : eligibleDark a.quantity a.nowNs r.darkVenues r with
            | mk res r₁ =>
              rw [hel] at hc hnone
              cases res with
              | error exc => simp at hc
              | ok eligible =>
                have hb : bestDark eligible = none := by simpa using hnone
                simp only [hb] at hc
                intro o ho
                obtain ⟨-, v, hv⟩ := litAllocation_legs hc (quantity_of_sliceFault hsf).le o ho
                exact congrArg RoutedFields.isDark hv
          refine .inr ⟨r', ?_⟩
          have hfil : orders.values.head?.filter (fun o => o.isDark) = none := by
            cases hv : orders.values with
            | nil => rfl
            | cons o rest => simp [hlit o (by rw [hv]; exact List.mem_cons_self)]
          simp [hfil]

end SmartOrderRouter

end Quant
