import Mathlib.Data.List.Sort
import Mathlib.Data.Prod.Lex
import Mathlib.Data.String.Basic
import Quant.Execution.Venues
import Quant.Pylib.Text

/-!
# The smart order router

`VenueHealth`, `SmartOrderRouter.compute_routing_allocation` and `SmartOrderRouter.route_slice` of `execution/sor.py`.

A coroutine runs from one await to the next without interruption. Here `route_slice` is the machine of its awaits: a phase holds
the call that is awaited with the local variables that are still needed, `begin` runs the code up to the first await, and `resume`
runs it from the answer to an await up to the next one.
-/

namespace Quant

open Pylib

/-- `ROUTING_EPSILON`. -/
def routingEpsilon : ℚ := 1 / 10 ^ 7

/-! ## Routed orders -/

/-- The fields of an instruction to a venue, with the defaults of its constructor. -/
structure RoutedFields where
  venueId : String
  venueType : VenueType
  symbol : String
  side : OrderSide
  quantity : ℚ
  price : ℚ
  timeInForce : TimeInForce := .ioc
  orderType : OrderType := .limit
  isDark : Bool := false
  deriving DecidableEq

/-- An instruction its constructor accepted. -/
structure RoutedVenueOrder extends RoutedFields where
  venueId_ne : strip venueId ≠ ""
  symbol_ne : strip symbol ≠ ""
  quantity_pos : 0 < quantity
  price_pos : 0 < price
  deriving DecidableEq

/-- `RoutedVenueOrder.__post_init__`: the checks, in the order the source makes them. -/
def RoutedFields.create (o : RoutedFields) : Except Exc RoutedVenueOrder :=
  if h1 : strip o.venueId = "" then
    .error (invalidSORInput "RoutedVenueOrder venue_id must be non-empty str, got %" [.str o.venueId])
  else if h2 : strip o.symbol = "" then
    .error (invalidSORInput "RoutedVenueOrder symbol must be non-empty str, got %" [.str o.symbol])
  else if h3 : o.quantity ≤ 0 then
    .error (invalidSORInput "RoutedVenueOrder quantity must be finite float > 0.0, got %" [.num o.quantity])
  else if h4 : o.price ≤ 0 then
    .error (invalidSORInput "RoutedVenueOrder price must be finite float > 0.0, got %" [.num o.price])
  else .ok
    { o with
      venueId_ne := h1
      symbol_ne := h2
      quantity_pos := not_le.1 h3
      price_pos := not_le.1 h4 }

/-! ## Venue health -/

/-- The part of a venue's health that routing reads. -/
structure VenueHealth where
  venueId : String
  isQuarantined : Bool := false
  consecutiveToxicFills : ℕ := 0
  quarantineUntilNs : ℕ := 0
  deriving DecidableEq

/-- `is_active`: a quarantine that is over is lifted by the question. -/
def VenueHealth.isActive (h : VenueHealth) (nowNs : ℕ) : Bool × VenueHealth :=
  if h.isQuarantined then
    if 0 < h.quarantineUntilNs ∧ h.quarantineUntilNs ≤ nowNs then
      (true, { h with isQuarantined := false, consecutiveToxicFills := 0 })
    else (false, h)
  else (true, h)

/-! ## The router -/

/-- The router: the venues as they were given, and the health of each, under the keys of the venues. -/
structure SmartOrderRouter where
  venues : Dict String VenueProfile
  venueHealth : Dict String VenueHealth
  venues_ne : venues.items ≠ []
  venues_key_ne : ∀ k ∈ venues.keys, strip k ≠ ""
  contains_health : ∀ k, venueHealth.contains k = venues.contains k

namespace SmartOrderRouter

/-- A new router: every venue is healthy. -/
def ofVenues (venues : Dict String VenueProfile) (h1 : venues.items ≠ []) (h2 : ∀ k ∈ venues.keys, strip k ≠ "") :
    SmartOrderRouter :=
  { venues := venues
    venueHealth := venues.map (fun k _ => { venueId := k })
    venues_ne := h1
    venues_key_ne := h2
    contains_health := Dict.contains_map _ venues }

/-- `SmartOrderRouter.__init__`: the checks on the venues. -/
def create (venues : Dict String VenueProfile) : Except Exc SmartOrderRouter :=
  if h1 : venues.items = [] then .error (invalidSORInput "SmartOrderRouter venues must be a non-empty dictionary" [])
  else
    match h2 : venues.keys.find? (fun k => strip k = "") with
    | some k => .error (invalidSORInput "Venue key must be non-empty str, got %" [.str k])
    | none => .ok (ofVenues venues h1 (fun k hk => by simpa using List.find?_eq_none.1 h2 k hk))

/-- The dark pools, in the order of the venues. -/
def darkVenues (r : SmartOrderRouter) : List VenueProfile := r.venues.values.filter (fun v => v.venueType = .darkPool)

/-- The lit exchanges, in the order of the venues. -/
def litVenues (r : SmartOrderRouter) : List VenueProfile := r.venues.values.filter (fun v => v.venueType = .litExchange)

/-- Change the health of a venue the router has. -/
def setHealth (r : SmartOrderRouter) (k : String) (h : VenueHealth) (hk : r.venueHealth.contains k = true) :
    SmartOrderRouter :=
  { r with
    venueHealth := r.venueHealth.set k h
    contains_health := fun k' => by
      rw [← r.contains_health k', Bool.eq_iff_iff, Dict.contains_set]
      exact ⟨fun h => h.elim (fun e => e ▸ hk) id, Or.inr⟩ }

/-- Whether a venue is not quarantined, looked up under its own identifier: a venue that was given under another key may have no
health there. -/
def venueActive (r : SmartOrderRouter) (vid : String) (nowNs : ℕ) : Except Exc Bool × SmartOrderRouter :=
  match hk : r.venueHealth.get? vid with
  | none => (.error ⟨.keyError, "%", [.str vid]⟩, r)
  | some h => (.ok (h.isActive nowNs).1, r.setHealth vid (h.isActive nowNs).2 (by simp [Dict.contains, hk]))

/-- What a routing request is made of. -/
structure Slice where
  symbol : String
  side : OrderSide
  quantity : ℚ
  quote : ConsolidatedQuote
  nowNs : ℕ := 0

/-- The same request for another quantity. -/
def Slice.withQuantity (a : Slice) (quantity : ℚ) : Slice := { a with quantity := quantity }

/-- The checks of `compute_routing_allocation` on its arguments. -/
def sliceFault (a : Slice) : Option Exc :=
  if strip a.symbol = "" then some (invalidSORInput "symbol must be non-empty str, got %" [.str a.symbol])
  else if strip a.symbol ≠ a.quote.symbol then
    some (invalidSORInput "symbol % does not match quote.symbol %" [.str a.symbol, .str a.quote.symbol])
  else if a.quantity ≤ 0 then some (invalidSORInput "quantity must be finite float > 0.0, got %" [.num a.quantity])
  else if a.quote.askPrice ≤ a.quote.bidPrice then
    some ⟨.nbboViolation, "Locked or crossed market detected for %: bid=% >= ask=%",
      [.str a.quote.symbol, .num a.quote.bidPrice, .num a.quote.askPrice]⟩
  else none

/-! ## Dark probing -/

/-- The loop that collects the dark pools that are active and take an order of the quantity. -/
def eligibleDark (quantity : ℚ) (nowNs : ℕ) :
    List VenueProfile → SmartOrderRouter → Except Exc (List VenueProfile) × SmartOrderRouter
  | [], r => (.ok [], r)
  | v :: vs, r =>
    match r.venueActive v.venueId nowNs with
    | (.error exc, r) => (.error exc, r)
    | (.ok active, r) =>
      match eligibleDark quantity nowNs vs r with
      | (.error exc, r) => (.error exc, r)
      | (.ok rest, r) => (.ok (if active ∧ v.minOrderSize ≤ quantity then v :: rest else rest), r)

/-- The rank of a dark pool: taker fee, then fill probability (highest first), then latency, then identifier. -/
def darkRank (v : VenueProfile) : ℚ ×ₗ ℚ ×ₗ ℚ ×ₗ String :=
  toLex (v.takerFeeBps, toLex (-v.darkFillProbability, toLex (v.avgLatencyMs, v.venueId)))

/-- The first dark pool by rank. -/
def bestDark (vs : List VenueProfile) : Option VenueProfile :=
  (vs.insertionSort (fun v w => darkRank v ≤ darkRank w)).head?

/-- The order to a dark pool: the whole quantity at the midpoint. -/
def darkProbe (a : Slice) (v : VenueProfile) : RoutedFields :=
  { venueId := v.venueId
    venueType := .darkPool
    symbol := a.symbol
    side := a.side
    quantity := a.quantity
    price := a.quote.midpoint
    isDark := true }

/-! ## Lit waterfilling -/

/-- The depth of a venue on the side an order takes. -/
def depthOn (a : Slice) (vid : String) : Option ℚ :=
  match a.quote.venueDepths.get? vid, a.side with
  | none, _ => none
  | some d, .buy => some d.2
  | some d, .sell => some d.1

/-- The loop that collects the active lit venues with depth, each with its depth. -/
def litCandidates (a : Slice) :
    List VenueProfile → SmartOrderRouter → Except Exc (List (VenueProfile × ℚ)) × SmartOrderRouter
  | [], r => (.ok [], r)
  | v :: vs, r =>
    match r.venueActive v.venueId a.nowNs with
    | (.error exc, r) => (.error exc, r)
    | (.ok active, r) =>
      match litCandidates a vs r with
      | (.error exc, r) => (.error exc, r)
      | (.ok rest, r) =>
        match (depthOn a v.venueId).filter (fun d => active ∧ routingEpsilon < d) with
        | none => (.ok rest, r)
        | some depth => (.ok ((v, depth) :: rest), r)

/-- The rank of a lit venue: taker fee, then latency, then identifier. -/
def litRank (v : VenueProfile) : ℚ ×ₗ ℚ ×ₗ String := toLex (v.takerFeeBps, toLex (v.avgLatencyMs, v.venueId))

/-- The price a lit order takes. -/
def targetPrice (a : Slice) : ℚ :=
  match a.side with
  | .buy => a.quote.askPrice
  | .sell => a.quote.bidPrice

/-- The order to a lit venue. -/
def litLeg (a : Slice) (v : VenueProfile) (quantity : ℚ) : RoutedFields :=
  { venueId := v.venueId
    venueType := .litExchange
    symbol := a.symbol
    side := a.side
    quantity := quantity
    price := targetPrice a }

/-- The loop that fills the quantity from the candidates in their order: the orders by venue, and the quantity that is left. -/
def waterfill (a : Slice) :
    List (VenueProfile × ℚ) → ℚ → Dict String RoutedVenueOrder → Except Exc (Dict String RoutedVenueOrder × ℚ)
  | [], rem, orders => .ok (orders, rem)
  | (v, depth) :: rest, rem, orders =>
    if rem ≤ routingEpsilon then .ok (orders, rem)
    else if min rem depth ≤ routingEpsilon then waterfill a rest rem orders
    else
      match (litLeg a v (min rem depth)).create with
      | .error exc => .error exc
      | .ok o => waterfill a rest (rem - min rem depth) (orders.set v.venueId o)

/-- The lit phase of `compute_routing_allocation`. -/
def litAllocation (r : SmartOrderRouter) (a : Slice) (allowPartial : Bool) :
    Except Exc (Dict String RoutedVenueOrder) × SmartOrderRouter :=
  if r.litVenues = [] then
    if allowPartial then (.ok ∅, r)
    else (.error ⟨.insufficientLiquidity, "No active lit exchanges available for %", [.str a.symbol]⟩, r)
  else
    match litCandidates a r.litVenues r with
    | (.error exc, r) => (.error exc, r)
    | (.ok candidates, r) =>
      if candidates = [] then
        if allowPartial then (.ok ∅, r)
        else
          (.error ⟨.insufficientLiquidity, "Zero available lit depth for % on % side", [.str a.symbol, .str a.side.value]⟩, r)
      else
        match waterfill a (candidates.insertionSort (fun c d => litRank c.1 ≤ litRank d.1)) a.quantity ∅ with
        | .error exc => (.error exc, r)
        | .ok (orders, rem) =>
          if routingEpsilon < rem ∧ ¬ allowPartial then
            (.error ⟨.insufficientLiquidity,
              "Insufficient lit liquidity to fill order for %: requested=%, unfilled=%",
              [.str a.symbol, .num a.quantity, .num rem]⟩, r)
          else (.ok orders, r)

/-- `compute_routing_allocation`: the orders by venue. -/
def computeRoutingAllocation (r : SmartOrderRouter) (a : Slice) (enableDark allowPartial : Bool) :
    Except Exc (Dict String RoutedVenueOrder) × SmartOrderRouter :=
  match sliceFault a with
  | some exc => (.error exc, r)
  | none =>
    if ¬ enableDark then r.litAllocation a allowPartial
    else
      match eligibleDark a.quantity a.nowNs r.darkVenues r with
      | (.error exc, r) => (.error exc, r)
      | (.ok eligible, r) =>
        match bestDark eligible with
        | none => r.litAllocation a allowPartial
        | some v =>
          match (darkProbe a v).create with
          | .error exc => (.error exc, r)
          | .ok o => (.ok (Dict.set ∅ v.venueId o), r)

/-! ## Routing a slice -/

/-- A call of `route_slice`: the request, and the random parts of the identifiers of its child orders. -/
structure SliceCall extends Slice where
  enableDark : Bool := true
  hex : ℕ → String

/-- A call on the gateway that a coroutine awaits. -/
inductive GatewayCall where
  | submit (o : Order)
  | cancel (clOrdId : String)
  deriving DecidableEq

/-- The awaits of `route_slice`, with the reports collected so far. -/
inductive SlicePhase where
  | darkSubmit (vid : String) (o : Order)
  | darkCancel (clOrdId : String) (reports : List ExecutionReport) (unfilled : ℚ)
  | litSubmit (vid : String) (o : Order) (rest : List RoutedVenueOrder) (sent : ℕ) (reports : List ExecutionReport)
  | done (result : Except Exc (List ExecutionReport))

/-- The call that is awaited. -/
def SlicePhase.call : SlicePhase → Option GatewayCall
  | .darkSubmit _ o => some (.submit o)
  | .darkCancel id _ _ => some (.cancel id)
  | .litSubmit _ o _ _ _ => some (.submit o)
  | .done _ => none

/-- The exception of a child order that failed. -/
def childOrderFailed (text : String) (args : List ExcArg) : Exc := ⟨.childOrderFailed, text, args⟩

/-- What a failed submission is turned into: `except Exception` wraps it, a cancellation passes. -/
def wrapFailure (text vid : String) (exc : Exc) : Exc :=
  if exc.isException then childOrderFailed (text ++ exc.text) (.str vid :: exc.args) else exc

/-- The child order for an instruction. -/
def childOrder (a : SliceCall) (kind : String) (n : ℕ) (o : RoutedVenueOrder) : OrderFields :=
  { clOrdId := "sor-" ++ kind ++ "-" ++ o.venueId ++ "-" ++ a.hex n
    symbol := a.symbol
    side := a.side
    orderType := o.orderType
    quantity := o.quantity
    price := some o.price
    timeInForce := o.timeInForce
    createdAtNs := a.nowNs
    updatedAtNs := a.nowNs }

/-- The head of the loop over the lit orders. -/
def nextLeg (a : SliceCall) (reports : List ExecutionReport) (sent : ℕ) : List RoutedVenueOrder → SlicePhase
  | [] => .done (.ok reports)
  | o :: rest =>
    match (childOrder a "lit" (sent + 1) o).create with
    | .error exc => .done (.error exc)
    | .ok child => .litSubmit o.venueId child rest (sent + 1) reports

/-- From the end of the dark phase to the first lit order. -/
def litPhase (r : SmartOrderRouter) (a : SliceCall) (unfilled : ℚ) (reports : List ExecutionReport) :
    SlicePhase × SmartOrderRouter :=
  if unfilled ≤ routingEpsilon then (.done (.ok reports), r)
  else
    match r.computeRoutingAllocation (a.toSlice.withQuantity unfilled) false false with
    | (.error exc, r) => (.done (.error exc), r)
    | (.ok orders, r) => (nextLeg a reports 0 orders.values, r)

/-- `route_slice` up to its first await. -/
def routeSlice (r : SmartOrderRouter) (a : SliceCall) (isConnected : Bool) : SlicePhase × SmartOrderRouter :=
  if ¬ isConnected then
    (.done (.error (childOrderFailed "Execution gateway is not connected; cannot route slice" [])), r)
  else if ¬ a.enableDark then r.litPhase a a.quantity []
  else
    match r.computeRoutingAllocation a.toSlice true true with
    | (.error exc, r) => (.done (.error exc), r)
    | (.ok orders, r) =>
      match orders.values.head?.filter (fun o => o.isDark) with
      | none => r.litPhase a a.quantity []
      | some o =>
        match (childOrder a "dark" 0 o).create with
        | .error exc => (.done (.error exc), r)
        | .ok child => (.darkSubmit o.venueId child, r)

/-- From the report of the dark order to the next await: the residual is what this report leaves, and the order is cancelled only
in the states listed here. -/
def afterDark (r : SmartOrderRouter) (a : SliceCall) (vid : String) (o : Order) (rep : ExecutionReport) :
    SlicePhase × SmartOrderRouter :=
  if rep.execType = .rejected then
    (.done (.error (childOrderFailed "Dark child order rejected on %: %" [.str vid, .str rep.text])), r)
  else if rep.execType = .filled then (.done (.ok [rep]), r)
  else if routingEpsilon < rep.cumQuantity then
    if rep.execType = .new ∨ rep.execType = .partiallyFilled then
      (.darkCancel o.clOrdId [rep] (a.quantity - rep.cumQuantity), r)
    else r.litPhase a (a.quantity - rep.cumQuantity) [rep]
  else if rep.execType = .new ∨ rep.execType = .pendingNew then (.darkCancel o.clOrdId [] a.quantity, r)
  else r.litPhase a a.quantity []

/-- `route_slice` from the answer to an await up to the next await. -/
def resumeSlice (r : SmartOrderRouter) (a : SliceCall) :
    SlicePhase → Except Exc ExecutionReport → SlicePhase × SmartOrderRouter
  | .darkSubmit vid _, .error exc => (.done (.error (wrapFailure "Dark child order submission failed on %: " vid exc)), r)
  | .darkSubmit vid o, .ok rep => r.afterDark a vid o rep
  | .darkCancel _ _ _, .error exc => (.done (.error exc), r)
  | .darkCancel _ reports unfilled, .ok _ => r.litPhase a unfilled reports
  | .litSubmit vid _ _ _ _, .error exc => (.done (.error (wrapFailure "Lit child order failed on %: " vid exc)), r)
  | .litSubmit vid _ rest sent reports, .ok rep =>
    if rep.execType = .rejected then
      (.done (.error (childOrderFailed "Lit child order rejected on %: %" [.str vid, .str rep.text])), r)
    else (nextLeg a (reports ++ [rep]) sent rest, r)
  | .done result, _ => (.done result, r)

end SmartOrderRouter

end Quant
