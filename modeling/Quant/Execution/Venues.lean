import Mathlib.Algebra.Order.Field.Basic
import Mathlib.Algebra.Order.Ring.Rat
import Quant.Execution.Models
import Quant.Pylib.Dict

/-!
# Venues and quotes

`VenueProfile` and `ConsolidatedQuote` of `execution/venues.py`: the fields as they are given, and their extension by the proofs
of the checks the constructors make.
-/

namespace Quant

open Pylib

/-- The exception of the router and of its value objects on an input out of bounds. -/
def invalidSORInput (text : String) (args : List ExcArg) : Exc := ⟨.invalidSORInput, text, args⟩

inductive VenueType where
  | litExchange
  | darkPool
  deriving DecidableEq, Repr

/-! ## Venues -/

/-- The fields of a venue, with the defaults of its constructor. -/
structure VenueFields where
  venueId : String
  venueType : VenueType
  makerFeeBps : ℚ
  takerFeeBps : ℚ
  minOrderSize : ℚ := 1
  lotSize : ℚ := 1
  avgLatencyMs : ℚ := 1
  darkFillProbability : ℚ := 35 / 100
  deriving DecidableEq

/-- A venue its constructor accepted. -/
structure VenueProfile extends VenueFields where
  venueId_ne : venueId ≠ ""
  minOrderSize_pos : 0 < minOrderSize
  lotSize_pos : 0 < lotSize
  avgLatencyMs_nonneg : 0 ≤ avgLatencyMs
  darkFillProbability_mem : 0 ≤ darkFillProbability ∧ darkFillProbability ≤ 1
  deriving DecidableEq

/-- `VenueProfile.__post_init__`: the checks, in the order the source makes them. -/
def VenueFields.create (v : VenueFields) : Except Exc VenueProfile :=
  if h1 : v.venueId = "" then
    .error (invalidSORInput "VenueProfile venue_id must be a non-empty string, got %" [.str v.venueId])
  else if h2 : v.minOrderSize ≤ 0 then
    .error (invalidSORInput "VenueProfile min_order_size must be finite float > 0.0, got %" [.num v.minOrderSize])
  else if h3 : v.lotSize ≤ 0 then
    .error (invalidSORInput "VenueProfile lot_size must be finite float > 0.0, got %" [.num v.lotSize])
  else if h4 : v.avgLatencyMs < 0 then
    .error (invalidSORInput "VenueProfile avg_latency_ms must be finite float >= 0.0, got %" [.num v.avgLatencyMs])
  else if h5 : 0 ≤ v.darkFillProbability ∧ v.darkFillProbability ≤ 1 then .ok
    { v with
      venueId_ne := h1
      minOrderSize_pos := not_le.1 h2
      lotSize_pos := not_le.1 h3
      avgLatencyMs_nonneg := not_lt.1 h4
      darkFillProbability_mem := h5 }
  else
    .error (invalidSORInput "VenueProfile dark_fill_probability must be finite float in [0.0, 1.0], got %"
      [.num v.darkFillProbability])

/-! ## Quotes -/

/-- The fields of a consolidated quote; a venue's depths are those of its bid and of its ask. -/
structure QuoteFields where
  symbol : String
  bidPrice : ℚ
  bidQuantity : ℚ
  askPrice : ℚ
  askQuantity : ℚ
  timestampNs : ℕ
  venueDepths : Dict String (ℚ × ℚ)
  deriving DecidableEq

/-- A quote its constructor accepted. -/
structure ConsolidatedQuote extends QuoteFields where
  symbol_ne : symbol ≠ ""
  bidPrice_pos : 0 < bidPrice
  askPrice_pos : 0 < askPrice
  bidQuantity_nonneg : 0 ≤ bidQuantity
  askQuantity_nonneg : 0 ≤ askQuantity
  depths_nonneg : ∀ d ∈ venueDepths.items, d.1 ≠ "" ∧ 0 ≤ d.2.1 ∧ 0 ≤ d.2.2
  bid_lt_ask : bidPrice < askPrice
  deriving DecidableEq

/-- What the constructor of a quote raises on one entry of its depths. -/
def depthFault (d : String × ℚ × ℚ) : Option Exc :=
  if d.1 = "" then some (invalidSORInput "Venue ID in venue_depths must be non-empty string, got %" [.str d.1])
  else if d.2.1 < 0 then
    some (invalidSORInput "Bid depth for venue % must be finite float >= 0.0, got %" [.str d.1, .num d.2.1])
  else if d.2.2 < 0 then
    some (invalidSORInput "Ask depth for venue % must be finite float >= 0.0, got %" [.str d.1, .num d.2.2])
  else none

theorem depthFault_eq_none {d : String × ℚ × ℚ} (h : depthFault d = none) : d.1 ≠ "" ∧ 0 ≤ d.2.1 ∧ 0 ≤ d.2.2 := by
  unfold depthFault at h
  repeat' split at h
  all_goals simp_all

/-- `ConsolidatedQuote.__post_init__`: the checks, in the order the source makes them. -/
def QuoteFields.create (q : QuoteFields) : Except Exc ConsolidatedQuote :=
  if h1 : q.symbol = "" then
    .error (invalidSORInput "ConsolidatedQuote symbol must be a non-empty string, got %" [.str q.symbol])
  else if h2 : q.bidPrice ≤ 0 then
    .error (invalidSORInput "ConsolidatedQuote bid_price must be finite float > 0.0, got %" [.num q.bidPrice])
  else if h3 : q.askPrice ≤ 0 then
    .error (invalidSORInput "ConsolidatedQuote ask_price must be finite float > 0.0, got %" [.num q.askPrice])
  else if h4 : q.bidQuantity < 0 then
    .error (invalidSORInput "ConsolidatedQuote bid_quantity must be finite float >= 0.0, got %" [.num q.bidQuantity])
  else if h5 : q.askQuantity < 0 then
    .error (invalidSORInput "ConsolidatedQuote ask_quantity must be finite float >= 0.0, got %" [.num q.askQuantity])
  else
    match h6 : q.venueDepths.items.findSome? depthFault with
    | some exc => .error exc
    | none =>
      if h7 : q.askPrice ≤ q.bidPrice then
        .error ⟨.nbboViolation, "Locked or crossed market detected for %: bid=% >= ask=%",
          [.str q.symbol, .num q.bidPrice, .num q.askPrice]⟩
      else .ok
        { q with
          symbol_ne := h1
          bidPrice_pos := not_le.1 h2
          askPrice_pos := not_le.1 h3
          bidQuantity_nonneg := not_lt.1 h4
          askQuantity_nonneg := not_lt.1 h5
          depths_nonneg := fun d hd => depthFault_eq_none (List.findSome?_eq_none_iff.1 h6 d hd)
          bid_lt_ask := not_le.1 h7 }

namespace ConsolidatedQuote

/-- `midpoint`. -/
def midpoint (q : ConsolidatedQuote) : ℚ := (q.bidPrice + q.askPrice) / 2

theorem midpoint_pos (q : ConsolidatedQuote) : 0 < q.midpoint := half_pos (add_pos q.bidPrice_pos q.askPrice_pos)

end ConsolidatedQuote

end Quant
