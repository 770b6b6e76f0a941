import Quant.Domain.Historical
import Quant.Pylib.PyFloat

/-!
# Market data batches

`MarketDataBatch` of `domain/models.py`: columns of one length.
-/

namespace Quant

open Pylib

/-- The fields of a batch. -/
structure MarketDataFields where
  assetId : String
  resolution : Resolution
  timestamps : List ℤ
  opens : List PyFloat
  highs : List PyFloat
  lows : List PyFloat
  closes : List PyFloat
  volumes : List PyFloat
  vwaps : List PyFloat

/-- The columns a batch compares with its timestamps, with their names. -/
def MarketDataFields.columns (f : MarketDataFields) : List (String × List PyFloat) :=
  [("opens", f.opens), ("highs", f.highs), ("lows", f.lows), ("closes", f.closes), ("volumes", f.volumes), ("vwaps", f.vwaps)]

/-- A batch its constructor accepted. -/
structure MarketDataBatch extends MarketDataFields where
  columns_length : ∀ c ∈ toMarketDataFields.columns, c.2.length = timestamps.length

/-- `MarketDataBatch.__post_init__`. -/
def MarketDataFields.create (f : MarketDataFields) : Except Exc MarketDataBatch :=
  match h : f.columns.find? fun c => c.2.length ≠ f.timestamps.length with
  | some c =>
    .error ⟨.valueError, "Dimension mismatch in MarketDataBatch: timestamps has length %, but % has length %",
      [.num f.timestamps.length, .str c.1, .num c.2.length]⟩
  | none => .ok { f with columns_length := fun c hc => by simpa using List.find?_eq_none.1 h c hc }

end Quant
