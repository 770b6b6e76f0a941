import Mathlib.Data.List.Sort
import Quant.Domain.Historical
import Quant.Pylib.Upsert

/-!
# The historical repository

`save_batch_sync` and `get_bars_range_sync` of `DuckDBHistoricalRepository`. A batch goes through an Arrow table, whose columns
are typed but may hold nulls, into `historical_bars`, whose columns may not; of DuckDB this takes that a statement that breaks a
constraint raises and does nothing, that `INSERT OR REPLACE` replaces by the primary key, and that comparing and ordering are
exact.
-/

namespace Quant

open Pylib

/-- A row of the Arrow table. -/
structure ArrowRow where
  symbol : String
  resolution : String
  timestamp : ℤ
  openPrice : ℚ
  high : ℚ
  low : ℚ
  close : ℚ
  volume : ℚ
  vwap : ℚ
  adjClose : Option ℚ
  splitFactor : ℚ
  dividendAmount : ℚ
  deriving DecidableEq

/-- A row of `historical_bars`: no column of it is null. -/
structure BarRow where
  symbol : String
  resolution : String
  timestamp : ℤ
  openPrice : ℚ
  high : ℚ
  low : ℚ
  close : ℚ
  volume : ℚ
  vwap : ℚ
  adjClose : ℚ
  splitFactor : ℚ
  dividendAmount : ℚ
  deriving DecidableEq

/-- The primary key. -/
abbrev BarKey := String × String × ℤ

namespace BarRow

/-- The primary key of a row. -/
def key (row : BarRow) : BarKey := (row.symbol, row.resolution, row.timestamp)

end BarRow

/-- The first timestamp an `int64` column does not hold. -/
def int64Bound : ℤ := 2 ^ 63

namespace HistoricalRepository

/-- The row of a bar in the Arrow table: the resolution is the batch's. -/
def arrowRow (batch : HistoricalBarBatch) (b : HistoricalPriceBar) : ArrowRow :=
  { symbol := b.assetId
    resolution := batch.resolution.str
    timestamp := b.timestamp
    openPrice := b.openPrice
    high := b.high
    low := b.low
    close := b.close
    volume := b.volume
    vwap := b.vwap
    adjClose := b.adjClose
    splitFactor := b.splitFactor
    dividendAmount := b.dividendAmount }

/-- `pa.Table.from_arrays`: the timestamps must fit their column. -/
def arrowTable (batch : HistoricalBarBatch) : Except Exc (List ArrowRow) :=
  if batch.bars.any (fun b => int64Bound ≤ b.timestamp) then
    .error ⟨.overflowError, "Python int too large to convert to C long", []⟩
  else .ok (batch.bars.map (arrowRow batch))

/-- A row that the constraints of `historical_bars` let in. -/
def checkRow (row : ArrowRow) : Except Exc BarRow :=
  match row.adjClose with
  | none => .error ⟨.databaseError, "Constraint Error: NOT NULL constraint failed: historical_bars.adj_close", []⟩
  | some a => .ok
    { symbol := row.symbol
      resolution := row.resolution
      timestamp := row.timestamp
      openPrice := row.openPrice
      high := row.high
      low := row.low
      close := row.close
      volume := row.volume
      vwap := row.vwap
      adjClose := a
      splitFactor := row.splitFactor
      dividendAmount := row.dividendAmount }

/-- `save_batch_sync`: the number of bars saved, and the table. -/
def saveBatchSync (table : Dict BarKey BarRow) (batch : HistoricalBarBatch) : Except Exc ℕ × Dict BarKey BarRow :=
  if batch.bars = [] then (.ok 0, table)
  else
    match arrowTable batch with
    | .error exc => (.error exc, table)
    | .ok arrow =>
      match arrow.mapM checkRow with
      | .error exc => (.error exc, table)
      | .ok rows => (.ok batch.bars.length, table.upsert BarRow.key rows)

/-- What the reader makes of a row: it repairs an adjusted close and a split factor that are not positive, and a negative
dividend. -/
def readRow (resolution : Resolution) (row : BarRow) : HistoricalBarFields :=
  { assetId := row.symbol
    timestamp := row.timestamp
    openPrice := row.openPrice
    high := row.high
    low := row.low
    close := row.close
    volume := row.volume
    vwap := row.vwap
    resolution := resolution
    adjClose := some (if 0 < row.adjClose then row.adjClose else row.close)
    splitFactor := if 0 < row.splitFactor then row.splitFactor else 1
    dividendAmount := if 0 ≤ row.dividendAmount then row.dividendAmount else 0 }

/-- The rows the range query selects, by their timestamps. -/
def selectRange (table : Dict BarKey BarRow) (symbol : String) (startTime endTime : ℤ) (resolution : Resolution) : List BarRow :=
  (table.values.filter (fun row =>
    row.symbol = symbol ∧ row.resolution = resolution.str ∧ startTime ≤ row.timestamp ∧ row.timestamp ≤ endTime)).mergeSort
      (fun row row' => row.timestamp ≤ row'.timestamp)

/-- `get_bars_range_sync`. -/
def getBarsRangeSync (table : Dict BarKey BarRow) (symbol : String) (startTime endTime : ℤ) (resolution : Resolution) :
    Except Exc HistoricalBarBatch :=
  if symbol = "" then .error ⟨.nonFiniteHistoricalInput, "symbol must be non-empty string", []⟩
  else if endTime < startTime then
    .error ⟨.nonMonotonicTimestamp, "start_time (%) cannot exceed end_time (%)", [.num startTime, .num endTime]⟩
  else
    let rows := selectRange table symbol startTime endTime resolution
    if rows = [] then
      .error ⟨.emptyHistoricalRange, "Zero historical bars found for symbol '%' at resolution '%' in range [%, %]",
        [.str symbol, .str resolution.str, .num startTime, .num endTime]⟩
    else do
      let bars ← rows.mapM (fun row => (readRow resolution row).create)
      HistoricalBarBatch.create symbol resolution bars

end HistoricalRepository

end Quant
