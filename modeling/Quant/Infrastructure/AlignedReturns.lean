import Quant.Infrastructure.HistoricalRepository
import Quant.Pylib.ForwardFill

/-!
# Aligned returns

`get_aligned_returns_matrix_sync` of `DuckDBHistoricalRepository`. The prices of the selected rows are laid out by time and
symbol, filled from the past and turned into returns; a cell of the price matrix that is `NaN` is one that is not set. Of DuckDB
this takes that the primary key holds and that selecting, comparing and ordering are exact; `math.log` is a parameter.
-/

namespace Quant

open Pylib

/-- `historical_bars`: the rows under their primary keys. -/
structure BarTable where
  rows : Dict BarKey BarRow
  keyed : ∀ k row, rows.get? k = some row → row.key = k

/-- `INSERT OR REPLACE` into `historical_bars`. -/
def BarTable.insert (table : BarTable) (rows : List BarRow) : BarTable where
  rows := table.rows.upsert BarRow.key rows
  keyed := by
    intro k row h
    rw [Dict.get?_upsert, Option.or_eq_some_iff] at h
    rcases h with h | ⟨-, h⟩
    · simpa using List.find?_some h
    · exact table.keyed k row h

/-- `historical_bars` when it is created. -/
def BarTable.empty : BarTable where
  rows := ∅
  keyed := fun k row h => by
    rw [Dict.get?_empty] at h
    cases h

/-- What saving a batch leaves is such a table again. -/
theorem exists_saveBatchSync (table : BarTable) (batch : HistoricalBarBatch) :
    ∃ rows, (HistoricalRepository.saveBatchSync table.rows batch).2 = (table.insert rows).rows := by
  unfold HistoricalRepository.saveBatchSync
  split_ifs
  · exact ⟨[], rfl⟩
  · split
    · exact ⟨[], rfl⟩
    · split
      · exact ⟨[], rfl⟩
      · rename_i rows _
        exact ⟨rows, rfl⟩

/-- The names in `valid_fields`. -/
inductive PriceField where
  | adjClose
  | close
  | openPrice
  | high
  | low
  | vwap
  deriving DecidableEq

namespace PriceField

/-- The check of `price_field` against `valid_fields`. -/
def parse : String → Option PriceField
  | "adj_close" => some .adjClose
  | "close" => some .close
  | "open" => some .openPrice
  | "high" => some .high
  | "low" => some .low
  | "vwap" => some .vwap
  | _ => none

/-- The column of a field. -/
def column : PriceField → BarRow → ℚ
  | adjClose, row => row.adjClose
  | close, row => row.close
  | openPrice, row => row.openPrice
  | high, row => row.high
  | low, row => row.low
  | vwap, row => row.vwap

/-- `COALESCE(NULLIF(price_field, 0.0), close)`. -/
def price (field : PriceField) (row : BarRow) : ℚ := if field.column row = 0 then row.close else field.column row

end PriceField

/-- The return types. -/
inductive ReturnType where
  | simple
  | log
  deriving DecidableEq

/-- The check of `return_type`. -/
def ReturnType.parse : String → Option ReturnType
  | "simple" => some .simple
  | "log" => some .log
  | _ => none

/-! ## The result -/

/-- The fields of `AlignedReturnsResult`: the matrix by rows. -/
structure AlignedReturnsFields where
  matrix : List (List ℚ)
  timestamps : List ℤ
  symbols : List String
  deriving DecidableEq

/-- A result its constructor accepted. -/
structure AlignedReturnsResult extends AlignedReturnsFields where
  timestamps_eq : timestamps.length = matrix.length
  symbols_eq : ∀ row ∈ matrix, row.length = symbols.length

/-- `AlignedReturnsResult.__post_init__`; a list of rows has two dimensions. -/
def AlignedReturnsFields.create (f : AlignedReturnsFields) : Except Exc AlignedReturnsResult :=
  if h1 : f.timestamps.length ≠ f.matrix.length then
    .error ⟨.nonFiniteHistoricalInput, "Timestamps length (%) does not match matrix rows (%)",
      [.num f.timestamps.length, .num f.matrix.length]⟩
  else if h2 : ∃ row ∈ f.matrix, row.length ≠ f.symbols.length then
    .error ⟨.nonFiniteHistoricalInput, "Symbols length (%) does not match matrix columns (%)",
      [.num f.symbols.length, .num ((f.matrix.head?.map List.length).getD 0)]⟩
  else .ok
    { f with
      timestamps_eq := not_not.1 h1
      symbols_eq := fun row hrow => not_not.1 fun hne => h2 ⟨row, hrow, hne⟩ }

namespace HistoricalRepository

/-! ## The query -/

/-- A row of the query. -/
structure PriceRow where
  symbol : String
  timestamp : ℤ
  price : ℚ
  deriving DecidableEq

/-- The loop that checks the symbols and drops repeated ones. -/
def dedupeSymbols (deduped : List String) : List String → Except Exc (List String)
  | [] => .ok deduped
  | s :: symbols =>
    if s = "" then .error ⟨.nonFiniteHistoricalInput, "Symbol must be non-empty string, got ''", []⟩
    else dedupeSymbols (if s ∈ deduped then deduped else deduped ++ [s]) symbols

/-- The rows of the query, by time and symbol. -/
def selectPrices (table : BarTable) (symbols : List String) (startTime endTime : ℤ) (resolution : Resolution)
    (field : PriceField) :
    List PriceRow :=
  ((table.rows.values.filter fun row => row.symbol ∈ symbols ∧ row.resolution = resolution.str ∧ startTime ≤ row.timestamp ∧
      row.timestamp ≤ endTime).insertionSort fun row row' => row.timestamp < row'.timestamp ∨
        row.timestamp = row'.timestamp ∧ row.symbol ≤ row'.symbol).map fun row =>
    { symbol := row.symbol
      timestamp := row.timestamp
      price := field.price row }

/-! ## From prices to returns -/

/-- `ts_set`: the timestamps of the rows in increasing order. -/
def observationTimes (rows : List PriceRow) : List ℤ := (rows.map (·.timestamp)).dedup.insertionSort (· ≤ ·)

/-- `prices` before it is filled: the positive prices under their time and symbol. -/
def priceMatrix (rows : List PriceRow) : Dict (ℤ × String) ℚ :=
  (∅ : Dict (ℤ × String) ℚ).setAll ((rows.filter fun r => 0 < r.price).map fun r => ((r.timestamp, r.symbol), r.price))

/-- The column of a symbol after the forward fill. -/
def filledPrices (prices : Dict (ℤ × String) ℚ) (times : List ℤ) (symbol : String) : List (Option ℚ) :=
  forwardFill none (times.map fun t => prices.get? (t, symbol))

/-- The return between two prices, where both are known. -/
def returnBetween (log : ℚ → ℚ) (returnType : ReturnType) : Option ℚ → Option ℚ → ℚ
  | some prev, some curr =>
    if 0 < prev ∧ 0 < curr then
      match returnType with
      | .log => log (curr / prev)
      | .simple => (curr - prev) / prev
    else 0
  | _, _ => 0

/-- A row of `returns_matrix`: the returns of the symbols from one time to the next. -/
def returnsRow (log : ℚ → ℚ) (returnType : ReturnType) (columns : List (List (Option ℚ))) (k : ℕ) : List ℚ :=
  columns.map fun column => returnBetween log returnType column[k]?.join column[k + 1]?.join

/-- `returns_matrix`. -/
def returnsMatrix (log : ℚ → ℚ) (returnType : ReturnType) (rows : List PriceRow) (symbols : List String) : List (List ℚ) :=
  let times := observationTimes rows
  let columns := symbols.map (filledPrices (priceMatrix rows) times)
  (List.range (times.length - 1)).map (returnsRow log returnType columns)

/-- `get_aligned_returns_matrix_sync`. -/
def getAlignedReturnsMatrixSync (log : ℚ → ℚ) (table : BarTable) (symbols : List String) (startTime endTime : ℤ)
    (resolution : Resolution) (priceField returnType : String) : Except Exc AlignedReturnsResult :=
  if symbols = [] then .error ⟨.emptyUniverse, "symbols sequence cannot be empty", []⟩
  else do
    let symbols ← dedupeSymbols [] symbols
    if endTime < startTime then
      .error ⟨.nonMonotonicTimestamp, "start_time (%) cannot exceed end_time (%)", [.num startTime, .num endTime]⟩
    else
      match PriceField.parse priceField with
      | none => .error ⟨.nonFiniteHistoricalInput,
          "Invalid price_field '%'. Must be one of ('adj_close', 'close', 'open', 'high', 'low', 'vwap')", [.str priceField]⟩
      | some field =>
        match ReturnType.parse returnType with
        | none => .error ⟨.nonFiniteHistoricalInput, "Invalid return_type '%'. Must be 'simple' or 'log'", [.str returnType]⟩
        | some returnType =>
          let rows := selectPrices table symbols startTime endTime resolution field
          if rows = [] then
            .error ⟨.insufficientTimestamps, "Zero observations found for requested universe in range [%, %]",
              [.num startTime, .num endTime]⟩
          else if (observationTimes rows).length < 2 then
            .error ⟨.insufficientTimestamps,
              "Insufficient discrete observation timestamps (% < 2) to compute return differentials",
              [.num (observationTimes rows).length]⟩
          else
            AlignedReturnsFields.create
              { matrix := returnsMatrix log returnType rows symbols
                timestamps := (observationTimes rows).tail
                symbols := symbols }

end HistoricalRepository

end Quant
