import Mathlib.Data.List.Infix
import Quant.Domain.CorporateAction
import Quant.Domain.Historical
import Quant.Pylib.Latest

/-!
# The Yahoo Finance parser

`parse_chart_response` of `data/yahoo_provider.py`. A payload is the JSON object of a chart, in which every field may be left out
or null, and an array holds numbers and nulls. The batch comes with its corporate actions.
-/

namespace Quant

open Pylib

/-! ## Payloads -/

/-- A field of a JSON object. -/
inductive JsonField (α : Type) where
  | missing
  | null
  | value (a : α)

namespace JsonField

variable {α : Type}

/-- `obj.get(name, default)`, which does not replace a null; a call without a default has `None` there. -/
def get (default : Option α) : JsonField α → Option α
  | missing => default
  | null => none
  | value a => some a

/-- The elements of a list that is tested for truth first: `None` is as good as empty. -/
def items : JsonField (List α) → List α
  | value xs => xs
  | _ => []

def isMissing : JsonField α → Bool
  | missing => true
  | _ => false

end JsonField

/-- A JSON array of numbers. -/
abbrev Column := List (Option PyNumber)

structure YahooError where
  code : JsonField String := .missing
  description : JsonField String := .missing

/-- `bool(error_info)`: an object without fields is false. -/
def YahooError.truthy (e : YahooError) : Bool := !(e.code.isMissing && e.description.isMissing)

structure YahooQuote where
  openPrice : JsonField Column := .missing
  high : JsonField Column := .missing
  low : JsonField Column := .missing
  close : JsonField Column := .missing
  volume : JsonField Column := .missing

structure YahooAdjClose where
  adjclose : JsonField Column := .missing

structure YahooIndicators where
  quote : JsonField (List (Option YahooQuote)) := .missing
  adjclose : JsonField (List (Option YahooAdjClose)) := .missing

structure YahooSplit where
  date : JsonField PyNumber := .missing
  numerator : JsonField PyNumber := .missing
  denominator : JsonField PyNumber := .missing

structure YahooDividend where
  date : JsonField PyNumber := .missing
  amount : JsonField PyNumber := .missing

/-- The items of the two objects in their order; their keys are not read. -/
structure YahooEvents where
  splits : JsonField (List (Option YahooSplit)) := .missing
  dividends : JsonField (List (Option YahooDividend)) := .missing

structure YahooResult where
  timestamp : JsonField Column := .missing
  indicators : JsonField YahooIndicators := .missing
  events : JsonField YahooEvents := .missing

structure YahooChart where
  error : JsonField YahooError := .missing
  result : JsonField (List (Option YahooResult)) := .missing

structure YahooPayload where
  chart : JsonField YahooChart := .missing

/-! ## Python on values that may be null -/

/-- An attribute of a value. -/
def getAttr {α : Type} (name : String) : Option α → Except Exc α
  | some a => .ok a
  | none => .error ⟨.attributeError, "'NoneType' object has no attribute '%'", [.str name]⟩

/-- `int(x)`. -/
def toInt : Option PyNumber → Except Exc ℤ
  | some (.int n) => .ok n
  | some (.float (.finite x)) => .ok (truncate x)
  | some (.float .nan) => .error ⟨.valueError, "cannot convert float NaN to integer", []⟩
  | some (.float _) => .error ⟨.overflowError, "cannot convert float infinity to integer", []⟩
  | none => .error ⟨.typeError, "int() argument must be a string, a bytes-like object or a real number, not 'NoneType'", []⟩

/-- `float(x)`. -/
def toFloat : Option PyNumber → Except Exc PyFloat
  | some x => if x.oversized then .error ⟨.overflowError, "int too large to convert to float", []⟩ else .ok x.exact
  | none => .error ⟨.typeError, "float() argument must be a string or a real number, not 'NoneType'", []⟩

/-- `needle in text`. -/
def isIn (needle text : String) : Bool := needle.toList <:+: text.toList

/-- `str.lower()`, as far as a search for an ASCII text without `i` and `k` can tell. -/
def lower (s : String) : String := String.ofList (s.toList.map Char.toLower)

namespace YahooFinanceHistoricalProvider

variable (symbol : String) (resolution : Resolution)

/-! ## The fields of a chart -/

/-- What is raised for an error the API reports. -/
def reportedError (info : YahooError) : Exc :=
  match info.description.get (some "Unknown Yahoo error") with
  | none => ⟨.typeError, "argument of type 'NoneType' is not iterable", []⟩
  | some errDesc =>
    let notFound : Exc := ⟨.yahooSymbolNotFound, "Symbol '%' not found on Yahoo Finance: %", [.str symbol, .str errDesc]⟩
    if isIn "Not Found" errDesc then notFound
    else
      match info.code.get (some "UNKNOWN") with
      | none => ⟨.attributeError, "'NoneType' object has no attribute '%'", [.str "lower"]⟩
      | some errCode =>
        if isIn "not found" (lower errCode) then notFound
        else ⟨.yahooProvider, "Yahoo Finance returned error for '%': %", [.str symbol, .str errDesc]⟩

/-- One pass of the loop over the splits. -/
def parseSplit (item : Option YahooSplit) : Except Exc (Option CorporateActionRecord) :=
  (getAttr "get" item).bind fun item =>
  (toInt (item.date.get (some (.int 0)))).bind fun splitTsSec =>
  (toFloat (item.numerator.get (some (.float (.finite 1))))).bind fun num =>
  (toFloat (item.denominator.get (some (.float (.finite 1))))).bind fun den =>
  if 0 < splitTsSec ∧ PyFloat.lt (.finite 0) den ∧ PyFloat.lt (.finite 0) num then
    (CorporateActionRecord.create symbol (splitTsSec * 10 ^ 9) .split (num.div den) (.finite 0)).map some
  else .ok none

/-- One pass of the loop over the dividends. -/
def parseDividend (item : Option YahooDividend) : Except Exc (Option CorporateActionRecord) :=
  (getAttr "get" item).bind fun item =>
  (toInt (item.date.get (some (.int 0)))).bind fun divTsSec =>
  (toFloat (item.amount.get (some (.float (.finite 0))))).bind fun amount =>
  if 0 < divTsSec ∧ PyFloat.le (.finite 0) amount then
    (CorporateActionRecord.create symbol (divTsSec * 10 ^ 9) .cashDividend (.finite 1) amount).map some
  else .ok none

/-- `except Exception` around a pass: a malformed item is skipped. -/
def skipMalformed : Except Exc (Option CorporateActionRecord) → Option CorporateActionRecord
  | .ok record => record
  | .error _ => none

/-- The corporate actions in the order of their times. -/
def readActions (result : YahooResult) : Except Exc (List CorporateActionRecord) :=
  (getAttr "get" (result.events.get (some {}))).bind fun events =>
  (getAttr "items" (events.splits.get (some []))).bind fun splits =>
  (getAttr "items" (events.dividends.get (some []))).map fun dividends =>
    (splits.filterMap (fun item => skipMalformed (parseSplit symbol item)) ++
      dividends.filterMap (fun item => skipMalformed (parseDividend symbol item))).insertionSort fun a b =>
      a.timestamp ≤ b.timestamp

/-- The adjusted closes; `none` is a null in their place. -/
def readAdjCloses (indicators : YahooIndicators) : Except Exc (Option Column) :=
  match indicators.adjclose.items with
  | [] => .ok (some [])
  | adj :: _ => (getAttr "get" adj).map fun adj => adj.adjclose.get (some [])

/-- The parallel arrays of a result and its corporate actions. An array is `none` where the payload has null. -/
structure Series where
  timestamps : Column
  rawOpens : Option Column
  rawHighs : Option Column
  rawLows : Option Column
  rawCloses : Option Column
  rawVolumes : Option Column
  rawAdjCloses : Option Column
  corporateActions : List CorporateActionRecord

/-- From `res_meta` to the loop over the bars. -/
def readResult (result : YahooResult) : Except Exc Series :=
  if result.timestamp.items.isEmpty then
    .error ⟨.emptyHistoricalBatch, "Zero trading bars returned for symbol '%' in requested window", [.str symbol]⟩
  else
    (getAttr "get" (result.indicators.get (some {}))).bind fun indicators =>
    match indicators.quote.items with
    | [] => .error ⟨.yahooParse, "Missing quote indicator array for symbol '%'", [.str symbol]⟩
    | quote :: _ =>
      (getAttr "get" quote).bind fun quote =>
      (readAdjCloses indicators).bind fun rawAdjCloses =>
      (readActions symbol result).map fun corporateActions =>
        { timestamps := result.timestamp.items
          rawOpens := quote.openPrice.get (some [])
          rawHighs := quote.high.get (some [])
          rawLows := quote.low.get (some [])
          rawCloses := quote.close.get (some [])
          rawVolumes := quote.volume.get (some [])
          rawAdjCloses := rawAdjCloses
          corporateActions := corporateActions }

/-- From `result` on. -/
def readResults (chart : YahooChart) : Except Exc Series :=
  match chart.result.items with
  | [] => .error ⟨.yahooParse, "No chart result returned for symbol '%'", [.str symbol]⟩
  | result :: _ => (getAttr "get" result).bind (readResult symbol)

/-- The part of `parse_chart_response` before the loop over the bars. -/
def readChart (data : YahooPayload) : Except Exc Series :=
  (getAttr "get" (data.chart.get (some {}))).bind fun chart =>
  match chart.error.get none with
  | some info => if info.truthy then .error (reportedError symbol info) else readResults symbol chart
  | none => readResults symbol chart

/-! ## The loop over the bars -/

/-- What the arrays hold at one place. -/
structure Cells where
  rawO : Option PyNumber
  rawH : Option PyNumber
  rawL : Option PyNumber
  rawC : Option PyNumber
  rawV : Option PyNumber
  rawAc : Option PyNumber

/-- `raw[i] if i < len(raw) else None`. -/
def cell (raw : Option Column) (i : ℕ) : Except Exc (Option PyNumber) :=
  match raw with
  | none => .error ⟨.typeError, "object of type 'NoneType' has no len()", []⟩
  | some xs => .ok xs[i]?.join

/-- The reads of a pass. -/
def readCells (series : Series) (i : ℕ) : Except Exc Cells :=
  (cell series.rawOpens i).bind fun rawO =>
  (cell series.rawHighs i).bind fun rawH =>
  (cell series.rawLows i).bind fun rawL =>
  (cell series.rawCloses i).bind fun rawC =>
  (cell series.rawVolumes i).bind fun rawV =>
  (cell series.rawAdjCloses i).map fun rawAc => ⟨rawO, rawH, rawL, rawC, rawV, rawAc⟩

/-- Four prices. -/
structure Prices where
  openF : ℚ
  highF : ℚ
  lowF : ℚ
  closeF : ℚ

/-- The value of a float that is finite and positive. -/
def price? : PyFloat → Option ℚ
  | .finite x => if 0 < x then some x else none
  | _ => none

/-- Four floats, where none of them is rejected. -/
def prices? (openF highF lowF closeF : PyFloat) : Option Prices :=
  (price? openF).bind fun o => (price? highF).bind fun h => (price? lowF).bind fun l => (price? closeF).map fun c => ⟨o, h, l, c⟩

/-- The envelope repair. -/
def Prices.repaired (p : Prices) : Prices :=
  { p with highF := max (max p.highF p.openF) p.closeF, lowF := min (min p.lowF p.openF) p.closeF }

/-- `(high_f + low_f + close_f) / 3.0`. -/
def Prices.vwap (p : Prices) : PyFloat := (((PyFloat.finite p.highF).add (.finite p.lowF)).add (.finite p.closeF)).div (.finite 3)

/-- A volume, or zero where it is not one. -/
def cleanVolume (volume : PyFloat) : ℚ :=
  match volume with
  | .finite v => if v < 0 then 0 else v
  | _ => 0

/-- `float(raw_v) if raw_v is not None else 0.0`. -/
def volumeOf (rawV : Option PyNumber) : Except Exc PyFloat :=
  match rawV with
  | none => .ok (.finite 0)
  | some v => toFloat (some v)

/-- `float(raw_ac) if raw_ac is not None and not math.isnan(float(raw_ac)) else None`. -/
def adjCloseOf (rawAc : Option PyNumber) : Except Exc (Option PyFloat) :=
  match rawAc with
  | none => .ok none
  | some ac => (toFloat (some ac)).map fun x => if x = .nan then none else some x

/-- The arguments of the constructor, as far as they are finite. -/
def barFields (tsNs : ℤ) (p : Prices) (volumeF vwapF : ℚ) (adjCloseF : Option ℚ) : HistoricalBarFields where
  assetId := symbol
  timestamp := tsNs
  openPrice := p.openF
  high := p.highF
  low := p.lowF
  close := p.closeF
  volume := volumeF
  vwap := vwapF
  resolution := resolution
  adjClose := adjCloseF
  splitFactor := 1
  dividendAmount := 0

/-- The constructor of a bar on the floats of a pass; the checks come in its order. -/
def createBar (tsNs : ℤ) (p : Prices) (volumeF : ℚ) (vwapF : PyFloat) (adjCloseF : Option PyFloat) :
    Except Exc HistoricalPriceBar :=
  if symbol = "" then .error ⟨.nonFiniteHistoricalInput, "asset_id must be non-empty string", []⟩
  else if tsNs ≤ 0 then
    .error ⟨.nonFiniteHistoricalInput, "timestamp must be positive integer nanoseconds, got %", [.num tsNs]⟩
  else
    (requireFinite "vwap must be finite real number, got %" vwapF).bind fun vwap =>
    match adjCloseF with
    | none => (barFields symbol resolution tsNs p volumeF vwap none).create
    | some (.finite a) => (barFields symbol resolution tsNs p volumeF vwap (some a)).create
    | some x =>
      (barFields symbol resolution tsNs p volumeF vwap none).create.bind fun _ =>
        .error ⟨.invalidBarGeometry, "adj_close must be strictly positive finite float, got %", [floatArg x]⟩

/-- `except InvalidBarGeometryError`: the bar is dropped. -/
def dropAnomaly : Except Exc HistoricalPriceBar → Except Exc (Option HistoricalPriceBar)
  | .ok bar => .ok (some bar)
  | .error exc => if exc.cls = .invalidBarGeometry then .ok none else .error exc

/-- A pass with four prices. -/
def parsePrices (tsSec : PyNumber) (p : Prices) (volumeF : PyFloat) (adjCloseF : Option PyFloat) :
    Except Exc (Option HistoricalPriceBar) :=
  (toInt (some tsSec)).bind fun ts =>
  dropAnomaly (createBar symbol resolution (ts * 10 ^ 9) p.repaired (cleanVolume volumeF) p.repaired.vwap adjCloseF)

/-- A pass after its reads. -/
def parseCells (tsSec : PyNumber) (cells : Cells) : Except Exc (Option HistoricalPriceBar) :=
  match cells.rawO, cells.rawH, cells.rawL, cells.rawC with
  | some rawO, some rawH, some rawL, some rawC =>
    (toFloat (some rawO)).bind fun openF =>
    (toFloat (some rawH)).bind fun highF =>
    (toFloat (some rawL)).bind fun lowF =>
    (toFloat (some rawC)).bind fun closeF =>
    (volumeOf cells.rawV).bind fun volumeF =>
    (adjCloseOf cells.rawAc).bind fun adjCloseF =>
    match prices? openF highF lowF closeF with
    | some p => parsePrices symbol resolution tsSec p volumeF adjCloseF
    | none => .ok none
  | _, _, _, _ => .ok none

/-- A pass: the bar it appends, if it appends one. -/
def parseBar (series : Series) (tsSec : Option PyNumber) (i : ℕ) : Except Exc (Option HistoricalPriceBar) :=
  match tsSec with
  | none => .ok none
  | some ts =>
    if ts.exact.le (.finite 0) then .ok none
    else (readCells series i).bind (parseCells symbol resolution ts)

/-- The loop. -/
def parseBars (series : Series) : Except Exc (List HistoricalPriceBar) :=
  (series.timestamps.zipIdx.mapM fun row => parseBar symbol resolution series row.1 row.2).map List.reduceOption

/-- `parse_chart_response`. -/
def parseChartResponse (data : YahooPayload) : Except Exc (HistoricalBarBatch × List CorporateActionRecord) :=
  (readChart symbol data).bind fun series =>
  (parseBars symbol resolution series).bind fun bars =>
  if bars.isEmpty then
    .error ⟨.emptyHistoricalBatch, "All % bars for '%' were null or degenerate", [.num series.timestamps.length, .str symbol]⟩
  else
    let sorted := bars.insertionSort fun b b' => b.timestamp ≤ b'.timestamp
    let dedupedBars := sorted.foldl (keepLatest (·.timestamp)) []
    (HistoricalBarBatch.create symbol resolution dedupedBars).map fun batch => (batch, series.corporateActions)

end YahooFinanceHistoricalProvider

end Quant
