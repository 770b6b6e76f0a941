import Quant.Data.YahooProvider
import Quant.Pylib.Text

/-!
# The institutional providers

The bar parsers, the paging loops and the data hub of `data/institutional_providers.py`. A parser takes a list of JSON objects in
which every field may be left out or null. The network is a parameter, and so is the answer of the Yahoo provider; a loop runs on
fuel, without which it has not ended, and beside its result stands the list of the pages it requested.
-/

namespace Quant

open Pylib

/-- An object of a provider's list. -/
structure ProviderBar (τ : Type) where
  t : JsonField τ := .missing
  o : JsonField PyNumber := .missing
  h : JsonField PyNumber := .missing
  l : JsonField PyNumber := .missing
  c : JsonField PyNumber := .missing
  v : JsonField PyNumber := .missing
  vw : JsonField PyNumber := .missing

namespace ProviderBar

variable {τ : Type}

/-! ## The numbers of an object -/

/-- The floats a pass converts before its checks. -/
structure Quote where
  o : PyFloat
  h : PyFloat
  lo : PyFloat
  c : PyFloat
  v : PyFloat
  vw : PyFloat

namespace Quote

variable (q : Quote)

/-- The check of the prices, which `NaN` passes. -/
def nonPositive : Bool := q.o.le (.finite 0) || q.h.le (.finite 0) || q.lo.le (.finite 0) || q.c.le (.finite 0)

/-- `max(h, o, c)`. -/
def high : PyFloat := (q.h.pyMax q.o).pyMax q.c

/-- `min(lo, o, c)`. -/
def low : PyFloat := (q.lo.pyMin q.o).pyMin q.c

/-- The vwap, or the mean of the repaired prices in the place of one that is not positive. -/
def vwap : PyFloat := if q.vw.le (.finite 0) then ((q.high.add q.low).add q.c).div (.finite 3) else q.vw

/-- `max(0.0, v)`. -/
def volume : PyFloat := (PyFloat.finite 0).pyMax q.v

end Quote

/-- The conversions of a pass: a field that is left out has its default, and the vwap's is the close. -/
def readQuote (r : ProviderBar τ) : Except Exc Quote :=
  (toFloat (r.o.get (some (.float (.finite 0))))).bind fun o =>
  (toFloat (r.h.get (some (.float (.finite 0))))).bind fun h =>
  (toFloat (r.l.get (some (.float (.finite 0))))).bind fun lo =>
  (toFloat (r.c.get (some (.float (.finite 0))))).bind fun c =>
  (toFloat (r.v.get (some (.float (.finite 0))))).bind fun v =>
  (toFloat (r.vw.get (some (.float c)))).map fun vw => ⟨o, h, lo, c, v, vw⟩

/-! ## The loop both parsers run -/

/-- What the two parsers do not share: how they read a time, and two texts. No time skips the object; an error of the reading is
raised only after the prices have passed their check. -/
structure Reader (τ : Type) where
  readTime : JsonField τ → Option (Except Exc ℤ)
  emptyText : String
  degenerateText : String

variable (symbol : String) (resolution : Resolution)

/-- The constructor of a bar on the floats of a pass; the checks come in its order. -/
def createBar (tsNs : ℤ) (q : Quote) : Except Exc HistoricalPriceBar :=
  if symbol = "" then .error ⟨.nonFiniteHistoricalInput, "asset_id must be non-empty string", []⟩
  else if tsNs ≤ 0 then
    .error ⟨.nonFiniteHistoricalInput, "timestamp must be positive integer nanoseconds, got %", [.num tsNs]⟩
  else
    (requireFinite "open must be finite real number, got %" q.o).bind fun o =>
    (requireFinite "high must be finite real number, got %" q.high).bind fun h =>
    (requireFinite "low must be finite real number, got %" q.low).bind fun lo =>
    (requireFinite "close must be finite real number, got %" q.c).bind fun c =>
    (requireFinite "volume must be finite real number, got %" q.volume).bind fun v =>
    (requireFinite "vwap must be finite real number, got %" q.vwap).bind fun vw =>
    HistoricalBarFields.create
      { assetId := symbol
        timestamp := tsNs
        openPrice := o
        high := h
        low := lo
        close := c
        volume := v
        vwap := vw
        resolution := resolution
        adjClose := some c
        splitFactor := 1
        dividendAmount := 0 }

variable (reader : Reader τ)

/-- A pass: the bar it appends, if it appends one. -/
def parseBar (r : ProviderBar τ) : Except Exc (Option HistoricalPriceBar) :=
  match reader.readTime r.t with
  | none => .ok none
  | some time =>
    r.readQuote.bind fun q =>
    if q.nonPositive then .ok none
    else time.bind fun tsNs => YahooFinanceHistoricalProvider.dropAnomaly (createBar symbol resolution tsNs q)

/-- The loop, the sort and the scan for repeated times. -/
def parseBars (results : List (ProviderBar τ)) : Except Exc HistoricalBarBatch :=
  if results.isEmpty then .error ⟨.emptyHistoricalBatch, reader.emptyText, [.str symbol]⟩
  else
    (results.mapM (parseBar symbol resolution reader)).bind fun parsed =>
    let bars := parsed.reduceOption
    if bars.isEmpty then .error ⟨.emptyHistoricalBatch, reader.degenerateText, [.str symbol]⟩
    else
      let sorted := bars.insertionSort fun b b' => b.timestamp ≤ b'.timestamp
      HistoricalBarBatch.create symbol resolution (sorted.foldl (keepLatest (·.timestamp)) [])

end ProviderBar

namespace PolygonHistoricalProvider

/-- Milliseconds; `int(ts_ms)` comes after the check of the prices. -/
def reader : ProviderBar.Reader PyNumber where
  readTime t :=
    match t.get none with
    | none => none
    | some tsMs => if tsMs.exact.le (.finite 0) then none else some ((toInt (some tsMs)).map (· * 10 ^ 6))
  emptyText := "Polygon returned empty results for symbol '%'"
  degenerateText := "All Polygon bars for '%' were degenerate"

/-- `parse_polygon_results`. -/
def parsePolygonResults (symbol : String) (resolution : Resolution) (results : List (ProviderBar PyNumber)) :
    Except Exc HistoricalBarBatch :=
  ProviderBar.parseBars symbol resolution reader results

end PolygonHistoricalProvider

namespace AlpacaHistoricalProvider

/-- What an object may hold as its time. -/
inductive TimeField where
  | str (s : String)
  | number (x : PyNumber)

/-- A text in ISO format, whose reading is `int(datetime.fromisoformat(s).timestamp() * 1_000_000_000)`, `none` where it
raises. -/
def reader (isoNanoseconds : String → Option ℤ) : ProviderBar.Reader TimeField where
  readTime t :=
    match t.get none with
    | some (.str tStr) => if tStr = "" then none else (isoNanoseconds (tStr.replace "Z" "+00:00")).map .ok
    | _ => none
  emptyText := "Alpaca returned empty bar list for symbol '%'"
  degenerateText := "All Alpaca bars for '%' were degenerate"

/-- `parse_alpaca_bars`. -/
def parseAlpacaBars (isoNanoseconds : String → Option ℤ) (symbol : String) (resolution : Resolution)
    (barsList : List (ProviderBar TimeField)) : Except Exc HistoricalBarBatch :=
  ProviderBar.parseBars symbol resolution (reader isoNanoseconds) barsList

end AlpacaHistoricalProvider

/-! ## Requests -/

/-- What `client.get` sends, with the parameters as texts. -/
structure PageRequest where
  url : String
  params : Option (List (String × String))
  headers : List (String × String)

/-- What comes back; `resp.json()` may raise. -/
structure PageResponse (π : Type) where
  statusCode : ℕ
  text : String := ""
  json : Except Exc π

/-- A client, which may raise. -/
abbrev PageClient (π : Type) := PageRequest → Except Exc (PageResponse π)

/-- `resp.text[:200]`. -/
def PageResponse.head {π : Type} (resp : PageResponse π) : String := String.ofList (resp.text.toList.take 200)

/-- A cursor that is tested for truth. -/
def JsonField.cursor (field : JsonField String) : Option String := (field.get none).filter (· ≠ "")

/-- What is asked for: the symbol in upper case, and the ends of the range as each provider formats them. -/
structure BarQuery where
  symbol : String
  resolution : Resolution := .oneDay
  fromStr : String
  toStr : String
  startStr : String
  endStr : String

/-! ## Polygon -/

/-- `PolygonHistoricalProvider`, by its key. -/
structure PolygonHistoricalProvider where
  apiKey : String

namespace PolygonHistoricalProvider

structure Payload where
  results : JsonField (List (ProviderBar PyNumber)) := .missing
  nextUrl : JsonField String := .missing

def baseUrl : String := "https://api.polygon.io/v2/aggs/ticker"

/-- `POLYGON_RESOLUTION_MAP`. -/
def resolutionMap : Resolution → Option (ℕ × String)
  | .oneMinute => some (1, "minute")
  | .fiveMinutes => some (5, "minute")
  | .fifteenMinutes => some (15, "minute")
  | .oneHour => some (1, "hour")
  | .oneDay => some (1, "day")
  | .oneSecond => none

/-- The URL of the first page. -/
def firstUrl (query : BarQuery) : String :=
  let (multiplier, timespan) := (resolutionMap query.resolution).getD (1, "day")
  baseUrl ++ "/" ++ query.symbol ++ "/range/" ++ toString multiplier ++ "/" ++ timespan ++ "/" ++ query.fromStr ++
    "/" ++ query.toStr

/-- The parameters of the first page. -/
def firstParams : List (String × String) := [("adjusted", "true"), ("sort", "asc"), ("limit", "50000")]

/-- The checks of a response. -/
def readPage (resp : PageResponse Payload) : Except Exc Payload :=
  if resp.statusCode = 401 then .error ⟨.polygonProvider, "Invalid Polygon API Key (HTTP 401)", []⟩
  else if resp.statusCode = 429 then .error ⟨.polygonProvider, "Polygon API rate limit exceeded (HTTP 429)", []⟩
  else if resp.statusCode ≠ 200 then
    .error ⟨.polygonProvider, "Polygon API returned HTTP %: %", [.num resp.statusCode, .str resp.head]⟩
  else resp.json

variable (self : PolygonHistoricalProvider)

/-- `is_configured`. -/
def isConfigured : Bool := self.apiKey ≠ "" && 0 < (strip self.apiKey).length

def headers : List (String × String) := [("Authorization", "Bearer " ++ self.apiKey), ("Accept", "application/json")]

variable (client : PageClient Payload)

/-- `while url`, from a URL on: what was requested and what was found so far go along. -/
def fetchPages : ℕ → String → List (String × String) → List String → List (ProviderBar PyNumber) →
    Option (List String × Except Exc (List (ProviderBar PyNumber)))
  | 0, _, _, _, _ => none
  | fuel + 1, url, params, requested, allResults =>
    if url = "" then some (requested, .ok allResults)
    else
      let request := ⟨url, if baseUrl.toList <+: url.toList then some params else none, self.headers⟩
      match (client request).bind readPage with
      | .error exc => some (requested ++ [url], .error exc)
      | .ok payload =>
        -- `isinstance(results, list)`: what is not a list is left out.
        let allResults := allResults ++ payload.results.items
        match payload.nextUrl.cursor with
        | none => some (requested ++ [url], .ok allResults)
        | some nextUrl =>
          if nextUrl = url then some (requested ++ [url], .ok allResults)
          else fetchPages fuel nextUrl [] (requested ++ [url]) allResults

/-- `fetch_historical_bars_async`. -/
def fetchHistoricalBars (query : BarQuery) (fuel : ℕ) : Option (Except Exc HistoricalBarBatch) :=
  if self.isConfigured then
    (fetchPages self client fuel (firstUrl query) firstParams [] []).map fun pages =>
      pages.2.bind (parsePolygonResults query.symbol query.resolution)
  else some (.error ⟨.polygonProvider, "Polygon API key is not configured", []⟩)

end PolygonHistoricalProvider

/-! ## Alpaca -/

/-- `AlpacaHistoricalProvider`, by its keys and its URL. -/
structure AlpacaHistoricalProvider where
  apiKey : String
  secretKey : String
  baseUrl : String

namespace AlpacaHistoricalProvider

/-- `bars` holds a list for each symbol. -/
structure Payload where
  bars : JsonField (List (String × JsonField (List (ProviderBar TimeField)))) := .missing
  nextPageToken : JsonField String := .missing

/-- `ALPACA_TIMEFRAME_MAP`. -/
def timeframeMap : Resolution → Option String
  | .oneMinute => some "1Min"
  | .fiveMinutes => some "5Min"
  | .fifteenMinutes => some "15Min"
  | .oneHour => some "1Hour"
  | .oneDay => some "1Day"
  | .oneSecond => none

/-- The parameters of a page; the first has no token. -/
def pageParams (query : BarQuery) (pageToken : Option String) : List (String × String) :=
  [("symbols", query.symbol), ("timeframe", (timeframeMap query.resolution).getD "1Day"), ("start", query.startStr),
    ("end", query.endStr),
    ("limit", "10000"), ("adjustment", "all")] ++ (pageToken.map fun token => ("page_token", token)).toList

/-- The checks of a response. -/
def readPage (resp : PageResponse Payload) : Except Exc Payload :=
  if resp.statusCode = 401 ∨ resp.statusCode =
    403 then .error ⟨.alpacaHistorical, "Invalid Alpaca credentials (HTTP 401/403)", []⟩
  else if resp.statusCode ≠ 200 then
    .error ⟨.alpacaHistorical, "Alpaca API returned HTTP %: %", [.num resp.statusCode, .str resp.head]⟩
  else resp.json

/-- The list of the symbol; what is not a list is left out. -/
def symbolBars (symbol : String) (payload : Payload) : Except Exc (List (ProviderBar TimeField)) :=
  (getAttr "get" (payload.bars.get (some []))).map fun barsDict => ((barsDict.lookup symbol).getD (.value [])).items

variable (self : AlpacaHistoricalProvider)

/-- `is_configured`. -/
def isConfigured : Bool := self.apiKey ≠ "" && self.secretKey ≠ ""

def headers : List (String × String) :=
  [("APCA-API-KEY-ID", self.apiKey), ("APCA-API-SECRET-KEY", self.secretKey), ("Accept", "application/json")]

variable (client : PageClient Payload)

/-- `while True`, from a token on. -/
def fetchPages (query : BarQuery) : ℕ → Option String → List (Option String) → List (ProviderBar TimeField) →
    Option (List (Option String) × Except Exc (List (ProviderBar TimeField)))
  | 0, _, _, _ => none
  | fuel + 1, pageToken, requested, allBars =>
    let request := ⟨self.baseUrl, some (pageParams query pageToken), self.headers⟩
    match (client request).bind readPage with
    | .error exc => some (requested ++ [pageToken], .error exc)
    | .ok payload =>
      match symbolBars query.symbol payload with
      | .error exc => some (requested ++ [pageToken], .error exc)
      | .ok bars =>
        match payload.nextPageToken.cursor with
        | none => some (requested ++ [pageToken], .ok (allBars ++ bars))
        | some nextPageToken => fetchPages query fuel (some nextPageToken) (requested ++ [pageToken]) (allBars ++ bars)

/-- `fetch_historical_bars_async`. -/
def fetchHistoricalBars (isoNanoseconds : String → Option ℤ) (query : BarQuery) (fuel : ℕ) :
    Option (Except Exc HistoricalBarBatch) :=
  if self.isConfigured then
    (fetchPages self client query fuel none [] []).map fun pages =>
      pages.2.bind (parseAlpacaBars isoNanoseconds query.symbol query.resolution)
  else some (.error ⟨.alpacaHistorical, "Alpaca API credentials are not configured", []⟩)

end AlpacaHistoricalProvider

/-! ## The hub -/

/-- What the hub meets outside: the two services, the reading of a text in ISO format, and the answer of the Yahoo provider. -/
structure Services where
  polygonClient : PageClient PolygonHistoricalProvider.Payload
  alpacaClient : PageClient AlpacaHistoricalProvider.Payload
  isoNanoseconds : String → Option ℤ
  yahoo : Except Exc HistoricalBarBatch

/-- `HistoricalDataHub`; the name of the preferred provider is in lower case. -/
structure HistoricalDataHub where
  polygon : PolygonHistoricalProvider
  alpaca : AlpacaHistoricalProvider
  preferredProvider : String

namespace HistoricalDataHub

/-- `try: return await provider.fetch(..)` with `except Exception`, then the rest. -/
def orElse (attempt rest : Option (Except Exc HistoricalBarBatch)) : Option (Except Exc HistoricalBarBatch) :=
  match attempt with
  | none => none
  | some (.ok batch) => some (.ok batch)
  | some (.error exc) => if exc.isException then rest else some (.error exc)

/-- `fetch_bars_async`. -/
def fetchBars (hub : HistoricalDataHub) (services : Services) (query : BarQuery) (fuel : ℕ) :
    Option (Except Exc HistoricalBarBatch) :=
  let pref := hub.preferredProvider
  let rest :=
    if (pref = "alpaca" ∨ pref = "auto") ∧ hub.alpaca.isConfigured then
      orElse (hub.alpaca.fetchHistoricalBars services.alpacaClient services.isoNanoseconds query fuel) (some services.yahoo)
    else some services.yahoo
  if (pref = "polygon" ∨ pref = "auto") ∧ hub.polygon.isConfigured then
    orElse (hub.polygon.fetchHistoricalBars services.polygonClient query fuel) rest
  else rest

end HistoricalDataHub

end Quant
