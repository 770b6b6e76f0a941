import Quant.Lemmas.ChartFields
import Quant.Pylib.Steps

/-!
# The chart parser

What a payload says about its bars, read without raising, against what `parse_chart_response` makes of it: the last valid entry of
each time, exactly where no null is in its way and no entry stops it.
-/

namespace Quant

open Pylib

namespace YahooFinanceHistoricalProvider

def quoteCell (r : YahooResult) (array : YahooQuote → JsonField Column) (i : ℕ) : Option PyNumber :=
  cellAt (r.quote?.bind fun quote => (array quote).get none) i

/-- The entries of a payload. -/
def entries (data : YahooPayload) : List Entry :=
  match data.result? with
  | none => []
  | some r => r.timestamp.items.zipIdx.map fun (tsSec, i) =>
      { tsSec := tsSec
        cells :=
          { rawO := quoteCell r (·.openPrice) i
            rawH := quoteCell r (·.high) i
            rawL := quoteCell r (·.low) i
            rawC := quoteCell r (·.close) i
            rawV := quoteCell r (·.volume) i
            rawAc := cellAt (r.adjCloses.get none) i } }

/-- None of the six arrays of a payload is null. -/
def HasArrays (data : YahooPayload) : Prop :=
  ∀ r quote, data.result? = some r → r.quote? = some quote →
    quote.openPrice.isNull = false ∧ quote.high.isNull = false ∧ quote.low.isNull = false ∧ quote.close.isNull = false ∧
      quote.volume.isNull = false ∧ r.adjCloses.isNull = false

variable (symbol : String) (resolution : Resolution)

/-- The valid bars of a payload in the order of its entries. -/
def validBars (data : YahooPayload) : List HistoricalPriceBar := (entries data).filterMap (Entry.validBar symbol resolution)

/-- The parser is robust on a payload: it returns the last valid entry of each time in their order, or it raises an error of its
own, and then no entry is valid. -/
def Robust (data : YahooPayload) : Prop :=
  match parseChartResponse symbol resolution data with
  | .ok (batch, _) => IsLatest (·.timestamp) (validBars symbol resolution data) batch.bars
  | .error exc => exc.cls.isHistoricalData = true ∧ validBars symbol resolution data = []

/-! ## The loop -/

namespace Series

variable (s : Series)

/-- What the arrays of a series hold at a place. -/
def cellsAt (i : ℕ) : Cells :=
  { rawO := cellAt s.rawOpens i
    rawH := cellAt s.rawHighs i
    rawL := cellAt s.rawLows i
    rawC := cellAt s.rawCloses i
    rawV := cellAt s.rawVolumes i
    rawAc := cellAt s.rawAdjCloses i }

def entries : List Entry := s.timestamps.zipIdx.map fun (tsSec, i) => ⟨tsSec, s.cellsAt i⟩

/-- One of the arrays is null. -/
def nullArray : Bool :=
  s.rawOpens.isNone || (s.rawHighs.isNone ||
    (s.rawLows.isNone || (s.rawCloses.isNone || (s.rawVolumes.isNone || s.rawAdjCloses.isNone))))

end Series

theorem raisesIf_cell (raw : Option Column) (i : ℕ) : RaisesIf .typeError raw.isNone (cell raw i) (.ok (cellAt raw i)) := by
  cases raw with
  | none => exact ⟨fun _ => ⟨_, rfl, rfl⟩, fun h => by cases h⟩
  | some xs => exact .never _

theorem raisesIf_readCells (s : Series) (i : ℕ) : RaisesIf .typeError s.nullArray (readCells s i) (.ok (s.cellsAt i)) :=
  (raisesIf_cell s.rawOpens i).bind <| (raisesIf_cell s.rawHighs i).bind <| (raisesIf_cell s.rawLows i).bind <|
    (raisesIf_cell s.rawCloses i).bind <| (raisesIf_cell s.rawVolumes i).bind <|
    (raisesIf_cell s.rawAdjCloses i).map fun rawAc => ({ s.cellsAt i with rawAc := rawAc } : Cells)

theorem parseEntry_of_not_reached {e : Entry} (h : e.reached = false) : parseEntry symbol resolution e = .ok none := by
  obtain ⟨_ | ts, c⟩ := e
  · rfl
  · exact if_pos (by simpa [Entry.reached] using h)

/-- A pass needs the arrays where it reads them. -/
theorem raisesIf_parseBar (s : Series) (tsSec : Option PyNumber) (i : ℕ) :
    RaisesIf .typeError ((⟨tsSec, s.cellsAt i⟩ : Entry).reached && s.nullArray) (parseBar symbol resolution s tsSec i)
      (parseEntry symbol resolution ⟨tsSec, s.cellsAt i⟩) := by
  cases tsSec with
  | none => exact .never _
  | some ts =>
    rw [parseBar, parseEntry, Entry.reached, Option.any_some]
    dsimp only
    cases ts.exact.le (.finite 0) with
    | true => exact .never (.ok none)
    | false =>
      have h := (raisesIf_readCells s i).bind (.never (parseCells symbol resolution ts (s.cellsAt i)))
      rw [Bool.or_false] at h
      exact h

/-- A null array stops the loop at the first entry that is reached. -/
theorem parseBars_of_nullArray {s : Series} (hnull : s.nullArray = true) (hreached : ∃ e ∈ s.entries, e.reached = true) :
    ∃ exc, parseBars symbol resolution s = .error exc ∧ exc.cls = .typeError := by
  let entry (row : Option PyNumber × ℕ) : Entry := ⟨row.1, s.cellsAt row.2⟩
  obtain ⟨e, he, hreached⟩ := hreached
  obtain ⟨row, hrow, rfl⟩ := List.mem_map.1 he
  have hfind : (s.timestamps.zipIdx.find? fun row => (entry row).reached).isSome := List.find?_isSome.2 ⟨row, hrow, hreached⟩
  obtain ⟨first, hfirst⟩ := Option.isSome_iff_exists.1 hfind
  have hreach : (entry first).reached = true := List.find?_some (p := fun row => (entry row).reached) hfirst
  obtain ⟨exc, hexc, hcls⟩ := (raisesIf_parseBar symbol resolution s first.1 first.2).raises
    (Bool.and_eq_true_iff.2 ⟨hreach, hnull⟩)
  have hpass : ∀ row ∈ s.timestamps.zipIdx, (entry row).reached = false →
      ∃ bar, parseBar symbol resolution s row.1 row.2 = .ok bar := by
    intro row _ hrow
    refine ⟨none, ?_⟩
    rw [(raisesIf_parseBar symbol resolution s row.1 row.2).returns
      (Bool.and_eq_false_imp.2 fun h => absurd (hrow.symm.trans h) (by simp))]
    exact parseEntry_of_not_reached symbol resolution hrow
  refine ⟨exc, ?_, hcls⟩
  rw [parseBars, mapM_error_of_find? hpass hfirst hexc]
  rfl

/-- Otherwise the loop takes the entries one by one. -/
theorem parseBars_eq {s : Series} (h : (∃ e ∈ s.entries, e.reached = true) → s.nullArray = false) :
    parseBars symbol resolution s = (s.entries.mapM (parseEntry symbol resolution)).map List.reduceOption := by
  rw [parseBars, Series.entries, List.mapM_map]
  congr 1
  refine mapM_congr fun row hrow => ?_
  refine (raisesIf_parseBar symbol resolution s row.1 row.2).returns (Bool.and_eq_false_imp.2 fun hreached => ?_)
  exact h ⟨_, List.mem_map_of_mem hrow, hreached⟩

/-- Where no entry stops the loop, it returns the valid bars. -/
theorem mapM_parseEntry_of_passes {es : List Entry} (h : es.find? (Entry.stops symbol) = none) :
    (es.mapM (parseEntry symbol resolution)).map List.reduceOption = .ok (es.filterMap (Entry.validBar symbol resolution)) := by
  rw [Entry.Fate.mapM_of_passes (parseEntry_spec symbol resolution) h]
  change Except.ok ((es.map (Entry.validBar symbol resolution)).filterMap id) = _
  rw [List.filterMap_map]
  rfl

/-! ## The whole payload -/

/-- The series that was read has the entries of the payload. -/
theorem entries_eq {data : YahooPayload} {s : Series} {r : YahooResult} {quote : YahooQuote} (hr : data.result? = some r)
    (hquote : r.quote? = some quote) (h : s.Holds r quote) : entries data = s.entries := by
  have hcell : ∀ (field : JsonField Column) (i : ℕ), cellAt (field.get none) i = cellAt (field.get (some [])) i := by
    intro field i
    cases field <;> rfl
  rw [entries, hr, Series.entries, h.timestamps]
  refine List.map_congr_left fun row _ => ?_
  simp only [quoteCell, hquote, Option.bind_some, hcell, Series.cellsAt, h.rawOpens, h.rawHighs, h.rawLows,
    h.rawCloses, h.rawVolumes,
    h.rawAdjCloses]

theorem nullArray_eq_false_iff {data : YahooPayload} {s : Series} {r : YahooResult} {quote : YahooQuote}
    (hr : data.result? = some r)
    (hquote : r.quote? = some quote) (h : s.Holds r quote) : s.nullArray = false ↔ HasArrays data := by
  have hnone : ∀ field : JsonField Column, (field.get (some [])).isNone = field.isNull := by
    intro field
    cases field <;> rfl
  have hnull : s.nullArray = false ↔ quote.openPrice.isNull = false ∧ quote.high.isNull = false ∧ quote.low.isNull = false ∧
      quote.close.isNull = false ∧ quote.volume.isNull = false ∧ r.adjCloses.isNull = false := by
    simp [Series.nullArray, h.rawOpens, h.rawHighs, h.rawLows, h.rawCloses, h.rawVolumes, h.rawAdjCloses, hnone]
  rw [hnull]
  constructor
  · intro hall r' quote' hr' hquote'
    rw [hr, Option.some_inj] at hr'
    subst hr'
    rw [hquote, Option.some_inj] at hquote'
    subst hquote'
    exact hall
  · intro hall
    exact hall r quote hr hquote

/-- Without times or quotes an entry has no prices. -/
theorem quoted_eq_false {data : YahooPayload}
    (h : ∀ r, data.result? = some r → r.timestamp.items = [] ∨ r.quote? = none) {e : Entry}
    (he : e ∈ entries data) : e.cells.quoted = false := by
  rw [entries] at he
  cases hr : data.result? with
  | none => simp [hr] at he
  | some r =>
    simp only [hr, List.mem_map] at he
    obtain ⟨row, hrow, rfl⟩ := he
    rcases h r hr with hnil | hquote
    · simp [hnil] at hrow
    · simp [Cells.quoted, quoteCell, hquote, cellAt]

theorem validBars_of_not_quoted {data : YahooPayload} (h : ∀ e ∈ entries data, e.cells.quoted = false) :
    validBars symbol resolution data = [] :=
  List.filterMap_eq_nil_iff.2 fun e he => validBar_of_no_prices symbol resolution (prices?_of_not_quoted (h e he))

theorem stops_of_not_quoted {e : Entry} (h : e.cells.quoted = false) : e.stops symbol = false := by
  have hprices := prices?_of_not_quoted h
  refine decide_eq_false (not_not.2 ?_)
  rw [Entry.fate]
  split
  · rfl
  · simp [h, hprices]

/-- What the parser makes of the bars of the loop. -/
theorem robust_of_parseBars {data : YahooPayload} {s : Series} (hread : readChart symbol data = .ok s)
    (hbars : parseBars symbol resolution s = .ok (validBars symbol resolution data)) : Robust symbol resolution data := by
  rw [Robust, parseChartResponse, hread, Except.bind, hbars, Except.bind]
  by_cases hnil : validBars symbol resolution data = []
  · rw [if_pos (List.isEmpty_iff.2 hnil)]
    exact ⟨rfl, hnil⟩
  rw [if_neg (mt List.isEmpty_iff.1 hnil)]
  have hlatest := isLatest_insertionSort (fun bar : HistoricalPriceBar => bar.timestamp) (validBars symbol resolution data)
  obtain ⟨bar, hbar⟩ := List.exists_mem_of_ne_nil _ hnil
  obtain ⟨e, -, he⟩ := List.mem_filterMap.1 hbar
  obtain ⟨batch, hbatch, -, -, hbatchBars⟩ :=
    HistoricalBarBatch.create_eq_ok resolution (symbol_ne_of_validBar symbol resolution he)
      (hlatest.ne_nil hnil) hlatest.increasing
  dsimp only
  rw [hbatch]
  change IsLatest _ _ batch.bars
  rw [hbatchBars]
  exact hlatest

theorem robust_iff_of_error {data : YahooPayload} {exc : Exc} (h : parseChartResponse symbol resolution data = .error exc) :
    Robust symbol resolution data ↔ exc.cls.isHistoricalData = true ∧ validBars symbol resolution data = [] := by
  rw [Robust, h]

/-- What the loop raises the parser raises. -/
theorem parseChartResponse_of_parseBars_error {data : YahooPayload} {s : Series} {exc : Exc}
    (hread : readChart symbol data = .ok s)
    (hbars : parseBars symbol resolution s = .error exc) : parseChartResponse symbol resolution data = .error exc := by
  rw [parseChartResponse, hread, Except.bind, hbars]
  rfl

/-- Nothing is in the parser's way: it finds no null in the place of an object or of an array it reads, and it gets past every
entry, or the first one it does not get past is refused and none is valid. -/
structure Unobstructed (data : YahooPayload) : Prop where
  readable : data.Readable
  arrays : (∃ e ∈ entries data, e.reached = true) → HasArrays data
  first : ∀ e, (entries data).find? (Entry.stops symbol) = some e → e.fate symbol = .refused ∧
    validBars symbol resolution data = []

/-- Where the fields of the payload cannot be read, only a null can be in the way. -/
theorem robust_iff_of_unread {data : YahooPayload} {exc : Exc} (hread : readChart symbol data = .error exc) :
    Robust symbol resolution data ↔ Unobstructed symbol resolution data := by
  have hreads := readsPayload_readChart symbol data
  rw [hread] at hreads
  have hraises : parseChartResponse symbol resolution data = .error exc := by
    rw [parseChartResponse, hread]
    rfl
  rw [robust_iff_of_error symbol resolution hraises]
  constructor
  · rintro ⟨hcls, -⟩
    have hreadable := hreads.1.1 hcls
    have hquoted : ∀ e ∈ entries data, e.cells.quoted = false := fun e he => quoted_eq_false (hreads.2 hreadable) he
    refine ⟨hreadable, fun hreached r quote hr hquote => ?_, fun e he => ?_⟩
    · obtain ⟨e, he, -⟩ := hreached
      rcases hreads.2 hreadable r hr with hts | hnone
      · simp [entries, hr, hts] at he
      · rw [hnone] at hquote
        cases hquote
    · have hstops : e.stops symbol = true := List.find?_some he
      rw [stops_of_not_quoted symbol (hquoted e (List.mem_of_find?_eq_some he))] at hstops
      cases hstops
  · intro h
    exact ⟨hreads.1.2 h.readable,
      validBars_of_not_quoted symbol resolution fun e he => quoted_eq_false (hreads.2 h.readable) he⟩

/-- Where they are read, the arrays and the entries decide. -/
theorem robust_iff_of_read {data : YahooPayload} {s : Series} (hread : readChart symbol data = .ok s) :
    Robust symbol resolution data ↔ Unobstructed symbol resolution data := by
  have hreads := readsPayload_readChart symbol data
  rw [hread] at hreads
  obtain ⟨hreadable, r, quote, hr, hquote, hholds⟩ := hreads
  have hentries := entries_eq hr hquote hholds
  have harrays := nullArray_eq_false_iff hr hquote hholds
  by_cases hreached : (∃ e ∈ entries data, e.reached = true) → HasArrays data
  · rw [hentries, ← harrays] at hreached
    have hbars := parseBars_eq symbol resolution hreached
    cases hfind : (entries data).find? (Entry.stops symbol) with
    | none =>
      rw [← hentries, mapM_parseEntry_of_passes symbol resolution hfind] at hbars
      refine iff_of_true (robust_of_parseBars symbol resolution hread hbars) ⟨hreadable, ?_, ?_⟩
      · rwa [hentries, ← harrays]
      · intro e he
        rw [hfind] at he
        cases he
    | some e =>
      obtain ⟨exc, hexc, hcls⟩ := Entry.Fate.mapM_of_stops (parseEntry_spec symbol resolution) hfind
      rw [← hentries, hexc] at hbars
      rw [robust_iff_of_error symbol resolution (parseChartResponse_of_parseBars_error symbol resolution hread hbars), hcls]
      constructor
      · intro h
        refine ⟨hreadable, ?_, fun e' he' => ?_⟩
        · rwa [hentries, ← harrays]
        · rw [hfind, Option.some_inj] at he'
          rwa [← he']
      · intro h
        exact h.first e hfind
  · refine iff_of_false (fun hrobust => ?_) fun h => hreached h.arrays
    rw [Classical.not_imp, hentries, ← harrays, Bool.not_eq_false] at hreached
    obtain ⟨exc, hexc, hcls⟩ := parseBars_of_nullArray symbol resolution hreached.2 hreached.1
    rw [robust_iff_of_error symbol resolution (parseChartResponse_of_parseBars_error symbol resolution hread hexc),
      hcls] at hrobust
    cases hrobust.1

/-- The parser is robust exactly where nothing is in its way. -/
theorem robust_iff (data : YahooPayload) : Robust symbol resolution data ↔ Unobstructed symbol resolution data := by
  cases hread : readChart symbol data with
  | error exc => exact robust_iff_of_unread symbol resolution hread
  | ok s => exact robust_iff_of_read symbol resolution hread

/-- What the batch is of, and the order of the corporate actions it comes with. -/
theorem of_parseChartResponse {data : YahooPayload} {batch : HistoricalBarBatch} {actions : List CorporateActionRecord}
    (h : parseChartResponse symbol resolution data = .ok (batch, actions)) :
    batch.symbol = symbol ∧ batch.resolution = resolution ∧ actions.Pairwise fun a b => a.timestamp ≤ b.timestamp := by
  obtain ⟨s, hread, h⟩ := exists_of_bind_ok h
  obtain ⟨bars, -, h⟩ := exists_of_bind_ok h
  split at h
  · cases h
  obtain ⟨batch', hbatch, heq⟩ := exists_of_map_ok h
  cases heq
  obtain ⟨hsymbol, hresolution⟩ := HistoricalBarBatch.of_create hbatch
  exact ⟨hsymbol, hresolution, sorted_of_readChart symbol hread⟩

/-! ### Payloads that stop the parser -/

/-- A payload of one result with one price at every place. -/
def flatPayload (timestamps : Column) (volume : JsonField Column) : YahooPayload :=
  let prices : JsonField Column := .value (timestamps.map fun _ => some (.float (.finite 10)))
  { chart := .value
      { result := .value
          [some
            { timestamp := .value timestamps
              indicators := .value
                { quote := .value [some { openPrice := prices, high := prices, low := prices, close := prices, volume := volume }]
                } }] } }

/-- A null in the place of the volumes: the parser raises a `TypeError`. -/
theorem not_robust_nullVolume : ¬ Robust "AAPL" .oneDay (flatPayload [some (.int 86400)] .null) := by
  have hraises : parseChartResponse "AAPL" .oneDay (flatPayload [some (.int 86400)] .null) =
      .error ⟨.typeError, "object of type 'NoneType' has no len()", []⟩ := rfl
  rw [Robust, hraises]
  intro h
  cases h.1

/-- An entry at half a second takes the good one before it down. -/
example : (match parseChartResponse "AAPL"
    .oneDay (flatPayload [some (.int 86400), some (.float (.finite (1 / 2)))] .missing) with
    | .ok _ => none
    | .error exc => some exc.cls) = some .nonFiniteHistoricalInput := by
  decide +kernel

end YahooFinanceHistoricalProvider

end Quant
