import Quant.Lemmas.ChartEntries

/-!
# The fields of a chart

What `parse_chart_response` reads before its loop over the bars. A null is as good as a missing field in some places, and stops
the parser in the others.
-/

namespace Quant

open Pylib YahooFinanceHistoricalProvider

def JsonField.isNull {α : Type} : JsonField α → Bool
  | .null => true
  | _ => false

/-! ## What a payload holds -/

/-- The error a chart reports. -/
def YahooChart.reported? (chart : YahooChart) : Option YahooError := (chart.error.get none).filter YahooError.truthy

/-- The result of a payload that reports no error. -/
def YahooPayload.result? (data : YahooPayload) : Option YahooResult :=
  (data.chart.get none).bind fun chart => if chart.reported?.isSome then none else chart.result.items.head?.join

namespace YahooResult

variable (r : YahooResult)

def quote? : Option YahooQuote := (r.indicators.get none).bind fun indicators => indicators.quote.items.head?.join

def adjCloses : JsonField Column :=
  match (r.indicators.get none).bind fun indicators => indicators.adjclose.items.head?.join with
  | some adj => adj.adjclose
  | none => .missing

end YahooResult

/-! ## Nulls in the way -/

/-- The parser finds no null where it reads the fields of a reported error. -/
def YahooError.Readable (info : YahooError) : Prop :=
  ∃ errDesc, info.description.get (some "Unknown Yahoo error") = some errDesc ∧
    (isIn "Not Found" errDesc = true ∨ info.code.isNull = false)

/-- The events of a result, or one of their two kinds, are null. -/
def YahooResult.nullEvents (r : YahooResult) : Bool :=
  match r.events.get (some {}) with
  | none => true
  | some events => events.splits.isNull || events.dividends.isNull

/-- Nor where it reads those of a result: past the times it takes an object for the indicators, and past their quotes for the
first quote, the first adjusted closes and the events. -/
def YahooResult.Readable (r : YahooResult) : Prop :=
  r.timestamp.items = [] ∨ ∃ indicators, r.indicators.get (some {}) = some indicators ∧
    (indicators.quote.items = [] ∨
      (indicators.quote.items.head?.any Option.isNone ||
        (indicators.adjclose.items.head?.any Option.isNone || r.nullEvents)) = false)

/-- Nor where it reads those of a payload. -/
def YahooPayload.Readable (data : YahooPayload) : Prop :=
  ∃ chart, data.chart.get (some {}) = some chart ∧
    match chart.reported? with
    | some info => info.Readable
    | none => chart.result.items = [] ∨ ∃ r, chart.result.items.head? = some (some r) ∧ r.Readable

namespace YahooFinanceHistoricalProvider

variable (symbol : String) (resolution : Resolution)

theorem isHistoricalData_reportedError (info : YahooError) :
    (reportedError symbol info).cls.isHistoricalData = true ↔ info.Readable := by
  unfold reportedError YahooError.Readable
  cases info.description.get (some "Unknown Yahoo error") with
  | none => simp [ExcClass.isHistoricalData]
  | some errDesc =>
    dsimp only
    split
    · rename_i hdesc
      simp [hdesc, ExcClass.isHistoricalData]
    · rename_i hdesc
      cases info.code with
      | null => simp [JsonField.get, JsonField.isNull, hdesc, ExcClass.isHistoricalData]
      | missing =>
        simp only [JsonField.get]
        split <;> simp [JsonField.isNull, ExcClass.isHistoricalData]
      | value errCode =>
        simp only [JsonField.get]
        split <;> simp [JsonField.isNull, ExcClass.isHistoricalData]

/-- The series holds the arrays of a result and its quote. -/
structure Series.Holds (s : Series) (r : YahooResult) (quote : YahooQuote) : Prop where
  timestamps : s.timestamps = r.timestamp.items
  rawOpens : s.rawOpens = quote.openPrice.get (some [])
  rawHighs : s.rawHighs = quote.high.get (some [])
  rawLows : s.rawLows = quote.low.get (some [])
  rawCloses : s.rawCloses = quote.close.get (some [])
  rawVolumes : s.rawVolumes = quote.volume.get (some [])
  rawAdjCloses : s.rawAdjCloses = r.adjCloses.get (some [])

/-- What a field with an empty object for its default leads to does not depend on whether it is left out. -/
theorem bind_get_none {α β : Type} {field : JsonField α} {default a : α} {f : α → Option β}
    (h : field.get (some default) = some a)
    (hdefault : f default = none) : (field.get none).bind f = f a := by
  cases field with
  | missing =>
    obtain rfl := Option.some_inj.1 h
    exact hdefault.symm
  | null => cases h
  | value b =>
    obtain rfl := Option.some_inj.1 h
    rfl

theorem quote?_eq {r : YahooResult} {indicators : YahooIndicators} (h : r.indicators.get (some {}) = some indicators) :
    r.quote? = indicators.quote.items.head?.join :=
  bind_get_none h rfl

theorem adjCloses_eq {r : YahooResult} {indicators : YahooIndicators} (h : r.indicators.get (some {}) = some indicators) :
    r.adjCloses = match indicators.adjclose.items.head?.join with | some adj => adj.adjclose | none => .missing := by
  rw [YahooResult.adjCloses, bind_get_none h rfl]

theorem raisesIf_readAdjCloses {r : YahooResult} {indicators : YahooIndicators}
    (h : r.indicators.get (some {}) = some indicators) :
    RaisesIf .attributeError (indicators.adjclose.items.head?.any Option.isNone) (readAdjCloses indicators)
      (.ok (r.adjCloses.get (some []))) := by
  rw [adjCloses_eq h, readAdjCloses]
  rcases indicators.adjclose.items with _ | ⟨_ | adj, _⟩
  · exact .never _
  · exact ⟨fun _ => ⟨_, rfl, rfl⟩, fun h => by cases h⟩
  · exact .never _

theorem raisesIf_items {α : Type} (field : JsonField (List α)) :
    RaisesIf .attributeError field.isNull (getAttr "items" (field.get (some []))) (.ok field.items) := by
  cases field with
  | null => exact ⟨fun _ => ⟨_, rfl, rfl⟩, fun h => by cases h⟩
  | _ => exact .never _

theorem raisesIf_readActions (r : YahooResult) :
    ∃ actions, RaisesIf .attributeError r.nullEvents (readActions symbol r) (.ok actions) := by
  unfold readActions YahooResult.nullEvents
  cases r.events.get (some {}) with
  | none => exact ⟨[], fun _ => ⟨_, rfl, rfl⟩, fun h => by cases h⟩
  | some events => exact ⟨_, (raisesIf_items events.splits).bind <| (raisesIf_items events.dividends).map _⟩

/-- A result is read into its series; or there are no times or quotes to read, or a null is in the way. -/
def ReadsResult (r : YahooResult) : Except Exc Series → Prop
  | .ok s => r.Readable ∧ ∃ quote, r.quote? = some quote ∧ s.Holds r quote
  | .error exc => (exc.cls.isHistoricalData = true ↔ r.Readable) ∧ (r.Readable → r.timestamp.items = [] ∨ r.quote? = none)

theorem readsResult_readResult (r : YahooResult) : ReadsResult r (readResult symbol r) := by
  unfold readResult
  by_cases hts : r.timestamp.items = []
  · rw [if_pos (List.isEmpty_iff.2 hts)]
    exact ⟨iff_of_true rfl (.inl hts), fun _ => .inl hts⟩
  rw [if_neg (mt List.isEmpty_iff.1 hts)]
  cases hind : r.indicators.get (some {}) with
  | none =>
    have hread : ¬ r.Readable := by
      rintro (h | ⟨indicators, h, -⟩)
      · exact hts h
      · rw [hind] at h
        cases h
    exact ⟨iff_of_false (by simp [ExcClass.isHistoricalData]) hread, fun h => absurd h hread⟩
  | some indicators =>
    have hreadable : r.Readable ↔ indicators.quote.items = [] ∨
        (indicators.quote.items.head?.any Option.isNone ||
          (indicators.adjclose.items.head?.any Option.isNone || r.nullEvents)) = false := by
      simp [YahooResult.Readable, hts, hind]
    have hquote := quote?_eq hind
    rw [getAttr, Except.bind]
    cases hquotes : indicators.quote.items with
    | nil =>
      rw [hquotes] at hreadable hquote
      exact ⟨iff_of_true rfl (hreadable.2 (.inl rfl)), fun _ => .inr hquote⟩
    | cons quote quotes =>
      rw [hquotes] at hreadable hquote
      cases quote with
      | none =>
        have hread : ¬ r.Readable := by simp [hreadable]
        exact ⟨iff_of_false (by simp [ExcClass.isHistoricalData]) hread, fun h => absurd h hread⟩
      | some quote =>
        obtain ⟨actions, hactions⟩ := raisesIf_readActions symbol r
        have hread : r.Readable ↔ (indicators.adjclose.items.head?.any Option.isNone || r.nullEvents) = false := by
          simpa using hreadable
        let series (rawAdjCloses : Option Column) (corporateActions : List CorporateActionRecord) : Series :=
          { timestamps := r.timestamp.items
            rawOpens := quote.openPrice.get (some [])
            rawHighs := quote.high.get (some [])
            rawLows := quote.low.get (some [])
            rawCloses := quote.close.get (some [])
            rawVolumes := quote.volume.get (some [])
            rawAdjCloses := rawAdjCloses
            corporateActions := corporateActions }
        have hstep := (raisesIf_readAdjCloses hind).bind
          (f := fun rawAdjCloses => (readActions symbol r).map (series rawAdjCloses))
          (hactions.map (series (r.adjCloses.get (some []))))
        change ReadsResult r ((readAdjCloses indicators).bind fun rawAdjCloses => (readActions symbol r).map
          (series rawAdjCloses))
        cases hnull : indicators.adjclose.items.head?.any Option.isNone || r.nullEvents with
        | true =>
          obtain ⟨exc, hexc, hcls⟩ := hstep.raises hnull
          rw [hnull] at hread
          rw [hexc]
          exact ⟨iff_of_false (by simp [hcls, ExcClass.isHistoricalData]) (by simp [hread]), fun h => by simp [hread] at h⟩
        | false =>
          rw [hstep.returns hnull]
          exact ⟨hread.2 hnull, quote, hquote, ⟨rfl, rfl, rfl, rfl, rfl, rfl, rfl⟩⟩

theorem result?_eq {data : YahooPayload} {chart : YahooChart} (h : data.chart.get (some {}) = some chart) :
    data.result? = if chart.reported?.isSome then none else chart.result.items.head?.join :=
  bind_get_none h rfl

theorem readChart_eq {data : YahooPayload} {chart : YahooChart} (h : data.chart.get (some {}) = some chart) :
    readChart symbol data =
      match chart.reported? with
      | some info => .error (reportedError symbol info)
      | none => readResults symbol chart := by
  rw [readChart, h, getAttr, Except.bind, YahooChart.reported?]
  cases chart.error.get none with
  | none => rfl
  | some info => cases hinfo : info.truthy <;> simp [Option.filter, hinfo]

/-- A payload is read into the series of its result; or it reports an error or has nothing to read, or a null is in the way. -/
def ReadsPayload (data : YahooPayload) : Except Exc Series → Prop
  | .ok s => data.Readable ∧ ∃ r quote, data.result? = some r ∧ r.quote? = some quote ∧ s.Holds r quote
  | .error exc => (exc.cls.isHistoricalData = true ↔ data.Readable) ∧
      (data.Readable → ∀ r, data.result? = some r → r.timestamp.items = [] ∨ r.quote? = none)

theorem readsPayload_readChart (data : YahooPayload) : ReadsPayload data (readChart symbol data) := by
  cases hchart : data.chart.get (some {}) with
  | none =>
    have hread : ¬ data.Readable := by simp [YahooPayload.Readable, hchart]
    rw [readChart, hchart]
    exact ⟨iff_of_false (by simp [ExcClass.isHistoricalData]) hread, fun h => absurd h hread⟩
  | some chart =>
    have hresult := result?_eq hchart
    have hreadable : data.Readable ↔
        match chart.reported? with
        | some info => info.Readable
        | none => chart.result.items = [] ∨ ∃ r, chart.result.items.head? = some (some r) ∧ r.Readable := by
      simp [YahooPayload.Readable, hchart]
    rw [readChart_eq symbol hchart]
    cases hreported : chart.reported? with
    | some info =>
      rw [hreported] at hreadable hresult
      refine ⟨(isHistoricalData_reportedError symbol info).trans hreadable.symm, fun _ r hr => ?_⟩
      rw [hresult] at hr
      cases hr
    | none =>
      rw [hreported] at hreadable hresult
      dsimp only
      rw [readResults]
      cases hitems : chart.result.items with
      | nil =>
        rw [hitems] at hreadable hresult
        refine ⟨iff_of_true rfl (hreadable.2 (.inl rfl)), fun _ r hr => ?_⟩
        rw [hresult] at hr
        cases hr
      | cons first rest =>
        rw [hitems] at hreadable hresult
        cases first with
        | none =>
          have hread : ¬ data.Readable := by simp [hreadable]
          exact ⟨iff_of_false (by simp [ExcClass.isHistoricalData]) hread, fun h => absurd h hread⟩
        | some r =>
          have hread : data.Readable ↔ r.Readable := by simpa using hreadable
          have hr : data.result? = some r := hresult
          have hreads := readsResult_readResult symbol r
          change ReadsPayload data (readResult symbol r)
          cases hres : readResult symbol r with
          | ok s =>
            rw [hres] at hreads
            obtain ⟨hreadr, quote, hquote, hholds⟩ := hreads
            exact ⟨hread.2 hreadr, r, quote, hr, hquote, hholds⟩
          | error exc =>
            rw [hres] at hreads
            refine ⟨hreads.1.trans hread.symm, fun h r' hr' => ?_⟩
            rw [hr, Option.some_inj] at hr'
            rw [← hr']
            exact hreads.2 (hread.1 h)

/-! ## The corporate actions -/

theorem sorted_of_readActions {r : YahooResult} {actions : List CorporateActionRecord} (h : readActions symbol r = .ok actions) :
    actions.Pairwise fun a b => a.timestamp ≤ b.timestamp := by
  have : Std.Total (fun a b : CorporateActionRecord => a.timestamp ≤ b.timestamp) := ⟨fun a b => le_total a.timestamp b.timestamp⟩
  have : IsTrans CorporateActionRecord (fun a b => a.timestamp ≤ b.timestamp) := ⟨fun _ _ _ => le_trans⟩
  obtain ⟨events, -, h⟩ := exists_of_bind_ok h
  obtain ⟨splits, -, h⟩ := exists_of_bind_ok h
  obtain ⟨dividends, -, rfl⟩ := exists_of_map_ok h
  exact List.pairwise_insertionSort _ _

/-- The corporate actions of a series come in the order of their times. -/
theorem sorted_of_readChart {data : YahooPayload} {s : Series} (h : readChart symbol data = .ok s) :
    s.corporateActions.Pairwise fun a b => a.timestamp ≤ b.timestamp := by
  have hresult : ∀ r, readResult symbol r = .ok s → s.corporateActions.Pairwise fun a b => a.timestamp ≤ b.timestamp := by
    intro r hr
    unfold readResult at hr
    split at hr
    · cases hr
    obtain ⟨indicators, -, hr⟩ := exists_of_bind_ok hr
    split at hr
    · cases hr
    obtain ⟨quote, -, hr⟩ := exists_of_bind_ok hr
    obtain ⟨rawAdjCloses, -, hr⟩ := exists_of_bind_ok hr
    obtain ⟨actions, hactions, rfl⟩ := exists_of_map_ok hr
    exact sorted_of_readActions symbol hactions
  have hresults : ∀ chart, readResults symbol chart = .ok s → s.corporateActions.Pairwise
      fun a b => a.timestamp ≤ b.timestamp := by
    intro chart hr
    unfold readResults at hr
    split at hr
    · cases hr
    · obtain ⟨r, -, hr⟩ := exists_of_bind_ok hr
      exact hresult r hr
  unfold readChart at h
  obtain ⟨chart, -, h⟩ := exists_of_bind_ok h
  split at h
  · split at h
    · cases h
    · exact hresults chart h
  · exact hresults chart h

end YahooFinanceHistoricalProvider

end Quant
