import Quant.Data.InstitutionalProviders
import Quant.Lemmas.ChartEntries

/-!
# The bar parsers of the institutional providers

What a list of objects says about its bars, read without raising, against what the two parsers make of it. They come to the last
valid object of each time where no null, no number out of range and no infinity is in their way.
-/

namespace Quant

open Pylib

namespace ProviderBar

variable {τ : Type} (symbol : String) (resolution : Resolution) (reader : Reader τ)

/-! ## What an object says -/

namespace Quote

variable (q : Quote)

/-- The four prices are finite and positive. -/
def priced : Bool := [q.o, q.h, q.lo, q.c].all fun x => (YahooFinanceHistoricalProvider.price? x).isSome

/-- The floats the constructor of the bar takes are finite. -/
def finite : Bool := [q.o, q.high, q.low, q.c, q.volume, q.vwap].all PyFloat.isFinite

end Quote

/-- The bar of an object as the parser reads it. -/
def madeBar (r : ProviderBar τ) : Option HistoricalPriceBar :=
  (reader.readTime r.t).bind fun time =>
  time.toOption.bind fun tsNs =>
  r.readQuote.toOption.bind fun q =>
  if q.nonPositive then none else (createBar symbol resolution tsNs q).toOption

/-- The bar of a valid object: its time can be read, its fields are numbers, its four prices are finite and positive, and the
constructor accepts the bar with the repaired envelope. -/
def validBar (r : ProviderBar τ) : Option HistoricalPriceBar :=
  (reader.readTime r.t).bind fun time =>
  time.toOption.bind fun tsNs =>
  r.readQuote.toOption.bind fun q =>
  if q.priced then (createBar symbol resolution tsNs q).toOption else none

/-- The valid bars in the order of their objects. -/
def validBars (results : List (ProviderBar τ)) : List HistoricalPriceBar := results.filterMap (validBar symbol resolution reader)

/-- A parser is robust on a list: it returns the last valid object of each time in their order, or it raises an error of its own,
and then no object is valid. -/
def Robust (results : List (ProviderBar τ)) (outcome : Except Exc HistoricalBarBatch) : Prop :=
  match outcome with
  | .ok batch => IsLatest (·.timestamp) (validBars symbol resolution reader results) batch.bars
  | .error exc => exc.cls.isHistoricalData = true ∧ validBars symbol resolution reader results = []

/-! ## What the loop does with it -/

open YahooFinanceHistoricalProvider.Entry (Fate)

/-- An object whose time is not skipped breaks the parser where a field is null or out of range, or its prices pass the check and
its time is not finite. It is refused where its prices pass the check and there is no symbol, no positive time, or a float that is
not finite. -/
def fate (r : ProviderBar τ) : Fate :=
  match reader.readTime r.t with
  | none => .passes
  | some time =>
    match r.readQuote with
    | .error _ => .breaks
    | .ok q =>
      if q.nonPositive then .passes
      else
        match time with
        | .error _ => .breaks
        | .ok tsNs => if symbol = "" ∨ tsNs ≤ 0 ∨ q.finite = false then .refused else .passes

/-- The loop does not get past the object. -/
def stops (r : ProviderBar τ) : Bool := r.fate symbol reader ≠ .passes

/-- Nothing is in a parser's way. It gets past every object, and one that makes a bar without being valid is followed by another
of its time, or says what the last valid one before it says; or the first it does not get past is refused, and none is valid. -/
structure Unobstructed (results : List (ProviderBar τ)) : Prop where
  first : ∀ r, results.find? (stops symbol reader) = some r →
    r.fate symbol reader = .refused ∧ validBars symbol resolution reader results = []
  overruled : results.find? (stops symbol reader) = none → ∀ before r after bar, results = before ++ r :: after →
    r.validBar symbol resolution reader = none → r.madeBar symbol resolution reader = some bar →
      (∃ r' ∈ after, ∃ bar', r'.madeBar symbol resolution reader = some bar' ∧ bar'.timestamp = bar.timestamp) ∨
        latestOf (·.timestamp) (validBars symbol resolution reader before) bar.timestamp = some bar

/-! ## The floats of a pass -/

theorem isFinite_iff {x : PyFloat} : x.isFinite = true ↔ ∃ v, x = .finite v := by
  cases x <;> simp [PyFloat.isFinite, PyFloat.value?]

theorem Quote.finite_iff {q : Quote} : q.finite = true ↔ (∃ o, q.o = .finite o) ∧ (∃ h, q.high = .finite h) ∧
    (∃ lo, q.low = .finite lo) ∧
    (∃ c, q.c = .finite c) ∧ (∃ v, q.volume = .finite v) ∧ ∃ vw, q.vwap = .finite vw := by
  simp [Quote.finite, isFinite_iff]

theorem price?_isSome_iff {x : PyFloat} : (YahooFinanceHistoricalProvider.price? x).isSome = true ↔
    ∃ v, x = .finite v ∧ 0 < v := by
  cases x with
  | finite v => simp [YahooFinanceHistoricalProvider.price?]
  | _ => simp [YahooFinanceHistoricalProvider.price?]

theorem Quote.priced_iff {q : Quote} : q.priced = true ↔
    (∃ v, q.o = .finite v ∧ 0 < v) ∧ (∃ v, q.h = .finite v ∧ 0 < v) ∧ (∃ v, q.lo = .finite v ∧ 0 < v) ∧
      ∃ v, q.c = .finite v ∧ 0 < v := by
  simp [Quote.priced, price?_isSome_iff]

/-- Prices that are finite and positive pass the check. -/
theorem Quote.nonPositive_of_priced {q : Quote} (h : q.priced = true) : q.nonPositive = false := by
  obtain ⟨⟨o, ho, ho0⟩, ⟨hi, hh, hh0⟩, ⟨lo, hlo, hlo0⟩, ⟨c, hc, hc0⟩⟩ := Quote.priced_iff.1 h
  simp [Quote.nonPositive, ho, hh, hlo, hc, PyFloat.le, ho0, hh0, hlo0, hc0]

/-- A maximum that is finite is one of finite floats, unless its first hides behind a price. -/
theorem finite_of_pyMax {x y : PyFloat} {v : ℚ} (h : x.pyMax y = .finite v) (hx : x.le (.finite 0) = false) :
    ∃ u, x = .finite u := by
  cases x with
  | finite u => exact ⟨u, rfl⟩
  | negInf => cases hx
  | nan => cases y <;> cases h
  | posInf => cases y <;> cases h

theorem pyMax_eq_or (x y : PyFloat) : x.pyMax y = x ∨ x.pyMax y = y := by
  unfold PyFloat.pyMax
  split
  · exact Or.inr rfl
  · exact Or.inl rfl

/-- The repair of the envelope takes back no price that passed the check, but an infinite low. -/
theorem Quote.priced_of_finite {q : Quote} (hfinite : q.finite = true) (hprices : q.nonPositive = false) (hlo : q.lo ≠ .posInf) :
    q.priced = true := by
  obtain ⟨⟨o, ho⟩, ⟨hi, hh⟩, ⟨lo, hl⟩, ⟨c, hc⟩, -, -⟩ := Quote.finite_iff.1 hfinite
  simp only [nonPositive, Bool.or_eq_false_iff] at hprices
  obtain ⟨⟨⟨ho0, hh0⟩, hlo0⟩, hc0⟩ := hprices
  have hpos : ∀ {x : PyFloat}, x.le (.finite 0) = false → (∃ v, x = .finite v) → ∃ v, x = .finite v ∧ 0 < v := by
    rintro x hx ⟨v, rfl⟩
    exact ⟨v, rfl, not_le.1 (of_decide_eq_false hx)⟩
  have hmax : (q.h.pyMax q.o).le (.finite 0) = false := by
    rcases pyMax_eq_or q.h q.o with h | h <;> rwa [h]
  obtain ⟨u, hu⟩ := finite_of_pyMax hh hmax
  have hlow : ∃ v, q.lo = .finite v := by
    rw [low, ho, hc] at hl
    cases hx : q.lo with
    | finite v => exact ⟨v, rfl⟩
    | nan =>
      rw [hx] at hl
      cases hl
    | posInf => exact absurd hx hlo
    | negInf =>
      rw [hx] at hlo0
      cases hlo0
  exact Quote.priced_iff.2 ⟨hpos ho0 ⟨o, ho⟩, hpos hh0 (finite_of_pyMax hu hh0), hpos hlo0 hlow, hpos hc0 ⟨c, hc⟩⟩

/-! ## The two readings -/

theorem validBar_eq_or (r : ProviderBar τ) :
    r.validBar symbol resolution reader = r.madeBar symbol resolution reader ∨ r.validBar symbol resolution reader = none := by
  unfold validBar madeBar
  cases reader.readTime r.t with
  | none => exact Or.inl rfl
  | some time =>
    cases time with
    | error exc => exact Or.inl rfl
    | ok tsNs =>
      cases r.readQuote with
      | error exc => exact Or.inl rfl
      | ok q =>
        cases hpriced : q.priced with
        | false => exact Or.inr (if_neg (by simp [hpriced]))
        | true =>
          left
          simp [Except.toOption, hpriced, Quote.nonPositive_of_priced hpriced]

/-! ## The constructor -/

theorem requireFinite_of_finite {text : String} {x : PyFloat} {v : ℚ} (h : x = .finite v) : requireFinite text x = .ok v := by
  rw [h]
  rfl

theorem cls_of_requireFinite {text : String} {x : PyFloat} {exc : Exc} (h : requireFinite text x = .error exc) :
    exc.cls = .nonFiniteHistoricalInput := by
  unfold requireFinite at h
  split at h
  · cases h
  · rw [← Except.error.inj h]

theorem finite_of_requireFinite {text : String} {x : PyFloat} {v : ℚ} (h : requireFinite text x = .ok v) : x = .finite v := by
  cases x <;> cases h
  rfl

/-- What the constructor accepted. -/
theorem of_createBar {tsNs : ℤ} {q : Quote} {bar : HistoricalPriceBar} (h : createBar symbol resolution tsNs q = .ok bar) :
    symbol ≠ "" ∧ 0 < tsNs ∧ q.finite = true := by
  unfold createBar at h
  obtain ⟨hsym, h⟩ := of_check_ok h
  obtain ⟨hts, h⟩ := of_check_ok h
  obtain ⟨o, ho, h⟩ := exists_of_bind_ok h
  obtain ⟨hi, hh, h⟩ := exists_of_bind_ok h
  obtain ⟨lo, hlo, h⟩ := exists_of_bind_ok h
  obtain ⟨c, hc, h⟩ := exists_of_bind_ok h
  obtain ⟨v, hv, h⟩ := exists_of_bind_ok h
  obtain ⟨vw, hvw, _⟩ := exists_of_bind_ok h
  refine ⟨hsym, not_le.1 hts, Quote.finite_iff.2 ⟨⟨o, ?_⟩, ⟨hi, ?_⟩, ⟨lo, ?_⟩, ⟨c, ?_⟩, ⟨v, ?_⟩, ⟨vw, ?_⟩⟩⟩
  all_goals exact finite_of_requireFinite (by assumption)

/-- Without a symbol, a positive time or finite floats it refuses the bar. -/
theorem createBar_refused {tsNs : ℤ} {q : Quote} (hrefused : symbol = "" ∨ tsNs ≤ 0 ∨ q.finite = false) :
    ∃ exc, createBar symbol resolution tsNs q = .error exc ∧ exc.cls = .nonFiniteHistoricalInput := by
  unfold createBar
  split
  · exact ⟨_, rfl, rfl⟩
  split
  · exact ⟨_, rfl, rfl⟩
  rename_i hsym hts
  have hinfinite := (hrefused.resolve_left hsym).resolve_left hts
  cases h : createBar symbol resolution tsNs q with
  | ok bar =>
    rw [(of_createBar symbol resolution h).2.2] at hinfinite
    cases hinfinite
  | error exc =>
    rw [createBar, if_neg hsym, if_neg hts] at h
    refine ⟨exc, h, ?_⟩
    rcases of_bind_error h with h | ⟨o, ho, h⟩
    · exact cls_of_requireFinite h
    rcases of_bind_error h with h | ⟨hi, hh, h⟩
    · exact cls_of_requireFinite h
    rcases of_bind_error h with h | ⟨lo, hlo, h⟩
    · exact cls_of_requireFinite h
    rcases of_bind_error h with h | ⟨c, hc, h⟩
    · exact cls_of_requireFinite h
    rcases of_bind_error h with h | ⟨v, hv, h⟩
    · exact cls_of_requireFinite h
    rcases of_bind_error h with h | ⟨vw, hvw, h⟩
    · exact cls_of_requireFinite h
    have hfinite : q.finite = true := Quote.finite_iff.2 ⟨⟨o, finite_of_requireFinite ho⟩, ⟨hi, finite_of_requireFinite hh⟩,
      ⟨lo, finite_of_requireFinite hlo⟩, ⟨c, finite_of_requireFinite hc⟩, ⟨v, finite_of_requireFinite hv⟩,
      ⟨vw, finite_of_requireFinite hvw⟩⟩
    rw [hfinite] at hinfinite
    cases hinfinite

/-- Otherwise it only finds fault with the geometry, and the bar is dropped. -/
theorem dropAnomaly_createBar {tsNs : ℤ} {q : Quote} (hfine : ¬ (symbol = "" ∨ tsNs ≤ 0 ∨ q.finite = false)) :
    YahooFinanceHistoricalProvider.dropAnomaly (createBar symbol resolution tsNs q) =
    .ok (createBar symbol resolution tsNs q).toOption := by
  rw [not_or, not_or, not_le, Bool.not_eq_false] at hfine
  obtain ⟨hsym, hts, hfinite⟩ := hfine
  obtain ⟨⟨o, ho⟩, ⟨hi, hh⟩, ⟨lo, hlo⟩, ⟨c, hc⟩, ⟨v, hv⟩, ⟨vw, hvw⟩⟩ := Quote.finite_iff.1 hfinite
  cases h : createBar symbol resolution tsNs q with
  | ok bar => rfl
  | error exc =>
    rw [createBar, if_neg hsym, if_neg hts.not_ge, requireFinite_of_finite ho, requireFinite_of_finite hh,
      requireFinite_of_finite hlo,
      requireFinite_of_finite hc, requireFinite_of_finite hv, requireFinite_of_finite hvw] at h
    have hcls : exc.cls = .invalidBarGeometry := YahooFinanceHistoricalProvider.cls_of_create h hsym hts one_pos le_rfl
    rw [YahooFinanceHistoricalProvider.dropAnomaly, if_pos hcls]
    rfl

/-- A bar that is made of an object that is not valid is made around an infinite low. -/
theorem validBar_eq_none_iff {r : ProviderBar τ} {bar : HistoricalPriceBar} (h : r.madeBar symbol resolution reader = some bar) :
    r.validBar symbol resolution reader = none ↔ ∃ q, r.readQuote = .ok q ∧ q.lo = .posInf := by
  unfold madeBar at h
  unfold validBar
  obtain ⟨time, htime, h⟩ := Option.bind_eq_some_iff.1 h
  obtain ⟨tsNs, hts, h⟩ := Option.bind_eq_some_iff.1 h
  obtain ⟨q, hq, h⟩ := Option.bind_eq_some_iff.1 h
  split at h
  · cases h
  rename_i hprices
  obtain ⟨bar', hbar⟩ := YahooFinanceHistoricalProvider.exists_of_toOption.1 ⟨bar, h⟩
  have hread : r.readQuote = .ok q := by
    cases hx : r.readQuote with
    | error exc =>
      rw [hx] at hq
      cases hq
    | ok q' =>
      rw [hx] at hq
      rw [Option.some_inj.1 hq]
  rw [htime, Option.bind_some, hts, Option.bind_some, hq, Option.bind_some]
  constructor
  · intro hnone
    refine ⟨q, hread, ?_⟩
    by_contra hlo
    rw [if_pos (Quote.priced_of_finite (of_createBar symbol resolution hbar).2.2 (Bool.eq_false_of_not_eq_true hprices) hlo),
      h] at hnone
    cases hnone
  · rintro ⟨q', hq', hlo⟩
    rw [hread] at hq'
    obtain rfl := Except.ok.inj hq'
    refine if_neg fun hpriced => ?_
    obtain ⟨-, -, ⟨v, hv, -⟩, -⟩ := Quote.priced_iff.1 hpriced
    rw [hlo] at hv
    cases hv

/-! ## A pass -/

theorem cls_of_toFloat {x : Option PyNumber} : ∀ exc, toFloat x = .error exc → exc.cls.isHistoricalData = false := by
  intro exc h
  unfold toFloat at h
  split at h
  · split at h
    · rw [← Except.error.inj h]
      rfl
    · cases h
  · rw [← Except.error.inj h]
    rfl

/-- A field that cannot be converted breaks the parser. -/
theorem cls_of_readQuote {r : ProviderBar τ} : ∀ exc, r.readQuote = .error exc → exc.cls.isHistoricalData = false :=
  error_of_bind cls_of_toFloat fun _ => error_of_bind cls_of_toFloat fun _ => error_of_bind cls_of_toFloat fun _ =>
    error_of_bind cls_of_toFloat fun _ => error_of_bind cls_of_toFloat fun _ => error_of_map cls_of_toFloat

/-- A reader whose late errors are not errors of the historical data. -/
def Reader.Foreign : Prop := ∀ t exc, reader.readTime t = some (.error exc) → exc.cls.isHistoricalData = false

variable {reader} in
/-- What the parser does with an object is its fate. -/
theorem parseBar_spec (hreader : reader.Foreign) (r : ProviderBar τ) :
    (r.fate symbol reader).Meets (parseBar symbol resolution reader r) (r.madeBar symbol resolution reader) := by
  unfold fate parseBar madeBar
  cases htime : reader.readTime r.t with
  | none => rfl
  | some time =>
    cases hq : r.readQuote with
    | error exc => exact ⟨exc, rfl, cls_of_readQuote exc hq⟩
    | ok q =>
      simp only [Except.bind, Except.toOption, Option.bind_some]
      cases hprices : q.nonPositive with
      | true => cases time <;> exact rfl
      | false =>
        simp only [Bool.false_eq_true, if_false]
        cases time with
        | error exc => exact ⟨exc, rfl, hreader r.t exc htime⟩
        | ok tsNs =>
          dsimp only
          by_cases hrefused : symbol = "" ∨ tsNs ≤ 0 ∨ q.finite = false
          · obtain ⟨exc, hexc, hcls⟩ := createBar_refused symbol resolution hrefused
            rw [if_pos hrefused]
            refine ⟨exc, ?_, by rw [hcls]; rfl⟩
            rw [hexc, YahooFinanceHistoricalProvider.dropAnomaly, if_neg (by rw [hcls]; decide)]
          · rw [if_neg hrefused]
            exact dropAnomaly_createBar symbol resolution hrefused

variable {reader}

/-- A bar needs a symbol. -/
theorem symbol_ne_of_madeBar {r : ProviderBar τ} {bar : HistoricalPriceBar} (h : r.madeBar symbol resolution reader = some bar) :
    symbol ≠ "" := by
  obtain ⟨time, -, h⟩ := Option.bind_eq_some_iff.1 h
  obtain ⟨tsNs, -, h⟩ := Option.bind_eq_some_iff.1 h
  obtain ⟨q, -, h⟩ := Option.bind_eq_some_iff.1 h
  split at h
  · cases h
  · obtain ⟨bar', hbar⟩ := YahooFinanceHistoricalProvider.exists_of_toOption.1 ⟨bar, h⟩
    exact (of_createBar symbol resolution hbar).1

/-! ## The whole list -/

/-- Where the loop ends, the parser returns the latest bars it made, or has none and raises. -/
theorem robust_iff_of_passes (hreader : reader.Foreign) {results : List (ProviderBar τ)}
    (h : results.find? (stops symbol reader) = none) :
    Robust symbol resolution reader results (parseBars symbol resolution reader results) ↔
      ∀ k, latestOf (·.timestamp) (results.filterMap (madeBar symbol resolution reader)) k =
        latestOf (·.timestamp) (validBars symbol resolution reader results) k := by
  let made := results.filterMap (madeBar symbol resolution reader)
  have hmade : (results.map (madeBar symbol resolution reader)).reduceOption = made := by
    change (results.map (madeBar symbol resolution reader)).filterMap id = made
    rw [List.filterMap_map]
    rfl
  by_cases hnil : made = []
  · -- No bar is made, so none is valid, and the parser says so in one of two texts.
    have hvalid : validBars symbol resolution reader results = [] := by
      refine List.filterMap_eq_nil_iff.2 fun r hr => ?_
      rcases validBar_eq_or symbol resolution reader r with heq | hnone
      · rw [heq]
        exact List.filterMap_eq_nil_iff.1 hnil r hr
      · exact hnone
    refine iff_of_true ?_ fun k => by rw [hvalid]; exact congrArg (latestOf (·.timestamp) · k) hnil
    unfold parseBars
    split
    · exact ⟨rfl, hvalid⟩
    · rw [Fate.mapM_of_passes (parseBar_spec symbol resolution hreader) h]
      simp only [Except.bind, hmade, hnil, List.isEmpty_nil, if_true]
      exact ⟨rfl, hvalid⟩
  · have hne : results.isEmpty = false := by
      cases results with
      | nil => exact absurd rfl hnil
      | cons r results => rfl
    have hlatest := isLatest_insertionSort (fun bar : HistoricalPriceBar => bar.timestamp) made
    obtain ⟨bar, hbar⟩ := List.exists_mem_of_ne_nil _ hnil
    obtain ⟨r, -, hr⟩ := List.mem_filterMap.1 hbar
    obtain ⟨batch, hbatch, -, -, hbars⟩ :=
      HistoricalBarBatch.create_eq_ok resolution (symbol_ne_of_madeBar symbol resolution hr)
        (hlatest.ne_nil hnil) hlatest.increasing
    have hparse : parseBars symbol resolution reader results = .ok batch := by
      rw [parseBars, if_neg (by simp [hne]), Fate.mapM_of_passes (parseBar_spec symbol resolution hreader) h]
      simp only [Except.bind, hmade]
      rw [if_neg (by simpa using hnil), hbatch]
    rw [hparse]
    change IsLatest _ _ batch.bars ↔ _
    rw [hbars]
    exact hlatest.isLatest_iff

/-- A parser is robust exactly where nothing is in its way. -/
theorem robust_iff_unobstructed (hreader : reader.Foreign) (results : List (ProviderBar τ)) :
    Robust symbol resolution reader results (parseBars symbol resolution reader results) ↔
      Unobstructed symbol resolution reader results := by
  cases hfind : results.find? (stops symbol reader) with
  | none =>
    rw [robust_iff_of_passes symbol resolution hreader hfind, validBars,
      latestOf_filterMap_iff (fun r => validBar_eq_or symbol resolution reader r) results]
    constructor
    · intro h
      exact ⟨fun r hr => absurd (hfind.symm.trans hr) (by simp), fun _ => h⟩
    · intro h
      exact h.overruled hfind
  | some r =>
    obtain ⟨exc, hexc, hcls⟩ := Fate.mapM_of_stops (parseBar_spec symbol resolution hreader) hfind
    have hne : results.isEmpty = false := by
      cases results with
      | nil => cases hfind
      | cons r results => rfl
    have hparse : parseBars symbol resolution reader results = .error exc := by
      rw [parseBars, if_neg (by simp [hne]), hexc]
      rfl
    rw [hparse, Robust, hcls]
    constructor
    · intro h
      refine ⟨fun r' hr' => ?_, fun hnone => absurd (hfind.symm.trans hnone) (by simp)⟩
      rw [hfind, Option.some_inj] at hr'
      rwa [← hr']
    · intro h
      exact h.first r hfind

end ProviderBar

/-! ## The two providers -/

namespace PolygonHistoricalProvider

theorem foreign_reader : reader.Foreign := by
  intro t exc h
  obtain ⟨ts, hts, h⟩ : ∃ ts, t.get none = some ts ∧
      (if ts.exact.le (.finite 0) then none else some ((toInt (some ts)).map (· * 10 ^ 6))) = some (.error exc) := by
    cases ht : t.get none with
    | none =>
      simp only [reader, ht] at h
      cases h
    | some ts =>
      simp only [reader, ht] at h
      exact ⟨ts, rfl, h⟩
  split at h
  · cases h
  · refine error_of_map (P := fun exc => exc.cls.isHistoricalData = false) (fun exc' h' => ?_) exc (Option.some_inj.1 h)
    cases hvalue : ts.exact.value? with
    | none =>
      obtain ⟨exc'', hexc, hcls⟩ := YahooFinanceHistoricalProvider.toInt_of_not_finite hvalue
      rw [hexc] at h'
      rwa [← Except.error.inj h']
    | some x =>
      rw [YahooFinanceHistoricalProvider.toInt_of_value? hvalue] at h'
      cases h'

end PolygonHistoricalProvider

namespace AlpacaHistoricalProvider

theorem foreign_reader (isoNanoseconds : String → Option ℤ) : (reader isoNanoseconds).Foreign := by
  intro t exc h
  unfold reader at h
  dsimp only at h
  split at h
  · split at h
    · cases h
    · obtain ⟨ns, -, hns⟩ := Option.map_eq_some_iff.1 h
      cases hns
  · cases h

end AlpacaHistoricalProvider

/-- Either parser is robust exactly on the lists that put nothing in its way. -/
theorem institutionalParsers_robust_iff (symbol : String) (resolution : Resolution) :
    (∀ results, ProviderBar.Robust symbol resolution PolygonHistoricalProvider.reader results
        (PolygonHistoricalProvider.parsePolygonResults symbol resolution results) ↔
      ProviderBar.Unobstructed symbol resolution PolygonHistoricalProvider.reader results) ∧
    ∀ isoNanoseconds barsList, ProviderBar.Robust symbol resolution (AlpacaHistoricalProvider.reader isoNanoseconds) barsList
        (AlpacaHistoricalProvider.parseAlpacaBars isoNanoseconds symbol resolution barsList) ↔
      ProviderBar.Unobstructed symbol resolution (AlpacaHistoricalProvider.reader isoNanoseconds) barsList :=
  ⟨ProviderBar.robust_iff_unobstructed symbol resolution PolygonHistoricalProvider.foreign_reader,
    fun isoNanoseconds => ProviderBar.robust_iff_unobstructed symbol resolution
      (AlpacaHistoricalProvider.foreign_reader isoNanoseconds)⟩

namespace PolygonHistoricalProvider

/-- An object with one price at every place. -/
def flatBar (tsMs : ℤ) (price : JsonField PyNumber) : ProviderBar PyNumber :=
  { t := .value (.int tsMs), o := price, h := price, l := price, c := price }

/-- An object whose prices are null before a good one: the parser raises a `TypeError`. -/
theorem not_robust_of_nullPrice :
    let results := [flatBar 1700000000000 .null, flatBar 1700000060000 (.value (.int 10))]
    ¬ ProviderBar.Robust "AAPL" .oneMinute reader results (parsePolygonResults "AAPL" .oneMinute results) := by
  intro results h
  have hraises : parsePolygonResults "AAPL" .oneMinute results =
      .error ⟨.typeError, "float() argument must be a string or a real number, not 'NoneType'", []⟩ := rfl
  rw [hraises] at h
  cases h.1

/-- An infinite low is taken for a valid price: the bar is made at the lower of the open and the close. -/
example : let r := { flatBar 1700000000000 (.value (.int 10)) with l := .value (.float .posInf) }
    r.validBar "AAPL" .oneMinute reader = none ∧ (r.madeBar "AAPL" .oneMinute reader).map (·.low) = some 10 := by
  decide +kernel

end PolygonHistoricalProvider

end Quant
