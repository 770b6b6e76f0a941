import Quant.Data.YahooProvider
import Quant.Pylib.Steps

/-!
# The entries of a chart

What `parse_chart_response` makes of one entry of a chart. It gets past most of them, but an entry with good prices stops it where
its time is not finite or before the first second, or where a number is out of the range of a float.
-/

namespace Quant

open Pylib

/-- The subclasses of `HistoricalDataError`. -/
def ExcClass.isHistoricalData : ExcClass → Bool
  | .nonMonotonicTimestamp | .invalidBarGeometry | .nonFiniteHistoricalInput | .invalidCorporateAction | .emptyHistoricalBatch
  | .emptyHistoricalRange | .emptyUniverse | .insufficientTimestamps | .yahooProvider | .yahooSymbolNotFound | .yahooParse
  | .polygonProvider | .alpacaHistorical => true
  | _ => false

/-- A computation that raises an exception of a class on a condition, and otherwise is the one given. -/
structure RaisesIf {α : Type} (cls : ExcClass) (c : Bool) (r r' : Except Exc α) : Prop where
  raises : c = true → ∃ exc, r = .error exc ∧ exc.cls = cls
  returns : c = false → r = r'

namespace RaisesIf

variable {α β : Type} {cls : ExcClass} {c c' : Bool} {r : Except Exc α} {a : α}

theorem never (r : Except Exc α) : RaisesIf cls false r r := ⟨fun h => absurd h Bool.false_ne_true, fun _ => rfl⟩

theorem bind {f : α → Except Exc β} {r' : Except Exc β} (h : RaisesIf cls c r (.ok a)) (hf : RaisesIf cls c' (f a) r') :
    RaisesIf cls (c || c') (r.bind f) r' := by
  cases c with
  | true =>
    obtain ⟨exc, rfl, hexc⟩ := h.raises rfl
    exact ⟨fun _ => ⟨exc, rfl, hexc⟩, fun hb => absurd hb (by simp)⟩
  | false =>
    rw [h.returns rfl, Bool.false_or]
    exact hf

theorem map (f : α → β) (h : RaisesIf cls c r (.ok a)) : RaisesIf cls c (r.map f) (.ok (f a)) := by
  constructor
  · intro hc
    obtain ⟨exc, rfl, hexc⟩ := h.raises hc
    exact ⟨exc, rfl, hexc⟩
  · intro hc
    rw [h.returns hc]
    rfl

end RaisesIf

namespace YahooFinanceHistoricalProvider

/-- A time and what the arrays hold at its place. -/
structure Entry where
  tsSec : Option PyNumber
  cells : Cells

/-- What an array holds at a place, null where it is short. -/
def cellAt (raw : Option Column) (i : ℕ) : Option PyNumber := raw.bind fun xs => xs[i]?.join

namespace Cells

variable (c : Cells)

/-- An integer too large for a float is among the cells. -/
def oversized : Bool := [c.rawO, c.rawH, c.rawL, c.rawC, c.rawV, c.rawAc].any fun raw => raw.any PyNumber.oversized

/-- The four prices are there. -/
def quoted : Bool := c.rawO.isSome && c.rawH.isSome && c.rawL.isSome && c.rawC.isSome

/-- The four prices, where they are finite and positive. -/
def prices? : Option Prices :=
  c.rawO.bind fun o => c.rawH.bind fun h => c.rawL.bind fun l => c.rawC.bind fun c =>
    YahooFinanceHistoricalProvider.prices? o.exact h.exact l.exact c.exact

/-- The volume, zero where there is none. -/
def volume : PyFloat := c.rawV.elim (.finite 0) PyNumber.exact

/-- The adjusted close, which `NaN` does not count as. -/
def adjClose : Option PyFloat := (c.rawAc.map PyNumber.exact).filter (· ≠ .nan)

end Cells

namespace Entry

variable (symbol : String) (resolution : Resolution) (e : Entry)

/-- The parser reads the arrays for the entry. -/
def reached : Bool := e.tsSec.any fun ts => !ts.exact.le (.finite 0)

/-- The bar of a valid entry: its time is a number, its prices are finite and positive, and the constructor accepts the repaired
bar. -/
def validBar : Option HistoricalPriceBar :=
  if e.cells.oversized then none
  else
    (e.tsSec.bind fun ts => ts.exact.value?).bind fun t =>
    e.cells.prices?.bind fun p =>
    (createBar symbol resolution (truncate t * 10 ^ 9) p.repaired (cleanVolume e.cells.volume) p.repaired.vwap
      e.cells.adjClose).toOption

/-- What the parser does with an entry: it goes on, it raises one of its own errors, or it breaks off with another one. -/
inductive Fate where
  | passes
  | refused
  | breaks
  deriving DecidableEq

namespace Fate

/-- A pass of a loop ends as the fate of what it reads says. -/
def Meets {β : Type} (fate : Fate) (r : Except Exc β) (made : β) : Prop :=
  match fate with
  | .passes => r = .ok made
  | .refused => ∃ exc, r = .error exc ∧ exc.cls.isHistoricalData = true
  | .breaks => ∃ exc, r = .error exc ∧ exc.cls.isHistoricalData = false

section Loop

variable {α β : Type} {f : α → Except Exc β} {made : α → β} {fate : α → Fate}

theorem eq_passes {a : α} (h : decide (fate a ≠ .passes) = false) : fate a = .passes := not_not.1 (of_decide_eq_false h)

/-- Where nothing stops the loop, it makes what each element gives. -/
theorem mapM_of_passes (hspec : ∀ a, (fate a).Meets (f a) (made a)) {l : List α}
    (h : l.find? (fun a => fate a ≠ .passes) = none) :
    l.mapM f = .ok (l.map made) := by
  refine mapM_eq_ok_map fun a ha => ?_
  have hmeets := hspec a
  rwa [eq_passes (Bool.eq_false_of_not_eq_true (List.find?_eq_none.1 h a ha))] at hmeets

/-- Otherwise the first element that stops it does. -/
theorem mapM_of_stops (hspec : ∀ a, (fate a).Meets (f a) (made a)) {l : List α} {a : α}
    (h : l.find? (fun a => fate a ≠ .passes) = some a) :
    ∃ exc, l.mapM f = .error exc ∧ (exc.cls.isHistoricalData = true ↔ fate a = .refused) := by
  have hpass : ∀ a ∈ l, decide (fate a ≠ .passes) = false → ∃ b, f a = .ok b := by
    intro a _ ha
    have hmeets := hspec a
    rw [eq_passes ha] at hmeets
    exact ⟨made a, hmeets⟩
  have hstops : decide (fate a ≠ .passes) = true := List.find?_some (p := fun a => fate a ≠ .passes) h
  have hmeets := hspec a
  cases hfate : fate a with
  | passes => exact absurd hfate (of_decide_eq_true hstops)
  | refused =>
    rw [hfate] at hmeets
    obtain ⟨exc, hexc, hcls⟩ := hmeets
    exact ⟨exc, mapM_error_of_find? hpass h hexc, iff_of_true hcls rfl⟩
  | breaks =>
    rw [hfate] at hmeets
    obtain ⟨exc, hexc, hcls⟩ := hmeets
    exact ⟨exc, mapM_error_of_find? hpass h hexc, iff_of_false (by simp [hcls]) (by simp)⟩

end Loop

end Fate

/-- An entry with four prices breaks the parser where a number is too large for a float, or its prices are good and its time is
not finite. It is refused where its prices are good and there is no symbol, the time is before the first second or the prices add
up to more than a float holds. -/
def fate : Fate :=
  match e.tsSec with
  | none => .passes
  | some ts =>
    if ts.exact.le (.finite 0) then .passes
    else if e.cells.quoted && e.cells.oversized then .breaks
    else
      match e.cells.prices? with
      | none => .passes
      | some p =>
        match ts.exact.value? with
        | none => .breaks
        | some t =>
          if symbol = "" ∨ t < 1 ∨ PyFloat.limit ≤ p.repaired.highF + p.repaired.lowF +
            p.repaired.closeF then .refused else .passes

/-- The loop does not get past the entry. -/
def stops : Bool := e.fate symbol ≠ .passes

end Entry

variable (symbol : String) (resolution : Resolution)

/-! ## The constructor -/

/-- The prices of an entry are positive. -/
theorem pos_of_prices? {c : Cells} {p : Prices} (hp : c.prices? = some p) :
    0 < p.openF ∧ 0 < p.highF ∧ 0 < p.lowF ∧ 0 < p.closeF := by
  have hpos : ∀ {x : PyFloat} {v : ℚ}, price? x = some v → 0 < v := by
    intro x v hv
    cases x with
    | finite x =>
      rw [price?] at hv
      split at hv
      · rename_i hx
        rwa [Option.some_inj.1 hv] at hx
      · cases hv
    | _ => cases hv
  simp only [Cells.prices?, prices?, Option.bind_eq_some_iff, Option.map_eq_some_iff] at hp
  obtain ⟨_, _, _, _, _, _, _, _, o, ho, h, hh, l, hl, c, hc, rfl⟩ := hp
  exact ⟨hpos ho, hpos hh, hpos hl, hpos hc⟩

theorem Prices.repaired_pos {p : Prices} (h : 0 < p.openF ∧ 0 < p.highF ∧ 0 < p.lowF ∧ 0 < p.closeF) :
    0 < p.repaired.highF ∧ 0 < p.repaired.lowF ∧ 0 < p.repaired.closeF :=
  ⟨lt_max_of_lt_right h.2.2.2, lt_min (lt_min h.2.2.1 h.1) h.2.2.2, h.2.2.2⟩

/-- The vwap of positive prices is finite where their sum is in range. -/
theorem value?_vwap {p : Prices} (hh : 0 < p.highF) (hl : 0 < p.lowF) (hc : 0 < p.closeF) :
    p.vwap.value? =
      if PyFloat.limit ≤ p.highF + p.lowF + p.closeF then none else some ((p.highF + p.lowF + p.closeF) / 3) := by
  have hsum : 0 < p.highF + p.lowF + p.closeF := add_pos (add_pos hh hl) hc
  rw [Prices.vwap, PyFloat.add_add_of_pos hh hl hc, PyFloat.ofRat_of_pos hsum]
  split
  · rfl
  · rename_i hlimit
    change (PyFloat.ofRat ((p.highF + p.lowF + p.closeF) / 3)).value? = _
    rw [PyFloat.ofRat_of_pos (by linarith), if_neg (by linarith)]
    rfl

/-- Past the checks of the symbol and the time, the constructor of a bar without corporate actions only finds fault with its
geometry. -/
theorem cls_of_create {f : HistoricalBarFields} {exc : Exc} (h : f.create = .error exc) (hsym : f.assetId ≠ "")
    (hts : 0 < f.timestamp)
    (hsplit : 0 < f.splitFactor) (hdiv : 0 ≤ f.dividendAmount) : exc.cls = .invalidBarGeometry := by
  rw [HistoricalBarFields.create, dif_neg hsym, dif_neg hts.not_ge] at h
  iterate 7
    rcases of_check_error h with rfl | ⟨_, h⟩
    · rfl
  rw [dif_neg hsplit.not_ge, dif_neg hdiv.not_gt] at h
  cases h

theorem requireFinite_of_none {text : String} {x : PyFloat} (h : x.value? = none) :
    requireFinite text x = .error ⟨.nonFiniteHistoricalInput, text, [floatArg x]⟩ := by
  rw [requireFinite, h]

/-- The constructor refuses a bar without symbol or time, or with prices out of range. -/
theorem createBar_refused (tsNs : ℤ) (p : Prices) (volume : ℚ) (vwap : PyFloat) (adjClose : Option PyFloat)
    (h : symbol = "" ∨ tsNs ≤ 0 ∨ vwap.value? = none) :
    ∃ exc, createBar symbol resolution tsNs p volume vwap adjClose = .error exc ∧ exc.cls = .nonFiniteHistoricalInput := by
  unfold createBar
  split
  · exact ⟨_, rfl, rfl⟩
  split
  · exact ⟨_, rfl, rfl⟩
  · rename_i hsym hts
    rw [requireFinite_of_none ((h.resolve_left hsym).resolve_left hts)]
    exact ⟨_, rfl, rfl⟩

/-- Otherwise it comes to the checks of the prices, and of an adjusted close that is not finite last. -/
theorem createBar_eq {tsNs : ℤ} {vwap : PyFloat} {v : ℚ} (p : Prices) (volume : ℚ) (adjClose : Option PyFloat)
    (hsym : symbol ≠ "") (hts : 0 < tsNs) (hvwap : vwap.value? = some v) :
    createBar symbol resolution tsNs p volume vwap adjClose =
      match adjClose with
      | none => (barFields symbol resolution tsNs p volume v none).create
      | some (.finite a) => (barFields symbol resolution tsNs p volume v (some a)).create
      | some x => (barFields symbol resolution tsNs p volume v none).create.bind fun _ =>
          .error ⟨.invalidBarGeometry, "adj_close must be strictly positive finite float, got %", [floatArg x]⟩ := by
  have hfinite : ∀ text, requireFinite text vwap = .ok v := by
    intro text
    rw [requireFinite, hvwap]
  rw [createBar, if_neg hsym, if_neg hts.not_ge, hfinite]
  rfl

/-- What it raises then is about the geometry. -/
theorem createBar_error {tsNs : ℤ} {p : Prices} {volume : ℚ} {vwap : PyFloat} {adjClose : Option PyFloat} {exc : Exc} {v : ℚ}
    (hsym : symbol ≠ "") (hts : 0 < tsNs) (hvwap : vwap.value? = some v)
    (h : createBar symbol resolution tsNs p volume vwap adjClose = .error exc) : exc.cls = .invalidBarGeometry := by
  rw [createBar_eq symbol resolution p volume adjClose hsym hts hvwap] at h
  split at h
  · exact cls_of_create h hsym hts one_pos le_rfl
  · exact cls_of_create h hsym hts one_pos le_rfl
  · refine error_of_bind (P := fun exc => exc.cls = .invalidBarGeometry) (fun exc' h' => ?_) (fun b exc' h' => ?_) exc h
    · exact cls_of_create h' hsym hts one_pos le_rfl
    · rw [← Except.error.inj h']

/-- The repaired prices and their vwap are what the constructor asks for, so it accepts them with every good adjusted close. -/
theorem exists_createBar {tsNs : ℤ} {p : Prices} {volume : ℚ} {adjClose : Option PyFloat} (hsym : symbol ≠ "") (hts : 0 < tsNs)
    (hp : 0 < p.openF ∧ 0 < p.highF ∧ 0 < p.lowF ∧ 0 < p.closeF)
    (hsum : p.repaired.highF + p.repaired.lowF + p.repaired.closeF < PyFloat.limit) (hvolume : 0 ≤ volume)
    (hadj : ∀ x ∈ adjClose, ∃ a, x = .finite a ∧ 0 < a) :
    ∃ bar, createBar symbol resolution tsNs p.repaired volume p.repaired.vwap adjClose = .ok bar := by
  obtain ⟨hh, hl, hc⟩ := Prices.repaired_pos hp
  have hvwap := value?_vwap hh hl hc
  rw [if_neg hsum.not_ge] at hvwap
  have hcHigh : p.repaired.closeF ≤ p.repaired.highF := le_max_right _ _
  have hoHigh : p.repaired.openF ≤ p.repaired.highF := (le_max_right p.highF p.openF).trans (le_max_left _ _)
  have hlowC : p.repaired.lowF ≤ p.repaired.closeF := min_le_right _ _
  have hlowO : p.repaired.lowF ≤ p.repaired.openF := (min_le_left _ _).trans (min_le_right p.lowF p.openF)
  have hmem : p.repaired.lowF - vwapTolerance ≤ (p.repaired.highF + p.repaired.lowF + p.repaired.closeF) / 3 ∧
      (p.repaired.highF + p.repaired.lowF + p.repaired.closeF) / 3 ≤ p.repaired.highF + vwapTolerance := by
    have htol : 0 ≤ vwapTolerance := by decide +kernel
    constructor <;> linarith
  have haccepts : ∀ adj : Option ℚ, (∀ a ∈ adj, 0 < a) → ∃ bar, (barFields symbol resolution tsNs p.repaired volume
      ((p.repaired.highF + p.repaired.lowF + p.repaired.closeF) / 3) adj).create = .ok bar := by
    intro adj hpos
    let bar : HistoricalPriceBar :=
      { barFields symbol resolution tsNs p.repaired volume ((p.repaired.highF + p.repaired.lowF + p.repaired.closeF) / 3) adj with
        assetId_ne := hsym
        timestamp_pos := hts
        prices_pos := ⟨hp.1, hh, hl, hc⟩
        high_ge := max_le hoHigh hcHigh
        low_le := le_min hlowO hlowC
        volume_nonneg := hvolume
        vwap_pos := fun _ => div_pos (add_pos (add_pos hh hl) hc) three_pos
        vwap_mem := fun _ => hmem
        adjClose_pos := hpos
        splitFactor_pos := one_pos
        dividendAmount_nonneg := le_rfl }
    exact ⟨bar, bar.create_fields⟩
  rw [createBar_eq symbol resolution p.repaired volume adjClose hsym hts hvwap]
  cases hx : adjClose with
  | none => exact haccepts none (by simp)
  | some x =>
    obtain ⟨a, rfl, ha⟩ := hadj x hx
    exact haccepts (some a) (by simpa using ha)

/-- What the constructor accepted. -/
theorem of_createBar {tsNs : ℤ} {p : Prices} {volume : ℚ} {vwap : PyFloat} {adjClose : Option PyFloat} {bar : HistoricalPriceBar}
    (h : createBar symbol resolution tsNs p volume vwap adjClose = .ok bar) :
    symbol ≠ "" ∧ 0 < tsNs ∧ (∃ v, vwap.value? = some v) ∧ ∀ x ∈ adjClose, ∃ a, x = .finite a ∧ 0 < a := by
  have hnot : ¬ (symbol = "" ∨ tsNs ≤ 0 ∨ vwap.value? = none) := by
    intro hrefused
    obtain ⟨exc, hexc, -⟩ := createBar_refused symbol resolution tsNs p volume vwap adjClose hrefused
    rw [hexc] at h
    cases h
  rw [not_or, not_or, not_le] at hnot
  obtain ⟨hsym, hts, hvwap⟩ := hnot
  obtain ⟨v, hv⟩ := Option.ne_none_iff_exists'.1 hvwap
  refine ⟨hsym, hts, ⟨v, hv⟩, ?_⟩
  rw [createBar_eq symbol resolution p volume adjClose hsym hts hv] at h
  split at h
  · simp
  · rename_i a
    have hpos := bar.adjClose_pos a
    rw [HistoricalBarFields.fields_of_create h] at hpos
    intro x hx
    exact ⟨a, (Option.some_inj.1 hx).symm, hpos rfl⟩
  · obtain ⟨bar', -, hraises⟩ := exists_of_bind_ok h
    cases hraises

/-! ## The reads of an entry -/

/-- The pass after the reads of an entry, as the loop takes it. -/
def parseEntry (e : Entry) : Except Exc (Option HistoricalPriceBar) :=
  match e.tsSec with
  | none => .ok none
  | some ts => if ts.exact.le (.finite 0) then .ok none else parseCells symbol resolution ts e.cells

theorem raisesIf_toFloat (x : PyNumber) : RaisesIf .overflowError x.oversized (toFloat (some x)) (.ok x.exact) := by
  constructor
  · intro h
    simp [toFloat, h]
  · intro h
    simp [toFloat, h]

theorem raisesIf_volumeOf (c : Cells) :
    RaisesIf .overflowError (c.rawV.any PyNumber.oversized) (volumeOf c.rawV) (.ok c.volume) := by
  unfold volumeOf Cells.volume
  cases c.rawV with
  | none => exact .never _
  | some v => exact raisesIf_toFloat v

theorem raisesIf_adjCloseOf (c : Cells) :
    RaisesIf .overflowError (c.rawAc.any PyNumber.oversized) (adjCloseOf c.rawAc) (.ok c.adjClose) := by
  unfold adjCloseOf Cells.adjClose
  cases c.rawAc with
  | none => exact .never _
  | some ac =>
    have hfilter : (some ac.exact).filter (· ≠ .nan) = if ac.exact = .nan then none else some ac.exact := by
      by_cases hnan : ac.exact = .nan <;> simp [Option.filter, hnan]
    rw [Option.map_some, hfilter]
    exact (raisesIf_toFloat ac).map _

theorem parseCells_of_not_quoted {ts : PyNumber} {c : Cells} (h : c.quoted = false) :
    parseCells symbol resolution ts c = .ok none := by
  unfold parseCells
  split
  · rename_i ho hh hl hc
    simp [Cells.quoted, ho, hh, hl, hc] at h
  · rfl

/-- What a pass with four prices comes to. -/
def priced (ts : PyNumber) (c : Cells) : Except Exc (Option HistoricalPriceBar) :=
  match c.prices? with
  | some p => parsePrices symbol resolution ts p c.volume c.adjClose
  | none => .ok none

/-- It overflows on a number that is too large, whichever it is. -/
theorem raisesIf_parseCells {ts : PyNumber} {c : Cells} (h : c.quoted = true) :
    RaisesIf .overflowError c.oversized (parseCells symbol resolution ts c) (priced symbol resolution ts c) := by
  obtain ⟨rawO, rawH, rawL, rawC, rawV, rawAc⟩ := c
  simp only [Cells.quoted, Bool.and_eq_true, Option.isSome_iff_exists] at h
  obtain ⟨⟨⟨⟨o, rfl⟩, ⟨h, rfl⟩⟩, ⟨l, rfl⟩⟩, ⟨c, rfl⟩⟩ := h
  exact (raisesIf_toFloat o).bind <| (raisesIf_toFloat h).bind <| (raisesIf_toFloat l).bind <| (raisesIf_toFloat c).bind <|
    (raisesIf_volumeOf _).bind <| (raisesIf_adjCloseOf _).bind <| .never _

/-! ## The outcome of an entry -/

theorem toInt_of_value? {x : PyNumber} {t : ℚ} (h : x.exact.value? = some t) : toInt (some x) = .ok (truncate t) := by
  cases x with
  | int n =>
    obtain rfl := Option.some_inj.1 h
    rw [truncate_intCast]
    rfl
  | float x =>
    cases x with
    | finite x =>
      obtain rfl := Option.some_inj.1 h
      rfl
    | _ => cases h

theorem toInt_of_not_finite {x : PyNumber} (h : x.exact.value? = none) :
    ∃ exc, toInt (some x) = .error exc ∧ exc.cls.isHistoricalData = false := by
  cases x with
  | int n => cases h
  | float x =>
    cases x with
    | finite x => cases h
    | _ => exact ⟨_, rfl, rfl⟩

theorem truncate_mul_pos_iff {t : ℚ} : 0 < truncate t * 10 ^ 9 ↔ 1 ≤ t := by
  rw [← truncate_pos_iff]
  omega

/-- The bar of an entry is the one its pass makes, dropped for its geometry or not, unless the constructor refuses it. -/
theorem parsePrices_spec (volume : PyFloat) (adjClose : Option PyFloat) {ts : PyNumber} {t : ℚ} {p : Prices}
    (ht : ts.exact.value? = some t) (hp : 0 < p.openF ∧ 0 < p.highF ∧ 0 < p.lowF ∧ 0 < p.closeF) :
    if symbol = "" ∨ t < 1 ∨ PyFloat.limit ≤ p.repaired.highF + p.repaired.lowF + p.repaired.closeF then
      ∃ exc, parsePrices symbol resolution ts p volume adjClose = .error exc ∧ exc.cls.isHistoricalData = true
    else
      parsePrices symbol resolution ts p volume adjClose =
        .ok (createBar symbol resolution (truncate t * 10 ^ 9) p.repaired (cleanVolume volume) p.repaired.vwap
        adjClose).toOption := by
  obtain ⟨hh, hl, hc⟩ := Prices.repaired_pos hp
  have hvwap := value?_vwap hh hl hc
  rw [parsePrices, toInt_of_value? ht, Except.bind]
  split
  · rename_i hrefused
    obtain ⟨exc, hexc, hcls⟩ := createBar_refused symbol resolution (truncate t * 10 ^ 9) p.repaired
      (cleanVolume volume) p.repaired.vwap
      adjClose (hrefused.imp_right (Or.imp (fun ht1 => not_lt.1 fun hpos => ht1.not_ge (truncate_mul_pos_iff.1 hpos))
        fun hlimit => hvwap.trans (if_pos hlimit)))
    rw [hexc, dropAnomaly, if_neg (by rw [hcls]; decide)]
    exact ⟨exc, rfl, by rw [hcls]; rfl⟩
  · rename_i hfine
    rw [not_or, not_or, not_lt] at hfine
    rw [if_neg hfine.2.2] at hvwap
    cases hbar : createBar symbol resolution (truncate t * 10 ^ 9) p.repaired (cleanVolume volume) p.repaired.vwap adjClose with
    | ok bar => rfl
    | error exc =>
      rw [dropAnomaly, if_pos (createBar_error symbol resolution hfine.1 (truncate_mul_pos_iff.2 hfine.2.1) hvwap hbar)]
      rfl

theorem cleanVolume_nonneg (volume : PyFloat) : 0 ≤ cleanVolume volume := by
  cases volume with
  | finite v =>
    rw [cleanVolume]
    split
    · exact le_rfl
    · rename_i hv
      exact not_lt.1 hv
  | _ => exact le_rfl

theorem exists_of_toOption {α : Type} {r : Except Exc α} : (∃ a, r.toOption = some a) ↔ ∃ a, r = .ok a := by
  cases r <;> simp [Except.toOption]

/-- An entry is valid where its numbers are in range, its time is a second or later, its prices are finite and positive and its
adjusted close, if it has one, is too. -/
theorem exists_validBar_iff (e : Entry) :
    (∃ bar, e.validBar symbol resolution = some bar) ↔ symbol ≠ "" ∧ e.cells.oversized = false ∧
      (∃ t, (e.tsSec.bind fun ts => ts.exact.value?) = some t ∧ 1 ≤ t) ∧
      (∃ p, e.cells.prices? = some p ∧ p.repaired.highF + p.repaired.lowF + p.repaired.closeF < PyFloat.limit) ∧
      ∀ x ∈ e.cells.adjClose, ∃ a, x = .finite a ∧ 0 < a := by
  rw [Entry.validBar]
  constructor
  · rintro ⟨bar, h⟩
    split at h
    · cases h
    rename_i hover
    simp only [Option.bind_eq_some_iff] at h
    obtain ⟨t, ht, p, hp, h⟩ := h
    obtain ⟨bar', hbar⟩ := exists_of_toOption.1 ⟨bar, h⟩
    obtain ⟨hsym, hts, ⟨v, hv⟩, hadj⟩ := of_createBar symbol resolution hbar
    obtain ⟨hh, hl, hc⟩ := Prices.repaired_pos (pos_of_prices? hp)
    refine ⟨hsym, Bool.eq_false_of_not_eq_true hover, ⟨t, ?_, truncate_mul_pos_iff.1 hts⟩, ⟨p, hp, ?_⟩, hadj⟩
    · simpa only [Option.bind_eq_some_iff] using ht
    · by_contra hlimit
      rw [value?_vwap hh hl hc, if_pos (not_lt.1 hlimit)] at hv
      cases hv
  · rintro ⟨hsym, hover, ⟨t, ht, ht1⟩, ⟨p, hp, hlimit⟩, hadj⟩
    obtain ⟨bar, hbar⟩ := exists_createBar symbol resolution hsym (truncate_mul_pos_iff.2 ht1) (pos_of_prices? hp) hlimit
      (cleanVolume_nonneg e.cells.volume) hadj
    refine ⟨bar, ?_⟩
    rw [if_neg (by simp [hover]), ht, hp, Option.bind_some, Option.bind_some, hbar]
    rfl

theorem symbol_ne_of_validBar {e : Entry} {bar : HistoricalPriceBar}
    (h : e.validBar symbol resolution = some bar) : symbol ≠ "" :=
  ((exists_validBar_iff symbol resolution e).1 ⟨bar, h⟩).1

theorem validBar_of_no_prices {e : Entry} (h : e.cells.prices? = none) : e.validBar symbol resolution = none := by
  simp [Entry.validBar, h]

theorem prices?_of_not_quoted {c : Cells} (h : c.quoted = false) : c.prices? = none := by
  obtain ⟨_ | o, _ | hi, _ | l, _ | c, v, ac⟩ := c <;> first | rfl | cases h

/-- An entry that is not reached is not valid. -/
theorem validBar_of_not_reached {e : Entry} (h : e.reached = false) : e.validBar symbol resolution = none := by
  rw [Option.eq_none_iff_forall_ne_some]
  intro bar hbar
  obtain ⟨-, -, ⟨t, ht, ht1⟩, -⟩ := (exists_validBar_iff symbol resolution e).1 ⟨bar, hbar⟩
  obtain ⟨ts, hts, hval⟩ := Option.bind_eq_some_iff.1 ht
  have hle : ts.exact.le (.finite 0) = true := by simpa [Entry.reached, hts] using h
  cases hx : ts.exact with
  | finite x =>
    rw [hx] at hval hle
    obtain rfl := Option.some_inj.1 hval
    have hx0 : x ≤ 0 := of_decide_eq_true hle
    linarith
  | _ =>
    rw [hx] at hval
    cases hval

/-- What the parser does with an entry is its fate. -/
theorem parseEntry_spec (e : Entry) : (e.fate symbol).Meets (parseEntry symbol resolution e) (e.validBar symbol resolution) := by
  obtain ⟨tsSec, c⟩ := e
  rw [parseEntry, Entry.fate]
  cases tsSec with
  | none =>
    rw [validBar_of_not_reached symbol resolution rfl]
    rfl
  | some ts =>
    dsimp only
    by_cases hle : ts.exact.le (.finite 0) = true
    · rw [if_pos hle, if_pos hle, validBar_of_not_reached symbol resolution (by simp [Entry.reached, hle])]
      rfl
    rw [if_neg hle, if_neg hle]
    cases hquoted : c.quoted with
    | false =>
      have hprices := prices?_of_not_quoted hquoted
      rw [parseCells_of_not_quoted symbol resolution hquoted, validBar_of_no_prices symbol resolution hprices, hprices]
      rfl
    | true =>
      have hcells : RaisesIf .overflowError c.oversized (parseCells symbol resolution ts c) (priced symbol resolution ts c) :=
        raisesIf_parseCells symbol resolution hquoted
      cases hover : c.oversized with
      | true =>
        obtain ⟨exc, hexc, hcls⟩ := hcells.raises hover
        exact ⟨exc, hexc, by rw [hcls]; rfl⟩
      | false =>
        rw [hcells.returns hover, priced]
        simp only [Bool.and_false, Bool.false_eq_true, if_false]
        cases hprices : c.prices? with
        | none =>
          rw [validBar_of_no_prices symbol resolution hprices]
          rfl
        | some p =>
          cases ht : ts.exact.value? with
          | none =>
            obtain ⟨exc, hexc, hcls⟩ := toInt_of_not_finite ht
            refine ⟨exc, ?_, hcls⟩
            dsimp only
            rw [parsePrices, hexc]
            rfl
          | some t =>
            have hspec := parsePrices_spec symbol resolution c.volume c.adjClose ht (pos_of_prices? hprices)
            dsimp only
            split at hspec
            · rename_i hrefused
              rw [if_pos hrefused]
              exact hspec
            · rename_i hfine
              rw [if_neg hfine, hspec]
              simp [Entry.Fate.Meets, Entry.validBar, hover, ht, hprices]

end YahooFinanceHistoricalProvider

end Quant
