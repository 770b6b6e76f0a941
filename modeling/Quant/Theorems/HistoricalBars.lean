import Mathlib.Algebra.Field.Rat
import Mathlib.Algebra.Order.Field.Basic
import Quant.Domain.Historical
import Quant.Infrastructure.HistoricalRepository
import Quant.Pylib.Steps

/-!
# Split adjustment

Scaling a bar by its split factor keeps every relation between its prices, but the tolerance on the vwap does not scale: a vwap
outside the range of the bar moves away from it with the prices.
-/

namespace Quant

open Pylib

namespace HistoricalPriceBar

/-- The vwap of the scaled bar is within the tolerance of its range. -/
def VwapFits (b : HistoricalPriceBar) : Prop :=
  b.low * b.splitFactor - vwapTolerance ≤ b.vwap * b.splitFactor ∧ b.vwap * b.splitFactor ≤ b.high * b.splitFactor + vwapTolerance

/-- A bar whose vwap is in its range scales by every factor. -/
theorem vwapFits_of_mem {b : HistoricalPriceBar} (hlow : b.low ≤ b.vwap) (hhigh : b.vwap ≤ b.high) : b.VwapFits := by
  have htol : 0 ≤ vwapTolerance := by norm_num [vwapTolerance]
  have hlow' := mul_le_mul_of_nonneg_right hlow b.splitFactor_pos.le
  have hhigh' := mul_le_mul_of_nonneg_right hhigh b.splitFactor_pos.le
  exact ⟨(sub_le_self _ htol).trans hlow', hhigh'.trans (le_add_of_nonneg_right htol)⟩

/-- The scaled bar, where its vwap fits. -/
def scaled (b : HistoricalPriceBar) (h : b.volume = 0 ∨ b.VwapFits) : HistoricalPriceBar :=
  have hvolume : b.adjustedFields.volume = b.volume / b.splitFactor := if_pos b.splitFactor_pos
  have hpos : 0 < b.adjustedFields.volume → 0 < b.volume := by
    rw [hvolume]
    exact fun hv => (div_pos_iff_of_pos_right b.splitFactor_pos).1 hv
  { b.adjustedFields with
    assetId_ne := b.assetId_ne
    timestamp_pos := b.timestamp_pos
    prices_pos := ⟨mul_pos b.prices_pos.1 b.splitFactor_pos, mul_pos b.prices_pos.2.1 b.splitFactor_pos,
      mul_pos b.prices_pos.2.2.1 b.splitFactor_pos, mul_pos b.prices_pos.2.2.2 b.splitFactor_pos⟩
    high_ge := by
      refine (max_mul_of_nonneg b.openPrice b.close b.splitFactor_pos.le).symm.le.trans ?_
      exact mul_le_mul_of_nonneg_right b.high_ge b.splitFactor_pos.le
    low_le := by
      refine le_trans ?_ (min_mul_of_nonneg b.openPrice b.close b.splitFactor_pos.le).le
      exact mul_le_mul_of_nonneg_right b.low_le b.splitFactor_pos.le
    volume_nonneg := by
      rw [hvolume]
      exact div_nonneg b.volume_nonneg b.splitFactor_pos.le
    vwap_pos := fun hv => mul_pos (b.vwap_pos (hpos hv)) b.splitFactor_pos
    vwap_mem := fun hv => h.resolve_left (hpos hv).ne'
    adjClose_pos := b.adjClose_pos
    splitFactor_pos := one_pos
    dividendAmount_nonneg := mul_nonneg b.dividendAmount_nonneg b.splitFactor_pos.le }

/-- The constructor accepts the scaled fields exactly where there is no volume or the vwap fits. -/
theorem exists_create_adjustedFields (b : HistoricalPriceBar) :
    (∃ b', b.adjustedFields.create = .ok b') ↔ b.volume = 0 ∨ b.VwapFits := by
  constructor
  · rintro ⟨b', hb'⟩
    have hfields := HistoricalBarFields.fields_of_create hb'
    refine b.volume_nonneg.eq_or_lt.imp Eq.symm fun hv => ?_
    have hv' : 0 < b'.volume := by
      rw [hfields]
      exact (div_pos hv b.splitFactor_pos).trans_eq (if_pos b.splitFactor_pos).symm
    have hmem := b'.vwap_mem hv'
    rw [hfields] at hmem
    exact hmem
  · intro h
    exact ⟨b.scaled h, (b.scaled h).create_fields⟩

theorem isUnitFactor_one : isUnitFactor 1 = true := by
  decide +kernel

theorem toAdjustedBar_of_isUnit {b : HistoricalPriceBar} (h : isUnitFactor b.splitFactor = true) : b.toAdjustedBar = .ok b :=
  if_pos h

/-- Split adjustment keeps a bar valid: it returns a bar its constructor accepts, of the same notional volume, that it leaves
alone. -/
def AdjustmentKeepsValid (b : HistoricalPriceBar) : Prop :=
  ∃ b', b.toAdjustedBar = .ok b' ∧ b'.toHistoricalBarFields.create = .ok b' ∧ b'.volume * b'.vwap = b.volume * b.vwap ∧
    b'.toAdjustedBar = .ok b'

/-- Split adjustment keeps a bar valid exactly where the factor is one, nothing was traded or the vwap fits the scaled range. -/
theorem adjustmentKeepsValid_iff (b : HistoricalPriceBar) :
    b.AdjustmentKeepsValid ↔ isUnitFactor b.splitFactor = true ∨ b.volume = 0 ∨ b.VwapFits := by
  cases hunit : isUnitFactor b.splitFactor with
  | true =>
    refine iff_of_true ?_ (.inl rfl)
    exact ⟨b, toAdjustedBar_of_isUnit hunit, b.create_fields, rfl, toAdjustedBar_of_isUnit hunit⟩
  | false =>
    have hcreate : b.toAdjustedBar = b.adjustedFields.create := if_neg (by simp [hunit])
    rw [or_iff_right Bool.false_ne_true, ← exists_create_adjustedFields, AdjustmentKeepsValid, hcreate]
    constructor
    · rintro ⟨b', hb', -⟩
      exact ⟨b', hb'⟩
    · rintro ⟨b', hb'⟩
      have hfields := HistoricalBarFields.fields_of_create hb'
      refine ⟨b', hb', b'.create_fields, ?_, toAdjustedBar_of_isUnit ?_⟩
      · rw [hfields]
        have hne := b.splitFactor_pos.ne'
        have hvolume : b.adjustedFields.volume = b.volume / b.splitFactor := if_pos b.splitFactor_pos
        rw [hvolume, show b.adjustedFields.vwap = b.vwap * b.splitFactor from rfl, mul_comm b.vwap, ← mul_assoc,
          div_mul_cancel₀ _ hne]
      · rw [hfields]
        exact isUnitFactor_one

/-! ### A vwap at the edge of its tolerance -/

/-- A bar at 100 with a vwap a tolerance above its range, before a four-fold split. -/
def edgeFields : HistoricalBarFields where
  assetId := "AAA"
  timestamp := 1
  openPrice := 100
  high := 100
  low := 100
  close := 100
  volume := 10
  vwap := 100 + vwapTolerance
  splitFactor := 4

/-- The constructor accepts the bar, and its adjustment raises. -/
theorem not_adjustmentKeepsValid_edge : ∃ b, edgeFields.create = .ok b ∧ ¬ b.AdjustmentKeepsValid := by
  obtain ⟨b, hb⟩ : ∃ b, edgeFields.create = .ok b := exists_of_isOk (by decide +kernel)
  refine ⟨b, hb, ?_⟩
  rintro ⟨b', hb', -⟩
  have hraises : (edgeFields.create.bind toAdjustedBar).isOk = false := by decide +kernel
  rw [hb, Except.bind, hb'] at hraises
  cases hraises

end HistoricalPriceBar

/-!
## The historical store, saved and read back

Any sequence of batches. Where every save succeeds the table holds the last saved bar of each key, and the reader returns those of
a range in order. A save fails where a bar has no adjusted close, since the table has no place for the null, or a timestamp beyond
`int64`.
-/

namespace HistoricalRepository

/-! ### One save -/

/-- The bars of a batch carry its symbol and its resolution. -/
def Uniform (batch : HistoricalBarBatch) : Prop :=
  ∀ b ∈ batch.bars, b.assetId = batch.symbol ∧ b.resolution = batch.resolution

/-- The bars of a batch have an adjusted close and a timestamp that `int64` holds. -/
def Storable (batch : HistoricalBarBatch) : Prop := ∀ b ∈ batch.bars, b.adjClose ≠ none ∧ b.timestamp < int64Bound

/-- The primary key of a bar. -/
def barKey (b : HistoricalPriceBar) : BarKey := (b.assetId, b.resolution.str, b.timestamp)

/-- The row of a bar that has an adjusted close. -/
def storedRow (b : HistoricalPriceBar) : BarRow :=
  { symbol := b.assetId
    resolution := b.resolution.str
    timestamp := b.timestamp
    openPrice := b.openPrice
    high := b.high
    low := b.low
    close := b.close
    volume := b.volume
    vwap := b.vwap
    adjClose := b.adjClose.getD b.close
    splitFactor := b.splitFactor
    dividendAmount := b.dividendAmount }

theorem checkRow_arrowRow {batch : HistoricalBarBatch} {b : HistoricalPriceBar} (hr : b.resolution = batch.resolution)
    (ha : b.adjClose ≠ none) : checkRow (arrowRow batch b) = .ok (storedRow b) := by
  cases hadj : b.adjClose with
  | none => exact absurd hadj ha
  | some a => simp [checkRow, arrowRow, storedRow, hadj, hr]

/-- A batch that can be stored is saved. -/
theorem saveBatchSync_of_storable {batch : HistoricalBarBatch} (hu : Uniform batch) (hs : Storable batch)
    (table : Dict BarKey BarRow) :
    saveBatchSync table batch = (.ok batch.bars.length, table.upsert BarRow.key (batch.bars.map storedRow)) := by
  have harrow : arrowTable batch = .ok (batch.bars.map (arrowRow batch)) := by
    unfold arrowTable
    rw [if_neg]
    intro hany
    obtain ⟨b, hb, hle⟩ := List.any_eq_true.1 hany
    exact absurd (hs b hb).2 (not_lt.2 (of_decide_eq_true hle))
  have hrows : (batch.bars.map (arrowRow batch)).mapM checkRow = .ok (batch.bars.map storedRow) := by
    have hbars : ∀ b ∈ batch.bars, checkRow (arrowRow batch b) = .ok (storedRow b) :=
      fun b hb => checkRow_arrowRow (hu b hb).2 (hs b hb).1
    generalize batch.bars = bars at hbars
    induction bars with
    | nil => rfl
    | cons b bars ih =>
      rw [List.map_cons, List.mapM_cons, hbars b List.mem_cons_self, ih fun b' hb' => hbars b' (List.mem_cons_of_mem b hb')]
      rfl
  unfold saveBatchSync
  rw [if_neg batch.bars_ne, harrow]
  simp only [hrows]

/-- A batch that is saved can be stored. -/
theorem storable_of_saved {batch : HistoricalBarBatch} {table : Dict BarKey BarRow} {n : ℕ}
    (h : (saveBatchSync table batch).1 = .ok n) : Storable batch := by
  unfold saveBatchSync at h
  rw [if_neg batch.bars_ne] at h
  cases harrow : arrowTable batch with
  | error exc =>
    rw [harrow] at h
    cases h
  | ok arrow =>
    unfold arrowTable at harrow
    split at harrow
    · cases harrow
    · rename_i hany
      cases harrow
      intro b hb
      constructor
      · intro hadj
        cases hrows : (batch.bars.map (arrowRow batch)).mapM checkRow with
        | error exc =>
          rw [arrowTable, if_neg hany] at h
          simp only [hrows] at h
          cases h
        | ok rows =>
          obtain ⟨i, hi⟩ := List.mem_iff_getElem?.1 (List.mem_map_of_mem (f := arrowRow batch) hb)
          obtain ⟨row, -, hrow⟩ := getElem?_of_forall₂ (forall₂_of_mapM_ok hrows) hi
          simp [checkRow, arrowRow, hadj] at hrow
      · by_contra hlt
        exact hany (List.any_eq_true.2 ⟨b, hb, decide_eq_true (not_lt.1 hlt)⟩)

/-! ### A sequence of saves -/

/-- The table after some saves; a save that raises leaves it as it is. -/
def tableAfter (saves : List HistoricalBarBatch) : Dict BarKey BarRow :=
  saves.foldl (fun table batch => (saveBatchSync table batch).2) ∅

theorem tableAfter_concat (saves : List HistoricalBarBatch) (batch : HistoricalBarBatch) :
    tableAfter (saves ++ [batch]) = (saveBatchSync (tableAfter saves) batch).2 := by
  rw [tableAfter, List.foldl_append]
  rfl

/-- The bar saved last under a key. -/
def lastSaved (saves : List HistoricalBarBatch) (k : BarKey) : Option HistoricalPriceBar :=
  (saves.flatMap (·.bars)).reverse.find? (fun b => barKey b = k)

theorem lastSaved_concat (saves : List HistoricalBarBatch) (batch : HistoricalBarBatch) (k : BarKey) :
    lastSaved (saves ++ [batch]) k = (batch.bars.reverse.find? (fun b => barKey b = k)).or (lastSaved saves k) := by
  rw [lastSaved, List.flatMap_append, List.flatMap_singleton, List.reverse_append, List.find?_append]
  rfl

theorem barKey_of_lastSaved {saves : List HistoricalBarBatch} {k : BarKey} {b : HistoricalPriceBar}
    (h : lastSaved saves k = some b) :
    barKey b = k := by
  simpa using List.find?_some h

/-- The table holds the bar saved last under each key. -/
theorem get?_tableAfter {saves : List HistoricalBarBatch} (hu : ∀ batch ∈ saves, Uniform batch)
    (hs : ∀ batch ∈ saves, Storable batch)
    (k : BarKey) : (tableAfter saves).get? k = (lastSaved saves k).map storedRow := by
  induction saves using List.reverseRecOn with
  | nil => rfl
  | append_singleton saves batch ih =>
    have hlast : batch ∈ saves ++ [batch] := by simp
    rw [tableAfter_concat, saveBatchSync_of_storable (hu batch hlast) (hs batch hlast), Dict.get?_upsert, lastSaved_concat,
      ih (fun b hb => hu b (List.mem_append_left _ hb)) (fun b hb => hs b (List.mem_append_left _ hb)), ← List.map_reverse,
      List.find?_map]
    cases hf : batch.bars.reverse.find? ((fun row => decide (row.key = k)) ∘ storedRow) with
    | none =>
      have hf' : batch.bars.reverse.find? (fun b => decide (barKey b = k)) = none := hf
      rw [hf']
      rfl
    | some b =>
      have hf' : batch.bars.reverse.find? (fun b => decide (barKey b = k)) = some b := hf
      rw [hf']
      rfl

/-! ### A read -/

section Read

variable {saves : List HistoricalBarBatch}

/-- What the range query selects: the rows of the bars saved last whose key is in the range. -/
theorem mem_selectRange (hu : ∀ batch ∈ saves, Uniform batch) (hs : ∀ batch ∈ saves, Storable batch) {symbol : String} {s e : ℤ}
    {r : Resolution} {row : BarRow} :
    row ∈ selectRange (tableAfter saves) symbol s e r ↔ ∃ t y, s ≤ t ∧ t ≤ e ∧ lastSaved saves (symbol, r.str, t) = some y ∧
      row = storedRow y := by
  unfold selectRange
  rw [List.mem_mergeSort, List.mem_filter, Dict.mem_values_iff, decide_eq_true_eq]
  constructor
  · rintro ⟨⟨k, hk⟩, hsym, hres, hlo, hhi⟩
    rw [get?_tableAfter hu hs, Option.map_eq_some_iff] at hk
    obtain ⟨y, hy, rfl⟩ := hk
    have hkey : k = (symbol, r.str, (storedRow y).timestamp) := by
      rw [← barKey_of_lastSaved hy, ← hsym, ← hres]
      rfl
    exact ⟨(storedRow y).timestamp, y, hlo, hhi, hkey ▸ hy, rfl⟩
  · rintro ⟨t, y, hlo, hhi, hy, rfl⟩
    have hkey := barKey_of_lastSaved hy
    simp only [barKey, Prod.mk.injEq] at hkey
    obtain ⟨hsym, hres, ht⟩ := hkey
    refine ⟨⟨(symbol, r.str, t), ?_⟩, hsym, hres, ?_, ?_⟩
    · rw [get?_tableAfter hu hs, hy]
      rfl
    · exact hlo.trans_eq ht.symm
    · exact ht.trans_le hhi

/-- The selected rows are at increasing times. -/
theorem selectRange_increasing (hu : ∀ batch ∈ saves, Uniform batch) (hs : ∀ batch ∈ saves, Storable batch) (symbol : String)
    (s e : ℤ) (r : Resolution) :
    (selectRange (tableAfter saves) symbol s e r).Pairwise (fun row row' => row.timestamp < row'.timestamp) := by
  have hkeys : ∀ k row, (tableAfter saves).get? k = some row → row.key = k := by
    intro k row hk
    rw [get?_tableAfter hu hs, Option.map_eq_some_iff] at hk
    obtain ⟨y, hy, rfl⟩ := hk
    exact barKey_of_lastSaved hy
  have hnodup : (selectRange (tableAfter saves) symbol s e r).Nodup := by
    unfold selectRange
    exact (List.mergeSort_perm _ _).nodup_iff.2 ((Dict.values_nodup BarRow.key hkeys).filter _)
  have hsorted : (selectRange (tableAfter saves) symbol s e r).Pairwise (fun row row' => row.timestamp ≤ row'.timestamp) := by
    unfold selectRange
    refine (List.pairwise_mergeSort (fun a b c hab hbc => ?_) (fun a b => ?_) _).imp fun hle => of_decide_eq_true hle
    · exact decide_eq_true ((of_decide_eq_true hab).trans (of_decide_eq_true hbc))
    · rw [Bool.or_eq_true, decide_eq_true_eq, decide_eq_true_eq]
      exact le_total _ _
  -- Rows of one time in the range have one key, so they are one row.
  have hne : (selectRange (tableAfter saves) symbol s e r).Pairwise (fun row row' => row.timestamp ≠ row'.timestamp) := by
    refine hnodup.pairwise_of_forall_ne fun row hrow row' hrow' hdiff heq => hdiff ?_
    obtain ⟨t, y, -, -, hy, rfl⟩ := (mem_selectRange hu hs).1 hrow
    obtain ⟨t', y', -, -, hy', rfl⟩ := (mem_selectRange hu hs).1 hrow'
    have ht : y.timestamp = t := congrArg (fun k : BarKey => k.2.2) (barKey_of_lastSaved hy)
    have ht' : y'.timestamp = t' := congrArg (fun k : BarKey => k.2.2) (barKey_of_lastSaved hy')
    have htt : t = t' := ht.symm.trans (heq.trans ht')
    rw [htt, hy', Option.some.injEq] at hy
    rw [hy]
  exact (hsorted.and hne).imp fun h => lt_of_le_of_ne h.1 h.2

/-- The reader makes of a stored row the bar that was saved, with its adjusted close filled in. -/
theorem create_readRow (y : HistoricalPriceBar) : (readRow y.resolution (storedRow y)).create = .ok y.filled := by
  have hfields : readRow y.resolution (storedRow y) = y.filled.toHistoricalBarFields := by
    have hadj : 0 < y.adjClose.getD y.close := y.filled.adjClose_pos _ rfl
    unfold readRow
    rw [if_pos (show 0 < (storedRow y).adjClose from hadj), if_pos (show 0 < (storedRow y).splitFactor from y.splitFactor_pos),
      if_pos (show 0 ≤ (storedRow y).dividendAmount from y.dividendAmount_nonneg)]
    rfl
  rw [hfields]
  exact y.filled.create_fields

theorem timestamp_of_readRow {r : Resolution} {row : BarRow} {b : HistoricalPriceBar} (h : (readRow r row).create = .ok b) :
    b.timestamp = row.timestamp := by
  unfold HistoricalBarFields.create at h
  iterate 11
    obtain ⟨_, h⟩ := of_check_ok h
  cases h
  rfl

theorem increasing_of_readRow {r : Resolution} {rows : List BarRow} {bars : List HistoricalPriceBar}
    (h : List.Forall₂ (fun row b => (readRow r row).create = .ok b) rows bars)
    (hinc : rows.Pairwise (fun row row' => row.timestamp < row'.timestamp)) :
    bars.Pairwise (fun b b' => b.timestamp < b'.timestamp) := by
  have htimes : bars.map (·.timestamp) = rows.map (·.timestamp) := by
    clear hinc
    induction h with
    | nil => rfl
    | cons hrow _ ih => rw [List.map_cons, List.map_cons, ih, timestamp_of_readRow hrow]
  have hsorted : (rows.map (·.timestamp)).Pairwise (· < ·) := List.pairwise_map.2 hinc
  rw [← htimes] at hsorted
  exact List.pairwise_map.1 hsorted

/-- What a read should answer: the bars saved last in the range, or the exception that stands for none. -/
def Answers (saves : List HistoricalBarBatch) (symbol : String) (s e : ℤ) (r : Resolution) :
    Except Exc HistoricalBarBatch → Prop
  | .ok batch => batch.symbol = symbol ∧ batch.resolution = r ∧
      ∀ b, b ∈ batch.bars ↔ ∃ t y, s ≤ t ∧ t ≤ e ∧ lastSaved saves (symbol, r.str, t) = some y ∧ b = y.filled
  | .error exc => (∀ t, s ≤ t → t ≤ e → lastSaved saves (symbol, r.str, t) = none) ∧
      exc.cls = if symbol = "" then .nonFiniteHistoricalInput else if e < s then .nonMonotonicTimestamp else .emptyHistoricalRange

/-- A read answers with the bars saved last. -/
theorem answers_getBarsRangeSync (hu : ∀ batch ∈ saves, Uniform batch) (hs : ∀ batch ∈ saves, Storable batch) (symbol : String)
    (s e : ℤ) (r : Resolution) : Answers saves symbol s e r (getBarsRangeSync (tableAfter saves) symbol s e r) := by
  unfold getBarsRangeSync
  by_cases hsym : symbol = ""
  · rw [if_pos hsym]
    refine ⟨fun t _ _ => ?_, by rw [if_pos hsym]⟩
    rw [Option.eq_none_iff_forall_ne_some]
    intro y hy
    have := congrArg Prod.fst (barKey_of_lastSaved hy)
    exact y.assetId_ne (this.trans hsym)
  rw [if_neg hsym]
  by_cases hrange : e < s
  · rw [if_pos hrange]
    refine ⟨fun t hlo hhi => absurd (hlo.trans hhi) (not_le.2 hrange), ?_⟩
    rw [if_neg hsym, if_pos hrange]
  rw [if_neg hrange]
  by_cases hrows : selectRange (tableAfter saves) symbol s e r = []
  · simp only [if_pos hrows]
    refine ⟨fun t hlo hhi => ?_, ?_⟩
    · rw [Option.eq_none_iff_forall_ne_some]
      intro y hy
      have hmem := (mem_selectRange hu hs).2 ⟨t, y, hlo, hhi, hy, rfl⟩
      rw [hrows] at hmem
      cases hmem
    · rw [if_neg hsym, if_neg hrange]
  simp only [if_neg hrows]
  -- Every selected row is the row of a saved bar, and is read back as that bar.
  have hread : ∀ t y, lastSaved saves (symbol, r.str, t) = some y → (readRow r (storedRow y)).create = .ok y.filled := by
    intro t y hy
    have hres : y.resolution = r := Resolution.str_injective (congrArg (fun k : BarKey => k.2.1) (barKey_of_lastSaved hy))
    rw [← hres]
    exact create_readRow y
  have hok : ∀ row ∈ selectRange (tableAfter saves) symbol s e r, ∃ b, (readRow r row).create = .ok b := by
    intro row hrow
    obtain ⟨t, y, -, -, hy, rfl⟩ := (mem_selectRange hu hs).1 hrow
    exact ⟨y.filled, hread t y hy⟩
  obtain ⟨bars, hbars⟩ := mapM_ok_of_forall hok
  have hall := forall₂_of_mapM_ok hbars
  have hne : bars ≠ [] := by
    rintro rfl
    exact hrows (List.forall₂_nil_right_iff.1 hall)
  have hinc := increasing_of_readRow hall (selectRange_increasing hu hs symbol s e r)
  obtain ⟨batch, hbatch, hbsym, hbres, hbbars⟩ := HistoricalBarBatch.create_eq_ok r hsym hne hinc
  rw [hbars]
  change Answers saves symbol s e r (HistoricalBarBatch.create symbol r bars)
  rw [hbatch]
  refine ⟨hbsym, hbres, fun b => ?_⟩
  rw [hbbars, mem_iff_of_forall₂ hall]
  constructor
  · rintro ⟨row, hrow, hb⟩
    obtain ⟨t, y, hlo, hhi, hy, rfl⟩ := (mem_selectRange hu hs).1 hrow
    rw [hread t y hy] at hb
    exact ⟨t, y, hlo, hhi, hy, (Except.ok.inj hb).symm⟩
  · rintro ⟨t, y, hlo, hhi, hy, rfl⟩
    exact ⟨storedRow y, (mem_selectRange hu hs).2 ⟨t, y, hlo, hhi, hy, rfl⟩, hread t y hy⟩

end Read

/-- The round trip of a sequence of saves: each succeeds, each read answers with the bars saved last, and saving a batch once more
changes nothing. -/
structure RoundTrip (saves : List HistoricalBarBatch) : Prop where
  succeeds : ∀ before batch after, saves = before ++ batch :: after →
    (saveBatchSync (tableAfter before) batch).1 = .ok batch.bars.length
  reads : ∀ symbol s e r, Answers saves symbol s e r (getBarsRangeSync (tableAfter saves) symbol s e r)
  again : ∀ before batch after, saves = before ++ batch :: after →
    tableAfter (before ++ [batch, batch]) = tableAfter (before ++ [batch])

/-- The keys of the bars of a batch are distinct, since their times are. -/
theorem keys_nodup (batch : HistoricalBarBatch) : ((batch.bars.map storedRow).map BarRow.key).Nodup := by
  rw [List.map_map, List.Nodup, List.pairwise_map]
  exact batch.bars_increasing.imp fun hlt heq => hlt.ne (congrArg (fun k : BarKey => k.2.2) heq)

/-- The round trip holds exactly where every bar has an adjusted close and a timestamp that `int64` holds. -/
theorem roundTrip_iff {saves : List HistoricalBarBatch} (hu : ∀ batch ∈ saves, Uniform batch) :
    RoundTrip saves ↔ ∀ batch ∈ saves, Storable batch := by
  constructor
  · intro h batch hbatch
    obtain ⟨before, after, hsaves⟩ := List.append_of_mem hbatch
    exact storable_of_saved (h.succeeds before batch after hsaves)
  intro hs
  have hstored : ∀ before batch after, saves = before ++ batch :: after → ∀ table,
      saveBatchSync table batch = (.ok batch.bars.length, table.upsert BarRow.key (batch.bars.map storedRow)) := by
    intro before batch after hsaves table
    have hmem : batch ∈ saves := by simp [hsaves]
    exact saveBatchSync_of_storable (hu batch hmem) (hs batch hmem) table
  constructor
  · intro before batch after hsaves
    rw [hstored before batch after hsaves]
  · exact answers_getBarsRangeSync hu hs
  · intro before batch after hsaves
    have hstep := hstored before batch after hsaves
    rw [show before ++ [batch, batch] = (before ++ [batch]) ++
      [batch] by simp, tableAfter_concat, tableAfter_concat, hstep, hstep]
    exact Dict.upsert_upsert _ (keys_nodup batch)

/-! The facts its fields rest on, by name. -/

theorem aapl_ne_empty : "AAPL" ≠ "" := by decide

theorem zero_le_zero_rat : (0 : ℚ) ≤ 0 := le_rfl

theorem zero_lt_one_rat : (0 : ℚ) < 1 := by decide

/-- A daily bar without trades, at one price. -/
def flatBar (t : ℤ) (price : ℚ) (adjClose : Option ℚ) (ht : 0 < t) (hprice : 0 < price) (hadj : ∀ a ∈ adjClose, 0 < a) :
    HistoricalPriceBar :=
  { assetId := "AAPL"
    timestamp := t
    openPrice := price
    high := price
    low := price
    close := price
    volume := 0
    vwap := price
    adjClose := adjClose
    assetId_ne := aapl_ne_empty
    timestamp_pos := ht
    prices_pos := ⟨hprice, hprice, hprice, hprice⟩
    high_ge := (max_self price).le
    low_le := (min_self price).ge
    volume_nonneg := zero_le_zero_rat
    vwap_pos := fun h => absurd h (lt_irrefl 0)
    vwap_mem := fun h => absurd h (lt_irrefl 0)
    adjClose_pos := hadj
    splitFactor_pos := zero_lt_one_rat
    dividendAmount_nonneg := zero_le_zero_rat }

/-- A batch of one bar. -/
def oneBarBatch (b : HistoricalPriceBar) : HistoricalBarBatch :=
  { symbol := b.assetId
    resolution := b.resolution
    bars := [b]
    symbol_ne := b.assetId_ne
    bars_ne := List.cons_ne_nil b []
    bars_increasing := List.pairwise_singleton _ b }

theorem uniform_oneBarBatch (b : HistoricalPriceBar) : Uniform (oneBarBatch b) := by
  intro b' hb'
  cases List.mem_singleton.1 hb'
  exact ⟨rfl, rfl⟩

/-- A bar whose adjusted close was left out cannot be saved. -/
theorem roundTrip_counterexample :
    ∃ saves : List HistoricalBarBatch, (∀ batch ∈ saves, Uniform batch) ∧ ¬ RoundTrip saves := by
  refine ⟨[oneBarBatch (flatBar 1 10 none (by decide) (by decide) (by decide))], fun batch hbatch => ?_, fun h => ?_⟩
  · cases List.mem_singleton.1 hbatch
    exact uniform_oneBarBatch _
  · exact (storable_of_saved (h.succeeds [] _ [] rfl) _ List.mem_cons_self).1 rfl

/-- The same day is saved twice, and the second bar replaces the first. -/
theorem roundTrip_replaced :
    RoundTrip
      [oneBarBatch (flatBar 1 10 (some 10) (by decide) (by decide) (by decide)),
        oneBarBatch (flatBar 1 11 (some 9) (by decide) (by decide) (by decide))] := by
  refine (roundTrip_iff fun batch hbatch => ?_).2 fun batch hbatch => ?_
  · rcases List.mem_pair.1 hbatch with rfl | rfl
    · exact uniform_oneBarBatch _
    · exact uniform_oneBarBatch _
  · rcases List.mem_pair.1 hbatch with rfl | rfl
    · intro b hb
      cases List.mem_singleton.1 hb
      exact ⟨Option.some_ne_none _, by decide⟩
    · intro b hb
      cases List.mem_singleton.1 hb
      exact ⟨Option.some_ne_none _, by decide⟩

end HistoricalRepository

end Quant
