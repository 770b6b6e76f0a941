import Mathlib.Algebra.Field.Rat
import Mathlib.Data.List.GetD
import Quant.Infrastructure.AlignedReturns

/-!
# Aligned returns telescope

A column of the matrix is what the forward fill makes of the prices observed of a symbol, so the growth between two output times
is the ratio of the last prices observed; and rows up to a time come from bars up to that time.
-/

namespace Quant

open Pylib

namespace AlignedReturnsResult

/-- The returns of a symbol with their times. -/
def returnsOf (r : AlignedReturnsResult) (symbol : String) : List (ℤ × ℚ) :=
  r.timestamps.zip (r.matrix.map fun row => (row[r.symbols.idxOf symbol]?).getD 0)

/-- The growth of a symbol after a time up to another: the product of one and the return over the rows. -/
def growth (r : AlignedReturnsResult) (symbol : String) (t u : ℤ) : ℚ :=
  (((r.returnsOf symbol).filter fun p => t < p.1 ∧ p.1 ≤ u).map fun p => 1 + p.2).prod

end AlignedReturnsResult

namespace HistoricalRepository

/-! ## What is observed -/

/-- The price observed of a symbol at a time: that of its bar in the window, where it is positive. -/
def observedAt (table : BarTable) (startTime endTime : ℤ) (resolution : Resolution) (field : PriceField)
    (symbol : String) (t : ℤ) :
    Option ℚ :=
  match table.rows.get? (symbol, resolution.str, t) with
  | some row => if startTime ≤ t ∧ t ≤ endTime ∧ 0 < field.price row then some (field.price row) else none
  | none => none

section Query

variable {table : BarTable} {symbols : List String} {startTime endTime : ℤ} {resolution : Resolution} {field : PriceField}

theorem observedAt_eq_some_iff {symbol : String} {t : ℤ} {p : ℚ} :
    observedAt table startTime endTime resolution field symbol t = some p ↔
      ∃ row, table.rows.get? (symbol, resolution.str, t) = some row ∧ startTime ≤ t ∧ t ≤ endTime ∧ 0 < p ∧
        field.price row = p := by
  unfold observedAt
  constructor
  · intro h
    split at h
    · rename_i row hrow
      split_ifs at h with hcond
      obtain rfl := Option.some.inj h
      exact ⟨row, hrow, hcond.1, hcond.2.1, hcond.2.2, rfl⟩
    · cases h
  · rintro ⟨row, hrow, hstart, hend, hpos, rfl⟩
    rw [hrow]
    exact if_pos ⟨hstart, hend, hpos⟩

theorem observedAt_pos {symbol : String} {t : ℤ} {p : ℚ}
    (h : observedAt table startTime endTime resolution field symbol t = some p) :
    0 < p := by
  obtain ⟨-, -, -, -, hpos, -⟩ := observedAt_eq_some_iff.1 h
  exact hpos

/-- The rows of the query are those of the bars in the window. -/
theorem mem_selectPrices {r : PriceRow} :
    r ∈ selectPrices table symbols startTime endTime resolution field ↔
      ∃ row, table.rows.get? (r.symbol, resolution.str, r.timestamp) = some row ∧ r.symbol ∈ symbols ∧ startTime ≤ r.timestamp ∧
        r.timestamp ≤ endTime ∧ field.price row = r.price := by
  unfold selectPrices
  rw [List.mem_map]
  simp only [List.mem_insertionSort, List.mem_filter, Dict.mem_values_iff, decide_eq_true_eq]
  constructor
  · rintro ⟨row, ⟨⟨k, hrow⟩, hsymbol, hresolution, hstart, hend⟩, rfl⟩
    obtain rfl := table.keyed k row hrow
    rw [BarRow.key, hresolution] at hrow
    exact ⟨row, hrow, hsymbol, hstart, hend, rfl⟩
  · rintro ⟨row, hrow, hsymbol, hstart, hend, hprice⟩
    have hkey := table.keyed _ row hrow
    simp only [BarRow.key, Prod.mk.injEq] at hkey
    obtain ⟨h1, h2, h3⟩ := hkey
    refine ⟨row, ⟨⟨_, hrow⟩, h1 ▸ hsymbol, h2, h3 ▸ hstart, h3 ▸ hend⟩, ?_⟩
    cases r
    simp only at h1 h3 hprice
    rw [h1, h3, hprice]

/-- No two rows of the query have one time and symbol. -/
theorem nodup_selectPrices :
    ((selectPrices table symbols startTime endTime resolution field).map fun r => (r.timestamp, r.symbol)).Nodup := by
  unfold selectPrices
  rw [List.map_map]
  refine List.Nodup.map_on (fun row hrow row' hrow' heq => ?_) ((List.perm_insertionSort _ _).nodup_iff.2
    ((Dict.values_nodup BarRow.key table.keyed).filter _))
  rw [List.mem_insertionSort, List.mem_filter, Dict.mem_values_iff, decide_eq_true_iff] at hrow hrow'
  obtain ⟨⟨k, hk⟩, -, hresolution, -⟩ := hrow
  obtain ⟨⟨k', hk'⟩, -, hresolution', -⟩ := hrow'
  obtain ⟨htime, hsymbol⟩ := Prod.mk.inj heq
  have hkey : row.key = row'.key := by
    rw [BarRow.key, BarRow.key, hresolution, hresolution']
    exact congrArg₂ (fun a b => (a, resolution.str, b)) hsymbol htime
  rw [← table.keyed k row hk, hkey, table.keyed k' row' hk', hk'] at hk
  exact (Option.some.inj hk).symm

/-- What is set in the price matrix is what was observed. -/
theorem get?_priceMatrix {symbol : String} (hsymbol : symbol ∈ symbols) (t : ℤ) :
    (priceMatrix (selectPrices table symbols startTime endTime resolution field)).get? (t, symbol) =
      observedAt table startTime endTime resolution field symbol t := by
  have hnodup : ((((selectPrices table symbols startTime endTime resolution field).filter fun r => 0 < r.price).map fun r =>
      ((r.timestamp, r.symbol), r.price)).map Prod.fst).Nodup := by
    rw [List.map_map]
    exact nodup_selectPrices.sublist (List.filter_sublist.map _)
  refine Option.ext fun p => ?_
  rw [priceMatrix, ← Dict.mem_items_iff, Dict.items_setAll_empty hnodup, observedAt_eq_some_iff]
  simp only [List.mem_map, List.mem_filter, mem_selectPrices, decide_eq_true_eq, Prod.mk.injEq]
  constructor
  · rintro ⟨r, ⟨⟨row, hrow, -, hstart, hend, hprice⟩, hpos⟩, ⟨rfl, rfl⟩, rfl⟩
    exact ⟨row, hrow, hstart, hend, hpos, hprice⟩
  · rintro ⟨row, hrow, hstart, hend, hpos, hprice⟩
    exact ⟨⟨symbol, t, p⟩, ⟨⟨row, hrow, hsymbol, hstart, hend, hprice⟩, hpos⟩, ⟨rfl, rfl⟩, rfl⟩

/-! ## The times -/

/-- Some symbol of the universe has a bar of the resolution at a time in the window. -/
def HasBar (table : BarTable) (symbols : List String) (startTime endTime : ℤ) (resolution : Resolution) (t : ℤ) : Prop :=
  ∃ symbol ∈ symbols, table.rows.contains (symbol, resolution.str, t) = true ∧ startTime ≤ t ∧ t ≤ endTime

/-- The times of a call. -/
def callTimes (table : BarTable) (symbols : List String) (startTime endTime : ℤ) (resolution : Resolution)
    (field : PriceField) : List ℤ :=
  observationTimes (selectPrices table symbols startTime endTime resolution field)

theorem callTimes_increasing : (callTimes table symbols startTime endTime resolution field).Pairwise (· < ·) := by
  have hsorted : (callTimes table symbols startTime endTime resolution field).Pairwise (· ≤ ·) := List.pairwise_insertionSort _ _
  have hnodup : (callTimes table symbols startTime endTime resolution field).Nodup :=
    (List.perm_insertionSort _ _).nodup_iff.2 (List.nodup_dedup _)
  exact (hsorted.and hnodup).imp fun h => lt_of_le_of_ne h.1 h.2

/-- The times are those of the bars in the window. -/
theorem mem_callTimes {t : ℤ} : t ∈ callTimes table symbols startTime endTime resolution field ↔
    HasBar table symbols startTime endTime resolution t := by
  unfold HasBar
  rw [callTimes, observationTimes, List.mem_insertionSort, List.mem_dedup, List.mem_map]
  simp only [mem_selectPrices, Dict.contains, Option.isSome_iff_exists]
  constructor
  · rintro ⟨r, ⟨row, hrow, hsymbol, hstart, hend, -⟩, rfl⟩
    exact ⟨r.symbol, hsymbol, ⟨row, hrow⟩, hstart, hend⟩
  · rintro ⟨symbol, hsymbol, ⟨row, hrow⟩, hstart, hend⟩
    exact ⟨⟨symbol, t, field.price row⟩, ⟨row, hrow, hsymbol, hstart, hend, rfl⟩, rfl⟩

/-- There are two times exactly when bars stand at two. -/
theorem two_le_callTimes_iff : 2 ≤ (callTimes table symbols startTime endTime resolution field).length ↔
    ∃ t u, t < u ∧ HasBar table symbols startTime endTime resolution t ∧ HasBar table symbols startTime endTime resolution u := by
  constructor
  · intro hlen
    have hlt := List.pairwise_iff_getElem.1 callTimes_increasing 0 1 (by omega) hlen Nat.zero_lt_one
    exact ⟨_, _, hlt, mem_callTimes.1 (List.getElem_mem _), mem_callTimes.1 (List.getElem_mem _)⟩
  · rintro ⟨t, u, htu, ht, hu⟩
    have hsub : [t, u] ⊆ callTimes table symbols startTime endTime resolution field := by
      intro v hv
      rcases List.mem_pair.1 hv with rfl | rfl
      · exact mem_callTimes.2 ht
      · exact mem_callTimes.2 hu
    have hnodup : [t, u].Nodup := by
      simpa using htu.ne
    exact (hnodup.subperm hsub).length_le

/-- Whatever is observed of a symbol is observed at one of the times. -/
theorem mem_callTimes_of_observedAt {symbol : String} (hsymbol : symbol ∈ symbols) {t : ℤ}
    (h : observedAt table startTime endTime resolution field symbol t ≠ none) :
    t ∈ callTimes table symbols startTime endTime resolution field := by
  obtain ⟨p, hp⟩ := Option.ne_none_iff_exists'.1 h
  obtain ⟨row, hrow, hstart, hend, -⟩ := observedAt_eq_some_iff.1 hp
  exact mem_callTimes.2 ⟨symbol, hsymbol, by rw [Dict.contains, hrow, Option.isSome_some], hstart, hend⟩

/-! ## A column -/

/-- The filled column of a symbol in a call. -/
def callColumn (table : BarTable) (symbols : List String) (startTime endTime : ℤ) (resolution : Resolution) (field : PriceField)
    (symbol : String) : List (Option ℚ) :=
  filledPrices (priceMatrix (selectPrices table symbols startTime endTime resolution field))
    (callTimes table symbols startTime endTime resolution field) symbol

/-- A place of the filled column of a symbol: the price last observed of it. -/
theorem join_callColumn {symbol : String} (hsymbol : symbol ∈ symbols) {k : ℕ} {u : ℤ} {p : ℚ}
    (hk : (callTimes table symbols startTime endTime resolution field)[k]? = some u) :
    (callColumn table symbols startTime endTime resolution field symbol)[k]?.join = some p ↔
      IsLast (observedAt table startTime endTime resolution field symbol) u p := by
  unfold callColumn filledPrices
  rw [funext (get?_priceMatrix hsymbol)]
  exact join_forwardFill_eq_some callTimes_increasing (fun t => mem_callTimes_of_observedAt hsymbol) hk

theorem isLast_pos {symbol : String} {u : ℤ} {p : ℚ}
    (h : IsLast (observedAt table startTime endTime resolution field symbol) u p) :
    0 < p := by
  obtain ⟨t, -, ht, -⟩ := h
  exact observedAt_pos ht

/-! ## What a call returns -/

theorem dedupeSymbols_ok {deduped symbols symbols' : List String} (h : dedupeSymbols deduped symbols = .ok symbols') :
    "" ∉ symbols ∧ ∀ s, s ∈ symbols' ↔ s ∈ deduped ∨ s ∈ symbols := by
  induction symbols generalizing deduped with
  | nil =>
    cases h
    simp
  | cons s symbols ih =>
    rw [dedupeSymbols] at h
    split_ifs at h with hempty hmem
    · obtain ⟨hne, hiff⟩ := ih h
      refine ⟨by simp [Ne.symm hempty, hne], fun s' => ?_⟩
      rw [hiff, List.mem_cons]
      constructor
      · exact Or.imp_right .inr
      · rintro (hs' | rfl | hs')
        · exact .inl hs'
        · exact .inl hmem
        · exact .inr hs'
    · obtain ⟨hne, hiff⟩ := ih h
      refine ⟨by simp [Ne.symm hempty, hne], fun s' => ?_⟩
      rw [hiff, List.mem_append, List.mem_singleton, List.mem_cons, or_assoc]

/-- Symbols none of which is empty pass the check. -/
theorem exists_dedupeSymbols (deduped : List String) {symbols : List String} (h : "" ∉ symbols) :
    ∃ symbols', dedupeSymbols deduped symbols = .ok symbols' := by
  induction symbols generalizing deduped with
  | nil => exact ⟨deduped, rfl⟩
  | cons s symbols ih =>
    rw [List.mem_cons, not_or] at h
    rw [dedupeSymbols, if_neg (Ne.symm h.1)]
    exact ih _ h.2

/-- The query depends on the symbols in the universe, not on their order. -/
theorem selectPrices_congr {symbols' : List String} (h : ∀ s, s ∈ symbols' ↔ s ∈ symbols) :
    selectPrices table symbols' startTime endTime resolution field =
    selectPrices table symbols startTime endTime resolution field := by
  simp only [selectPrices, h]

theorem fields_of_create {f : AlignedReturnsFields} {r : AlignedReturnsResult} (h : f.create = .ok r) :
    r.toAlignedReturnsFields = f := by
  unfold AlignedReturnsFields.create at h
  split_ifs at h
  cases h
  rfl

/-- The matrix of a call has a row for each time but the first and a column for each symbol. -/
theorem exists_create (log : ℚ → ℚ) (returnType : ReturnType) (rows : List PriceRow) (symbols : List String) :
    ∃ r, AlignedReturnsFields.create
      { matrix := returnsMatrix log returnType rows symbols
        timestamps := (observationTimes rows).tail
        symbols := symbols } = .ok r := by
  unfold AlignedReturnsFields.create
  dsimp only
  rw [dif_neg, dif_neg]
  · exact ⟨_, rfl⟩
  · rintro ⟨row, hrow, hne⟩
    obtain ⟨k, -, rfl⟩ := List.mem_map.1 hrow
    exact hne (by rw [returnsRow, List.length_map, List.length_map])
  · rw [returnsMatrix, List.length_tail, List.length_map, List.length_range]
    exact fun hne => hne rfl

variable {log : ℚ → ℚ} {priceField returnType : String} {r : AlignedReturnsResult}

/-- What a call that returns has checked, and what it returns. -/
theorem getAligned_ok (h : getAlignedReturnsMatrixSync log table symbols startTime endTime resolution priceField returnType =
    .ok r) :
    "" ∉ symbols ∧ startTime ≤ endTime ∧ ∃ field rt, PriceField.parse priceField = some field ∧
      ReturnType.parse returnType = some rt ∧
      2 ≤ (callTimes table symbols startTime endTime resolution field).length ∧ dedupeSymbols [] symbols = .ok r.symbols ∧
      r.timestamps = (callTimes table symbols startTime endTime resolution field).tail ∧
      r.matrix = returnsMatrix log rt (selectPrices table symbols startTime endTime resolution field) r.symbols := by
  unfold getAlignedReturnsMatrixSync at h
  rcases eq_or_ne symbols [] with hsymbols | hsymbols
  · rw [if_pos hsymbols] at h
    cases h
  rw [if_neg hsymbols] at h
  obtain ⟨deduped, hdeduped, h⟩ := exists_of_bind_ok h
  obtain ⟨hne, hmem⟩ := dedupeSymbols_ok hdeduped
  simp only [List.not_mem_nil, false_or] at hmem
  split_ifs at h with hwindow
  split at h
  · cases h
  · rename_i field hfield
    split at h
    · cases h
    · rename_i rt hrt
      dsimp only at h
      rw [selectPrices_congr hmem] at h
      split_ifs at h with hrows hfew
      have hfields := fields_of_create h
      refine ⟨hne, not_lt.1 hwindow, field, rt, hfield, hrt, not_lt.1 hfew, ?_, ?_, ?_⟩
      · rw [hfields]
        exact hdeduped
      · rw [hfields, callTimes]
      · rw [hfields]

/-- A call on symbols none of which is empty returns where two times are observed. -/
theorem exists_getAligned {field : PriceField} {rt : ReturnType} (hsymbols : symbols ≠ []) (hne : "" ∉ symbols)
    (hwindow : startTime ≤ endTime) (hfield : PriceField.parse priceField = some field)
    (hrt : ReturnType.parse returnType = some rt)
    (htimes : 2 ≤ (callTimes table symbols startTime endTime resolution field).length) :
    ∃ r, getAlignedReturnsMatrixSync log table symbols startTime endTime resolution priceField returnType = .ok r := by
  obtain ⟨deduped, hdeduped⟩ := exists_dedupeSymbols [] hne
  have hmem := (dedupeSymbols_ok hdeduped).2
  simp only [List.not_mem_nil, false_or] at hmem
  unfold callTimes at htimes
  have hrows : selectPrices table symbols startTime endTime resolution field ≠ [] := by
    intro hempty
    rw [hempty] at htimes
    exact absurd htimes (by decide)
  obtain ⟨r, hr⟩ := exists_create log rt (selectPrices table symbols startTime endTime resolution field) deduped
  refine ⟨r, ?_⟩
  unfold getAlignedReturnsMatrixSync
  rw [if_neg hsymbols, hdeduped]
  refine (if_neg (not_lt.2 hwindow)).trans ?_
  rw [hfield]
  dsimp only
  rw [hrt]
  dsimp only
  rw [selectPrices_congr hmem, if_neg hrows, if_neg (not_lt.2 htimes), hr]

/-- The calls that return: on a universe of named symbols, in a window that is not reversed, for a known field, with two times. -/
theorem getAligned_isOk_iff {rt : ReturnType} (hrt : ReturnType.parse returnType = some rt) :
    (∃ r, getAlignedReturnsMatrixSync log table symbols startTime endTime resolution priceField returnType = .ok r) ↔
      symbols ≠ [] ∧ "" ∉ symbols ∧ startTime ≤ endTime ∧ (PriceField.parse priceField).isSome = true ∧
        ∃ t u, t < u ∧ HasBar table symbols startTime endTime resolution t ∧
          HasBar table symbols startTime endTime resolution u := by
  constructor
  · rintro ⟨r, h⟩
    obtain ⟨hne, hwindow, field, -, hfield, -, hlen, -⟩ := getAligned_ok h
    have hsymbols : symbols ≠ [] := by
      rintro rfl
      cases h
    exact ⟨hsymbols, hne, hwindow, by rw [hfield, Option.isSome_some], two_le_callTimes_iff.1 hlen⟩
  · rintro ⟨hsymbols, hne, hwindow, hfield, htimes⟩
    obtain ⟨field, hfield⟩ := Option.isSome_iff_exists.1 hfield
    exact exists_getAligned hsymbols hne hwindow hfield hrt (two_le_callTimes_iff.2 htimes)

/-- The rows and columns of a result: a row for each time with a bar but the first, and a column for each symbol. -/
structure Shaped (barAt : ℤ → Prop) (symbols : List String) (r : AlignedReturnsResult) : Prop where
  increasing : r.timestamps.Pairwise (· < ·)
  times : ∀ t, t ∈ r.timestamps ↔ barAt t ∧ ∃ s < t, barAt s
  columns : ∀ s, s ∈ r.symbols ↔ s ∈ symbols
  rows : r.matrix.length = r.timestamps.length ∧ ∀ row ∈ r.matrix, row.length = r.symbols.length

theorem shaped_of_ok (h : getAlignedReturnsMatrixSync log table symbols startTime endTime resolution priceField returnType =
    .ok r) :
    Shaped (HasBar table symbols startTime endTime resolution) symbols r := by
  obtain ⟨-, -, field, -, -, -, -, hdeduped, htimes, -⟩ := getAligned_ok h
  refine ⟨?_, fun t => ?_, fun s => ?_, r.timestamps_eq.symm, r.symbols_eq⟩
  · rw [htimes]
    exact callTimes_increasing.tail
  · rw [htimes, mem_tail_iff_exists_lt callTimes_increasing, mem_callTimes]
    refine and_congr_right fun _ => exists_congr fun s => ?_
    rw [mem_callTimes, and_comm]
  · rw [(dedupeSymbols_ok hdeduped).2]
    simp

/-! ## Rows -/

/-- The returns of a symbol, one for each time but the first. -/
theorem returnsOf_eq {field : PriceField} {rt : ReturnType}
    (htimes : r.timestamps = (callTimes table symbols startTime endTime resolution field).tail)
    (hmatrix : r.matrix = returnsMatrix log rt (selectPrices table symbols startTime endTime resolution field) r.symbols)
    {symbol : String} (hsymbol : symbol ∈ r.symbols) :
    r.returnsOf symbol = (List.range ((callTimes table symbols startTime endTime resolution field).length - 1)).map fun k =>
      ((callTimes table symbols startTime endTime resolution field).getD (k + 1) 0,
        returnBetween log rt (callColumn table symbols startTime endTime resolution field symbol)[k]?.join
          (callColumn table symbols startTime endTime resolution field symbol)[k + 1]?.join) := by
  have hcell : ∀ k, ((returnsRow log rt (r.symbols.map (filledPrices
      (priceMatrix (selectPrices table symbols startTime endTime resolution field))
        (observationTimes (selectPrices table symbols startTime endTime resolution field)))) k)[r.symbols.idxOf symbol]?).getD 0 =
      returnBetween log rt (callColumn table symbols startTime endTime resolution field symbol)[k]?.join
        (callColumn table symbols startTime endTime resolution field symbol)[k + 1]?.join := by
    intro k
    rw [returnsRow, List.getElem?_map, List.getElem?_map, List.getElem?_idxOf hsymbol]
    rfl
  rw [AlignedReturnsResult.returnsOf, htimes, hmatrix, returnsMatrix, List.map_map, ← tail_zip_map_range]
  exact congrArg _ (List.map_congr_left fun k _ => hcell k)

/-- The times of a call by their places. -/
theorem callTimes_lt_iff {i j : ℕ} {t u : ℤ} (hi : (callTimes table symbols startTime endTime resolution field)[i]? = some t)
    (hj : (callTimes table symbols startTime endTime resolution field)[j]? = some u) : t < u ↔ i < j := by
  obtain ⟨hi', rfl⟩ := List.getElem?_eq_some_iff.1 hi
  obtain ⟨hj', rfl⟩ := List.getElem?_eq_some_iff.1 hj
  exact (List.sortedLT_iff_pairwise.2 callTimes_increasing).strictMono_get.lt_iff_lt (a := ⟨i, hi'⟩) (b := ⟨j, hj'⟩)

section Column

variable {symbol : String}

/-- What a place of the filled column is known to be. -/
theorem exists_price {v : ℤ} (hsymbol : symbol ∈ symbols)
    (hv : observedAt table startTime endTime resolution field symbol v ≠ none)
    {k : ℕ} {u : ℤ} (hk : (callTimes table symbols startTime endTime resolution field)[k]? = some u) (hvu : v ≤ u) :
    ∃ p, IsLast (observedAt table startTime endTime resolution field symbol) u p ∧
      (callColumn table symbols startTime endTime resolution field symbol)[k]?.join = some p := by
  obtain ⟨p, hp⟩ := exists_isLast (fun t => mem_callTimes_of_observedAt hsymbol) hvu hv
  exact ⟨p, hp, (join_callColumn hsymbol hk).2 hp⟩

theorem one_add_returnBetween {p q : ℚ} (hp : 0 < p) (hq : 0 < q) : 1 + returnBetween log .simple (some p) (some q) = q / p := by
  rw [returnBetween, if_pos ⟨hp, hq⟩, sub_div, div_self hp.ne']
  exact add_sub_cancel _ _

/-- The growth of a symbol between two times is the ratio of the prices last observed of it. -/
theorem growth_eq (htimes : r.timestamps = (callTimes table symbols startTime endTime resolution field).tail)
    (hmatrix : r.matrix = returnsMatrix log .simple (selectPrices table symbols startTime endTime resolution field) r.symbols)
    (hmem : symbol ∈ r.symbols) (hsymbol : symbol ∈ symbols) {i j : ℕ} {t u v : ℤ} (hij : i < j)
    (hi : (callTimes table symbols startTime endTime resolution field)[i]? = some t)
    (hj : (callTimes table symbols startTime endTime resolution field)[j]? = some u) (hvt : v ≤ t)
    (hv : observedAt table startTime endTime resolution field symbol v ≠ none) :
    ∃ pt pu, IsLast (observedAt table startTime endTime resolution field symbol) t pt ∧
      IsLast (observedAt table startTime endTime resolution field symbol) u pu ∧ r.growth symbol t u = pu / pt := by
  have hjlen := (List.getElem?_eq_some_iff.1 hj).1
  have hplace : ∀ k, k < (callTimes table symbols startTime endTime resolution field).length →
      (callTimes table symbols startTime endTime resolution field)[k]? =
        some ((callTimes table symbols startTime endTime resolution field).getD k 0) := by
    intro k hk
    rw [List.getD_eq_getElem?_getD, List.getElem?_eq_getElem hk, Option.getD_some]
  -- From the first time on each place of the column has a price.
  have hprice : ∀ k, i ≤ k → k ≤ j → ∃ p, 0 < p ∧
      (callColumn table symbols startTime endTime resolution field symbol)[k]?.join = some p := by
    intro k hik hkj
    have hk := hplace k (by omega)
    have hle : t ≤ (callTimes table symbols startTime endTime resolution field).getD k 0 :=
      not_lt.1 fun hlt => absurd ((callTimes_lt_iff hk hi).1 hlt) (by omega)
    obtain ⟨p, hp, hget⟩ := exists_price hsymbol hv hk (hvt.trans hle)
    exact ⟨p, isLast_pos hp, hget⟩
  obtain ⟨pt, hpt, hgett⟩ := exists_price hsymbol hv hi hvt
  obtain ⟨pu, hpu, hgetu⟩ := exists_price hsymbol hv hj (hvt.trans ((callTimes_lt_iff hi hj).2 hij).le)
  refine ⟨pt, pu, hpt, hpu, ?_⟩
  rw [AlignedReturnsResult.growth, returnsOf_eq htimes hmatrix hmem, List.filter_map, List.map_map,
    filter_range_between (i := i) (j := j) (by omega)]
  · have hratio : ∀ k ∈ List.range' i (j - i), ((fun p : ℤ × ℚ => 1 + p.2) ∘ fun k =>
        ((callTimes table symbols startTime endTime resolution field).getD (k + 1) 0,
          returnBetween log .simple (callColumn table symbols startTime endTime resolution field symbol)[k]?.join
            (callColumn table symbols startTime endTime resolution field symbol)[k + 1]?.join)) k =
        ((callColumn table symbols startTime endTime resolution field symbol)[k + 1]?.join).getD 0 /
          ((callColumn table symbols startTime endTime resolution field symbol)[k]?.join).getD 0 := by
      intro k hk
      rw [List.mem_range'_1] at hk
      obtain ⟨p, hp, hget⟩ := hprice k (by omega) (by omega)
      obtain ⟨q, hq, hget'⟩ := hprice (k + 1) (by omega) (by omega)
      rw [Function.comp_apply, hget, hget', one_add_returnBetween hp hq, Option.getD_some, Option.getD_some]
    rw [List.map_congr_left hratio,
      prod_ratios (fun k => ((callColumn table symbols startTime endTime resolution field symbol)[k]?.join).getD 0)]
    · rw [show i + (j - i) = j by omega, hgett, hgetu, Option.getD_some, Option.getD_some]
    · intro k hik hkj
      obtain ⟨p, hp, hget⟩ := hprice k hik (by omega)
      rw [hget]
      exact hp.ne'
  · intro k hk
    rw [Function.comp_apply, decide_eq_true_iff, callTimes_lt_iff hi (hplace (k + 1) (by omega)), ← not_lt,
      callTimes_lt_iff hj (hplace (k + 1) (by omega))]
    omega

theorem returnBetween_none (rt : ReturnType) (curr : Option ℚ) : returnBetween log rt none curr = 0 := by
  cases curr with
  | none => rfl
  | some q => rfl

/-- A row no later than the second price observed of a symbol is zero there. -/
theorem return_eq_zero (htimes : r.timestamps = (callTimes table symbols startTime endTime resolution field).tail)
    (hmatrix : r.matrix = returnsMatrix log .simple (selectPrices table symbols startTime endTime resolution field) r.symbols)
    (hmem : symbol ∈ r.symbols) (hsymbol : symbol ∈ symbols) {p : ℤ × ℚ} (hp : p ∈ r.returnsOf symbol)
    (hone : ∀ t t', t < t' → t' ≤ p.1 → observedAt table startTime endTime resolution field symbol t ≠ none →
      observedAt table startTime endTime resolution field symbol t' = none) : p.2 = 0 := by
  rw [returnsOf_eq htimes hmatrix hmem] at hp
  obtain ⟨k, hk, rfl⟩ := List.mem_map.1 hp
  rw [List.mem_range] at hk
  dsimp only at hone ⊢
  have hk' : k < (callTimes table symbols startTime endTime resolution field).length := by omega
  have hplace := List.getElem?_eq_getElem hk'
  have hk'' : k + 1 < (callTimes table symbols startTime endTime resolution field).length := by omega
  have hplace' := List.getElem?_eq_getElem hk''
  rw [List.getD_eq_getElem?_getD, hplace', Option.getD_some] at hone
  cases hprev : (callColumn table symbols startTime endTime resolution field symbol)[k]?.join with
  | none => exact returnBetween_none _ _
  | some x =>
    have hlast := (join_callColumn hsymbol hplace).1 hprev
    have ⟨t, ht, hx, _⟩ := hlast
    have hobs : observedAt table startTime endTime resolution field symbol t ≠ none := by
      rw [hx]
      nofun
    have hnext := (isLast_of_none ((callTimes_lt_iff hplace hplace').2 (Nat.lt_succ_self k)).le fun t' hlt hle =>
      hone t t' (ht.trans_lt hlt) hle hobs).2 hlast
    rw [(join_callColumn hsymbol hplace').2 hnext, returnBetween, if_pos ⟨isLast_pos hlast, isLast_pos hlast⟩, sub_self, zero_div]

end Column

/-! ## Rows up to a time -/

/-- The rows a call returns up to a time, with their times. -/
def rowsUpTo (u : ℤ) : Except Exc AlignedReturnsResult → List (ℤ × List ℚ)
  | .ok r => (r.timestamps.zip r.matrix).filter fun p => p.1 ≤ u
  | .error _ => []

/-- The rows of a call on some symbols in a universe. -/
def callRows (log : ℚ → ℚ) (rt : ReturnType) (table : BarTable) (symbols : List String) (startTime endTime : ℤ)
    (resolution : Resolution)
    (field : PriceField) (columns : List String) : List (ℤ × List ℚ) :=
  (List.range ((callTimes table symbols startTime endTime resolution field).length - 1)).map fun k =>
    ((callTimes table symbols startTime endTime resolution field).getD (k + 1) 0,
      returnsRow log rt (columns.map (callColumn table symbols startTime endTime resolution field)) k)

theorem rowsUpTo_ok {rt : ReturnType} (htimes : r.timestamps = (callTimes table symbols startTime endTime resolution field).tail)
    (hmatrix : r.matrix = returnsMatrix log rt (selectPrices table symbols startTime endTime resolution field) r.symbols)
    (u : ℤ) :
    rowsUpTo u (.ok r) =
      (callRows log rt table symbols startTime endTime resolution field r.symbols).filter fun p => p.1 ≤ u := by
  rw [rowsUpTo, htimes, hmatrix, callRows, ← tail_zip_map_range]
  rfl

/-- The times of a call up to a time. -/
def timesUpTo (u : ℤ) (table : BarTable) (symbols : List String) (startTime endTime : ℤ) (resolution : Resolution)
    (field : PriceField) :
    List ℤ :=
  (callTimes table symbols startTime endTime resolution field).filter (· ≤ u)

theorem mem_timesUpTo {u t : ℤ} : t ∈ timesUpTo u table symbols startTime endTime resolution field ↔
    t ∈ callTimes table symbols startTime endTime resolution field ∧ t ≤ u := by
  rw [timesUpTo, List.mem_filter, decide_eq_true_iff]

theorem callTimes_split (u : ℤ) (table : BarTable) (symbols : List String) (startTime endTime : ℤ) (resolution : Resolution)
    (field : PriceField) : ∃ later, callTimes table symbols startTime endTime resolution field =
      timesUpTo u table symbols startTime endTime resolution field ++ later ∧ ∀ t ∈ later, u < t :=
  exists_eq_filter_append callTimes_increasing u

/-- The rows up to a time are those of the times up to it. -/
theorem callRows_filter (u : ℤ) (rt : ReturnType) (columns : List String) :
    (callRows log rt table symbols startTime endTime resolution field columns).filter (fun p => p.1 ≤ u) =
      (List.range ((timesUpTo u table symbols startTime endTime resolution field).length - 1)).map fun k =>
        ((timesUpTo u table symbols startTime endTime resolution field).getD (k + 1) 0,
          returnsRow log rt (columns.map (callColumn table symbols startTime endTime resolution field)) k) := by
  obtain ⟨later, hsplit, hlater⟩ := callTimes_split u table symbols startTime endTime resolution field
  have hupTo : ∀ t ∈ timesUpTo u table symbols startTime endTime resolution field, t ≤ u :=
    fun t ht => (mem_timesUpTo.1 ht).2
  rw [callRows, List.filter_map, hsplit]
  generalize timesUpTo u table symbols startTime endTime resolution field = upTo at hupTo
  rw [List.length_append, filter_range_between (i := 0) (j := upTo.length - 1) (by omega), List.range_eq_range', Nat.sub_zero]
  · refine List.map_congr_left fun k hk => ?_
    rw [List.mem_range'_1] at hk
    rw [List.getD_append _ _ _ _ (by omega)]
  · intro k hk
    rw [Function.comp_apply, decide_eq_true_iff]
    rcases Nat.lt_or_ge (k + 1) upTo.length with hlt | hge
    · rw [List.getD_append _ _ _ _ hlt, List.getD_eq_getElem?_getD, List.getElem?_eq_getElem hlt]
      exact iff_of_true (hupTo _ (List.getElem_mem hlt)) (by omega)
    · have hin : k + 1 - upTo.length < later.length := by omega
      rw [List.getD_append_right _ _ _ _ hge, List.getD_eq_getElem?_getD, List.getElem?_eq_getElem hin]
      exact iff_of_false (not_le.2 (hlater _ (List.getElem_mem hin))) (by omega)

/-- Two tables have the same bars up to a time. -/
def AgreeUpTo (u : ℤ) (table table' : BarTable) : Prop := ∀ k : BarKey, k.2.2 ≤ u → table.rows.get? k = table'.rows.get? k

/-- Bars after a time, new ones or in the place of others, leave what is up to it. -/
theorem agreeUpTo_insert {u : ℤ} {rows : List BarRow} (h : ∀ row ∈ rows, u < row.timestamp) :
    AgreeUpTo u table (table.insert rows) := by
  intro k hk
  have hnone : rows.reverse.find? (fun row => row.key = k) = none := by
    rw [List.find?_eq_none]
    intro row hrow
    have hlt := h row (List.mem_reverse.1 hrow)
    rw [decide_eq_true_iff]
    rintro rfl
    exact absurd hk hlt.not_ge
  rw [BarTable.insert, Dict.get?_upsert, hnone, Option.none_or]

variable {table' : BarTable} {u : ℤ}

theorem observedAt_of_agree (hagree : AgreeUpTo u table table') (symbol : String) {t : ℤ} (ht : t ≤ u) :
    observedAt table startTime endTime resolution field symbol t =
    observedAt table' startTime endTime resolution field symbol t := by
  rw [observedAt, observedAt, hagree (symbol, resolution.str, t) ht]

theorem timesUpTo_of_agree (hagree : AgreeUpTo u table table') :
    timesUpTo u table symbols startTime endTime resolution field =
    timesUpTo u table' symbols startTime endTime resolution field := by
  have hmem : ∀ t, t ∈ timesUpTo u table symbols startTime endTime resolution field ↔
      t ∈ timesUpTo u table' symbols startTime endTime resolution field := by
    intro t
    rw [mem_timesUpTo, mem_timesUpTo]
    refine and_congr_left fun ht => ?_
    rw [mem_callTimes, mem_callTimes]
    refine exists_congr fun symbol => and_congr_right fun _ => and_congr_left fun _ => ?_
    rw [Dict.contains, Dict.contains, hagree (symbol, resolution.str, t) ht]
  exact (callTimes_increasing.filter _).eq_of_mem_iff (callTimes_increasing.filter _) hmem

/-- A place of a column at one of the times up to the bound. -/
theorem join_callColumn_of_agree (hagree : AgreeUpTo u table table') {symbol : String} (hsymbol : symbol ∈ symbols) {k : ℕ}
    (hk : k < (timesUpTo u table symbols startTime endTime resolution field).length) :
    (callColumn table symbols startTime endTime resolution field symbol)[k]?.join =
      (callColumn table' symbols startTime endTime resolution field symbol)[k]?.join := by
  obtain ⟨later, hsplit, -⟩ := callTimes_split u table symbols startTime endTime resolution field
  obtain ⟨later', hsplit', -⟩ := callTimes_split u table' symbols startTime endTime resolution field
  rw [← timesUpTo_of_agree hagree] at hsplit'
  have ht : (timesUpTo u table symbols startTime endTime resolution field)[k] ≤ u :=
    (mem_timesUpTo.1 (List.getElem_mem hk)).2
  refine Option.ext fun p => ?_
  rw [join_callColumn hsymbol (by rw [hsplit, List.getElem?_append_left hk, List.getElem?_eq_getElem hk]),
    join_callColumn hsymbol (by rw [hsplit', List.getElem?_append_left hk, List.getElem?_eq_getElem hk])]
  exact isLast_congr fun t' ht' => observedAt_of_agree hagree symbol (ht'.trans ht)

/-- The rows up to a time depend on the bars up to it only. -/
theorem callRows_filter_of_agree (hagree : AgreeUpTo u table table') (rt : ReturnType) {columns : List String}
    (hcolumns : ∀ s ∈ columns, s ∈ symbols) :
    (callRows log rt table symbols startTime endTime resolution field columns).filter (fun p => p.1 ≤ u) =
      (callRows log rt table' symbols startTime endTime resolution field columns).filter fun p => p.1 ≤ u := by
  rw [callRows_filter, callRows_filter, ← timesUpTo_of_agree hagree]
  refine List.map_congr_left fun k hk => ?_
  rw [List.mem_range] at hk
  refine Prod.ext rfl ?_
  rw [returnsRow, returnsRow, List.map_map, List.map_map]
  refine List.map_congr_left fun s hs => ?_
  rw [Function.comp_apply, Function.comp_apply, join_callColumn_of_agree hagree (hcolumns s hs) (by omega),
    join_callColumn_of_agree hagree (hcolumns s hs) (by omega)]

/-- What a call returns up to a time another one returns on a table that agrees up to it. -/
theorem rowsUpTo_of_ok (hagree : AgreeUpTo u table table')
    (h : getAlignedReturnsMatrixSync log table symbols startTime endTime resolution priceField returnType = .ok r) :
    rowsUpTo u (getAlignedReturnsMatrixSync log table' symbols startTime endTime resolution priceField returnType) =
      rowsUpTo u (.ok r) := by
  obtain ⟨hne, hwindow, field, rt, hfield, hrt, hlen, hdeduped, htimes, hmatrix⟩ := getAligned_ok h
  have hmem := (dedupeSymbols_ok hdeduped).2
  have hsymbols : symbols ≠ [] := by
    rintro rfl
    cases h
  rw [rowsUpTo_ok htimes hmatrix,
    callRows_filter_of_agree hagree rt fun s hs => ((hmem s).1 hs).resolve_left List.not_mem_nil]
  cases h' : getAlignedReturnsMatrixSync log table' symbols startTime endTime resolution priceField returnType with
  | ok r' =>
    obtain ⟨-, -, field', rt', hfield', hrt', hlen', hdeduped', htimes', hmatrix'⟩ := getAligned_ok h'
    rw [hfield] at hfield'
    rw [hrt] at hrt'
    rw [hdeduped] at hdeduped'
    cases hfield'
    cases hrt'
    rw [rowsUpTo_ok htimes' hmatrix', Except.ok.inj hdeduped']
  | error exc =>
    have hfew : ¬ 2 ≤ (callTimes table' symbols startTime endTime resolution field).length := by
      intro hlen'
      have hex : ∃ r', getAlignedReturnsMatrixSync log table' symbols startTime endTime resolution priceField returnType =
          .ok r' :=
        exists_getAligned hsymbols hne hwindow hfield hrt hlen'
      rw [h'] at hex
      obtain ⟨r', hr'⟩ := hex
      cases hr'
    rw [callRows, show (callTimes table' symbols startTime endTime resolution field).length - 1 = 0 by omega]
    rfl

/-- Two calls on tables that agree up to a time return the same rows up to it. -/
theorem rowsUpTo_of_agree (hagree : AgreeUpTo u table table') :
    rowsUpTo u (getAlignedReturnsMatrixSync log table' symbols startTime endTime resolution priceField returnType) =
      rowsUpTo u (getAlignedReturnsMatrixSync log table symbols startTime endTime resolution priceField returnType) := by
  cases h : getAlignedReturnsMatrixSync log table symbols startTime endTime resolution priceField returnType with
  | ok r => exact rowsUpTo_of_ok hagree h
  | error exc =>
    cases h' : getAlignedReturnsMatrixSync log table' symbols startTime endTime resolution priceField returnType with
    | ok r' =>
      have hback := rowsUpTo_of_ok (fun k hk => (hagree k hk).symm) h'
      rw [h] at hback
      exact hback.symm
    | error exc' => rfl

/-! ## Another universe -/

/-- More symbols have more times. -/
theorem callTimes_subset {symbols' : List String} (hsub : symbols ⊆ symbols') :
    callTimes table symbols startTime endTime resolution field ⊆ callTimes table symbols' startTime endTime resolution field := by
  intro t ht
  obtain ⟨symbol, hsymbol, hrow⟩ := mem_callTimes.1 ht
  exact mem_callTimes.2 ⟨symbol, hsub hsymbol, hrow⟩

theorem tail_callTimes_subset {symbols' : List String} (hsub : symbols ⊆ symbols') :
    (callTimes table symbols startTime endTime resolution field).tail ⊆
      (callTimes table symbols' startTime endTime resolution field).tail := by
  intro t ht
  obtain ⟨ht, s, hs, hst⟩ := (mem_tail_iff_exists_lt callTimes_increasing).1 ht
  exact (mem_tail_iff_exists_lt callTimes_increasing).2 ⟨callTimes_subset hsub ht, s, callTimes_subset hsub hs, hst⟩

/-- A call that returns does so on a larger universe of symbols, at its times and others. -/
theorem exists_getAligned_of_subset {symbols' : List String} (hsub : symbols ⊆ symbols') (hne : "" ∉ symbols')
    (h : getAlignedReturnsMatrixSync log table symbols startTime endTime resolution priceField returnType = .ok r) :
    ∃ r', getAlignedReturnsMatrixSync log table symbols' startTime endTime resolution priceField returnType = .ok r' ∧
      r.timestamps ⊆ r'.timestamps := by
  obtain ⟨-, hwindow, field, rt, hfield, hrt, hlen, -, htimes, -⟩ := getAligned_ok h
  have hsymbols : symbols' ≠ [] := by
    rintro rfl
    rw [List.subset_nil] at hsub
    rw [hsub] at h
    cases h
  have hnodup : (callTimes table symbols startTime endTime resolution field).Nodup :=
    callTimes_increasing.imp fun hlt => hlt.ne
  have hlen' := hlen.trans (hnodup.subperm (callTimes_subset hsub)).length_le
  have hex : ∃ r', getAlignedReturnsMatrixSync log table symbols' startTime endTime resolution priceField returnType = .ok r' :=
    exists_getAligned hsymbols hne hwindow hfield hrt hlen'
  obtain ⟨r', hr'⟩ := hex
  obtain ⟨-, -, field', -, hfield', -, -, -, htimes', -⟩ := getAligned_ok hr'
  rw [hfield] at hfield'
  cases hfield'
  refine ⟨r', hr', ?_⟩
  rw [htimes, htimes']
  exact tail_callTimes_subset hsub

/-! ## The whole -/

/-- The growth between two output times, the first at or after an observation, is the ratio of the prices last observed. -/
def Telescopes (obs : ℤ → Option ℚ) (r : AlignedReturnsResult) (symbol : String) : Prop :=
  ∀ t ∈ r.timestamps, ∀ u ∈ r.timestamps, t < u → (∃ v ≤ t, obs v ≠ none) →
    ∃ pt pu, IsLast obs t pt ∧ IsLast obs u pu ∧ r.growth symbol t u = pu / pt

/-- The returns of a symbol are zero up to its second observation. -/
def ZeroBeforeSecond (obs : ℤ → Option ℚ) (r : AlignedReturnsResult) (symbol : String) : Prop :=
  ∀ p ∈ r.returnsOf symbol, (∀ t t', t < t' → t' ≤ p.1 → obs t ≠ none → obs t' = none) → p.2 = 0

theorem telescopes_of_ok (hfield : PriceField.parse priceField = some field)
    (h : getAlignedReturnsMatrixSync log table symbols startTime endTime resolution priceField "simple" = .ok r) {symbol : String}
    (hsymbol : symbol ∈ symbols) :
    Telescopes (observedAt table startTime endTime resolution field symbol) r symbol ∧
      ZeroBeforeSecond (observedAt table startTime endTime resolution field symbol) r symbol := by
  obtain ⟨-, -, field', rt, hfield', hrt, -, hdeduped, htimes, hmatrix⟩ := getAligned_ok h
  rw [hfield] at hfield'
  cases hfield'
  cases hrt
  have hmem : symbol ∈ r.symbols := ((dedupeSymbols_ok hdeduped).2 symbol).2 (.inr hsymbol)
  refine ⟨fun t ht u hu htu ⟨v, hvt, hv⟩ => ?_, fun p hp hone => return_eq_zero htimes hmatrix hmem hsymbol hp hone⟩
  rw [htimes] at ht hu
  obtain ⟨i, hi⟩ := List.mem_iff_getElem?.1 (List.mem_of_mem_tail ht)
  obtain ⟨j, hj⟩ := List.mem_iff_getElem?.1 (List.mem_of_mem_tail hu)
  exact growth_eq htimes hmatrix hmem hsymbol ((callTimes_lt_iff hi hj).1 htu) hi hj hvt hv

end Query

/-- Aligned returns telescope and are causal. A call returns where bars stand at two times, with a row for each of the times but
the first; the growth between output times is the ratio of the prices last observed, rows before a second observation are zero,
rows up to a time come from the bars up to it, and another symbol changes no growth. -/
theorem alignedReturns_spec (log : ℚ → ℚ) (table : BarTable) (symbols : List String) (startTime endTime : ℤ)
    (resolution : Resolution)
    (priceField : String) :
    ((∃ r, getAlignedReturnsMatrixSync log table symbols startTime endTime resolution priceField "simple" = .ok r) ↔
      symbols ≠ [] ∧ "" ∉ symbols ∧ startTime ≤ endTime ∧ (PriceField.parse priceField).isSome = true ∧
        ∃ t u, t < u ∧ HasBar table symbols startTime endTime resolution t ∧
          HasBar table symbols startTime endTime resolution u) ∧
    (∀ r, getAlignedReturnsMatrixSync log table symbols startTime endTime resolution priceField "simple" = .ok r →
      Shaped (HasBar table symbols startTime endTime resolution) symbols r ∧
      ∃ field, PriceField.parse priceField = some field ∧ ∀ symbol ∈ symbols,
        Telescopes (observedAt table startTime endTime resolution field symbol) r symbol ∧
        ZeroBeforeSecond (observedAt table startTime endTime resolution field symbol) r symbol) ∧
    (∀ table' u, AgreeUpTo u table table' →
      rowsUpTo u (getAlignedReturnsMatrixSync log table' symbols startTime endTime resolution priceField "simple") =
        rowsUpTo u (getAlignedReturnsMatrixSync log table symbols startTime endTime resolution priceField "simple")) ∧
    (∀ r added, getAlignedReturnsMatrixSync log table symbols startTime endTime resolution priceField "simple" =
      .ok r → added ≠ "" →
      ∃ r', getAlignedReturnsMatrixSync log table (symbols ++ [added]) startTime endTime resolution priceField "simple" = .ok r' ∧
        ∀ field, PriceField.parse priceField = some field → ∀ symbol ∈ symbols, ∀ t ∈ r.timestamps, ∀ u ∈ r.timestamps, t < u →
          (∃ v ≤ t, observedAt table startTime endTime resolution field symbol v ≠ none) →
          t ∈ r'.timestamps ∧ u ∈ r'.timestamps ∧ r'.growth symbol t u = r.growth symbol t u) := by
  refine ⟨getAligned_isOk_iff rfl, fun r h => ⟨shaped_of_ok h, ?_⟩, fun table' u hagree => rowsUpTo_of_agree hagree,
    fun r added h hadded => ?_⟩
  · obtain ⟨-, -, field, -, hfield, -⟩ := getAligned_ok h
    exact ⟨field, hfield, fun symbol hsymbol => telescopes_of_ok hfield h hsymbol⟩
  · have hne : "" ∉ symbols ++ [added] := by
      simpa using ⟨(getAligned_ok h).1, hadded⟩
    obtain ⟨r', hr', hsub⟩ := exists_getAligned_of_subset (List.subset_append_left symbols [added]) hne h
    refine ⟨r', hr', fun field hfield symbol hsymbol t ht u hu htu hobs => ⟨hsub ht, hsub hu, ?_⟩⟩
    obtain ⟨pt, pu, hpt, hpu, hgrowth⟩ := (telescopes_of_ok hfield h hsymbol).1 t ht u hu htu hobs
    obtain ⟨pt', pu', hpt', hpu', hgrowth'⟩ :=
      (telescopes_of_ok hfield hr' (List.mem_append_left _ hsymbol)).1 t (hsub ht) u (hsub hu) htu hobs
    rw [hgrowth, hgrowth', hpt.unique hpt', hpu.unique hpu']

/-! ### Two symbols on different days -/

/-- A bar at one price, as it is stored. -/
def flatRow (symbol : String) (timestamp : ℤ) (price : ℚ) : BarRow where
  symbol := symbol
  resolution := "1d"
  timestamp := timestamp
  openPrice := price
  high := price
  low := price
  close := price
  volume := 0
  vwap := price
  adjClose := price
  splitFactor := 1
  dividendAmount := 0

/-- Bars of `a` on the first, second and fourth day and of `b` on the second and third. -/
def unalignedBars : BarTable :=
  BarTable.empty.insert [flatRow "a" 1 100, flatRow "a" 2 110, flatRow "b" 2 50, flatRow "b" 3 60, flatRow "a" 4 121]

/-- The aligned returns of both symbols by their closes. -/
def unalignedReturns (symbols : List String) : Except Exc AlignedReturnsResult :=
  getAlignedReturnsMatrixSync id unalignedBars symbols 1 4 .oneDay "close" "simple"

example : (unalignedReturns ["a", "b"]).map (·.toAlignedReturnsFields) =
    .ok
      { matrix := [[1 / 10, 0], [0, 1 / 5], [1 / 10, 0]]
        timestamps := [2, 3, 4]
        symbols := ["a", "b"] } := by
  decide +kernel

theorem timestamps_unaligned : (unalignedReturns ["a"]).map (·.timestamps) = .ok [2, 4] := by
  decide

/-- The days of `a` but the first have their rows. With `b` beside it and another price of `b` on the third day, what `a` grew
from the second day to the fourth is the same. -/
theorem alignedReturns_unaligned :
    ∃ r r', unalignedReturns ["a"] = .ok r ∧ unalignedReturns ["a", "b"] = .ok r' ∧
      Shaped (HasBar unalignedBars ["a"] 1 4 .oneDay) ["a"] r ∧ r.timestamps = [2, 4] ∧
      Telescopes (observedAt unalignedBars 1 4 .oneDay .close "a") r "a" ∧ r'.growth "a" 2 4 = r.growth "a" 2 4 ∧
      rowsUpTo 2 (getAlignedReturnsMatrixSync id (unalignedBars.insert [flatRow "b" 3 70]) ["a"] 1 4 .oneDay "close" "simple") =
        rowsUpTo 2 (unalignedReturns ["a"]) := by
  obtain ⟨hreturns, hspec, hcausal, hadd⟩ := alignedReturns_spec id unalignedBars ["a"] 1 4 .oneDay "close"
  obtain ⟨r, hr⟩ := hreturns.2 ⟨by decide, by decide, by decide, rfl, 1, 2, by decide, ⟨"a", by decide⟩, ⟨"a", by decide⟩⟩
  have htimes : r.timestamps = [2, 4] := by
    have hmap := timestamps_unaligned
    rw [show unalignedReturns ["a"] = .ok r from hr] at hmap
    exact Except.ok.inj hmap
  obtain ⟨hshaped, field, hfield, hsymbols⟩ := hspec r hr
  obtain rfl : PriceField.close = field := Option.some.inj hfield
  obtain ⟨r', hr', hgrowth⟩ := hadd r "b" hr (by decide)
  refine ⟨r, r', hr, hr', hshaped, htimes, (hsymbols "a" (by decide)).1, ?_, hcausal _ 2 (agreeUpTo_insert (by decide))⟩
  have hsame := hgrowth .close rfl "a" (by decide) 2 (by rw [htimes]; decide) 4 (by rw [htimes]; decide) (by decide)
    ⟨1, by decide, by decide⟩
  exact hsame.2.2

end HistoricalRepository

end Quant
