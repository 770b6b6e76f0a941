import Quant.Lemmas.LotRows
import Quant.Lemmas.Risk

/-!
# Reading the lots back

What a service holds after it has read its rows back, oldest first: lots with the fields of the rows, and the positions they make
up.
-/

namespace Quant

open Pylib

/-- The constructor accepts fields that are in range, and keeps them. -/
theorem LotFields.create_of_valid {f : LotFields} (h1 : 0 < f.originalQuantity) (h2 : 0 ≤ f.remainingQuantity)
    (h3 : 0 < f.costBasisPerShare) : ∃ l, f.create = .ok l ∧ l.toLotFields = f := by
  refine ⟨{ f with originalQuantity_pos := h1, remainingQuantity_nonneg := h2, costBasisPerShare_pos := h3 }, ?_, rfl⟩
  simp [LotFields.create, not_le.2 h1, not_lt.2 h2, not_le.2 h3]

namespace LedgerService

/-- The rows of lots are read back, each at the end of its symbol. -/
theorem rehydrateLots_ok {portfolioId : String} {rows : List DBTaxLot}
    (h : ∀ row ∈ rows, ∃ l : TaxLot, row = lotRow portfolioId l)
    (e : TaxLotEngine) :
    ∃ e', rehydrateLots portfolioId rows e = (.ok (), e') ∧
      ∀ symbol, (e'.lotsOf symbol).map (·.toLotFields) =
        (e.lotsOf symbol).map (·.toLotFields) ++ rows.filter (fun row => row.symbol = symbol) := by
  induction rows generalizing e with
  | nil => exact ⟨e, rfl, by simp⟩
  | cons row rows ih =>
    rw [List.forall_mem_cons] at h
    obtain ⟨⟨l, hl⟩, hrows⟩ := h
    obtain ⟨x, hx, hfields⟩ := LotFields.create_of_valid (f := { row with portfolioId := portfolioId })
      (by rw [hl]; exact l.originalQuantity_pos) (by rw [hl]; exact l.remainingQuantity_nonneg)
      (by rw [hl]; exact l.costBasisPerShare_pos)
    have hrow : x.toLotFields = row := by
      rw [hfields, hl]
      rfl
    obtain ⟨e', hok, hlots⟩ := ih hrows ((e.touch row.symbol).withLots row.symbol ((e.touch row.symbol).lotsOf row.symbol ++ [x]))
    refine ⟨e', ?_, fun symbol => ?_⟩
    · rw [rehydrateLots]
      rw [hx]
      exact hok
    · rw [hlots]
      by_cases hsymbol : row.symbol = symbol
      · rw [← hsymbol, TaxLotEngine.lotsOf_withLots_self, TaxLotEngine.lotsOf_touch, List.map_append, List.map_singleton, hrow,
          List.filter_cons_of_pos (by simp), List.append_assoc, List.singleton_append]
      · rw [TaxLotEngine.lotsOf_withLots_of_ne _ _ (Ne.symm hsymbol), TaxLotEngine.lotsOf_touch,
          List.filter_cons_of_neg (by simpa using hsymbol)]

/-! ## Positions -/

/-- What rows hold. -/
def heldRows (rows : List LotFields) : ℚ := (rows.map (fun row => row.side.sign * row.remainingQuantity)).sum

theorem heldRows_lots (ls : List TaxLot) : held ls = heldRows (ls.map (·.toLotFields)) := by
  rw [held, net, heldRows, List.map_map]
  refine congrArg List.sum (List.map_congr_left fun l _ => ?_)
  rw [mul_one]
  rfl

theorem heldRows_perm {rows rows' : List LotFields} (h : rows.Perm rows') : heldRows rows = heldRows rows' :=
  (h.map _).sum_eq

/-- A symbol without lots has no position. -/
theorem getPosition_of_nil {e : TaxLotEngine} {symbol : String} (h : e.lotsOf symbol = []) : e.getPosition symbol = 0 := by
  simp [TaxLotEngine.getPosition, TaxLotEngine.getOpenLots, h]

/-- A position is either nothing or large enough to count. -/
theorem getPosition_eq_zero_or {e : TaxLotEngine} (symbol : String) :
    e.getPosition symbol = 0 ∨ lotEpsilon < |e.getPosition symbol| := by
  rw [TaxLotEngine.abs_getPosition]
  cases hls : e.getOpenLots symbol with
  | nil =>
    left
    simp [TaxLotEngine.getPosition, hls]
  | cons l ls =>
    right
    have hl : l ∈ e.getOpenLots symbol := by
      rw [hls]
      exact List.mem_cons_self
    have ho : lotEpsilon < l.remainingQuantity := by simpa [TaxLot.isOpen] using (List.mem_filter.1 hl).2
    have hrest : 0 ≤ (ls.map (·.remainingQuantity)).sum := by
      refine List.sum_nonneg fun x hx => ?_
      obtain ⟨l', -, rfl⟩ := List.mem_map.1 hx
      exact l'.remainingQuantity_nonneg
    rw [List.map_cons, List.sum_cons]
    linarith

/-- The positions that count are all there are. -/
theorem openPositions_getD (e : TaxLotEngine) (symbol : String) : (openPositions e).getD symbol 0 = e.getPosition symbol := by
  rw [openPositions, Dict.getD, Dict.get?_foldl_set (fun s => |e.getPosition s| > lotEpsilon)]
  split
  · rfl
  · rename_i hnot
    rw [Dict.get?_empty, Option.getD_none]
    rcases getPosition_eq_zero_or (e := e) symbol with hzero | hlarge
    · exact hzero.symm
    · by_contra hne
      refine hnot ⟨?_, hlarge⟩
      rw [Dict.mem_keys_iff]
      by_contra hkey
      rw [Bool.not_eq_true, Dict.contains_eq_false_iff] at hkey
      have hnil : e.lotsOf symbol = [] := Dict.getD_of_get?_none [] hkey
      exact hne (getPosition_of_nil hnil).symm

/-! ## Prices and the portfolio -/

/-- A price table a portfolio accepts. -/
def ValidPrices (d : Dict String ℚ) : Prop := ∀ symbol price, d.get? symbol = some price → symbol ≠ "" ∧ 0 < price

/-- One turn of the loop over the symbols. -/
def fallbackPrice (d : Dict String ℚ) (p : String × List TaxLot) : Dict String ℚ :=
  if d.contains p.1 then d else (p.2.getLast?).elim d (fun l => d.set p.1 l.costBasisPerShare)

/-- A turn keeps the table valid and what it has, and adds the symbol of the turn if it has lots. -/
theorem fallbackPrice_valid {d : Dict String ℚ} (hd : ValidPrices d) {p : String × List TaxLot} (hp : p.2 ≠ [] → p.1 ≠ "") :
    ValidPrices (fallbackPrice d p) ∧
      ∀ symbol, d.contains symbol = true ∨ symbol = p.1 ∧ p.2 ≠ [] → (fallbackPrice d p).contains symbol = true := by
  unfold fallbackPrice
  split
  · rename_i hc
    refine ⟨hd, fun symbol h => ?_⟩
    rcases h with h | ⟨rfl, -⟩
    · exact h
    · exact hc
  · cases hlast : p.2.getLast? with
    | none =>
      refine ⟨hd, fun symbol h => ?_⟩
      rcases h with h | ⟨-, hne⟩
      · exact h
      · exact absurd (List.getLast?_eq_none_iff.1 hlast) hne
    | some l =>
      have hne : p.2 ≠ [] := List.ne_nil_of_mem (List.mem_of_getLast? hlast)
      refine ⟨fun symbol price hget => ?_, fun symbol h => ?_⟩
      · rw [Option.elim_some, Dict.get?_set] at hget
        split at hget
        · rename_i heq
          cases hget
          rw [heq]
          exact ⟨hp hne, l.costBasisPerShare_pos⟩
        · exact hd symbol price hget
      · rw [Option.elim_some, Dict.contains_set]
        rcases h with h | ⟨rfl, -⟩
        · exact .inr h
        · exact .inl rfl

/-- The loop keeps the table valid and what it has, and adds the symbols that have lots. -/
theorem foldl_fallbackPrice {items : List (String × List TaxLot)} (hitems : ∀ p ∈ items, p.2 ≠ [] → p.1 ≠ "") {d : Dict String ℚ}
    (hd : ValidPrices d) :
    ValidPrices (items.foldl fallbackPrice d) ∧
      ∀ symbol, (d.contains symbol = true ∨ ∃ p ∈ items, symbol = p.1 ∧ p.2 ≠ []) →
        (items.foldl fallbackPrice d).contains symbol = true := by
  induction items generalizing d with
  | nil =>
    refine ⟨hd, fun symbol h => ?_⟩
    simpa using h
  | cons p items ih =>
    rw [List.forall_mem_cons] at hitems
    obtain ⟨hvalid, hadd⟩ := fallbackPrice_valid hd hitems.1
    obtain ⟨hvalid', hadd'⟩ := ih hitems.2 hvalid
    rw [List.foldl_cons]
    refine ⟨hvalid', fun symbol h => hadd' symbol ?_⟩
    rcases h with h | ⟨q, hq, hsym⟩
    · exact .inl (hadd symbol (.inl h))
    · rcases List.mem_cons.1 hq with rfl | hq
      · exact .inl (hadd symbol (.inr hsym))
      · exact .inr ⟨q, hq, hsym⟩

/-- The fallback prices are valid where the given ones are, and there is one for each symbol with lots. -/
theorem fallbackPrices_valid {e : TaxLotEngine} (hsym : ∀ symbol, e.lotsOf symbol ≠ [] → symbol ≠ "") {prices : Dict String ℚ}
    (hp : ValidPrices prices) :
    ValidPrices (fallbackPrices e prices) ∧ ∀ symbol, e.lotsOf symbol ≠ [] →
    (fallbackPrices e prices).contains symbol = true := by
  have hitem : ∀ symbol ls, (symbol, ls) ∈ e.lots.items → e.lotsOf symbol = ls := by
    intro symbol ls hmem
    exact Dict.getD_of_get?_some [] ((Dict.mem_items_iff _ _ _).1 hmem)
  obtain ⟨hvalid, hadd⟩ := @foldl_fallbackPrice e.lots.items
    (fun p hmem hne => hsym p.1 (by rw [hitem p.1 p.2 hmem]; exact hne)) prices hp
  refine ⟨hvalid, fun symbol hne => hadd symbol (.inr ⟨(symbol, e.lotsOf symbol), ?_, rfl, hne⟩)⟩
  rw [Dict.mem_items_iff]
  cases hget : e.lots.get? symbol with
  | none => exact absurd (Dict.getD_of_get?_none [] hget) hne
  | some ls =>
    have hls : e.lotsOf symbol = ls := Dict.getD_of_get?_some [] hget
    rw [hls]

/-- The constructor of the portfolio accepts what is read back. -/
theorem create_riskFields {e : TaxLotEngine} (hsym : ∀ symbol, e.lotsOf symbol ≠ [] → symbol ≠ "") {prices : Dict String ℚ}
    (hp : ValidPrices prices) (hcov : ∀ symbol, e.lotsOf symbol ≠ [] → prices.contains symbol = true) (cash totalEquity : ℚ) :
    ∃ state, (riskFields e cash totalEquity prices).create = .ok state ∧ state.positions = openPositions e := by
  -- a symbol with a position that counts has lots
  have hlots : ∀ symbol q, (openPositions e).get? symbol = some q → e.lotsOf symbol ≠ [] := by
    intro symbol q hget hnil
    rw [openPositions, Dict.get?_foldl_set (fun s => |e.getPosition s| > lotEpsilon)] at hget
    split at hget
    · rename_i hcounts
      have hlarge := hcounts.2
      rw [getPosition_of_nil hnil, abs_zero] at hlarge
      exact absurd hlarge (not_lt.2 lotEpsilon_pos.le)
    · cases hget
  have hkeys : "" ∉ (openPositions e).keys := by
    rw [Dict.mem_keys_iff, Dict.contains, Option.isSome_iff_exists]
    rintro ⟨q, hget⟩
    exact hsym "" (hlots "" q hget) rfl
  have hentries : prices.items.findSome? PortfolioRiskState.priceEntryFault = none := by
    rw [List.findSome?_eq_none_iff]
    rintro ⟨symbol, price⟩ hmem
    obtain ⟨hne, hpos⟩ := hp symbol price ((Dict.mem_items_iff _ _ _).1 hmem)
    simp [PortfolioRiskState.priceEntryFault, hne, hpos]
  have hequity : ∃ eq, (riskFields e cash totalEquity prices).currentEquity = .ok eq := by
    rw [PortfolioRiskState.currentEquity, PortfolioRiskState.addValues_ok_iff]
    rintro ⟨symbol, q⟩ hmem
    right
    have hcontains := hcov symbol (hlots symbol q ((Dict.mem_items_iff _ _ _).1 hmem))
    rw [Dict.contains, Option.isSome_iff_exists] at hcontains
    obtain ⟨price, hprice⟩ := hcontains
    have hpos := (hp symbol price hprice).2
    refine ⟨price, ?_⟩
    simp [PortfolioRiskState.priceOf, riskFields, hprice, not_le.2 hpos]
  obtain ⟨eq, hequity⟩ := hequity
  have hpeak : ¬ (riskFields e cash totalEquity prices).initialEquity ≤ 0 := by
    rw [not_le]
    exact lt_of_lt_of_le (by norm_num) (le_max_right totalEquity 1000)
  have hpositions : "" ∉ (riskFields e cash totalEquity prices).positions.keys := hkeys
  have hleaves : "" ∉ (riskFields e cash totalEquity prices).pendingLeaves.keys := List.not_mem_nil
  have hprices : (riskFields e cash totalEquity prices).currentPrices.items.findSome? PortfolioRiskState.priceEntryFault = none :=
    hentries
  unfold PortfolioRiskState.create
  rw [if_neg hpositions, if_neg hleaves, hprices, hequity]
  dsimp only
  rw [if_neg (fun h => hpeak h.1)]
  exact ⟨_, rfl, rfl⟩

/-! ## A rehydration -/

/-- A rehydration without faults, of rows that lots have, with valid prices: it returns the positions of the engine it has
rebuilt, whose lots are those of the rows. -/
theorem initializeOrRehydrate_ok {svc : LedgerService} {db : LedgerDb} {prices : Dict String ℚ} {faults : SessionFaults}
    (hquery : ∀ n, faults.query n = none) (hcommit : ∀ n, faults.commit n = none) (hp : ValidPrices prices)
    (hrows : ∀ row ∈ activeRows db svc.portfolioId, row.symbol ≠ "" ∧ ∃ l : TaxLot, row = lotRow svc.portfolioId l) :
    ∃ state svc' db', svc.initializeOrRehydrate db prices faults = (.ok state, svc', db') ∧
      state.positions = openPositions svc'.taxLotEngine ∧
      ∀ symbol, ((svc'.taxLotEngine.lotsOf symbol).map (·.toLotFields)).Perm
        ((activeRows db svc.portfolioId).filter (fun row => row.symbol = symbol)) := by
  have hlots : (provision svc.portfolioId db).2.taxLots = db.taxLots := by
    unfold provision
    split <;> rfl
  have hactive : activeRows (provision svc.portfolioId db).2 svc.portfolioId = activeRows db svc.portfolioId := by
    rw [activeRows, hlots, activeRows]
  have hsort := List.mergeSort_perm (activeRows db svc.portfolioId)
    (fun r r' => r.openTimestamp.micros ≤ r'.openTimestamp.micros)
  obtain ⟨e', hok, hread⟩ := rehydrateLots_ok (fun row hrow => (hrows row (hsort.mem_iff.1 hrow)).2)
    { svc.taxLotEngine with lots := ∅ }
  have hnil : ∀ symbol, ({ svc.taxLotEngine with lots := ∅ } : TaxLotEngine).lotsOf symbol = [] := fun symbol => rfl
  have hperm : ∀ symbol, ((e'.lotsOf symbol).map (·.toLotFields)).Perm
      ((activeRows db svc.portfolioId).filter (fun row => row.symbol = symbol)) := by
    intro symbol
    rw [hread, hnil, List.map_nil, List.nil_append]
    exact hsort.filter _
  have hsym : ∀ symbol, e'.lotsOf symbol ≠ [] → symbol ≠ "" := by
    intro symbol hne
    obtain ⟨l, hl⟩ := List.exists_mem_of_ne_nil _ hne
    obtain ⟨hmem, hsymbol⟩ := List.mem_filter.1 ((hperm symbol).mem_iff.1 (List.mem_map_of_mem hl))
    rw [← of_decide_eq_true hsymbol]
    exact (hrows _ hmem).1
  obtain ⟨hvalid, hcov⟩ := fallbackPrices_valid hsym hp
  obtain ⟨state, hcreate, hpositions⟩ := create_riskFields hsym hvalid hcov (provision svc.portfolioId db).1.cashBalance
    ((provision svc.portfolioId db).1.cashBalance + holdingsValue (openPositions e') (fallbackPrices e' prices))
  have hprovision : (if db.portfolioLedgers.contains svc.portfolioId then none else faults.commit 0) = none := by
    rw [hcommit, ite_self]
  unfold initializeOrRehydrate
  rw [hquery]
  dsimp only
  rw [hprovision]
  dsimp only
  rw [hquery]
  dsimp only
  rw [hactive, hok]
  dsimp only
  rw [hcommit]
  dsimp only
  rw [hcreate]
  exact ⟨state, _, _, rfl, hpositions, hperm⟩

end LedgerService

end Quant
