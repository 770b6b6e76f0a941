import Quant.Lemmas.Rehydration
import Quant.Theorems.JournalCash

/-!
# The engine of a service and its database

The engine is changed in memory before the database is written, and is not changed back when the writing fails. As long as what
the engine has booked gets written, every lot has its row, and the open lots are the rows that are read back.
-/

namespace Quant

open Pylib

namespace LedgerService

/-! ## Lots with rows -/

/-- Whether a row is read back. -/
def Active (row : LotFields) : Prop := row.status = .lotOpen ∨ row.status = .lotPartial

/-- Every lot of the engine has its row, and every row of the portfolio that is read back has its lot. -/
structure Synced (st : LedgerService × LedgerDb) : Prop where
  wellFormed : st.1.taxLotEngine.WellFormed
  symbol : ∀ symbol, ∀ l ∈ st.1.taxLotEngine.lotsOf symbol, l.symbol = symbol ∧ symbol ≠ ""
  nodup : ∀ symbol, ((st.1.taxLotEngine.lotsOf symbol).map (·.lotId)).Nodup
  status : ∀ symbol, ∀ l ∈ st.1.taxLotEngine.lotsOf symbol, l.isOpen = true ↔ l.status ≠ .lotClosed
  row : ∀ symbol, ∀ l ∈ st.1.taxLotEngine.lotsOf symbol, st.2.taxLots.get? l.lotId = some (lotRow st.1.portfolioId l)
  lot : ∀ id row, st.2.taxLots.get? id = some row → row.portfolioId = st.1.portfolioId → Active row →
    ∃ symbol, ∃ l ∈ st.1.taxLotEngine.lotsOf symbol, l.lotId = id

/-- What a fill writes can be written: the database fails nowhere, the journal passes its check, and the ids are new. -/
structure Lands (portfolioId : String) (db : LedgerDb) (c : FillCall) (res : FillAllocationResult) : Prop where
  query : ∀ n ≤ res.depletedLots.length, c.faults.query n = none
  commit : c.faults.commit 0 = none
  balanced : (c.transaction portfolioId).unbalancedFault ((c.transaction portfolioId).journalEntries c.symbol res) = none
  lots : ∀ l ∈ res.newOpenLots, db.taxLots.contains l.lotId = false
  trades : ∀ t ∈ res.allocatedTrades, db.realizedTrades.contains t.tradeId = false
  tradeIds : (res.allocatedTrades.map (·.tradeId)).Nodup

/-- What a call must meet: it is no refused flip, it opens no lot too small to count, and what the engine books gets written. -/
structure KeepsSync (st : LedgerService × LedgerDb) (c : FillCall) : Prop where
  flip : ∀ s, ¬ st.1.taxLotEngine.RefusedFlip c.args c.entropy s
  opens : ∀ s, FillSide.parse c.side = some s →
    TaxLotEngine.isIncreasing s (st.1.taxLotEngine.getPosition c.symbol) = true → lotEpsilon < c.quantity
  lands : ∀ res e', st.1.taxLotEngine.allocateFill c.args c.entropy = (.ok res, e') → Lands st.1.portfolioId st.2 c res

theorem map_nodup_of_atMostOne {α β : Type} (f : α → β) {l : List α} (h : l.length ≤ 1) : (l.map f).Nodup := by
  rcases l with _ | ⟨x, _ | ⟨y, l⟩⟩
  · exact List.nodup_nil
  · exact List.nodup_singleton (f x)
  · simp at h

theorem updateLots_get?_none {ls : List TaxLot} {rows : Dict String DBTaxLot} {id : String} (h : rows.contains id = false) :
    (ls.foldl updateLot rows).contains id = false := by
  rw [Dict.contains_eq_false_iff] at h ⊢
  rw [get?_updateLots, h, Option.map_none]

/-- What can be written is. -/
theorem Lands.persistFill {portfolioId : String} {db : LedgerDb} {c : FillCall} {res : FillAllocationResult}
    (h : Lands portfolioId db c res) (hone : res.newOpenLots.length ≤ 1) : ∃ db', persistFill portfolioId db c res = .ok db' := by
  have hqueries : (List.range res.depletedLots.length).findSome? c.faults.query = none := by
    rw [List.findSome?_eq_none_iff]
    intro n hn
    exact h.query n (List.mem_range.1 hn).le
  have hlots : ∃ d, insertRows "tax_lots.id" (·.lotId) (res.newOpenLots.map (lotRow portfolioId))
      (res.depletedLots.foldl updateLot db.taxLots) = .ok d := by
    refine insertRows_of_fresh (fun r hr => ?_) ?_
    · obtain ⟨l, hl, rfl⟩ := List.mem_map.1 hr
      exact updateLots_get?_none (h.lots l hl)
    · rw [List.map_map]
      exact map_nodup_of_atMostOne _ hone
  have htrades : ∃ d, insertRows "realized_trades.id" (·.tradeId) (res.allocatedTrades.map (tradeRow portfolioId))
      db.realizedTrades = .ok d := by
    refine insertRows_of_fresh (fun r hr => ?_) ?_
    · obtain ⟨t, ht, rfl⟩ := List.mem_map.1 hr
      exact h.trades t ht
    · rw [List.map_map]
      exact h.tradeIds
  obtain ⟨taxLots, hlots⟩ := hlots
  obtain ⟨realizedTrades, htrades⟩ := htrades
  unfold LedgerService.persistFill
  rw [hqueries]
  dsimp only
  rw [h.balanced]
  dsimp only
  rw [h.query _ le_rfl]
  dsimp only
  rw [h.commit]
  dsimp only
  unfold LedgerDb.writeFill
  rw [hlots]
  dsimp only
  rw [htrades]
  exact ⟨_, rfl⟩

/-! ## A fill that is booked and written -/

section Filled

variable {st : LedgerService × LedgerDb} {c : FillCall} {s : FillSide} {res : FillAllocationResult} {e' : TaxLotEngine}
  {mid : List TaxLot} {D : List ℕ}

theorem lotRow_takeOver (portfolioId : String) {l l' : TaxLot} (h : Kept l l') :
    (lotRow portfolioId l).takeOver l' = lotRow portfolioId l' :=
  (congrArg (fun f : LotFields => { f with portfolioId := portfolioId }) h.fields).symm

/-- The lots after the fill have different ids, as those before had. -/
theorem Synced.nodup_mid (h : Synced st) (hm : st.1.taxLotEngine.LotMoves c.args s res e' mid D) :
    (mid.map (·.lotId)).Nodup := by
  rw [hm.depleted.ids]
  exact h.nodup c.symbol

/-- A lot of the symbol has its row after the rows took over what the fill left. -/
theorem Synced.row_mid (h : Synced st) (hm : st.1.taxLotEngine.LotMoves c.args s res e' mid D) {l' : TaxLot} (hl' : l' ∈ mid) :
    (res.depletedLots.foldl updateLot st.2.taxLots).get? l'.lotId = some (lotRow st.1.portfolioId l') := by
  have hnodup := h.nodup_mid hm
  have hinj := fun x (hx : x ∈ mid) => List.inj_on_of_nodup_map hnodup hx hl'
  obtain ⟨j, hj⟩ := List.mem_iff_getElem?.1 hl'
  have hlisted : ∀ x ∈ res.depletedLots, x ∈ mid := by
    intro x hx
    rw [hm.listed] at hx
    obtain ⟨i, l, -, -, hget, -⟩ := hm.depleted.mem_listed hx
    exact List.mem_of_getElem? hget
  obtain ⟨l, hl, ⟨hmem, hkept⟩ | ⟨hnot, rfl⟩⟩ := hm.depleted.before hj
  · have hid : l'.lotId = l.lotId := by rw [hkept.fields]; rfl
    have hin : l' ∈ res.depletedLots := by
      rw [hm.listed]
      exact hm.depleted.listed_mem _ hmem hj
    rw [get?_updateLots, hid, h.row c.symbol l (List.mem_of_getElem? hl), Option.map_some,
      takeOver_one (fun x hx hxid => hinj x (hlisted x hx) (hxid.trans hid.symm)) hin hid, lotRow_takeOver _ hkept]
  · have hother : ∀ x ∈ res.depletedLots, x.lotId ≠ l'.lotId := by
      intro x hx hxid
      have hxl := hinj x (hlisted x hx) hxid
      rw [hm.listed] at hx
      obtain ⟨i, -, hi, -, hget, -⟩ := hm.depleted.mem_listed hx
      have hlt : i < mid.length := (List.getElem?_eq_some_iff.1 hget).1
      have hij : i = j := by
        refine (List.getElem?_inj hlt hnodup.of_map).1 ?_
        rw [hget, hj, hxl]
      exact hnot (hij ▸ hi)
    rw [get?_updateLots, h.row c.symbol l' (List.mem_of_getElem? hl), Option.map_some, takeOver_none hother]

/-- A lot of another symbol keeps its row. -/
theorem Synced.row_other (h : Synced st) (hm : st.1.taxLotEngine.LotMoves c.args s res e' mid D) {symbol : String}
    (hne : symbol ≠ c.symbol) {l : TaxLot} (hl : l ∈ st.1.taxLotEngine.lotsOf symbol) :
    (res.depletedLots.foldl updateLot st.2.taxLots).get? l.lotId = some (lotRow st.1.portfolioId l) := by
  have hother : ∀ x ∈ res.depletedLots, x.lotId ≠ l.lotId := by
    intro x hx hxid
    rw [hm.listed] at hx
    obtain ⟨i, l₀, -, hl₀, -, hkept⟩ := hm.depleted.mem_listed hx
    have hmem := List.mem_of_getElem? hl₀
    have hid : l₀.lotId = l.lotId := by
      rw [← hxid, hkept.fields]
      rfl
    have hrow := h.row c.symbol l₀ hmem
    rw [hid, h.row symbol l hl, Option.some.injEq] at hrow
    have hsymbol := congrArg LotFields.symbol hrow
    rw [lotRow_symbol, lotRow_symbol, (h.symbol symbol l hl).1, (h.symbol c.symbol l₀ hmem).1] at hsymbol
    exact hne hsymbol
  rw [get?_updateLots, h.row symbol l hl, Option.map_some, takeOver_none hother]

/-- What the fill left of the lots has their symbol, and counts as open exactly while it is not closed. -/
theorem Synced.left (h : Synced st) (hm : st.1.taxLotEngine.LotMoves c.args s res e' mid D) {l : TaxLot} (hl : l ∈ mid) :
    (l.symbol = c.symbol ∧ c.symbol ≠ "") ∧ (l.isOpen = true ↔ l.status ≠ .lotClosed) := by
  obtain ⟨l₀, hl₀, hkept | rfl⟩ := hm.depleted.mem_before hl
  · refine ⟨?_, hkept.status⟩
    rw [hkept.fields]
    exact h.symbol c.symbol l₀ hl₀
  · exact ⟨h.symbol c.symbol l hl₀, h.status c.symbol l hl₀⟩

/-- The lots of the symbol have different ids: the new one is not in the rows, and the others are. -/
theorem Synced.nodup_filled (h : Synced st) (hm : st.1.taxLotEngine.LotMoves c.args s res e' mid D)
    (hfresh : ∀ l ∈ res.newOpenLots, (res.depletedLots.foldl updateLot st.2.taxLots).get? l.lotId = none) (symbol : String) :
    ((e'.lotsOf symbol).map (·.lotId)).Nodup := by
  by_cases hs : symbol = c.symbol
  · rw [hs, show c.symbol = c.args.symbol from rfl, hm.lots, List.map_append, List.nodup_append]
    refine ⟨h.nodup_mid hm, map_nodup_of_atMostOne _ hm.atMostOne, ?_⟩
    intro id hid id' hid' heq
    obtain ⟨l, hl, rfl⟩ := List.mem_map.1 hid
    obtain ⟨l', hl', rfl⟩ := List.mem_map.1 hid'
    have hnone := hfresh l' hl'
    rw [← heq, h.row_mid hm hl] at hnone
    cases hnone
  · rw [hm.others symbol hs]
    exact h.nodup symbol

/-- A row that is read back, and was there before the new lot's, is that of a lot. -/
theorem Synced.lot_filled (h : Synced st) (hm : st.1.taxLotEngine.LotMoves c.args s res e' mid D) {id : String} {row : DBTaxLot}
    (hrow : (res.depletedLots.foldl updateLot st.2.taxLots).get? id = some row) (hid : row.portfolioId = st.1.portfolioId)
    (hactive : Active row) : ∃ symbol, ∃ l ∈ e'.lotsOf symbol, l.lotId = id := by
  by_cases hlisted : ∃ x ∈ res.depletedLots, x.lotId = id
  · obtain ⟨x, hx, hxid⟩ := hlisted
    rw [hm.listed] at hx
    obtain ⟨j, l, -, -, hget, -⟩ := hm.depleted.mem_listed hx
    exact ⟨c.symbol, x, hm.mem_of_left (List.mem_of_getElem? hget), hxid⟩
  · -- no lot took the row over, so it is as it was
    rw [get?_updateLots] at hrow
    obtain ⟨row₀, hrow₀, hsame⟩ := Option.map_eq_some_iff.1 hrow
    rw [takeOver_none (fun x hx hxid => hlisted ⟨x, hx, hxid⟩)] at hsame
    obtain ⟨symbol, l, hl, hlid⟩ := h.lot id row (hsame ▸ hrow₀) hid hactive
    obtain ⟨l', hl', hlid'⟩ := hm.exists_id hl
    exact ⟨symbol, l', hl', hlid'.trans hlid⟩

/-- The rows after the new lot has its own: those of the lots the engine has now. -/
theorem Synced.filled (h : Synced st) (hsym : c.symbol ≠ "") (hside : FillSide.parse c.side = some s)
    (hopens : ∀ s, FillSide.parse c.side = some s →
      TaxLotEngine.isIncreasing s (st.1.taxLotEngine.getPosition c.symbol) = true → lotEpsilon < c.quantity)
    (hm : st.1.taxLotEngine.LotMoves c.args s res e' mid D) (he' : e'.WellFormed) {db' : LedgerDb}
    (hins : insertRows "tax_lots.id" (·.lotId) (res.newOpenLots.map (lotRow st.1.portfolioId))
      (res.depletedLots.foldl updateLot st.2.taxLots) = .ok db'.taxLots) :
    Synced ({ st.1 with taxLotEngine := e' }, db') := by
  obtain ⟨hfresh, hget⟩ := insertRows_ok hins
  have hnew : ∀ l ∈ res.newOpenLots, lotEpsilon < l.remainingQuantity := by
    intro l hl
    obtain ⟨-, -, ⟨hinc, hq⟩ | hlt⟩ := hm.opened l hl
    · rw [hq]
      exact hopens s hside hinc
    · exact hlt
  constructor
  · exact he'
  · intro symbol l hl
    rcases hm.mem_cases hl with ⟨-, hold⟩ | ⟨rfl, hleft | hopen⟩
    · exact h.symbol symbol l hold
    · exact (h.left hm hleft).1
    · exact ⟨(hm.opened l hopen).1, hsym⟩
  · exact h.nodup_filled hm fun l hl => hfresh (lotRow st.1.portfolioId l) (List.mem_map_of_mem hl)
  · intro symbol l hl
    rcases hm.mem_cases hl with ⟨-, hold⟩ | ⟨rfl, hleft | hopen⟩
    · exact h.status symbol l hold
    · exact (h.left hm hleft).2
    · simp [TaxLot.isOpen, hnew l hopen, (hm.opened l hopen).2.1]
  · intro symbol l hl
    rw [hget]
    rcases hm.mem_cases hl with ⟨hne, hold⟩ | ⟨rfl, hleft | hopen⟩
    · exact .inr (h.row_other hm hne hold)
    · exact .inr (h.row_mid hm hleft)
    · exact .inl ⟨List.mem_map_of_mem hopen, rfl⟩
  · intro id row hrow hid hactive
    rcases (hget id row).1 hrow with ⟨hin, hkey⟩ | hold
    · obtain ⟨l, hl, rfl⟩ := List.mem_map.1 hin
      exact ⟨c.symbol, l, hm.mem_of_opened hl, hkey⟩
    · exact h.lot_filled hm hold hid hactive

end Filled

/-! ## Runs -/

/-- The service and the database after a fill, whether the call returned or raised. -/
def fillStep (st : LedgerService × LedgerDb) (c : FillCall) : LedgerService × LedgerDb := (st.1.recordFill st.2 c).2

/-- A service that has seen another symbol, but no other lot, is synced as before. -/
theorem Synced.congr {st : LedgerService × LedgerDb} (h : Synced st) {e' : TaxLotEngine}
    (hlots : ∀ symbol, e'.lotsOf symbol = st.1.taxLotEngine.lotsOf symbol) :
    Synced ({ st.1 with taxLotEngine := e' }, st.2) := by
  constructor
  · intro symbol
    rw [hlots]
    exact h.wellFormed symbol
  · intro symbol
    rw [hlots]
    exact h.symbol symbol
  · intro symbol
    rw [hlots]
    exact h.nodup symbol
  · intro symbol
    rw [hlots]
    exact h.status symbol
  · intro symbol
    rw [hlots]
    exact h.row symbol
  · intro id row hrow hid hactive
    obtain ⟨symbol, l, hl, hlid⟩ := h.lot id row hrow hid hactive
    refine ⟨symbol, l, ?_, hlid⟩
    rw [hlots]
    exact hl

/-- A call that meets its condition keeps the engine and the database in step. -/
theorem Synced.fillStep {st : LedgerService × LedgerDb} (h : Synced st) {c : FillCall} (hc : KeepsSync st c) :
    Synced (fillStep st c) := by
  rcases TaxLotEngine.allocateFill_cases h.wellFormed c.args c.entropy with
    ⟨⟨s, hrefused⟩, -⟩ | ⟨-, ⟨exc, herr | herr⟩ | ⟨res, ls, hok, -⟩⟩
  · exact absurd hrefused (hc.flip s)
  · rw [LedgerService.fillStep, recordFill, herr]
    exact h.congr fun symbol => rfl
  · rw [LedgerService.fillStep, recordFill, herr]
    exact h.congr fun symbol => TaxLotEngine.lotsOf_touch _ _ symbol
  · have he' := h.wellFormed.allocateFill c.args c.entropy
    rw [hok] at he'
    obtain ⟨s, mid, D, hsym, hside, hm⟩ := TaxLotEngine.allocateFill_lotMoves hok
    obtain ⟨db', hpersist⟩ := (hc.lands res _ hok).persistFill hm.atMostOne
    obtain ⟨hins, -, -⟩ := LedgerDb.writeFill_ok (persistFill_ok hpersist)
    rw [LedgerService.fillStep, recordFill, hok]
    dsimp only
    rw [hpersist]
    exact h.filled hsym hside hc.opens hm he' hins

/-- A new engine is in step with a database that has no rows to read back. -/
theorem synced_of_empty {st : LedgerService × LedgerDb} (hlots : st.1.taxLotEngine.lots = ∅)
    (hrows : activeRows st.2 st.1.portfolioId = []) : Synced st := by
  have hnone : ∀ symbol, st.1.taxLotEngine.lotsOf symbol = [] := by
    intro symbol
    rw [TaxLotEngine.lotsOf, hlots, Dict.getD_empty]
  constructor
  · intro symbol l hl
    rw [hnone] at hl
    cases hl
  · intro symbol l hl
    rw [hnone] at hl
    cases hl
  · intro symbol
    rw [hnone]
    exact List.nodup_nil
  · intro symbol l hl
    rw [hnone] at hl
    cases hl
  · intro symbol l hl
    rw [hnone] at hl
    cases hl
  · intro id row hrow hid hactive
    have hmem : row ∈ activeRows st.2 st.1.portfolioId := by
      refine List.mem_filter.2 ⟨(Dict.mem_values_iff _ _).2 ⟨id, hrow⟩, ?_⟩
      simpa using ⟨hid, hactive⟩
    rw [hrows] at hmem
    cases hmem

/-! ## The open lots and the rows that are read back -/

/-- The open lots of the engine. -/
def openLots (e : TaxLotEngine) : List TaxLot := e.lots.keys.flatMap e.getOpenLots

theorem mem_openLots {e : TaxLotEngine} {l : TaxLot} : l ∈ openLots e ↔ ∃ symbol, l ∈ e.getOpenLots symbol := by
  rw [openLots, List.mem_flatMap]
  constructor
  · rintro ⟨symbol, -, hl⟩
    exact ⟨symbol, hl⟩
  · rintro ⟨symbol, hl⟩
    refine ⟨symbol, ?_, hl⟩
    rw [Dict.mem_keys_iff]
    by_contra hnot
    rw [Bool.not_eq_true, Dict.contains_eq_false_iff] at hnot
    have hnil : e.lotsOf symbol = [] := Dict.getD_of_get?_none [] hnot
    simp [TaxLotEngine.getOpenLots, hnil] at hl

theorem mem_activeRows {db : LedgerDb} {portfolioId : String} {row : DBTaxLot} :
    row ∈ activeRows db portfolioId ↔ (∃ id, db.taxLots.get? id = some row) ∧ row.portfolioId = portfolioId ∧ Active row := by
  rw [activeRows, List.mem_filter, Dict.mem_values_iff]
  simp [Active]

theorem active_iff (l : TaxLot) : Active l.toLotFields ↔ l.status ≠ .lotClosed := by
  rw [Active]
  cases l.status <;> simp

/-- The ids of the open lots are different. -/
theorem Synced.nodup_openLots {st : LedgerService × LedgerDb} (h : Synced st) :
    ((openLots st.1.taxLotEngine).map (·.lotId)).Nodup := by
  rw [openLots, List.map_flatMap, List.nodup_flatMap]
  constructor
  · intro symbol _
    exact (h.nodup symbol).sublist (List.filter_sublist.map _)
  · refine List.Pairwise.imp_of_mem ?_ st.1.taxLotEngine.lots.nodup
    intro symbol symbol' _ _ hne id hid hid'
    obtain ⟨l, hl, rfl⟩ := List.mem_map.1 hid
    obtain ⟨l', hl', heq⟩ := List.mem_map.1 hid'
    have hmem := (List.mem_filter.1 hl).1
    have hmem' := (List.mem_filter.1 hl').1
    have hrow := h.row symbol' l' hmem'
    rw [heq, h.row symbol l hmem, Option.some.injEq] at hrow
    have hsymbol := congrArg LotFields.symbol hrow
    rw [lotRow_symbol, lotRow_symbol, (h.symbol symbol l hmem).1, (h.symbol symbol' l' hmem').1] at hsymbol
    exact hne hsymbol

theorem Synced.nodup_activeRows {st : LedgerService × LedgerDb} (h : Synced st) :
    (activeRows st.2 st.1.portfolioId).Nodup := by
  have hkey : ∀ p ∈ st.2.taxLots.items, p.2.portfolioId = st.1.portfolioId ∧ Active p.2 → p.2.lotId = p.1 := by
    rintro ⟨id, row⟩ hp ⟨hid, hactive⟩
    have hrow := (Dict.mem_items_iff _ _ _).1 hp
    obtain ⟨symbol, l, hl, hlid⟩ := h.lot id row hrow hid hactive
    have hrow' := h.row symbol l hl
    rw [hlid, hrow, Option.some.injEq] at hrow'
    rw [← hlid, hrow']
    rfl
  have hfilter : activeRows st.2 st.1.portfolioId =
      (st.2.taxLots.items.filter (fun p => p.2.portfolioId = st.1.portfolioId ∧
        (p.2.status = .lotOpen ∨ p.2.status = .lotPartial))).map Prod.snd := by
    rw [activeRows, Dict.values, List.filter_map]
    rfl
  rw [hfilter]
  apply List.Nodup.of_map (·.lotId)
  rw [List.map_map]
  have hids : (st.2.taxLots.items.filter (fun p => p.2.portfolioId = st.1.portfolioId ∧
      (p.2.status = .lotOpen ∨ p.2.status = .lotPartial))).map ((·.lotId) ∘ Prod.snd) =
      (st.2.taxLots.items.filter (fun p => p.2.portfolioId = st.1.portfolioId ∧
        (p.2.status = .lotOpen ∨ p.2.status = .lotPartial))).map Prod.fst := by
    refine List.map_congr_left fun p hp => ?_
    obtain ⟨hmem, hactive⟩ := List.mem_filter.1 hp
    exact hkey p hmem (by simpa [Active] using hactive)
  rw [hids]
  exact st.2.taxLots.nodup.sublist (List.filter_sublist.map _)

/-- The rows of the open lots are the rows that are read back. -/
theorem Synced.openRows {st : LedgerService × LedgerDb} (h : Synced st) :
    ((openLots st.1.taxLotEngine).map (lotRow st.1.portfolioId)).Perm (activeRows st.2 st.1.portfolioId) := by
  have hnodup : ((openLots st.1.taxLotEngine).map (lotRow st.1.portfolioId)).Nodup := by
    refine List.Nodup.of_map (fun row : LotFields => row.lotId) ?_
    rw [List.map_map]
    exact h.nodup_openLots
  refine (List.perm_ext_iff_of_nodup hnodup h.nodup_activeRows).2 fun row => ?_
  rw [List.mem_map, mem_activeRows]
  constructor
  · rintro ⟨l, hl, rfl⟩
    obtain ⟨symbol, hl⟩ := mem_openLots.1 hl
    obtain ⟨hmem, ho⟩ := List.mem_filter.1 hl
    exact ⟨⟨l.lotId, h.row symbol l hmem⟩, rfl, (active_iff l).2 ((h.status symbol l hmem).1 ho)⟩
  · rintro ⟨⟨id, hrow⟩, hid, hactive⟩
    obtain ⟨symbol, l, hl, hlid⟩ := h.lot id row hrow hid hactive
    have hrow' := h.row symbol l hl
    rw [hlid, hrow, Option.some.injEq] at hrow'
    refine ⟨l, mem_openLots.2 ⟨symbol, List.mem_filter.2 ⟨hl, ?_⟩⟩, hrow'.symm⟩
    rw [hrow'] at hactive
    exact (h.status symbol l hl).2 ((active_iff l).1 hactive)

/-! ## Rehydration -/

/-- The rows of a symbol are those of its open lots. -/
theorem Synced.rowsOf {st : LedgerService × LedgerDb} (h : Synced st) (symbol : String) :
    ((activeRows st.2 st.1.portfolioId).filter (fun row => row.symbol = symbol)).Perm
      ((st.1.taxLotEngine.getOpenLots symbol).map (lotRow st.1.portfolioId)) := by
  have hnodup : ((st.1.taxLotEngine.getOpenLots symbol).map (lotRow st.1.portfolioId)).Nodup := by
    refine List.Nodup.of_map (fun row : LotFields => row.lotId) ?_
    rw [List.map_map]
    exact (h.nodup symbol).sublist (List.filter_sublist.map _)
  refine (List.perm_ext_iff_of_nodup (h.nodup_activeRows.filter _) hnodup).2 fun row => ?_
  rw [List.mem_filter, ← h.openRows.mem_iff, List.mem_map, List.mem_map]
  constructor
  · rintro ⟨⟨l, hl, rfl⟩, hsymbol⟩
    obtain ⟨symbol', hl⟩ := mem_openLots.1 hl
    have heq : l.symbol = symbol := of_decide_eq_true hsymbol
    rw [(h.symbol symbol' l (List.mem_filter.1 hl).1).1] at heq
    exact ⟨l, heq ▸ hl, rfl⟩
  · rintro ⟨l, hl, rfl⟩
    refine ⟨⟨l, mem_openLots.2 ⟨symbol, hl⟩, rfl⟩, decide_eq_true ?_⟩
    exact (h.symbol symbol l (List.mem_filter.1 hl).1).1

/-- An engine with the rows of some open lots has the position of these. -/
theorem getPosition_of_rows {e e' : TaxLotEngine} (he : e.WellFormed) {portfolioId symbol : String}
    (h : ((e'.lotsOf symbol).map (·.toLotFields)).Perm ((e.getOpenLots symbol).map (lotRow portfolioId))) :
    e'.getPosition symbol = e.getPosition symbol := by
  have hback : ∀ x ∈ e'.lotsOf symbol, ∃ l ∈ e.getOpenLots symbol, x.toLotFields = lotRow portfolioId l := by
    intro x hx
    obtain ⟨l, hl, heq⟩ := List.mem_map.1 (h.mem_iff.1 (List.mem_map_of_mem hx))
    exact ⟨l, hl, heq.symm⟩
  have hopen : e'.getOpenLots symbol = e'.lotsOf symbol := by
    refine List.filter_eq_self.2 fun x hx => ?_
    obtain ⟨l, hl, hfields⟩ := hback x hx
    have hrem := congrArg LotFields.remainingQuantity hfields
    rw [lotRow_remainingQuantity] at hrem
    have ho := (List.mem_filter.1 hl).2
    rw [TaxLot.isOpen] at ho ⊢
    rw [hrem]
    exact ho
  have hone : TaxLotEngine.OneSided (e'.lotsOf symbol) := by
    intro x hx y hy _ _
    obtain ⟨l, hl, hfields⟩ := hback x hx
    obtain ⟨l', hl', hfields'⟩ := hback y hy
    obtain ⟨hmem, ho⟩ := List.mem_filter.1 hl
    obtain ⟨hmem', ho'⟩ := List.mem_filter.1 hl'
    have hside := congrArg LotFields.side hfields
    have hside' := congrArg LotFields.side hfields'
    rw [lotRow_side] at hside hside'
    rw [hside, hside']
    exact he symbol l hmem l' hmem' ho ho'
  have hheld : heldRows ((e.getOpenLots symbol).map (lotRow portfolioId)) = held (e.getOpenLots symbol) := by
    rw [heldRows_lots, heldRows, heldRows, List.map_map, List.map_map]
    rfl
  rw [TaxLotEngine.getPosition_eq_held_open hone, hopen, heldRows_lots, heldRows_perm h, hheld,
    TaxLotEngine.getPosition_eq_held_open (he symbol)]

/-- A service that reads the database back has the positions of the engine, and returns them. -/
theorem Synced.rehydrated {st : LedgerService × LedgerDb} (h : Synced st) {svc : LedgerService}
    (hid : svc.portfolioId = st.1.portfolioId) {prices : Dict String ℚ} (hp : ValidPrices prices) {faults : SessionFaults}
    (hquery : ∀ n, faults.query n = none) (hcommit : ∀ n, faults.commit n = none) :
    ∃ state svc' db', svc.initializeOrRehydrate st.2 prices faults = (.ok state, svc', db') ∧
      ∀ symbol, state.positions.getD symbol 0 = st.1.taxLotEngine.getPosition symbol ∧
        svc'.taxLotEngine.getPosition symbol = st.1.taxLotEngine.getPosition symbol := by
  have hrows : ∀ row ∈ activeRows st.2 svc.portfolioId, row.symbol ≠ "" ∧ ∃ l : TaxLot, row = lotRow svc.portfolioId l := by
    rw [hid]
    intro row hrow
    obtain ⟨l, hl, rfl⟩ := List.mem_map.1 (h.openRows.mem_iff.2 hrow)
    obtain ⟨symbol, hl⟩ := mem_openLots.1 hl
    obtain ⟨hsymbol, hne⟩ := h.symbol symbol l (List.mem_filter.1 hl).1
    exact ⟨fun hempty => hne (hsymbol.symm.trans hempty), l, rfl⟩
  obtain ⟨state, svc', db', hok, hpositions, hlots⟩ := initializeOrRehydrate_ok hquery hcommit hp hrows
  have hposition : ∀ symbol, svc'.taxLotEngine.getPosition symbol = st.1.taxLotEngine.getPosition symbol := by
    intro symbol
    have hperm := hlots symbol
    rw [hid] at hperm
    exact getPosition_of_rows h.wellFormed (hperm.trans (h.rowsOf symbol))
  refine ⟨state, svc', db', hok, fun symbol => ⟨?_, hposition symbol⟩⟩
  rw [hpositions, openPositions_getD, hposition]

/-- In a run of fills from an empty engine and a database without rows to read back, whose calls all meet their condition, the
open lots are the rows that are read back, and a service that reads them back has the same positions. -/
theorem ledgerSync_of_run {st₀ st : LedgerService × LedgerDb} (hlots : st₀.1.taxLotEngine.lots = ∅)
    (hrows : activeRows st₀.2 st₀.1.portfolioId = []) (hrun : Run (stepOf LedgerService.fillStep) KeepsSync st₀ st) :
    ((openLots st.1.taxLotEngine).map (lotRow st.1.portfolioId)).Perm (activeRows st.2 st.1.portfolioId) ∧
      ∀ (svc : LedgerService) (prices : Dict String ℚ) (faults : SessionFaults), svc.portfolioId = st.1.portfolioId →
        ValidPrices prices → (∀ n, faults.query n = none) → (∀ n, faults.commit n = none) →
        ∃ state svc' db', svc.initializeOrRehydrate st.2 prices faults = (.ok state, svc', db') ∧
          ∀ symbol, state.positions.getD symbol 0 = st.1.taxLotEngine.getPosition symbol ∧
            svc'.taxLotEngine.getPosition symbol = st.1.taxLotEngine.getPosition symbol := by
  have hsync : Synced st := by
    refine hrun.invariant (fun t c u ht hc hs => ?_) (synced_of_empty hlots hrows)
    rw [hs]
    exact ht.fillStep hc
  exact ⟨hsync.openRows, fun svc prices faults hid hp hquery hcommit => hsync.rehydrated hid hp hquery hcommit⟩

/-! ## A fill whose commit fails -/

/-- One share bought, and the commit fails. -/
def lostFill : FillCall :=
  { oneShare "BUY" 100 0 "0" with faults := { commit := fun _ => some ⟨.databaseError, "disk I/O error", []⟩ } }

/-- The lot is open in the engine, and no row of it is in the database. -/
theorem ledgerSync_lostFill :
    deskService.taxLotEngine.lots = ∅ ∧ activeRows deskDb deskService.portfolioId = [] ∧
    ¬ ((openLots (LedgerService.fillStep (deskService, deskDb) lostFill).1.taxLotEngine).map (lotRow "default_portfolio")).Perm
      (activeRows (LedgerService.fillStep (deskService, deskDb) lostFill).2 "default_portfolio") := by
  refine ⟨by decide, by decide, fun hperm => ?_⟩
  have hlength := hperm.length_eq
  revert hlength
  decide +kernel

/-! ### A purchase, a partial sale and a refused call -/

/-- What the engine returns for a fill. -/
def allocated (st : LedgerService × LedgerDb) (c : FillCall) : FillAllocationResult :=
  (st.1.taxLotEngine.allocateFill c.args c.entropy).1.toOption.getD
    { allocatedTrades := [], newOpenLots := [], depletedLots := [], totalRealizedPnl := 0, remainingPosition := 0 }

/-- A fill that opens a position, or closes no more than there is of it, and is written meets every condition. -/
theorem keepsSync_of_lands {st : LedgerService × LedgerDb} {c : FillCall}
    (hclosing : st.1.taxLotEngine.getPosition c.symbol = 0 ∨ c.quantity ≤ |st.1.taxLotEngine.getPosition c.symbol|)
    (hquantity : lotEpsilon < c.quantity) (hok : (st.1.taxLotEngine.allocateFill c.args c.entropy).1.isOk = true)
    (hlands : Lands st.1.portfolioId st.2 c (allocated st c)) : KeepsSync st c := by
  refine ⟨fun s h => ?_, fun s _ _ => hquantity, fun res e' h => ?_⟩
  · have hflip := h.refused.1
    have hpos := h.closing
    change lotEpsilon < c.quantity - |st.1.taxLotEngine.getPosition c.symbol| at hflip
    change s = .buy ∧ st.1.taxLotEngine.getPosition c.symbol < 0 ∨ s = .sell ∧ 0 < st.1.taxLotEngine.getPosition c.symbol at hpos
    rcases hclosing with hzero | hle
    · rw [hzero] at hpos
      rcases hpos with ⟨-, hlt⟩ | ⟨-, hlt⟩ <;> exact absurd hlt (lt_irrefl 0)
    · linarith [lotEpsilon_pos]
  · obtain ⟨res', hres⟩ := exists_of_isOk hok
    rw [allocated, hres] at hlands
    rw [h] at hres
    cases hres
    exact hlands

/-- A fill at a price that is not positive is refused, and nothing is written. -/
theorem keepsSync_of_price {st : LedgerService × LedgerDb} {c : FillCall} (hprice : c.executionPrice ≤ 0)
    (hquantity : lotEpsilon < c.quantity) : KeepsSync st c := by
  refine ⟨fun s h => absurd h.executionPrice_pos (not_lt.2 hprice), fun s _ _ => hquantity, fun res e' h => ?_⟩
  have hargs : c.args.executionPrice ≤ 0 := hprice
  unfold TaxLotEngine.allocateFill at h
  split_ifs at h <;> cases congrArg Prod.fst h

/-- Two shares bought, one of them sold, and a purchase at a price of zero. -/
def twoShares : FillCall := { oneShare "BUY" 100 0 "0" with quantity := 2 }

def partialSale : FillCall := oneShare "SELL" 120 1 "1"

def unpriced : FillCall := oneShare "BUY" 0 2 "2"

/-- The service and the database with the shares, and with what is left of them. -/
def sharesBought : LedgerService × LedgerDb := LedgerService.fillStep (deskService, deskDb) twoShares

def shareLeft : LedgerService × LedgerDb := LedgerService.fillStep sharesBought partialSale

theorem keepsSync_twoShares : KeepsSync (deskService, deskDb) twoShares := by
  refine keepsSync_of_lands (.inl (by decide +kernel)) (by decide +kernel) (by decide +kernel)
    ⟨fun n _ => rfl, rfl, ?_, ?_, ?_, ?_⟩
  all_goals decide +kernel

theorem keepsSync_partialSale : KeepsSync sharesBought partialSale := by
  refine keepsSync_of_lands (.inr (by decide +kernel)) (by decide +kernel) (by decide +kernel)
    ⟨fun n _ => rfl, rfl, ?_, ?_, ?_, ?_⟩
  all_goals decide +kernel

/-- One share is left, in the engine as in the rows that are read back. -/
theorem ledgerSync_of_run_shareLeft :
    ∃ st : LedgerService × LedgerDb, st = LedgerService.fillStep shareLeft unpriced ∧
      ((openLots st.1.taxLotEngine).map (lotRow st.1.portfolioId)).Perm (activeRows st.2 st.1.portfolioId) ∧
      ∃ state svc' db', deskService.initializeOrRehydrate st.2 ∅ {} = (.ok state, svc', db') ∧
        state.positions.getD "AAPL" 0 = 1 ∧ svc'.taxLotEngine.getPosition "AAPL" = 1 := by
  have hrun : Run (stepOf LedgerService.fillStep) KeepsSync (deskService, deskDb) (LedgerService.fillStep shareLeft unpriced) :=
    ((Run.refl.tail keepsSync_twoShares rfl).tail keepsSync_partialSale rfl).tail
      (keepsSync_of_price (c := unpriced) (le_refl 0) (by decide +kernel)) rfl
  obtain ⟨hperm, hread⟩ := ledgerSync_of_run (by decide) (by decide) hrun
  obtain ⟨state, svc', db', hok, hpositions⟩ := hread deskService ∅ {} (by decide +kernel) (by rintro symbol price ⟨⟩)
    (fun n => rfl) (fun n => rfl)
  have hleft : (LedgerService.fillStep shareLeft unpriced).1.taxLotEngine.getPosition "AAPL" = 1 := by decide +kernel
  exact ⟨_, rfl, hperm, state, svc', db', hok, (hpositions "AAPL").1.trans hleft, (hpositions "AAPL").2.trans hleft⟩

end LedgerService

end Quant
