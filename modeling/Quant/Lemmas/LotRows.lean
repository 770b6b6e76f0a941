import Quant.Lemmas.Ledger

/-!
# Lots and their rows

What a returned fill does to the lots of its symbol, place by place, and what writing it does to the table of lots, row by row: a
row takes over what a lot has left, and a new lot gets a row of its own.
-/

namespace Quant

open Pylib

/-! ## The table of lots -/

@[simp]
theorem lotRow_symbol (portfolioId : String) (l : TaxLot) : (lotRow portfolioId l).symbol = l.symbol := rfl

@[simp]
theorem lotRow_side (portfolioId : String) (l : TaxLot) : (lotRow portfolioId l).side = l.side := rfl

@[simp]
theorem lotRow_remainingQuantity (portfolioId : String) (l : TaxLot) :
    (lotRow portfolioId l).remainingQuantity = l.remainingQuantity := rfl

/-- A row after a lot was written over it. -/
def LotFields.takeOver (row : LotFields) (l : TaxLot) : LotFields :=
  { row with remainingQuantity := l.remainingQuantity, status := l.status }

theorem updateLot_eq (rows : Dict String DBTaxLot) (l : TaxLot) :
    updateLot rows l = (rows.get? l.lotId).elim rows (fun row => rows.set l.lotId (row.takeOver l)) := by
  unfold updateLot
  cases rows.get? l.lotId <;> rfl

/-- Each row goes through the lots of its own id. -/
theorem get?_updateLots (ls : List TaxLot) (rows : Dict String DBTaxLot) (id : String) :
    (ls.foldl updateLot rows).get? id =
      (rows.get? id).map (fun row => ls.foldl (fun row l => if l.lotId = id then row.takeOver l else row) row) := by
  have hfold : updateLot = fun rows l => (rows.get? l.lotId).elim rows (fun row => rows.set l.lotId (row.takeOver l)) := by
    funext rows l
    exact updateLot_eq rows l
  rw [hfold]
  exact Dict.get?_foldl_update (fun l : TaxLot => l.lotId) (fun l row => LotFields.takeOver row l) ls rows id

/-- A row that no lot is written over stays. -/
theorem takeOver_none {id : String} {ls : List TaxLot} (h : ∀ l ∈ ls, l.lotId ≠ id) (row : LotFields) :
    ls.foldl (fun row l => if l.lotId = id then row.takeOver l else row) row = row := by
  induction ls with
  | nil => rfl
  | cons l ls ih =>
    rw [List.forall_mem_cons] at h
    rw [List.foldl_cons, if_neg h.1]
    exact ih h.2

/-- A row that one lot is written over, once or more often. -/
theorem takeOver_one {id : String} {ls : List TaxLot} {l : TaxLot} (hsame : ∀ x ∈ ls, x.lotId = id → x = l)
    (hmem : l ∈ ls) (hid : l.lotId = id) (row : LotFields) :
    ls.foldl (fun row l => if l.lotId = id then row.takeOver l else row) row = row.takeOver l := by
  induction ls generalizing row with
  | nil => simp at hmem
  | cons x ls ih =>
    rw [List.forall_mem_cons] at hsame
    rw [List.foldl_cons]
    by_cases hx : x.lotId = id
    · rw [if_pos hx, hsame.1 hx]
      by_cases hl : l ∈ ls
      · rw [ih hsame.2 hl]
        rfl
      · refine takeOver_none (fun y hy hyid => hl ?_) _
        rw [← hsame.2 y hy hyid]
        exact hy
    · rw [if_neg hx]
      rcases List.mem_cons.1 hmem with rfl | hl
      · exact absurd hid hx
      · exact ih hsame.2 hl row

section Insert

variable {κ ν : Type} [DecidableEq κ] {table : String} {key : ν → κ}

/-- Rows that were inserted had new keys; nothing else changed. -/
theorem insertRows_ok {rows : List ν} {d d' : Dict κ ν} (h : insertRows table key rows d = .ok d') :
    (∀ r ∈ rows, d.get? (key r) = none) ∧ ∀ k v, d'.get? k = some v ↔ v ∈ rows ∧ key v = k ∨ d.get? k = some v := by
  induction rows generalizing d with
  | nil =>
    cases h
    simp
  | cons r rows ih =>
    rw [insertRows] at h
    split at h
    · cases h
    · rename_i hcontains
      have hnone : d.get? (key r) = none := by simpa [Dict.contains] using hcontains
      obtain ⟨hfresh, hget⟩ := ih h
      refine ⟨?_, fun k v => ?_⟩
      · rw [List.forall_mem_cons]
        refine ⟨hnone, fun r' hr' => ?_⟩
        have hset := hfresh r' hr'
        rw [Dict.get?_set] at hset
        split at hset
        · cases hset
        · exact hset
      · rw [hget, Dict.get?_set, List.mem_cons]
        by_cases hk : k = key r
        · rw [if_pos hk, hk, hnone, Option.some.injEq]
          constructor
          · rintro (⟨hv, heq⟩ | rfl)
            · exact .inl ⟨.inr hv, heq⟩
            · exact .inl ⟨.inl rfl, rfl⟩
          · rintro (⟨rfl | hv, heq⟩ | hsome)
            · exact .inr rfl
            · exact .inl ⟨hv, heq⟩
            · cases hsome
        · rw [if_neg hk]
          constructor
          · rintro (⟨hv, heq⟩ | hsome)
            · exact .inl ⟨.inr hv, heq⟩
            · exact .inr hsome
          · rintro (⟨rfl | hv, heq⟩ | hsome)
            · exact absurd heq.symm hk
            · exact .inl ⟨hv, heq⟩
            · exact .inr hsome

/-- Rows of different new keys can be inserted. -/
theorem insertRows_of_fresh {rows : List ν} {d : Dict κ ν} (hfresh : ∀ r ∈ rows, d.contains (key r) = false)
    (hnodup : (rows.map key).Nodup) : ∃ d', insertRows table key rows d = .ok d' := by
  induction rows generalizing d with
  | nil => exact ⟨d, rfl⟩
  | cons r rows ih =>
    rw [List.forall_mem_cons] at hfresh
    rw [List.map_cons, List.nodup_cons] at hnodup
    rw [insertRows, hfresh.1]
    refine ih (fun r' hr' => ?_) hnodup.2
    have hne : key r' ≠ key r := fun heq => hnodup.1 (heq ▸ List.mem_map_of_mem hr')
    have hold := hfresh.2 r' hr'
    rw [Dict.contains] at hold ⊢
    rw [Dict.get?_set_of_ne d r hne]
    exact hold

end Insert

/-! ## The lots of a symbol -/

/-- A lot that a fill took from: the lot as it was, except for what it has left and its status, which go together. -/
structure Kept (l l' : TaxLot) : Prop where
  fields : l'.toLotFields = l.toLotFields.takeOver l'
  status : l'.isOpen = true ↔ l'.status ≠ .lotClosed

theorem kept_deplete (l : TaxLot) (r : ℚ) : Kept l (l.deplete r) := by
  unfold TaxLot.deplete
  split
  · refine ⟨rfl, ?_⟩
    have hpos := lotEpsilon_pos
    simp [TaxLot.isOpen, hpos.le]
  · rename_i hrem
    refine ⟨rfl, ?_⟩
    simp [TaxLot.isOpen, not_le.1 hrem]

/-- The lots after a fill took from those at some places. -/
structure Depleted (ls mid : List TaxLot) (D : List ℕ) : Prop where
  length : mid.length = ls.length
  inside : ∀ j ∈ D, j < ls.length
  lot : ∀ j l l', ls[j]? = some l → mid[j]? = some l' → j ∈ D ∧ Kept l l' ∨ j ∉ D ∧ l' = l

theorem Depleted.refl (ls : List TaxLot) : Depleted ls ls [] := by
  refine ⟨rfl, by simp, fun j l l' hl hl' => .inr ⟨by simp, ?_⟩⟩
  rw [hl] at hl'
  exact (Option.some.inj hl').symm

namespace TaxLotEngine

/-- The loop takes from places of the lots it runs over. -/
theorem matchLots_depleted (e : TaxLotEngine) (a : FillArgs) (t : Instant) (rnd : Entropy) (S : List (TaxLot × ℕ))
    (ms : MatchState)
    (hS : Places ms.lots S) :
    ∃ D, (matchLots e a t rnd S ms).depleted = ms.depleted ++ D ∧ (∀ j ∈ D, j ∈ S.map Prod.snd) ∧
      Depleted ms.lots (matchLots e a t rnd S ms).lots D := by
  induction S generalizing ms with
  | nil => exact ⟨[], by simp [matchLots], by simp, Depleted.refl ms.lots⟩
  | cons p ps ih =>
    by_cases hr : ms.remainingFill ≤ lotEpsilon
    · rw [matchLots, if_pos hr]
      exact ⟨[], by simp, by simp, Depleted.refl ms.lots⟩
    · rw [matchLots, if_neg hr]
      obtain ⟨D, hD, hsub, hdep⟩ := ih (matchLot e a t rnd ms p) (hS.tail e a t rnd)
      have hp := hS.2 p List.mem_cons_self
      have hlt : p.2 < ms.lots.length := (List.getElem?_eq_some_iff.1 hp).1
      have hlen : (matchLot e a t rnd ms p).lots.length = ms.lots.length := List.length_set
      have hnot : p.2 ∉ D := by
        intro hmem
        have hn := hS.1
        rw [List.map_cons, List.nodup_cons] at hn
        exact hn.1 (hsub _ hmem)
      refine ⟨p.2 :: D, ?_, ?_, hdep.length.trans hlen, ?_, ?_⟩
      · rw [hD]
        simp [matchLot]
      · intro j hj
        rw [List.map_cons]
        rcases List.mem_cons.1 hj with rfl | hj
        · exact List.mem_cons_self
        · exact List.mem_cons_of_mem _ (hsub j hj)
      · intro j hj
        rcases List.mem_cons.1 hj with rfl | hj
        · exact hlt
        · rw [← hlen]
          exact hdep.inside j hj
      · intro j l l' hl hl'
        by_cases hj : p.2 = j
        · -- the place of this turn, which the rest of the loop leaves alone
          rw [← hj] at hl hl' ⊢
          have hset : (matchLot e a t rnd ms p).lots[p.2]? = some (p.1.deplete ms.remainingFill) := List.getElem?_set_self hlt
          rcases hdep.lot p.2 _ l' hset hl' with ⟨hmem, -⟩ | ⟨-, heq⟩
          · exact absurd hmem hnot
          · rw [hp] at hl
            cases hl
            rw [heq]
            exact .inl ⟨List.mem_cons_self, kept_deplete p.1 _⟩
        · have hset : (matchLot e a t rnd ms p).lots[j]? = some l := by
            rw [← hl]
            exact List.getElem?_set_ne hj
          rcases hdep.lot j l l' hset hl' with ⟨hmem, hkept⟩ | ⟨hmem, heq⟩
          · exact .inl ⟨List.mem_cons_of_mem _ hmem, hkept⟩
          · refine .inr ⟨?_, heq⟩
            rw [List.mem_cons, not_or]
            exact ⟨Ne.symm hj, hmem⟩

theorem matched_depleted (e : TaxLotEngine) (a : FillArgs) (t : Instant) (rnd : Entropy) :
    Depleted (e.lotsOf a.symbol) (e.matched a t rnd).lots (e.matched a t rnd).depleted := by
  obtain ⟨D, hD, -, hdep⟩ := matchLots_depleted e a t rnd _ (e.startMatch a) (sortedLots_places e a.symbol _)
  have hstart : (e.matched a t rnd).depleted = D := by
    rw [matched, hD]
    rfl
  rw [hstart]
  exact hdep

end TaxLotEngine

namespace Depleted

variable {ls mid : List TaxLot} {D : List ℕ}

/-- A place of the lots after the fill: the lot that was there, or what is kept of it. -/
theorem before (h : Depleted ls mid D) {j : ℕ} {l' : TaxLot} (hl' : mid[j]? = some l') :
    ∃ l, ls[j]? = some l ∧ (j ∈ D ∧ Kept l l' ∨ j ∉ D ∧ l' = l) := by
  have hlt : j < ls.length := by
    rw [← h.length]
    exact (List.getElem?_eq_some_iff.1 hl').1
  exact ⟨ls[j], List.getElem?_eq_getElem hlt, h.lot j _ l' (List.getElem?_eq_getElem hlt) hl'⟩

/-- A lot after the fill is one that was there, or what is kept of it. -/
theorem mem_before (h : Depleted ls mid D) {l' : TaxLot} (hl' : l' ∈ mid) : ∃ l ∈ ls, Kept l l' ∨ l' = l := by
  obtain ⟨j, hj⟩ := List.mem_iff_getElem?.1 hl'
  obtain ⟨l, hl, hkept⟩ := h.before hj
  exact ⟨l, List.mem_of_getElem? hl, hkept.imp And.right And.right⟩

/-- The lots keep their ids. -/
theorem ids (h : Depleted ls mid D) : mid.map (·.lotId) = ls.map (·.lotId) := by
  refine List.ext_getElem? fun j => ?_
  rw [List.getElem?_map, List.getElem?_map]
  cases hl' : mid[j]? with
  | none =>
    have hle : ls.length ≤ j := by
      rw [← h.length]
      exact List.getElem?_eq_none_iff.1 hl'
    rw [List.getElem?_eq_none hle]
  | some l' =>
    obtain ⟨l, hl, ⟨-, hkept⟩ | ⟨-, rfl⟩⟩ := h.before hl'
    · rw [hl, Option.map_some, Option.map_some, hkept.fields]
      rfl
    · rw [hl]

/-- A listed lot is what is kept of a lot at one of the places. -/
theorem mem_listed (h : Depleted ls mid D) {new : List TaxLot} {x : TaxLot}
    (hx : x ∈ D.filterMap (fun i => (mid ++ new)[i]?)) : ∃ j l, j ∈ D ∧ ls[j]? = some l ∧ mid[j]? = some x ∧ Kept l x := by
  obtain ⟨j, hj, hget⟩ := List.mem_filterMap.1 hx
  have hlt : j < mid.length := by
    rw [h.length]
    exact h.inside j hj
  rw [List.getElem?_append_left hlt] at hget
  obtain ⟨l, hl, ⟨-, hkept⟩ | ⟨hnot, -⟩⟩ := h.before hget
  · exact ⟨j, l, hj, hl, hget, hkept⟩
  · exact absurd hj hnot

theorem listed_mem (h : Depleted ls mid D) (new : List TaxLot) {j : ℕ} (hj : j ∈ D) {x : TaxLot} (hx : mid[j]? = some x) :
    x ∈ D.filterMap (fun i => (mid ++ new)[i]?) := by
  refine List.mem_filterMap.2 ⟨j, hj, ?_⟩
  have hlt : j < mid.length := by
    rw [h.length]
    exact h.inside j hj
  rw [List.getElem?_append_left hlt, hx]

end Depleted

namespace TaxLotEngine

/-- What a returned call did to the lots: it took from some of its symbol's, listed these, and opened at most one. -/
structure LotMoves (e : TaxLotEngine) (a : FillArgs) (s : FillSide) (res : FillAllocationResult) (e' : TaxLotEngine)
    (mid : List TaxLot) (D : List ℕ) : Prop where
  depleted : Depleted (e.lotsOf a.symbol) mid D
  lots : e'.lotsOf a.symbol = mid ++ res.newOpenLots
  others : ∀ symbol, symbol ≠ a.symbol → e'.lotsOf symbol = e.lotsOf symbol
  listed : res.depletedLots = D.filterMap (fun i => (mid ++ res.newOpenLots)[i]?)
  atMostOne : res.newOpenLots.length ≤ 1
  opened : ∀ l ∈ res.newOpenLots, l.symbol = a.symbol ∧ l.status = .lotOpen ∧
    (isIncreasing s (e.getPosition a.symbol) = true ∧ l.remainingQuantity = a.quantity ∨ lotEpsilon < l.remainingQuantity)

section LotMoves

variable {e e' : TaxLotEngine} {a : FillArgs} {s : FillSide} {res : FillAllocationResult} {mid : List TaxLot} {D : List ℕ}

/-- A lot of the engine after the call: of another symbol, one it had before; of the symbol, one left or the one opened. -/
theorem LotMoves.mem_cases (h : LotMoves e a s res e' mid D) {symbol : String} {l : TaxLot} (hl : l ∈ e'.lotsOf symbol) :
    symbol ≠ a.symbol ∧ l ∈ e.lotsOf symbol ∨ symbol = a.symbol ∧ (l ∈ mid ∨ l ∈ res.newOpenLots) := by
  by_cases hs : symbol = a.symbol
  · rw [hs, h.lots, List.mem_append] at hl
    exact .inr ⟨hs, hl⟩
  · rw [h.others symbol hs] at hl
    exact .inl ⟨hs, hl⟩

theorem LotMoves.mem_of_left (h : LotMoves e a s res e' mid D) {l : TaxLot} (hl : l ∈ mid) : l ∈ e'.lotsOf a.symbol := by
  rw [h.lots]
  exact List.mem_append_left _ hl

theorem LotMoves.mem_of_opened (h : LotMoves e a s res e' mid D) {l : TaxLot} (hl : l ∈ res.newOpenLots) :
    l ∈ e'.lotsOf a.symbol := by
  rw [h.lots]
  exact List.mem_append_right _ hl

/-- No lot is lost: its id is that of a lot after the call. -/
theorem LotMoves.exists_id (h : LotMoves e a s res e' mid D) {symbol : String} {l : TaxLot} (hl : l ∈ e.lotsOf symbol) :
    ∃ l' ∈ e'.lotsOf symbol, l'.lotId = l.lotId := by
  by_cases hs : symbol = a.symbol
  · subst hs
    have hmem : l.lotId ∈ mid.map (·.lotId) := by
      rw [h.depleted.ids]
      exact List.mem_map_of_mem hl
    obtain ⟨l', hl', hid⟩ := List.mem_map.1 hmem
    exact ⟨l', h.mem_of_left hl', hid⟩
  · exact ⟨l, by rwa [h.others symbol hs], rfl⟩

end LotMoves

/-- A lot of a quantity of six decimals is not negligible. -/
theorem lotEpsilon_lt_of_rounded {l : TaxLot} {x : ℚ} (horiginal : l.originalQuantity = round x 6)
    (hrem : l.remainingQuantity = round x 6) : lotEpsilon < l.remainingQuantity := by
  have hpos := l.originalQuantity_pos
  have hunit := (hasDecimals_round x 6).le_abs (by rw [← horiginal]; exact hpos.ne')
  rw [← horiginal, abs_of_pos hpos, horiginal, ← hrem] at hunit
  refine lt_of_lt_of_le ?_ hunit
  norm_num [lotEpsilon]

theorem Allocated.lotMoves {e e' : TaxLotEngine} {a : FillArgs} {s : FillSide} {t : Instant} {rnd : Entropy}
    {res : FillAllocationResult} (h : Allocated e a s t rnd res e') : ∃ mid D, LotMoves e a s res e' mid D := by
  have hothers : ∀ ls symbol, symbol ≠ a.symbol → (e.withLots a.symbol ls).lotsOf symbol = e.lotsOf symbol :=
    fun ls symbol hne => lotsOf_withLots_of_ne e ls hne
  cases h with
  | opened l hs hl =>
    refine ⟨e.lotsOf a.symbol, [], Depleted.refl _, lotsOf_withLots_self e _ _, hothers _, by simp [result], by simp [result], ?_⟩
    intro x hx
    rw [List.mem_singleton.1 hx]
    exact ⟨congrArg LotFields.symbol hl, congrArg LotFields.status hl, .inl ⟨hs, congrArg LotFields.remainingQuantity hl⟩⟩
  | closed hs hf hrem =>
    refine ⟨(e.matched a t rnd).lots, (e.matched a t rnd).depleted, matched_depleted e a t rnd, ?_, hothers _, ?_,
      by simp [result],
      by simp [result]⟩
    · rw [lotsOf_withLots_self, result, List.append_nil]
    · rw [result, lotsOf_withLots_self, List.append_nil]
  | flipped l hs hf hrem hl =>
    refine ⟨(e.matched a t rnd).lots, (e.matched a t rnd).depleted, matched_depleted e a t rnd, lotsOf_withLots_self e _ _,
      hothers _, ?_, by simp [result], ?_⟩
    · rw [result, lotsOf_withLots_self]
    · intro x hx
      rw [List.mem_singleton.1 hx]
      exact ⟨congrArg LotFields.symbol hl, congrArg LotFields.status hl,
        .inr (lotEpsilon_lt_of_rounded (congrArg LotFields.originalQuantity hl) (congrArg LotFields.remainingQuantity hl))⟩

/-- What a returned call did to the lots, from the engine it was made on. -/
theorem allocateFill_lotMoves {e e' : TaxLotEngine} {a : FillArgs} {rnd : Entropy} {res : FillAllocationResult}
    (h : e.allocateFill a rnd = (.ok res, e')) :
    ∃ s mid D, a.symbol ≠ "" ∧ FillSide.parse a.side = some s ∧ LotMoves e a s res e' mid D := by
  obtain ⟨s, hsym, -, -, hside, halloc, -⟩ := allocateFill_ok h
  obtain ⟨mid, D, hmoves⟩ := halloc.lotMoves
  have hpos : (e.touch a.symbol).getPosition a.symbol = e.getPosition a.symbol := getPosition_congr (lotsOf_touch e _ _)
  refine ⟨s, mid, D, hsym, hside, ?_, hmoves.lots, fun symbol hne => ?_, hmoves.listed, hmoves.atMostOne, ?_⟩
  · rw [← lotsOf_touch e a.symbol]
    exact hmoves.depleted
  · rw [hmoves.others symbol hne, lotsOf_touch]
  · rw [← hpos]
    exact hmoves.opened

end TaxLotEngine

end Quant
