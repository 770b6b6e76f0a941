import Mathlib.Algebra.Order.BigOperators.Group.List
import Mathlib.Tactic.Linarith
import Quant.Execution.TaxLot

/-!
# Helpers for the tax-lot engine: what the matching loop does, and when the inventory verifies

The loop runs over the open lots with their places (`Places`). `matchLots_remaining_of_over` and
`matchLots_remaining_of_not_over` say what is left of the fill; the other lemmas say what is left of the lots. An engine is
well-formed when the open lots of each symbol are on one side, which is what `verify_inventory_conservation` checks
(`verify_eq_ok_iff`) and what every call keeps (`wellFormed_allocateFill`).
-/

namespace Quant

open Pylib

theorem lotEpsilon_pos : 0 < lotEpsilon := by
  unfold lotEpsilon
  positivity

namespace TaxLot

theorem deplete_side (l : TaxLot) (r : ℚ) : (l.deplete r).side = l.side := by
  unfold deplete
  split <;> rfl

/-- A fill at least as large as a lot closes it. -/
theorem deplete_of_le (l : TaxLot) {r : ℚ} (h : l.remainingQuantity ≤ r) : (l.deplete r).remainingQuantity = 0 := by
  have hq : l.remainingQuantity - l.matchQty r ≤ lotEpsilon := by
    rw [matchQty, min_eq_left h, sub_self]
    exact lotEpsilon_pos.le
  unfold deplete
  rw [if_pos hq]

theorem deplete_le (l : TaxLot) {r : ℚ} (h : 0 ≤ r) : (l.deplete r).remainingQuantity ≤ l.remainingQuantity := by
  unfold deplete
  split
  · exact l.remainingQuantity_nonneg
  · have hm : 0 ≤ l.matchQty r := le_min l.remainingQuantity_nonneg h
    simp only
    linarith

/-- A fill that is not negligible changes an open lot. -/
theorem deplete_ne (l : TaxLot) {r : ℚ} (ho : l.isOpen = true) (h : lotEpsilon < r) : l.deplete r ≠ l := by
  intro he
  have ho' : lotEpsilon < l.remainingQuantity := by simpa [isOpen] using ho
  have hr : (l.deplete r).remainingQuantity = l.remainingQuantity := by rw [he]
  unfold deplete at hr
  split at hr
  · simp only at hr
    have := lotEpsilon_pos
    linarith
  · have hm : 0 < l.matchQty r := lt_min (lotEpsilon_pos.trans ho') (lotEpsilon_pos.trans h)
    simp only at hr
    linarith

end TaxLot

namespace TaxLotEngine

/-! ## The matching loop -/

/-- The lots of a list with their places in it, each place once. -/
def Places (ls : List TaxLot) (S : List (TaxLot × ℕ)) : Prop :=
  (S.map Prod.snd).Nodup ∧ ∀ p ∈ S, ls[p.2]? = some p.1

/-- The quantity left in the lots of a list. -/
def total (S : List (TaxLot × ℕ)) : ℚ := (S.map (fun p => p.1.remainingQuantity)).sum

theorem total_nonneg (S : List (TaxLot × ℕ)) : 0 ≤ total S := by
  apply List.sum_nonneg
  intro x hx
  obtain ⟨p, -, rfl⟩ := List.mem_map.1 hx
  exact p.1.remainingQuantity_nonneg

section Loop

variable (e : TaxLotEngine) (a : FillArgs) (fillTime : Instant) (rnd : Entropy)

/-- Matching the lot at one place leaves the other places as they were. -/
theorem Places.tail {ms : MatchState} {p : TaxLot × ℕ} {ps : List (TaxLot × ℕ)} (h : Places ms.lots (p :: ps)) :
    Places (matchLot e a fillTime rnd ms p).lots ps := by
  obtain ⟨hn, hS⟩ := h
  rw [List.map_cons, List.nodup_cons] at hn
  refine ⟨hn.2, fun q hq => ?_⟩
  have hne : p.2 ≠ q.2 := fun heq => hn.1 (heq ▸ List.mem_map_of_mem hq)
  simp only [matchLot]
  rw [List.getElem?_set_ne hne]
  exact hS q (List.mem_cons_of_mem p hq)

/-- With nothing left to match the loop does nothing. -/
theorem matchLots_of_le (S : List (TaxLot × ℕ)) {ms : MatchState} (h : ms.remainingFill ≤ lotEpsilon) :
    matchLots e a fillTime rnd S ms = ms := by
  cases S with
  | nil => rfl
  | cons p ps => rw [matchLots, if_pos h]

/-- A fill larger than all the lots: what they cannot take is left of it. -/
theorem matchLots_remaining_of_over (S : List (TaxLot × ℕ)) (ms : MatchState)
    (h : lotEpsilon < ms.remainingFill - total S) :
    (matchLots e a fillTime rnd S ms).remainingFill = ms.remainingFill - total S := by
  induction S generalizing ms with
  | nil => simp [matchLots, total]
  | cons p ps ih =>
    have ht : total (p :: ps) = p.1.remainingQuantity + total ps := by simp [total]
    have h0 := total_nonneg ps
    have hp := p.1.remainingQuantity_nonneg
    have hr : ¬ ms.remainingFill ≤ lotEpsilon := by linarith
    have hq : p.1.matchQty ms.remainingFill = p.1.remainingQuantity :=
      min_eq_left (by linarith [lotEpsilon_pos])
    have hm : (matchLot e a fillTime rnd ms p).remainingFill = ms.remainingFill - p.1.remainingQuantity := by
      simp [matchLot, hq]
    rw [matchLots, if_neg hr, ih _ (by rw [hm]; linarith), hm, ht]
    ring

/-- A fill the lots can take: nothing is left of it. -/
theorem matchLots_remaining_of_not_over (S : List (TaxLot × ℕ)) (ms : MatchState)
    (h : ¬ lotEpsilon < ms.remainingFill - total S) :
    (matchLots e a fillTime rnd S ms).remainingFill ≤ lotEpsilon := by
  induction S generalizing ms with
  | nil => simpa [matchLots, total] using h
  | cons p ps ih =>
    have ht : total (p :: ps) = p.1.remainingQuantity + total ps := by simp [total]
    by_cases hr : ms.remainingFill ≤ lotEpsilon
    · rw [matchLots, if_pos hr]
      exact hr
    · rw [matchLots, if_neg hr]
      rcases le_total p.1.remainingQuantity ms.remainingFill with hle | hle
      · apply ih
        simp only [matchLot, TaxLot.matchQty, min_eq_left hle]
        rw [ht] at h
        intro h'
        exact h (by linarith)
      · have hz : (matchLot e a fillTime rnd ms p).remainingFill ≤ lotEpsilon := by
          simp only [matchLot, TaxLot.matchQty, min_eq_right hle, sub_self]
          exact lotEpsilon_pos.le
        rw [matchLots_of_le e a fillTime rnd ps hz]
        exact hz

/-- The loop leaves a place alone that is not among the places it runs over. -/
theorem matchLots_getElem?_of_not_mem (S : List (TaxLot × ℕ)) (ms : MatchState) {j : ℕ} (hj : j ∉ S.map Prod.snd) :
    (matchLots e a fillTime rnd S ms).lots[j]? = ms.lots[j]? := by
  induction S generalizing ms with
  | nil => rfl
  | cons p ps ih =>
    rw [List.map_cons, List.mem_cons, not_or] at hj
    by_cases hr : ms.remainingFill ≤ lotEpsilon
    · rw [matchLots, if_pos hr]
    · rw [matchLots, if_neg hr, ih _ hj.2]
      simp only [matchLot]
      exact List.getElem?_set_ne (fun h => hj.1 h.symm)

/-- A lot after the loop is the lot before it, on the same side and with at most as much left. -/
theorem matchLots_lot (S : List (TaxLot × ℕ)) (ms : MatchState) (hS : Places ms.lots S) {j : ℕ} {l' : TaxLot}
    (hl' : (matchLots e a fillTime rnd S ms).lots[j]? = some l') :
    ∃ l, ms.lots[j]? = some l ∧ l'.side = l.side ∧ l'.remainingQuantity ≤ l.remainingQuantity := by
  induction S generalizing ms with
  | nil => exact ⟨l', hl', rfl, le_refl _⟩
  | cons p ps ih =>
    by_cases hr : ms.remainingFill ≤ lotEpsilon
    · rw [matchLots, if_pos hr] at hl'
      exact ⟨l', hl', rfl, le_refl _⟩
    · rw [matchLots, if_neg hr] at hl'
      obtain ⟨l, hl, hside, hle⟩ := ih _ (hS.tail e a fillTime rnd) hl'
      simp only [matchLot] at hl
      by_cases hj : p.2 = j
      · have hp := hS.2 p List.mem_cons_self
        rw [hj] at hp hl
        have hlt : j < ms.lots.length := (List.getElem?_eq_some_iff.1 hp).1
        rw [List.getElem?_set_self hlt, Option.some.injEq] at hl
        subst hl
        have h0 : 0 ≤ ms.remainingFill := by linarith [lotEpsilon_pos, not_le.1 hr]
        exact ⟨p.1, hp, hside.trans (p.1.deplete_side _), hle.trans (p.1.deplete_le h0)⟩
      · rw [List.getElem?_set_ne hj] at hl
        exact ⟨l, hl, hside, hle⟩

/-- A fill larger than all the lots closes each of them. -/
theorem matchLots_closed_of_over (S : List (TaxLot × ℕ)) (ms : MatchState) (hS : Places ms.lots S)
    (h : lotEpsilon < ms.remainingFill - total S) :
    ∀ p ∈ S, ∃ l', (matchLots e a fillTime rnd S ms).lots[p.2]? = some l' ∧ l'.remainingQuantity = 0 := by
  induction S generalizing ms with
  | nil => intro p hp; simp at hp
  | cons p ps ih =>
    have ht : total (p :: ps) = p.1.remainingQuantity + total ps := by simp [total]
    have h0 := total_nonneg ps
    have hp0 := p.1.remainingQuantity_nonneg
    have hr : ¬ ms.remainingFill ≤ lotEpsilon := by linarith
    have hle : p.1.remainingQuantity ≤ ms.remainingFill := by linarith [lotEpsilon_pos]
    have hm : (matchLot e a fillTime rnd ms p).remainingFill = ms.remainingFill - p.1.remainingQuantity := by
      simp [matchLot, TaxLot.matchQty, min_eq_left hle]
    rw [matchLots, if_neg hr]
    intro q hq
    rcases List.mem_cons.1 hq with rfl | hq
    · have hn := (List.nodup_cons.1 (by simpa using hS.1 : (q.2 :: ps.map Prod.snd).Nodup)).1
      have hlt : q.2 < ms.lots.length := (List.getElem?_eq_some_iff.1 (hS.2 q List.mem_cons_self)).1
      refine ⟨q.1.deplete ms.remainingFill, ?_, q.1.deplete_of_le hle⟩
      rw [matchLots_getElem?_of_not_mem e a fillTime rnd ps _ hn]
      simp only [matchLot]
      exact List.getElem?_set_self hlt
    · exact ih _ (hS.tail e a fillTime rnd) (by rw [hm]; linarith) q hq

/-- A fill that is not negligible changes the first open lot it meets. -/
theorem matchLots_ne (p : TaxLot × ℕ) (ps : List (TaxLot × ℕ)) (ms : MatchState) (hS : Places ms.lots (p :: ps))
    (ho : p.1.isOpen = true) (h : lotEpsilon < ms.remainingFill) :
    (matchLots e a fillTime rnd (p :: ps) ms).lots ≠ ms.lots := by
  intro heq
  have hp := hS.2 p List.mem_cons_self
  have hn := (List.nodup_cons.1 (by simpa using hS.1 : (p.2 :: ps.map Prod.snd).Nodup)).1
  have hlt : p.2 < ms.lots.length := (List.getElem?_eq_some_iff.1 hp).1
  have hl : (matchLots e a fillTime rnd (p :: ps) ms).lots[p.2]? = some (p.1.deplete ms.remainingFill) := by
    rw [matchLots, if_neg (not_le.2 h), matchLots_getElem?_of_not_mem e a fillTime rnd ps _ hn]
    simp only [matchLot]
    exact List.getElem?_set_self hlt
  rw [heq, hp, Option.some.injEq] at hl
  exact p.1.deplete_ne ho h hl.symm

end Loop

/-! ## The lots of a symbol -/

@[simp]
theorem lotsOf_withLots_self (e : TaxLotEngine) (symbol : String) (ls : List TaxLot) :
    (e.withLots symbol ls).lotsOf symbol = ls := by
  simp [lotsOf, withLots]

theorem lotsOf_withLots_of_ne (e : TaxLotEngine) {symbol s : String} (ls : List TaxLot) (h : s ≠ symbol) :
    (e.withLots symbol ls).lotsOf s = e.lotsOf s := by
  rw [lotsOf, withLots]
  exact Dict.getD_set_of_ne e.lots ls [] h

/-- Storing an empty list of lots for a new symbol changes no lots. -/
@[simp]
theorem lotsOf_touch (e : TaxLotEngine) (symbol s : String) : (e.touch symbol).lotsOf s = e.lotsOf s := by
  unfold touch
  split
  · rfl
  · rename_i hc
    by_cases hs : s = symbol
    · subst hs
      rw [lotsOf_withLots_self]
      have hn : e.lots.get? s = none := (Dict.contains_eq_false_iff e.lots s).1 (by simpa using hc)
      exact (Dict.getD_of_get?_none [] hn).symm
    · exact lotsOf_withLots_of_ne e [] hs

@[simp]
theorem allowShorting_touch (e : TaxLotEngine) (symbol : String) : (e.touch symbol).allowShorting = e.allowShorting := by
  unfold touch
  split <;> rfl

theorem getOpenLots_congr {e e' : TaxLotEngine} {symbol : String} (h : e.lotsOf symbol = e'.lotsOf symbol) :
    e.getOpenLots symbol = e'.getOpenLots symbol := by
  rw [getOpenLots, getOpenLots, h]

theorem getPosition_congr {e e' : TaxLotEngine} {symbol : String} (h : e.lotsOf symbol = e'.lotsOf symbol) :
    e.getPosition symbol = e'.getPosition symbol := by
  unfold getPosition
  rw [getOpenLots_congr h]

theorem instantFault_congr {e e' : TaxLotEngine} {symbol : String} (h : e.lotsOf symbol = e'.lotsOf symbol) (q : ℚ)
    (t : Instant) : e.instantFault symbol q t = e'.instantFault symbol q t := by
  unfold instantFault
  rw [getOpenLots_congr h]

/-- The size of a position is what its open lots hold together. -/
theorem abs_getPosition (e : TaxLotEngine) (symbol : String) :
    |e.getPosition symbol| = ((e.getOpenLots symbol).map (·.remainingQuantity)).sum := by
  have h0 : 0 ≤ ((e.getOpenLots symbol).map (·.remainingQuantity)).sum := by
    apply List.sum_nonneg
    intro x hx
    obtain ⟨l, -, rfl⟩ := List.mem_map.1 hx
    exact l.remainingQuantity_nonneg
  unfold getPosition
  split
  · rename_i hn
    simp [hn]
  · rename_i l ls hl
    rw [hl] at h0
    simp only
    split
    · rw [abs_of_nonneg h0, hl]
    · rw [abs_neg, abs_of_nonneg h0, hl]

/-! ### The open lots in the order they are matched -/

/-- Sorting the open lots keeps each of them once. -/
theorem sortedLots_perm (e : TaxLotEngine) (symbol : String) (m : TaxLotMethod) :
    (e.sortedLots symbol m).Perm ((e.lotsOf symbol).zipIdx.filter (fun p => p.1.isOpen)) := by
  cases m
  · exact List.mergeSort_perm _ _
  · exact List.mergeSort_perm _ _

theorem mem_sortedLots {e : TaxLotEngine} {symbol : String} {m : TaxLotMethod} {p : TaxLot × ℕ} :
    p ∈ e.sortedLots symbol m ↔ (e.lotsOf symbol)[p.2]? = some p.1 ∧ p.1.isOpen = true := by
  rw [(sortedLots_perm e symbol m).mem_iff, List.mem_filter, List.mem_zipIdx_iff_getElem?]

theorem sortedLots_places (e : TaxLotEngine) (symbol : String) (m : TaxLotMethod) :
    Places (e.lotsOf symbol) (e.sortedLots symbol m) := by
  refine ⟨?_, fun p hp => (mem_sortedLots.1 hp).1⟩
  refine ((sortedLots_perm e symbol m).map Prod.snd).nodup_iff.2 ?_
  refine (List.filter_sublist.map Prod.snd).nodup ?_
  rw [List.zipIdx_map_snd]
  exact List.nodup_range'

theorem total_sortedLots (e : TaxLotEngine) (symbol : String) (m : TaxLotMethod) :
    total (e.sortedLots symbol m) = |e.getPosition symbol| := by
  have hf : ((e.lotsOf symbol).zipIdx.filter (fun p => p.1.isOpen)).map Prod.fst = e.getOpenLots symbol := by
    rw [getOpenLots, ← List.zipIdx_map_fst 0 (e.lotsOf symbol), List.filter_map, List.zipIdx_map_fst]
    rfl
  rw [abs_getPosition, ← hf, List.map_map, total]
  exact ((sortedLots_perm e symbol m).map _).sum_eq

/-! ## Verifying the inventory -/

/-- The open lots of a list are on one side. -/
def OneSided (ls : List TaxLot) : Prop :=
  ∀ l ∈ ls, ∀ l' ∈ ls, l.isOpen = true → l'.isOpen = true → l.side = l'.side

/-- The inventory verifies exactly when the open lots are on one side: a lot cannot hold a negative quantity, and the position
is computed from the same sum it is compared with. -/
theorem verify_eq_ok_iff (e : TaxLotEngine) (symbol : String) :
    e.verifyInventoryConservation symbol = .ok () ↔ OneSided (e.lotsOf symbol) := by
  have hneg : (e.lotsOf symbol).find? (fun l => l.remainingQuantity < 0) = none := by
    rw [List.find?_eq_none]
    intro l _
    simpa using l.remainingQuantity_nonneg
  have hopen : ∀ l, l ∈ e.getOpenLots symbol ↔ l ∈ e.lotsOf symbol ∧ l.isOpen = true := fun l => List.mem_filter
  have habs := abs_getPosition e symbol
  unfold verifyInventoryConservation
  rw [hneg]
  split
  · rename_i l hl
    cases hl
  · cases hls : e.getOpenLots symbol with
    | nil =>
      refine ⟨fun _ l hl l' hl' ho ho' => ?_, fun _ => rfl⟩
      have := (hopen l).2 ⟨hl, ho⟩
      simp [hls] at this
    | cons l ls =>
      have hclose : isclose ((l :: ls).map (·.remainingQuantity)).sum |e.getPosition symbol| = true := by
        rw [habs, hls]
        simp [isclose]
      have hl := (hopen l).1 (by simp [hls])
      by_cases hany : ((l :: ls).any fun x => x.side ≠ l.side) = true
      · obtain ⟨x, hx, hne⟩ := List.any_eq_true.1 hany
        have hx' := (hopen x).1 (by rw [hls]; exact hx)
        simp only [hany, if_true]
        refine ⟨fun h => (by cases h), fun h => ?_⟩
        exact absurd (h x hx'.1 l hl.1 hx'.2 hl.2) (by simpa using hne)
      · have hside : ∀ x ∈ e.getOpenLots symbol, x.side = l.side := by
          intro x hx
          rw [hls] at hx
          by_contra hne
          exact hany (List.any_eq_true.2 ⟨x, hx, by simpa using hne⟩)
        simp only [hany, Bool.false_eq_true, if_false, hclose, if_true]
        refine ⟨fun _ x hx y hy hox hoy => ?_, fun _ => trivial⟩
        rw [hside x ((hopen x).2 ⟨hx, hox⟩), hside y ((hopen y).2 ⟨hy, hoy⟩)]

/-- The end of a call succeeds when the open lots are on one side. -/
theorem finish_of_oneSided {e : TaxLotEngine} {symbol : String} (h : OneSided (e.lotsOf symbol))
    (trades : List RealizedGainRecord) (newLots : List TaxLot) (depleted : List ℕ) (pnl : ℚ) :
    ∃ res, e.finish symbol trades newLots depleted pnl = (.ok res, e) := by
  unfold finish
  rw [(verify_eq_ok_iff e symbol).2 h]
  exact ⟨_, rfl⟩

/-- Every engine a run leaves behind: the open lots of each symbol are on one side. -/
def WellFormed (e : TaxLotEngine) : Prop := ∀ symbol, OneSided (e.lotsOf symbol)

theorem WellFormed.withLots {e : TaxLotEngine} (h : e.WellFormed) {symbol : String} {ls : List TaxLot} (hls : OneSided ls) :
    (e.withLots symbol ls).WellFormed := by
  intro s
  by_cases hs : s = symbol
  · subst hs
    rw [lotsOf_withLots_self]
    exact hls
  · rw [lotsOf_withLots_of_ne e ls hs]
    exact h s

theorem WellFormed.touch {e : TaxLotEngine} (h : e.WellFormed) (symbol : String) : (e.touch symbol).WellFormed := by
  intro s
  rw [lotsOf_touch]
  exact h s

/-- The side of the open lots is the sign of the position. -/
theorem WellFormed.position_sign {e : TaxLotEngine} (h : e.WellFormed) {symbol : String} {l : TaxLot}
    (hl : l ∈ e.lotsOf symbol) (ho : l.isOpen = true) :
    (l.side = .long → 0 < e.getPosition symbol) ∧ (l.side = .short → e.getPosition symbol < 0) := by
  have hmem : l ∈ e.getOpenLots symbol := List.mem_filter.2 ⟨hl, ho⟩
  cases hls : e.getOpenLots symbol with
  | nil => simp [hls] at hmem
  | cons x xs =>
    have hx := List.mem_filter.1 (show x ∈ e.getOpenLots symbol by simp [hls])
    have hside : l.side = x.side := h symbol l hl x hx.1 ho hx.2
    have hxo : lotEpsilon < x.remainingQuantity := by simpa [TaxLot.isOpen] using hx.2
    have hxs : 0 ≤ (xs.map (·.remainingQuantity)).sum := by
      apply List.sum_nonneg
      intro y hy
      obtain ⟨l', -, rfl⟩ := List.mem_map.1 hy
      exact l'.remainingQuantity_nonneg
    have hpos : 0 < ((x :: xs).map (·.remainingQuantity)).sum := by
      rw [List.map_cons, List.sum_cons]
      linarith [lotEpsilon_pos]
    rw [getPosition, hls, hside]
    simp only
    constructor
    · intro hs
      rw [if_pos hs]
      exact hpos
    · intro hs
      rw [if_neg (by rw [hs]; decide)]
      linarith

theorem OneSided.append {ls : List TaxLot} (h : OneSided ls) {l : TaxLot}
    (hl : ∀ x ∈ ls, x.isOpen = true → x.side = l.side) : OneSided (ls ++ [l]) := by
  intro x hx y hy hxo hyo
  rw [List.mem_append, List.mem_singleton] at hx hy
  rcases hx with hx | rfl <;> rcases hy with hy | rfl
  · exact h x hx y hy hxo hyo
  · exact hl x hx hxo
  · exact (hl y hy hyo).symm
  · rfl

/-! ## What a call does -/

/-- The constructor accepts a lot with a positive quantity and price. -/
theorem newLot_create (e : TaxLotEngine) {a : FillArgs} (fillTime : Instant) (hex : String) (side : LotSide) {q : ℚ}
    (hq : 0 < q) (hp : 0 < a.executionPrice) :
    ∃ l, (e.newLot a fillTime hex side q).create = .ok l ∧ l.side = side := by
  refine ⟨{ e.newLot a fillTime hex side q with
    originalQuantity_pos := hq, remainingQuantity_nonneg := hq.le, costBasisPerShare_pos := hp }, ?_, rfl⟩
  simp [LotFields.create, newLot, not_le.2 hq, not_lt.2 hq.le, not_le.2 hp]

/-- A fill on the side the position has: refused when it is a sale and shorting is disabled, else booked. -/
theorem increase_cases {e : TaxLotEngine} (he : e.WellFormed) {a : FillArgs} {s : FillSide} (fillTime : Instant)
    (rnd : Entropy) (hq : 0 < a.quantity) (hp : 0 < a.executionPrice)
    (hs : isIncreasing s (e.getPosition a.symbol) = true) :
    (∃ exc, e.increase a s fillTime rnd = (.error exc, e)) ∨
      ∃ res ls, e.increase a s fillTime rnd = (.ok res, e.withLots a.symbol ls) ∧ OneSided ls := by
  unfold increase
  split
  · exact Or.inl ⟨_, rfl⟩
  · right
    obtain ⟨l, hl, hside⟩ := e.newLot_create fillTime (rnd.hex 0) (if s = .buy then .long else .short) hq hp
    have hone : OneSided (e.lotsOf a.symbol ++ [l]) := by
      refine (he a.symbol).append fun x hx ho => ?_
      have hsign := he.position_sign hx ho
      simp only [isIncreasing, decide_eq_true_eq] at hs
      rw [hside]
      cases s with
      | buy =>
        have hpos : 0 ≤ e.getPosition a.symbol := by simpa using hs
        cases hxs : x.side with
        | long => rfl
        | short => exact absurd (hsign.2 hxs) (not_lt.2 hpos)
      | sell =>
        have hpos : e.getPosition a.symbol ≤ 0 := by simpa using hs
        cases hxs : x.side with
        | long => exact absurd (hsign.1 hxs) (not_lt.2 hpos)
        | short => rfl
    obtain ⟨res, hres⟩ := finish_of_oneSided
      (e := e.withLots a.symbol (e.lotsOf a.symbol ++ [l])) (by rw [lotsOf_withLots_self]; exact hone) [] [l] [] 0
    refine ⟨res, _, ?_, hone⟩
    rw [hl]
    exact hres

/-- What is left of a fill once the position is closed would open a position on the other side, and the engine refuses to. -/
def flipRefused (e : TaxLotEngine) (a : FillArgs) (s : FillSide) : Prop :=
  lotEpsilon < a.quantity - |e.getPosition a.symbol| ∧
    (s = .sell ∧ e.allowShorting = false ∨ a.quantity - |e.getPosition a.symbol| ≤ 1 / 2 / 10 ^ 6)

section Matched

variable (e : TaxLotEngine) (a : FillArgs) (fillTime : Instant) (rnd : Entropy)

/-- A lot after the loop was open before it if it is open, and is on the same side. -/
theorem matched_lot {x : TaxLot} {j : ℕ} (hj : (e.matched a fillTime rnd).lots[j]? = some x) (ho : x.isOpen = true) :
    ∃ l, (e.lotsOf a.symbol)[j]? = some l ∧ l.isOpen = true ∧ x.side = l.side := by
  obtain ⟨l, hl, hside, hle⟩ := matchLots_lot e a fillTime rnd _ (e.startMatch a) (sortedLots_places e a.symbol _) hj
  refine ⟨l, hl, ?_, hside⟩
  simp only [TaxLot.isOpen, decide_eq_true_eq] at ho ⊢
  exact ho.trans_le hle

/-- The lots after the loop are on one side if the lots before it are. -/
theorem oneSided_matched (he : e.WellFormed) : OneSided (e.matched a fillTime rnd).lots := by
  intro x hx y hy hxo hyo
  obtain ⟨i, hi⟩ := List.mem_iff_getElem?.1 hx
  obtain ⟨j, hj⟩ := List.mem_iff_getElem?.1 hy
  obtain ⟨l, hl, hlo, hls⟩ := matched_lot e a fillTime rnd hi hxo
  obtain ⟨l', hl', hlo', hls'⟩ := matched_lot e a fillTime rnd hj hyo
  rw [hls, hls']
  exact he a.symbol l (List.mem_of_getElem? hl) l' (List.mem_of_getElem? hl') hlo hlo'

/-- What is left of a fill larger than the position. -/
theorem matched_remaining_of_over (h : lotEpsilon < a.quantity - |e.getPosition a.symbol|) :
    (e.matched a fillTime rnd).remainingFill = a.quantity - |e.getPosition a.symbol| := by
  have ht := total_sortedLots e a.symbol (a.method.getD e.defaultMethod)
  rw [← ht] at h ⊢
  exact matchLots_remaining_of_over e a fillTime rnd _ (e.startMatch a) h

theorem matched_remaining_of_not_over (h : ¬ lotEpsilon < a.quantity - |e.getPosition a.symbol|) :
    (e.matched a fillTime rnd).remainingFill ≤ lotEpsilon := by
  rw [← total_sortedLots e a.symbol (a.method.getD e.defaultMethod)] at h
  exact matchLots_remaining_of_not_over e a fillTime rnd _ (e.startMatch a) h

/-- After a fill larger than the position no lot is open. -/
theorem isOpen_matched_of_over (h : lotEpsilon < a.quantity - |e.getPosition a.symbol|) :
    ∀ x ∈ (e.matched a fillTime rnd).lots, x.isOpen = false := by
  rw [← total_sortedLots e a.symbol (a.method.getD e.defaultMethod)] at h
  intro x hx
  by_contra ho
  rw [Bool.not_eq_false] at ho
  obtain ⟨j, hj⟩ := List.mem_iff_getElem?.1 hx
  obtain ⟨l, hl, hlo, -⟩ := matched_lot e a fillTime rnd hj ho
  -- The lot was open before the loop, so the loop ran over it and closed it.
  obtain ⟨l', hl', hz⟩ := matchLots_closed_of_over e a fillTime rnd _ (e.startMatch a)
    (sortedLots_places e a.symbol (a.method.getD e.defaultMethod)) h (l, j) (mem_sortedLots.2 ⟨hl, hlo⟩)
  have hxl : x = l' := Option.some.inj (hj.symm.trans hl')
  rw [TaxLot.isOpen, decide_eq_true_eq, hxl, hz] at ho
  exact absurd ho (not_lt.2 lotEpsilon_pos.le)

/-- A fill larger than an open position changes the lots. -/
theorem lots_matched_ne (hpos : e.getPosition a.symbol ≠ 0) (h : lotEpsilon < a.quantity - |e.getPosition a.symbol|) :
    (e.matched a fillTime rnd).lots ≠ e.lotsOf a.symbol := by
  have hS := sortedLots_places e a.symbol (a.method.getD e.defaultMethod)
  have ht := total_sortedLots e a.symbol (a.method.getD e.defaultMethod)
  have habs := abs_nonneg (e.getPosition a.symbol)
  unfold matched
  cases hl : e.sortedLots a.symbol (a.method.getD e.defaultMethod) with
  | nil =>
    rw [hl] at ht
    exact absurd (abs_eq_zero.1 ht.symm) hpos
  | cons p ps =>
    have ho := (mem_sortedLots.1 (hl ▸ List.mem_cons_self : p ∈ e.sortedLots a.symbol _)).2
    rw [hl] at hS
    exact matchLots_ne e a fillTime rnd p ps (e.startMatch a) hS ho (by simp only [startMatch]; linarith)

end Matched

/-- The flip lot has a positive quantity when what is left does not round to zero. -/
theorem round_pos_of_not_dust {x : ℚ} (h : ¬ x ≤ 1 / 2 / 10 ^ 6) : 0 < round x 6 := by
  have h' := not_le.1 h
  have hx : 0 < x := lt_trans (by norm_num) h'
  have hne : round x 6 ≠ 0 := by
    intro h0
    rw [Pylib.round_eq_zero_iff, abs_of_pos hx] at h0
    exact h h0
  have hge := (abs_le.1 (Pylib.abs_round_sub_le x 6)).1
  exact lt_of_le_of_ne (by linarith) (Ne.symm hne)

/-- A fill on the other side of the position whose instants can be compared: a refused flip or booked. Only the refused flip
raises, and it does after the lots were changed. -/
theorem close_cases {e : TaxLotEngine} (he : e.WellFormed) {a : FillArgs} (s : FillSide) {fillTime : Instant}
    (rnd : Entropy) (hp : 0 < a.executionPrice) (hpos : e.getPosition a.symbol ≠ 0)
    (hf : e.instantFault a.symbol a.quantity fillTime = none) :
    (flipRefused e a s ∧ ∃ exc ls, e.close a s fillTime rnd = (.error exc, e.withLots a.symbol ls) ∧ OneSided ls ∧
        ls ≠ e.lotsOf a.symbol) ∨
      (¬ flipRefused e a s ∧ ∃ res ls, e.close a s fillTime rnd = (.ok res, e.withLots a.symbol ls) ∧ OneSided ls) := by
  have hone := oneSided_matched e a fillTime rnd he
  unfold close
  rw [hf]
  by_cases hover : lotEpsilon < a.quantity - |e.getPosition a.symbol|
  · have hshut := isOpen_matched_of_over e a fillTime rnd hover
    have hne := lots_matched_ne e a fillTime rnd hpos hover
    simp only [matched_remaining_of_over e a fillTime rnd hover, if_pos hover]
    by_cases hshort : s = .sell ∧ ¬ e.allowShorting = true
    · rw [if_pos hshort]
      exact Or.inl ⟨⟨hover, Or.inl ⟨hshort.1, by simpa using hshort.2⟩⟩, _, _, rfl, hone, hne⟩
    · rw [if_neg hshort]
      by_cases hdust : a.quantity - |e.getPosition a.symbol| ≤ 1 / 2 / 10 ^ 6
      · have hz : round (a.quantity - |e.getPosition a.symbol|) 6 = 0 := by
          rw [Pylib.round_eq_zero_iff, abs_of_pos (lotEpsilon_pos.trans hover)]
          exact hdust
        left
        refine ⟨⟨hover, Or.inr hdust⟩, ?_⟩
        simp only [hz, LotFields.create, newLot, le_refl, dite_true]
        exact ⟨_, _, rfl, hone, hne⟩
      · refine Or.inr ⟨fun h => h.2.elim (fun h => hshort (by simpa using h)) hdust, ?_⟩
        obtain ⟨l, hl, -⟩ := e.newLot_create fillTime (rnd.hex (e.matched a fillTime rnd).trades.length)
          (if s = .sell then .short else .long) (round_pos_of_not_dust hdust) hp
        have hone' : OneSided ((e.matched a fillTime rnd).lots ++ [l]) := by
          refine hone.append fun x hx ho => ?_
          rw [hshut x hx] at ho
          cases ho
        obtain ⟨res, hres⟩ := finish_of_oneSided (e := e.withLots a.symbol ((e.matched a fillTime rnd).lots ++ [l]))
          (by rw [lotsOf_withLots_self]; exact hone') (e.matched a fillTime rnd).trades [l]
          (e.matched a fillTime rnd).depleted (e.matched a fillTime rnd).totalPnl
        refine ⟨res, _, ?_, hone'⟩
        rw [hl]
        exact hres
  · refine Or.inr ⟨fun h => hover h.1, ?_⟩
    have hrem := not_lt.2 (matched_remaining_of_not_over e a fillTime rnd hover)
    obtain ⟨res, hres⟩ := finish_of_oneSided (e := e.withLots a.symbol (e.matched a fillTime rnd).lots)
      (by rw [lotsOf_withLots_self]; exact hone) (e.matched a fillTime rnd).trades []
      (e.matched a fillTime rnd).depleted (e.matched a fillTime rnd).totalPnl
    refine ⟨res, _, ?_, hone⟩
    simp only [if_neg hrem]
    exact hres

end TaxLotEngine

end Quant
