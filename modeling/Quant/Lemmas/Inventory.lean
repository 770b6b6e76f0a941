import Quant.Lemmas.TaxLot
import Quant.Pylib.Lists

/-!
# The inventory a booked fill leaves

`Allocated` says all a call of `allocate_fill` that returns can do: it opens a lot, it matches the fill against the open lots, or
it does both. With quantities of six decimals the tolerances of the matching loop change nothing, so what the lots hold and what
they cost moves by exactly what the fill is worth (`allocateFill_moved`).
-/

namespace Quant

open Pylib

/-- One for a long lot, minus one for a short one. -/
def LotSide.sign : LotSide → ℚ
  | .long => 1
  | .short => -1

/-- One for a purchase, minus one for a sale. -/
def FillSide.sign : FillSide → ℚ
  | .buy => 1
  | .sell => -1

/-- The side of the lots a fill opens. -/
def FillSide.opens : FillSide → LotSide
  | .buy => .long
  | .sell => .short

/-- The side of the lots a fill closes. -/
def FillSide.closes : FillSide → LotSide
  | .buy => .short
  | .sell => .long

@[simp]
theorem FillSide.sign_opens (s : FillSide) : s.opens.sign = s.sign := by
  cases s <;> rfl

@[simp]
theorem FillSide.sign_closes (s : FillSide) : s.closes.sign = -s.sign := by
  cases s <;> simp [FillSide.closes, FillSide.sign, LotSide.sign]

namespace TaxLotEngine

/-! ## A call that returns -/

/-- The result `allocate_fill` builds from an engine and what it gathered. -/
def result (e : TaxLotEngine) (symbol : String) (trades : List RealizedGainRecord) (newLots : List TaxLot)
    (depleted : List ℕ) (pnl : ℚ) : FillAllocationResult :=
  { allocatedTrades := trades
    newOpenLots := newLots
    depletedLots := depleted.filterMap (fun i => (e.lotsOf symbol)[i]?)
    totalRealizedPnl := round pnl 4
    remainingPosition := e.getPosition symbol }

theorem finish_ok {e e' : TaxLotEngine} {symbol : String} {trades : List RealizedGainRecord} {newLots : List TaxLot}
    {depleted : List ℕ} {pnl : ℚ} {res : FillAllocationResult}
    (h : e.finish symbol trades newLots depleted pnl = (.ok res, e')) :
    e' = e ∧ OneSided (e.lotsOf symbol) ∧ res = e.result symbol trades newLots depleted pnl := by
  unfold finish at h
  split at h
  · cases h
  · rename_i hv
    cases h
    exact ⟨rfl, (verify_eq_ok_iff e symbol).1 hv, rfl⟩

theorem LotFields.create_ok {f : LotFields} {l : TaxLot} (h : f.create = .ok l) : l.toLotFields = f := by
  unfold LotFields.create at h
  iterate 3 obtain ⟨_, h⟩ := of_check_ok h
  rw [← Except.ok.inj h]

/-- What a call that returns did, from the engine it started the allocation with. -/
inductive Allocated (e : TaxLotEngine) (a : FillArgs) (s : FillSide) (t : Instant) (rnd : Entropy) :
    FillAllocationResult → TaxLotEngine → Prop
  | opened (l : TaxLot) (hs : isIncreasing s (e.getPosition a.symbol) = true)
      (hl : l.toLotFields = e.newLot a t (rnd.hex 0) s.opens a.quantity) :
      Allocated e a s t rnd ((e.withLots a.symbol (e.lotsOf a.symbol ++ [l])).result a.symbol [] [l] [] 0)
        (e.withLots a.symbol (e.lotsOf a.symbol ++ [l]))
  | closed (hs : isIncreasing s (e.getPosition a.symbol) = false) (hf : e.instantFault a.symbol a.quantity t = none)
      (hrem : (e.matched a t rnd).remainingFill ≤ lotEpsilon) :
      Allocated e a s t rnd
        ((e.withLots a.symbol (e.matched a t rnd).lots).result a.symbol (e.matched a t rnd).trades []
          (e.matched a t rnd).depleted (e.matched a t rnd).totalPnl)
        (e.withLots a.symbol (e.matched a t rnd).lots)
  | flipped (l : TaxLot) (hs : isIncreasing s (e.getPosition a.symbol) = false)
      (hf : e.instantFault a.symbol a.quantity t = none) (hrem : lotEpsilon < (e.matched a t rnd).remainingFill)
      (hl : l.toLotFields = e.newLot a t (rnd.hex (e.matched a t rnd).trades.length) s.opens
        (round (e.matched a t rnd).remainingFill 6)) :
      Allocated e a s t rnd
        ((e.withLots a.symbol ((e.matched a t rnd).lots ++ [l])).result a.symbol (e.matched a t rnd).trades [l]
          (e.matched a t rnd).depleted (e.matched a t rnd).totalPnl)
        (e.withLots a.symbol ((e.matched a t rnd).lots ++ [l]))

theorem increase_ok {e e' : TaxLotEngine} {a : FillArgs} {s : FillSide} {t : Instant} {rnd : Entropy}
    {res : FillAllocationResult} (hs : isIncreasing s (e.getPosition a.symbol) = true)
    (h : e.increase a s t rnd = (.ok res, e')) : Allocated e a s t rnd res e' ∧ OneSided (e'.lotsOf a.symbol) := by
  unfold increase at h
  split at h
  · cases h
  · split at h
    · cases h
    · rename_i l hl
      obtain ⟨rfl, hone, rfl⟩ := finish_ok h
      refine ⟨Allocated.opened l hs ?_, hone⟩
      rw [LotFields.create_ok hl]
      cases s <;> rfl

theorem close_ok {e e' : TaxLotEngine} {a : FillArgs} {s : FillSide} {t : Instant} {rnd : Entropy}
    {res : FillAllocationResult} (hs : isIncreasing s (e.getPosition a.symbol) = false)
    (h : e.close a s t rnd = (.ok res, e')) : Allocated e a s t rnd res e' ∧ OneSided (e'.lotsOf a.symbol) := by
  unfold close at h
  split at h
  · cases h
  · rename_i hf
    dsimp only at h
    split at h
    · rename_i hrem
      split at h
      · cases h
      · split at h
        · cases h
        · rename_i l hl
          obtain ⟨rfl, hone, rfl⟩ := finish_ok h
          refine ⟨Allocated.flipped l hs hf hrem ?_, hone⟩
          rw [LotFields.create_ok hl]
          cases s <;> rfl
    · rename_i hrem
      obtain ⟨rfl, hone, rfl⟩ := finish_ok h
      exact ⟨Allocated.closed hs hf (not_lt.1 hrem), hone⟩

/-- A call that returns: its arguments are valid, and what it did. -/
theorem allocateFill_ok {e e' : TaxLotEngine} {a : FillArgs} {rnd : Entropy} {res : FillAllocationResult}
    (h : e.allocateFill a rnd = (.ok res, e')) :
    ∃ s, a.symbol ≠ "" ∧ 0 < a.quantity ∧ 0 < a.executionPrice ∧ FillSide.parse a.side = some s ∧
      Allocated (e.touch a.symbol) a s (a.timestamp.getD { micros := rnd.now }) rnd res e' ∧
      OneSided (e'.lotsOf a.symbol) := by
  unfold allocateFill at h
  split at h
  · cases h
  rename_i hsym
  split at h
  · cases h
  rename_i hq
  split at h
  · cases h
  rename_i hp
  split at h
  · cases h
  · rename_i s hside
    refine ⟨s, hsym, not_le.1 hq, not_le.1 hp, hside, ?_⟩
    dsimp only at h
    split at h
    · rename_i hs
      exact increase_ok hs h
    · rename_i hs
      exact close_ok (by simpa using hs) h

end TaxLotEngine

/-! ## Quantities of six decimals -/

/-- A lot in units of the last decimal a quantity is recorded with. -/
structure WholeLot (l : TaxLot) : Prop where
  decimals : HasDecimals 6 l.remainingQuantity
  le : l.remainingQuantity ≤ l.originalQuantity

/-- Six decimals are coarser than the tolerance of the loop. -/
theorem eq_zero_of_le_lotEpsilon {x : ℚ} (h : HasDecimals 6 x) (h0 : 0 ≤ x) (hx : x ≤ lotEpsilon) : x = 0 := by
  by_contra hne
  have hle := h.le_abs hne
  rw [abs_of_nonneg h0] at hle
  unfold lotEpsilon at hx
  have hcoarse : (1 : ℚ) / 10 ^ 8 < 1 / 10 ^ 6 := by norm_num
  linarith

theorem HasDecimals.min {n : ℕ} {x y : ℚ} (hx : HasDecimals n x) (hy : HasDecimals n y) : HasDecimals n (min x y) := by
  rcases min_choice x y with h | h <;> rw [h]
  · exact hx
  · exact hy

namespace TaxLot

theorem deplete_originalQuantity (l : TaxLot) (r : ℚ) : (l.deplete r).originalQuantity = l.originalQuantity := by
  unfold deplete
  split <;> rfl

theorem deplete_costBasisPerShare (l : TaxLot) (r : ℚ) : (l.deplete r).costBasisPerShare = l.costBasisPerShare := by
  unfold deplete
  split <;> rfl

/-- A lot loses exactly what the fill takes from it. -/
theorem deplete_remainingQuantity (l : TaxLot) {r : ℚ} (hl : HasDecimals 6 l.remainingQuantity) (hr : HasDecimals 6 r) :
    (l.deplete r).remainingQuantity = l.remainingQuantity - l.matchQty r := by
  have hle : l.matchQty r ≤ l.remainingQuantity := min_le_left _ _
  unfold deplete
  split
  · rename_i h
    exact (eq_zero_of_le_lotEpsilon (hl.sub (HasDecimals.min hl hr)) (sub_nonneg.2 hle) h).symm
  · rfl

end TaxLot

theorem WholeLot.isOpen_iff {l : TaxLot} (h : WholeLot l) : l.isOpen = true ↔ l.remainingQuantity ≠ 0 := by
  rw [TaxLot.isOpen, decide_eq_true_eq]
  constructor
  · intro hlt
    exact (lotEpsilon_pos.trans hlt).ne'
  · intro hne
    by_contra hle
    exact hne (eq_zero_of_le_lotEpsilon h.decimals l.remainingQuantity_nonneg (not_lt.1 hle))

theorem WholeLot.deplete {l : TaxLot} (h : WholeLot l) {r : ℚ} (hr : HasDecimals 6 r) (h0 : 0 ≤ r) :
    WholeLot (l.deplete r) := by
  constructor
  · rw [l.deplete_remainingQuantity h.decimals hr]
    exact h.decimals.sub (HasDecimals.min h.decimals hr)
  · rw [l.deplete_originalQuantity]
    exact (l.deplete_le h0).trans h.le

/-- The quantities of a list of lots, with the signs of their sides, each weighted by its cost. -/
def net (w : ℚ → ℚ) (ls : List TaxLot) : ℚ :=
  (ls.map (fun l => l.side.sign * l.remainingQuantity * w l.costBasisPerShare)).sum

/-- What a list of lots holds. -/
def held (ls : List TaxLot) : ℚ := net (fun _ => 1) ls

/-- What a list of lots cost. -/
def cost (ls : List TaxLot) : ℚ := net id ls

@[simp]
theorem net_nil (w : ℚ → ℚ) : net w [] = 0 := rfl

theorem net_concat (w : ℚ → ℚ) (ls : List TaxLot) (l : TaxLot) :
    net w (ls ++ [l]) = net w ls + l.side.sign * l.remainingQuantity * w l.costBasisPerShare := by
  simp [net]

namespace TaxLotEngine

section Loop

variable (e : TaxLotEngine) (a : FillArgs) (t : Instant) (rnd : Entropy)

theorem net_matchLot (w : ℚ → ℚ) {ms : MatchState} {p : TaxLot × ℕ} (hp : ms.lots[p.2]? = some p.1)
    (hl : HasDecimals 6 p.1.remainingQuantity) (hr : HasDecimals 6 ms.remainingFill) :
    net w (matchLot e a t rnd ms p).lots =
      net w ms.lots - p.1.side.sign * p.1.matchQty ms.remainingFill * w p.1.costBasisPerShare := by
  have h := sum_set (fun l : TaxLot => l.side.sign * l.remainingQuantity * w l.costBasisPerShare)
    (p.1.deplete ms.remainingFill) hp
  simp only [p.1.deplete_side, p.1.deplete_remainingQuantity hl hr, p.1.deplete_costBasisPerShare] at h
  simp only [net, matchLot]
  linarith

/-- What a stretch of the loop did to lots on one side: what they hold falls by what was taken from the fill, and so does what
they cost, less the profit, at the price of the fill. -/
structure Traded (σ : LotSide) (price : ℚ) (ms ms' : MatchState) : Prop where
  held : held ms'.lots = held ms.lots - σ.sign * (ms.remainingFill - ms'.remainingFill)
  cost : cost ms'.lots - ms'.totalPnl = cost ms.lots - ms.totalPnl - σ.sign * (ms.remainingFill - ms'.remainingFill) * price
  decimals : HasDecimals 6 ms'.remainingFill
  nonneg : 0 ≤ ms'.remainingFill
  whole : ∀ l ∈ ms'.lots, WholeLot l

theorem Traded.refl {σ : LotSide} {price : ℚ} {ms : MatchState} (hd : HasDecimals 6 ms.remainingFill)
    (h0 : 0 ≤ ms.remainingFill) (hw : ∀ l ∈ ms.lots, WholeLot l) : Traded σ price ms ms :=
  ⟨by ring, by ring, hd, h0, hw⟩

theorem Traded.trans {σ : LotSide} {price : ℚ} {ms₁ ms₂ ms₃ : MatchState} (h : Traded σ price ms₁ ms₂)
    (h' : Traded σ price ms₂ ms₃) : Traded σ price ms₁ ms₃ := by
  refine ⟨?_, ?_, h'.decimals, h'.nonneg, h'.whole⟩
  · rw [h'.held, h.held]
    ring
  · rw [h'.cost, h.cost]
    ring

theorem matchLot_traded {ms : MatchState} {p : TaxLot × ℕ} (hp : ms.lots[p.2]? = some p.1)
    (hd : HasDecimals 6 ms.remainingFill) (h0 : 0 ≤ ms.remainingFill) (hw : ∀ l ∈ ms.lots, WholeLot l) :
    Traded p.1.side a.executionPrice ms (matchLot e a t rnd ms p) := by
  have hl := hw p.1 (List.mem_of_getElem? hp)
  have hrem : (matchLot e a t rnd ms p).remainingFill = ms.remainingFill - p.1.matchQty ms.remainingFill := rfl
  refine ⟨?_, ?_, ?_, ?_, ?_⟩
  · rw [Quant.held, Quant.held, net_matchLot e a t rnd _ hp hl.decimals hd, hrem]
    ring
  · rw [Quant.cost, Quant.cost, net_matchLot e a t rnd _ hp hl.decimals hd, hrem]
    cases hs : p.1.side <;> simp [matchLot, hs, LotSide.sign] <;> ring
  · rw [hrem]
    exact hd.sub (HasDecimals.min hl.decimals hd)
  · rw [hrem]
    exact sub_nonneg.2 (min_le_right _ _)
  · intro l hmem
    rcases List.mem_or_eq_of_mem_set hmem with hmem | rfl
    · exact hw l hmem
    · exact hl.deplete hd h0

theorem matchLots_traded {σ : LotSide} (S : List (TaxLot × ℕ)) {ms : MatchState} (hS : Places ms.lots S)
    (hσ : ∀ p ∈ S, p.1.side = σ) (hd : HasDecimals 6 ms.remainingFill) (h0 : 0 ≤ ms.remainingFill)
    (hw : ∀ l ∈ ms.lots, WholeLot l) : Traded σ a.executionPrice ms (matchLots e a t rnd S ms) := by
  induction S generalizing ms with
  | nil => exact Traded.refl hd h0 hw
  | cons p ps ih =>
    rw [List.forall_mem_cons] at hσ
    rw [matchLots]
    split
    · exact Traded.refl hd h0 hw
    · have h1 := matchLot_traded e a t rnd (hS.2 p List.mem_cons_self) hd h0 hw
      rw [hσ.1] at h1
      exact h1.trans (ih (hS.tail e a t rnd) hσ.2 h1.decimals h1.nonneg h1.whole)

end Loop

/-! ## The position -/

/-- Lots that are not open hold nothing, so the open ones make up the sum. -/
theorem net_openLots (w : ℚ → ℚ) {ls : List TaxLot} (hw : ∀ l ∈ ls, WholeLot l) : net w (ls.filter (·.isOpen)) = net w ls := by
  induction ls with
  | nil => rfl
  | cons l ls ih =>
    rw [List.forall_mem_cons] at hw
    have hrec := ih hw.2
    rw [List.filter_cons]
    split
    · simp only [net, List.map_cons, List.sum_cons] at hrec ⊢
      rw [hrec]
    · rename_i ho
      have h0 : l.remainingQuantity = 0 := by
        by_contra hne
        exact ho (hw.1.isOpen_iff.2 hne)
      simp only [net, List.map_cons, List.sum_cons, h0] at hrec ⊢
      rw [hrec]
      ring

theorem held_of_side {ls : List TaxLot} {σ : LotSide} (h : ∀ l ∈ ls, l.side = σ) :
    held ls = σ.sign * (ls.map (·.remainingQuantity)).sum := by
  induction ls with
  | nil => simp [held]
  | cons l ls ih =>
    rw [List.forall_mem_cons] at h
    have hrec := ih h.2
    simp only [held, net, List.map_cons, List.sum_cons, h.1] at hrec ⊢
    rw [hrec]
    ring

/-- The position is what the open lots hold. -/
theorem getPosition_eq_held_open {e : TaxLotEngine} {symbol : String} (hone : OneSided (e.lotsOf symbol)) :
    e.getPosition symbol = held (e.getOpenLots symbol) := by
  unfold getPosition
  cases hls : e.getOpenLots symbol with
  | nil => rfl
  | cons l ls =>
    have hmem : ∀ x ∈ l :: ls, x ∈ e.lotsOf symbol ∧ x.isOpen = true := by
      intro x hx
      rw [← hls] at hx
      exact List.mem_filter.1 hx
    have hl := hmem l List.mem_cons_self
    have hside : ∀ x ∈ l :: ls, x.side = l.side := by
      intro x hx
      exact hone x (hmem x hx).1 l hl.1 (hmem x hx).2 hl.2
    rw [held_of_side hside]
    cases hs : l.side <;> simp [LotSide.sign, hs]

/-- The position is what the lots hold. -/
theorem getPosition_eq_held {e : TaxLotEngine} {symbol : String} (hone : OneSided (e.lotsOf symbol))
    (hw : ∀ l ∈ e.lotsOf symbol, WholeLot l) : e.getPosition symbol = held (e.lotsOf symbol) := by
  rw [getPosition_eq_held_open hone, getOpenLots, held, net_openLots _ hw, held]

/-- What the open lots would bring at a price: their value less their cost. -/
theorem sum_unrealized (ls : List TaxLot) (p : ℚ) : (ls.map (·.unrealized p)).sum = held ls * p - cost ls := by
  induction ls with
  | nil => simp [held, cost]
  | cons l ls ih =>
    simp only [held, cost, net, List.map_cons, List.sum_cons] at ih ⊢
    rw [ih]
    cases hs : l.side <;> simp [TaxLot.unrealized, LotSide.sign, hs] <;> ring

theorem getUnrealizedPnl_eq {e : TaxLotEngine} {symbol : String} (hone : OneSided (e.lotsOf symbol))
    (hw : ∀ l ∈ e.lotsOf symbol, WholeLot l) {p : ℚ} (hp : 0 < p) :
    e.getUnrealizedPnl symbol p = .ok (round (e.getPosition symbol * p - cost (e.lotsOf symbol)) 4) := by
  rw [getUnrealizedPnl, if_neg (not_le.2 hp), sum_unrealized, getPosition_eq_held hone hw]
  simp only [held, cost, getOpenLots, net_openLots _ hw]

/-! ## A booked fill -/

/-- What a booked fill does to the lots of its symbol: they gain its quantity, signed, and their cost gains what was paid for it
plus the profit it realized. -/
structure Moved (a : FillArgs) (s : FillSide) (ls : List TaxLot) (res : FillAllocationResult) (ls' : List TaxLot) : Prop where
  held : held ls' = held ls + s.sign * a.quantity
  cost : ∃ pnl, res.totalRealizedPnl = round pnl 4 ∧
    cost ls' - pnl = cost ls + s.sign * (a.quantity * a.executionPrice)
  whole : ∀ l ∈ ls', WholeLot l

/-- A fresh lot of six decimals. -/
theorem wholeLot_of_newLot {e : TaxLotEngine} {a : FillArgs} {t : Instant} {hex : String} {σ : LotSide} {q : ℚ}
    {l : TaxLot} (hl : l.toLotFields = e.newLot a t hex σ q) (hq : HasDecimals 6 q) : WholeLot l := by
  have hrem : l.remainingQuantity = q := congrArg LotFields.remainingQuantity hl
  have horig : l.originalQuantity = q := congrArg LotFields.originalQuantity hl
  constructor
  · rw [hrem]
    exact hq
  · rw [hrem, horig]

theorem net_newLot {e : TaxLotEngine} {a : FillArgs} {t : Instant} {hex : String} {s : FillSide} {q : ℚ} {l : TaxLot}
    (hl : l.toLotFields = e.newLot a t hex s.opens q) (w : ℚ → ℚ) (ls : List TaxLot) :
    net w (ls ++ [l]) = net w ls + s.sign * q * w a.executionPrice := by
  have hrem : l.remainingQuantity = q := congrArg LotFields.remainingQuantity hl
  have hside : l.side = s.opens := congrArg LotFields.side hl
  have hcost : l.costBasisPerShare = a.executionPrice := congrArg LotFields.costBasisPerShare hl
  rw [net_concat, hrem, hside, hcost, FillSide.sign_opens]

/-- The open lots a fill does not add to are on the side it closes. -/
theorem WellFormed.side_of_closing {e : TaxLotEngine} (he : e.WellFormed) {symbol : String} {s : FillSide}
    (hs : isIncreasing s (e.getPosition symbol) = false) {l : TaxLot} (hl : l ∈ e.lotsOf symbol) (ho : l.isOpen = true) :
    l.side = s.closes := by
  have hsign := he.position_sign hl ho
  cases s with
  | buy =>
    have hneg : e.getPosition symbol < 0 := by simpa [isIncreasing] using hs
    cases hside : l.side with
    | long => exact absurd (hsign.1 hside) (not_lt.2 hneg.le)
    | short => rfl
  | sell =>
    have hpos : 0 < e.getPosition symbol := by simpa [isIncreasing] using hs
    cases hside : l.side with
    | long => rfl
    | short => exact absurd (hsign.2 hside) (not_lt.2 hpos.le)

/-- The loop over the open lots of the symbol, for a fill that closes them. -/
theorem matched_traded {e : TaxLotEngine} (he : e.WellFormed) {a : FillArgs} {s : FillSide}
    (hs : isIncreasing s (e.getPosition a.symbol) = false) (t : Instant) (rnd : Entropy) (hq : HasDecimals 6 a.quantity)
    (h0 : 0 < a.quantity) (hw : ∀ l ∈ e.lotsOf a.symbol, WholeLot l) :
    Traded s.closes a.executionPrice (e.startMatch a) (e.matched a t rnd) := by
  refine matchLots_traded e a t rnd _ (sortedLots_places e a.symbol _) ?_ hq h0.le hw
  intro p hp
  obtain ⟨hget, ho⟩ := mem_sortedLots.1 hp
  exact he.side_of_closing hs (List.mem_of_getElem? hget) ho

/-- A call that returns moves the lots of its symbol by the fill. -/
theorem Allocated.moved {e e' : TaxLotEngine} (he : e.WellFormed) {a : FillArgs} {s : FillSide} {t : Instant}
    {rnd : Entropy} {res : FillAllocationResult} (h : Allocated e a s t rnd res e') (hq : HasDecimals 6 a.quantity)
    (h0 : 0 < a.quantity) (hw : ∀ l ∈ e.lotsOf a.symbol, WholeLot l) :
    Moved a s (e.lotsOf a.symbol) res (e'.lotsOf a.symbol) := by
  cases h with
  | opened l hs hl =>
    rw [lotsOf_withLots_self]
    refine ⟨?_, ⟨0, rfl, ?_⟩, ?_⟩
    · rw [Quant.held, net_newLot hl, mul_one]
      rfl
    · rw [Quant.cost, net_newLot hl, Quant.cost, id_eq]
      ring
    · intro x hx
      rw [List.mem_append, List.mem_singleton] at hx
      rcases hx with hx | rfl
      · exact hw x hx
      · exact wholeLot_of_newLot hl hq
  | closed hs hf hrem =>
    have htr := matched_traded he hs t rnd hq h0 hw
    -- with six decimals the rest is nothing
    have hrest := eq_zero_of_le_lotEpsilon htr.decimals htr.nonneg hrem
    rw [lotsOf_withLots_self]
    refine ⟨?_, ⟨_, rfl, ?_⟩, htr.whole⟩
    · rw [htr.held, FillSide.sign_closes, hrest]
      simp [startMatch]
    · rw [htr.cost, FillSide.sign_closes, hrest]
      simp only [startMatch]
      ring
  | flipped l hs hf hrem hl =>
    have htr := matched_traded he hs t rnd hq h0 hw
    have hround := round_of_hasDecimals htr.decimals
    rw [hround] at hl
    rw [lotsOf_withLots_self]
    refine ⟨?_, ⟨_, rfl, ?_⟩, ?_⟩
    · have hheld := htr.held
      rw [Quant.held] at hheld ⊢
      rw [net_newLot hl, hheld, FillSide.sign_closes]
      simp only [startMatch]
      ring
    · have hcost := htr.cost
      rw [Quant.cost] at hcost ⊢
      rw [net_newLot hl, id_eq]
      simp only [startMatch, FillSide.sign_closes] at hcost ⊢
      linarith
    · intro x hx
      rw [List.mem_append, List.mem_singleton] at hx
      rcases hx with hx | rfl
      · exact htr.whole x hx
      · exact wholeLot_of_newLot hl htr.decimals

theorem lotsOf_of_allocated {e e' : TaxLotEngine} {a : FillArgs} {s : FillSide} {t : Instant} {rnd : Entropy}
    {res : FillAllocationResult} (h : Allocated e a s t rnd res e') {symbol : String} (hs : symbol ≠ a.symbol) :
    e'.lotsOf symbol = e.lotsOf symbol := by
  cases h <;> exact lotsOf_withLots_of_ne _ _ hs

/-- The lots of every symbol are in six decimals. -/
def Whole (e : TaxLotEngine) : Prop := ∀ symbol, ∀ l ∈ e.lotsOf symbol, WholeLot l

/-- A call that returns: the engine stays well-formed and in six decimals, the lots of other symbols stay, and those of its own
move by the fill. -/
theorem allocateFill_moved {e e' : TaxLotEngine} (he : e.WellFormed) (hw : e.Whole) {a : FillArgs} {rnd : Entropy}
    {res : FillAllocationResult} (hq : HasDecimals 6 a.quantity) (h : e.allocateFill a rnd = (.ok res, e')) :
    e'.WellFormed ∧ e'.Whole ∧ (∀ symbol, symbol ≠ a.symbol → e'.lotsOf symbol = e.lotsOf symbol) ∧
      ∃ s, FillSide.parse a.side = some s ∧ Moved a s (e.lotsOf a.symbol) res (e'.lotsOf a.symbol) := by
  obtain ⟨s, -, h0, -, hside, hal, hone⟩ := allocateFill_ok h
  have hlots : (e.touch a.symbol).lotsOf a.symbol = e.lotsOf a.symbol := lotsOf_touch e a.symbol a.symbol
  have hmoved := hal.moved (he.touch a.symbol) hq h0 (by rw [hlots]; exact hw a.symbol)
  rw [hlots] at hmoved
  have hother : ∀ symbol, symbol ≠ a.symbol → e'.lotsOf symbol = e.lotsOf symbol := by
    intro symbol hs
    rw [lotsOf_of_allocated hal hs, lotsOf_touch]
  refine ⟨fun symbol => ?_, fun symbol => ?_, hother, s, hside, hmoved⟩
  · by_cases hs : symbol = a.symbol
    · rw [hs]
      exact hone
    · rw [hother symbol hs]
      exact he symbol
  · by_cases hs : symbol = a.symbol
    · rw [hs]
      exact hmoved.whole
    · rw [hother symbol hs]
      exact hw symbol

end TaxLotEngine

end Quant
