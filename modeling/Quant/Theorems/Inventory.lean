import Quant.Execution.Models
import Quant.Lemmas.Inventory

namespace Quant

open Pylib

namespace TaxLotEngine

/-! ## Inventory and profit over runs of booked fills

Runs of calls that return, in quantities of six decimals. The lots of a symbol are at every moment worth what was bought less what
was sold, and their cost is what was paid less what was received, plus the profit realized.
-/

/-- The engines a run of calls that return reaches, with the fills booked so far and their results. -/
inductive Booked : TaxLotEngine → List (FillArgs × FillAllocationResult) → Prop
  | fresh (portfolioId : String) (defaultMethod : TaxLotMethod) (allowShorting : Bool) :
      Booked { portfolioId := portfolioId, defaultMethod := defaultMethod, allowShorting := allowShorting } []
  | fill {e e' : TaxLotEngine} {fs : List (FillArgs × FillAllocationResult)} {res : FillAllocationResult} (h : Booked e fs)
      (a : FillArgs) (rnd : Entropy) (hq : HasDecimals 6 a.quantity) (hok : e.allocateFill a rnd = (.ok res, e')) :
      Booked e' (fs ++ [(a, res)])

/-- A fill without its instant and its method. -/
structure Trade where
  side : Option FillSide
  quantity : ℚ
  price : ℚ

/-- The fills of a symbol. -/
def fillsOf (symbol : String) (fs : List (FillArgs × FillAllocationResult)) : List (FillArgs × FillAllocationResult) :=
  fs.filter (fun f => f.1.symbol = symbol)

/-- The trades of a symbol, in their order. -/
def trades (symbol : String) (fs : List (FillArgs × FillAllocationResult)) : List Trade :=
  (fillsOf symbol fs).map (fun f => ⟨FillSide.parse f.1.side, f.1.quantity, f.1.executionPrice⟩)

/-- The quantity of the trades on one side. -/
def quantityOn (s : FillSide) (ts : List Trade) : ℚ := ((ts.filter (fun t => t.side = some s)).map (·.quantity)).sum

/-- The value of the trades on one side. -/
def valueOn (s : FillSide) (ts : List Trade) : ℚ :=
  ((ts.filter (fun t => t.side = some s)).map (fun t => t.quantity * t.price)).sum

/-- The profit the fills of a symbol returned. -/
def realized (symbol : String) (fs : List (FillArgs × FillAllocationResult)) : ℚ :=
  ((fillsOf symbol fs).map (fun f => f.2.totalRealizedPnl)).sum

/-! ### One more fill -/

theorem fillsOf_concat (symbol : String) (fs : List (FillArgs × FillAllocationResult)) (f : FillArgs × FillAllocationResult) :
    fillsOf symbol (fs ++ [f]) = fillsOf symbol fs ++ if f.1.symbol = symbol then [f] else [] := by
  unfold fillsOf
  rw [List.filter_append]
  by_cases hs : f.1.symbol = symbol <;> simp [hs]

/-- The balance of two sides, however a trade is weighted: another trade changes it by its own weight, with its sign. -/
theorem balance_concat (v : Trade → ℚ) (ts : List Trade) {t : Trade} {s : FillSide} (hs : t.side = some s) :
    (((ts ++ [t]).filter (fun t => t.side = some .buy)).map v).sum -
      (((ts ++ [t]).filter (fun t => t.side = some .sell)).map v).sum =
      ((ts.filter (fun t => t.side = some .buy)).map v).sum - ((ts.filter (fun t => t.side = some .sell)).map v).sum +
        s.sign * v t := by
  cases s with
  | buy =>
    simp [List.filter_append, hs, FillSide.sign]
    ring
  | sell =>
    simp [List.filter_append, hs, FillSide.sign]
    ring

/-! ### Runs -/

/-- What a run keeps: the lots of a symbol hold what its trades come to, and cost what they come to in money and realized profit,
which is the returned profit up to the rounding of each call. -/
structure Balanced (symbol : String) (ls : List TaxLot) (fs : List (FillArgs × FillAllocationResult)) : Prop where
  held : held ls = quantityOn .buy (trades symbol fs) - quantityOn .sell (trades symbol fs)
  cost : ∃ pnl, cost ls - pnl = valueOn .buy (trades symbol fs) - valueOn .sell (trades symbol fs) ∧
    |realized symbol fs - pnl| ≤ 1 / 2 / 10 ^ 4 * (fillsOf symbol fs).length

theorem Balanced.fill {symbol : String} {ls ls' : List TaxLot} {fs : List (FillArgs × FillAllocationResult)} {a : FillArgs}
    {res : FillAllocationResult} {s : FillSide} (h : Balanced symbol ls fs) (hsym : a.symbol = symbol)
    (hside : FillSide.parse a.side = some s) (hm : Moved a s ls res ls') : Balanced symbol ls' (fs ++ [(a, res)]) := by
  obtain ⟨pnl, hcost, hround⟩ := h.cost
  obtain ⟨pnl', hres, hcost'⟩ := hm.cost
  have htrades : trades symbol (fs ++ [(a, res)]) = trades symbol fs ++ [⟨some s, a.quantity, a.executionPrice⟩] := by
    simp [trades, fillsOf_concat, hsym, hside]
  have hrealized : realized symbol (fs ++ [(a, res)]) = realized symbol fs + round pnl' 4 := by
    simp [realized, fillsOf_concat, hsym, hres]
  have hlen : ((fillsOf symbol (fs ++ [(a, res)])).length : ℚ) = (fillsOf symbol fs).length + 1 := by
    simp [fillsOf_concat, hsym]
  refine ⟨?_, pnl + pnl', ?_, ?_⟩
  · rw [htrades, quantityOn, quantityOn, balance_concat _ _ rfl, hm.held, h.held, quantityOn, quantityOn]
  · rw [htrades, valueOn, valueOn, balance_concat _ _ rfl]
    simp only [valueOn] at hcost
    linarith
  · have hr := Pylib.abs_round_sub_le pnl' 4
    have hsplit : realized symbol fs + round pnl' 4 - (pnl + pnl') =
        (realized symbol fs - pnl) + (round pnl' 4 - pnl') := by ring
    rw [hrealized, hlen, hsplit, mul_add, mul_one]
    exact (abs_add_le _ _).trans (add_le_add hround hr)

theorem Balanced.other {symbol : String} {ls : List TaxLot} {fs : List (FillArgs × FillAllocationResult)} {a : FillArgs}
    {res : FillAllocationResult} (h : Balanced symbol ls fs) (hsym : a.symbol ≠ symbol) :
    Balanced symbol ls (fs ++ [(a, res)]) := by
  have hfills : fillsOf symbol (fs ++ [(a, res)]) = fillsOf symbol fs := by simp [fillsOf_concat, hsym]
  have htrades : trades symbol (fs ++ [(a, res)]) = trades symbol fs := by rw [trades, hfills, trades]
  obtain ⟨pnl, hcost, hround⟩ := h.cost
  refine ⟨?_, pnl, ?_, ?_⟩
  · rw [htrades, h.held]
  · rw [htrades, hcost]
  · rw [realized, hfills]
    exact hround

/-- The invariant of a run. -/
theorem Booked.balanced {e : TaxLotEngine} {fs : List (FillArgs × FillAllocationResult)} (h : Booked e fs) :
    e.WellFormed ∧ e.Whole ∧ ∀ symbol, Balanced symbol (e.lotsOf symbol) fs := by
  induction h with
  | fresh =>
    refine ⟨fun _ _ hl => (by cases hl), fun _ _ hl => (by cases hl), fun symbol => ⟨?_, 0, ?_, ?_⟩⟩
    · exact (sub_self (0 : ℚ)).symm
    · exact (sub_zero (0 : ℚ)).trans (sub_self (0 : ℚ)).symm
    · simp [realized, fillsOf]
  | @fill e e' fs res _ a rnd hq hok ih =>
    obtain ⟨he, hw, hb⟩ := ih
    obtain ⟨he', hw', hother, s, hside, hmoved⟩ := allocateFill_moved he hw hq hok
    refine ⟨he', hw', fun symbol => ?_⟩
    by_cases hs : a.symbol = symbol
    · rw [← hs]
      exact (hb a.symbol).fill rfl hside hmoved
    · rw [hother symbol (Ne.symm hs)]
      exact (hb symbol).other hs

/-- After any run the position of a symbol is what was bought less what was sold, its open lots are on one side and hold a
positive quantity within what they were opened with, and the inventory verifies. -/
theorem inventory_of_booked {e : TaxLotEngine} {fs : List (FillArgs × FillAllocationResult)} (h : Booked e fs)
    (symbol : String) :
    e.getPosition symbol = quantityOn .buy (trades symbol fs) - quantityOn .sell (trades symbol fs) ∧
      (∀ l ∈ e.getOpenLots symbol, ∀ l' ∈ e.getOpenLots symbol, l.side = l'.side) ∧
      (∀ l ∈ e.getOpenLots symbol, 0 < l.remainingQuantity ∧ l.remainingQuantity ≤ l.originalQuantity) ∧
      e.verifyInventoryConservation symbol = .ok () := by
  obtain ⟨he, hw, hb⟩ := h.balanced
  refine ⟨?_, ?_, ?_, (verify_eq_ok_iff e symbol).2 (he symbol)⟩
  · rw [getPosition_eq_held (he symbol) (hw symbol), (hb symbol).held]
  · intro l hl l' hl'
    obtain ⟨hmem, ho⟩ := List.mem_filter.1 hl
    obtain ⟨hmem', ho'⟩ := List.mem_filter.1 hl'
    exact he symbol l hmem l' hmem' ho ho'
  · intro l hl
    obtain ⟨hmem, ho⟩ := List.mem_filter.1 hl
    rw [TaxLot.isOpen, decide_eq_true_eq] at ho
    exact ⟨lotEpsilon_pos.trans ho, (hw symbol l hmem).le⟩

/-! ### A purchase of ten and a sale of fifteen -/

/-- Booking a fill that the engine accepts. -/
theorem Booked.fill_of_isOk {e : TaxLotEngine} {fs : List (FillArgs × FillAllocationResult)} (h : Booked e fs)
    (a : FillArgs) (rnd : Entropy) (hq : HasDecimals 6 a.quantity) (hok : (e.allocateFill a rnd).1.isOk = true) :
    ∃ res, Booked (e.allocateFill a rnd).2 (fs ++ [(a, res)]) := by
  obtain ⟨res, e', hres⟩ := exists_ok_of_isOk hok
  rw [hres]
  exact ⟨res, h.fill a rnd hq hres⟩

/-- A purchase of ten at one hundred. -/
def buyTen : FillArgs := { symbol := "AAPL", side := "BUY", quantity := 10, executionPrice := 100 }

/-- A sale of fifteen at one hundred and ten, by either method. -/
def sellFifteen (m : TaxLotMethod) : FillArgs :=
  { symbol := "AAPL", side := "SELL", quantity := 15, executionPrice := 110, method := some m }

/-- The sale closes the ten and opens a short position of five. -/
theorem booked_flip (m : TaxLotMethod) : ∃ (e : TaxLotEngine) (fs : List (FillArgs × FillAllocationResult)),
    Booked e fs ∧ trades "AAPL" fs = [⟨some .buy, 10, 100⟩, ⟨some .sell, 15, 110⟩] := by
  have hten : HasDecimals 6 10 := ⟨10000000, by norm_num⟩
  have hfifteen : HasDecimals 6 15 := ⟨15000000, by norm_num⟩
  obtain ⟨res, h1⟩ := (Booked.fresh "default_portfolio" .fifo true).fill_of_isOk buyTen { now := 0, hex := fun _ => "0" } hten
    (by decide +kernel)
  obtain ⟨res', h2⟩ := h1.fill_of_isOk (sellFifteen m) { now := 1, hex := fun _ => "1" } hfifteen
    (by cases m <;> decide +kernel)
  refine ⟨_, _, h2, ?_⟩
  have hbuy : FillSide.parse "BUY" = some .buy := by decide
  have hsell : FillSide.parse "SELL" = some .sell := by decide
  simp [trades, fillsOf, hbuy, hsell, buyTen, sellFifteen]

theorem inventory_of_booked_flip : ∃ (e : TaxLotEngine) (fs : List (FillArgs × FillAllocationResult)),
    trades "AAPL" fs = [⟨some .buy, 10, 100⟩, ⟨some .sell, 15, 110⟩] ∧
    e.getPosition "AAPL" = quantityOn .buy (trades "AAPL" fs) - quantityOn .sell (trades "AAPL" fs) ∧
      (∀ l ∈ e.getOpenLots "AAPL", ∀ l' ∈ e.getOpenLots "AAPL", l.side = l'.side) ∧
      (∀ l ∈ e.getOpenLots "AAPL", 0 < l.remainingQuantity ∧ l.remainingQuantity ≤ l.originalQuantity) ∧
      e.verifyInventoryConservation "AAPL" = .ok () := by
  obtain ⟨e, fs, h, htrades⟩ := booked_flip .fifo
  exact ⟨e, fs, htrades, inventory_of_booked h "AAPL"⟩

/-! ### Profit -/

/-- The profit returned so far and the unrealized one at a price, against what the trades come to in money with a position at that
price: they differ by the rounding of each call, and of the question. -/
theorem Balanced.profit {symbol : String} {ls : List TaxLot} {fs : List (FillArgs × FillAllocationResult)}
    (h : Balanced symbol ls fs) (p pos : ℚ) :
    |realized symbol fs + round (pos * p - Quant.cost ls) 4 -
        (valueOn .sell (trades symbol fs) - valueOn .buy (trades symbol fs) + pos * p)| ≤
      5 / 10 ^ 5 * ((trades symbol fs).length + 1) := by
  obtain ⟨pnl, hcost, hround⟩ := h.cost
  have hr := Pylib.abs_round_sub_le (pos * p - Quant.cost ls) 4
  have hlen : (trades symbol fs).length = (fillsOf symbol fs).length := List.length_map _
  have hsplit : realized symbol fs + round (pos * p - Quant.cost ls) 4 -
      (valueOn .sell (trades symbol fs) - valueOn .buy (trades symbol fs) + pos * p) =
      (realized symbol fs - pnl) + (round (pos * p - Quant.cost ls) 4 - (pos * p - Quant.cost ls)) := by
    linarith
  have hhalf : (5 : ℚ) / 10 ^ 5 = 1 / 2 / 10 ^ 4 := by norm_num
  rw [hsplit, hlen, hhalf, mul_add, mul_one]
  exact (abs_add_le _ _).trans (add_le_add hround hr)

/-- The profit identity: what the calls returned and what the open lots would bring at a price is, up to half a unit of the fourth
decimal a call and one for the question, what was received less what was paid with the position at that price. Two runs with the
same trades therefore agree up to twice that, whichever method each call used. -/
theorem profit_of_booked {e : TaxLotEngine} {fs : List (FillArgs × FillAllocationResult)} (h : Booked e fs) (symbol : String)
    {p : ℚ} (hp : 0 < p) :
    ∃ u, e.getUnrealizedPnl symbol p = .ok u ∧
      |realized symbol fs + u -
          (valueOn .sell (trades symbol fs) - valueOn .buy (trades symbol fs) + e.getPosition symbol * p)| ≤
        5 / 10 ^ 5 * ((trades symbol fs).length + 1) ∧
      ∀ (e' : TaxLotEngine) (fs' : List (FillArgs × FillAllocationResult)), Booked e' fs' → trades symbol fs' = trades symbol fs →
        ∃ u', e'.getUnrealizedPnl symbol p = .ok u' ∧
          |realized symbol fs + u - (realized symbol fs' + u')| ≤ 2 * (5 / 10 ^ 5 * ((trades symbol fs).length + 1)) := by
  obtain ⟨he, hw, hb⟩ := h.balanced
  have hpos := getPosition_eq_held (he symbol) (hw symbol)
  have hprofit := (hb symbol).profit p (e.getPosition symbol)
  refine ⟨_, getUnrealizedPnl_eq (he symbol) (hw symbol) hp, hprofit, fun e' fs' h' htrades => ?_⟩
  obtain ⟨he', hw', hb'⟩ := h'.balanced
  have hpos' := getPosition_eq_held (he' symbol) (hw' symbol)
  have hprofit' := (hb' symbol).profit p (e'.getPosition symbol)
  refine ⟨_, getUnrealizedPnl_eq (he' symbol) (hw' symbol) hp, ?_⟩
  -- the same trades give the same position, so both totals are near the same amount
  have hsame : e'.getPosition symbol = e.getPosition symbol := by
    rw [hpos, hpos', (hb symbol).held, (hb' symbol).held, htrades]
  rw [htrades, hsame] at hprofit'
  rw [hsame]
  rw [abs_sub_comm] at hprofit'
  refine (abs_sub_le _ _ _).trans ((add_le_add hprofit hprofit').trans (le_of_eq ?_))
  ring

theorem profit_of_booked_flip : ∃ (e : TaxLotEngine) (fs : List (FillArgs × FillAllocationResult)),
    trades "AAPL" fs = [⟨some .buy, 10, 100⟩, ⟨some .sell, 15, 110⟩] ∧
    ∃ u, e.getUnrealizedPnl "AAPL" 100 = .ok u ∧
      |realized "AAPL" fs + u -
          (valueOn .sell (trades "AAPL" fs) - valueOn .buy (trades "AAPL" fs) + e.getPosition "AAPL" * 100)| ≤
        5 / 10 ^ 5 * ((trades "AAPL" fs).length + 1) ∧
      ∀ (e' : TaxLotEngine) (fs' : List (FillArgs × FillAllocationResult)), Booked e' fs' → trades "AAPL" fs' = trades "AAPL" fs →
        ∃ u', e'.getUnrealizedPnl "AAPL" 100 = .ok u' ∧
          |realized "AAPL" fs + u - (realized "AAPL" fs' + u')| ≤ 2 * (5 / 10 ^ 5 * ((trades "AAPL" fs).length + 1)) := by
  obtain ⟨e, fs, h, htrades⟩ := booked_flip .lifo
  exact ⟨e, fs, htrades, profit_of_booked h "AAPL" Literal.hundred_pos⟩

end TaxLotEngine

end Quant
