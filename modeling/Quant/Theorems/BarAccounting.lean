import Mathlib.Algebra.BigOperators.Ring.List
import Mathlib.Algebra.Order.BigOperators.Group.List
import Mathlib.Tactic.FieldSimp
import Mathlib.Tactic.Linarith
import Mathlib.Tactic.NormNum
import Mathlib.Tactic.Ring
import Quant.Analytics.Simulation

namespace Quant

open Pylib

/-! ## Accounting over runs of bars

A call of the ledger either raises and changes nothing, or posts one bar. What the bars of a run add up to is read off the calls
that returned: the equity is the capital with the earnings and without the costs.
-/

namespace PortfolioLedger

/-- The ledger after a sequence of calls. -/
def run (self : PortfolioLedger) : List UpdateArgs → PortfolioLedger
  | [] => self
  | a :: calls => (self.update a).2.run calls

/-- The calls of a sequence that return: its bars. -/
def accepted (self : PortfolioLedger) : List UpdateArgs → List UpdateArgs
  | [] => []
  | a :: calls =>
    if (self.update a).1.isOk then a :: (self.update a).2.accepted calls else (self.update a).2.accepted calls

end PortfolioLedger

/-- What the bars earn before costs: from the second on, each the positions of the bar before at its own returns. -/
def earned : List UpdateArgs → ℚ
  | a :: b :: bars => dot a.newPositions.values b.returnVector.values + earned (b :: bars)
  | _ => 0

/-- What the bars cost. -/
def spent (bars : List UpdateArgs) : ℚ := (bars.map (·.frictionCost.toRat)).sum

namespace PortfolioLedger

/-- The ledger accounts for its bars from capital `c` on. -/
structure Accounts (c : ℚ) (bars : List UpdateArgs) (l : PortfolioLedger) : Prop where
  equity_eq : l.equity = c + earned bars - spent bars
  equity_eq_cash : l.equity = l.cash + l.currentPositions.sum
  equity_pos : 0 < l.equity
  netReturns_prod : (l.netReturns.map (1 + ·)).prod = l.equity / c
  hwm_eq : l.hwm = l.equityCurve.foldl max c
  equityCurve_last : (c :: l.equityCurve).getLast? = some l.equity
  equityCurve_eq : l.equityCurve = l.history.map (·.portfolioEquity)
  bars_length : l.netReturns.length = bars.length ∧ l.equityCurve.length = bars.length

/-! ### One call -/

/-- A record that meets the checks is built. -/
theorem create_eq_ok (r : BarExecutionRecordFields) (h1 : 0 ≤ r.stepIndex) (h2 : 0 ≤ r.timestamp) (h3 : 0 ≤ r.frictionCost)
    (h4 : 0 ≤ r.effectiveLeverage) (h5 : 0 ≤ r.drawdown ∧ r.drawdown ≤ 1) (h6 : strip r.circuitBreakerTier ≠ "")
    (h7 : 0 ≤ r.circuitBreakerHaircut ∧ r.circuitBreakerHaircut ≤ 1)
    (h8 : r.targetAllocations.length = r.discretizedAllocations.length) :
    ∃ r', r.create = .ok r' ∧ r'.toBarExecutionRecordFields = r := by
  refine ⟨⟨r, h1, h2, h3, h4, h5, h6, h7, h8⟩, ?_, rfl⟩
  unfold BarExecutionRecordFields.create
  rw [dif_neg (not_lt.2 h1), dif_neg (not_lt.2 h2), dif_neg (not_lt.2 h3), dif_neg (not_lt.2 h4), dif_neg (not_not.2 h5),
    dif_neg h6, dif_neg (not_not.2 h7), dif_neg (not_not.2 h8)]

/-- The record of a bar with equity above zero passes its checks. -/
theorem recordOf_create {l : PortfolioLedger} {a : UpdateArgs} (h : l.Admissible a) (he : 0 < (l.settlement a).equity) :
    ∃ r, (l.recordOf a).create = .ok r ∧ r.toBarExecutionRecordFields = l.recordOf a := by
  have habs : 0 ≤ (a.newPositions.values.map (|·|)).sum := by
    apply List.sum_nonneg
    intro x hx
    obtain ⟨y, -, rfl⟩ := List.mem_map.1 hx
    exact abs_nonneg y
  refine create_eq_ok _ h.stepIndex_nonneg h.timestamp_nonneg h.frictionCost_nonneg ?_ ?_ h.circuitBreakerTier_nonblank
    h.circuitBreakerHaircut_mem h.allocations_length
  · simp only [recordOf, if_pos he]
    exact div_nonneg habs he.le
  · simp only [recordOf, posted]
    exact ⟨le_max_left 0 _, max_le zero_le_one (min_le_left 1 _)⟩

/-- What a call can do: raise and change nothing, or post an admissible bar whose equity is above zero. -/
theorem update_cases (l : PortfolioLedger) (a : UpdateArgs) :
    (∃ exc, l.update a = (.error exc, l)) ∨
      (l.Admissible a ∧ 0 < (l.settlement a).equity ∧
        ∃ r, r.toBarExecutionRecordFields = l.recordOf a ∧
          l.update a = (.ok r, { l.posted a with history := l.history ++ [r] })) := by
  unfold update
  rcases l.validate a with exc | ⟨⟨h⟩⟩
  · exact .inl ⟨exc, rfl⟩
  · by_cases hruin : (l.settlement a).equity ≤ 0
    · simp only [settle, if_pos hruin]
      exact .inl ⟨_, rfl⟩
    · have he := not_le.1 hruin
      have hcash : ¬ (1 / 10 ^ 5 : ℚ) ≤ |(l.settlement a).equity -
          ((l.settlement a).equity - a.newPositions.values.sum + a.newPositions.values.sum)| := by
        rw [sub_add_cancel, sub_self, abs_zero]
        norm_num
      obtain ⟨r, hr, hrec⟩ := recordOf_create h he
      exact .inr ⟨h, he, r, hrec, by simp only [settle, if_neg hruin, if_neg hcash, hr]⟩

/-- A call that raises changes nothing. -/
theorem update_error {l : PortfolioLedger} {a : UpdateArgs} {exc : SimulationError} (h : (l.update a).1 = .error exc) :
    (l.update a).2 = l := by
  rcases l.update_cases a with ⟨_, he⟩ | ⟨-, -, r, -, hok⟩
  · rw [he]
  · rw [hok] at h
    cases h

/-! ### The bars so far -/

/-- What one more bar earns. -/
theorem earned_concat (bars : List UpdateArgs) (a : UpdateArgs) :
    earned (bars ++ [a]) = earned bars + (bars.getLast?.map fun b => dot b.newPositions.values a.returnVector.values).getD 0 := by
  induction bars with
  | nil => simp [earned]
  | cons b bars ih =>
    cases bars with
    | nil => simp [earned]
    | cons c bars =>
      simp only [List.cons_append] at ih ⊢
      rw [earned, earned, ih, List.getLast?_cons_cons, add_assoc]

theorem spent_concat (bars : List UpdateArgs) (a : UpdateArgs) : spent (bars ++ [a]) = spent bars + a.frictionCost.toRat := by
  simp [spent]

/-- The invariant of a run: the accounts, and what of the last bar the next one is settled on. -/
structure Kept (c : ℚ) (bars : List UpdateArgs) (l : PortfolioLedger) : Prop extends Accounts c bars l where
  capital_pos : 0 < c
  initialCapital_eq : l.initialCapital = c
  lastStepIndex_eq : l.lastStepIndex = bars.length - 1
  positions_eq : l.positions = bars.getLast?.map (·.newPositions.values)
  start_eq : bars = [] → l.equity = c

theorem kept_initial {c : ℚ} (h : 0 < c) : Kept c [] (initial c) where
  equity_eq := by simp [initial, earned, spent]
  equity_eq_cash := by simp [initial, currentPositions]
  equity_pos := h
  netReturns_prod := by simp [initial, div_self h.ne']
  hwm_eq := rfl
  equityCurve_last := rfl
  equityCurve_eq := rfl
  bars_length := ⟨rfl, rfl⟩
  capital_pos := h
  initialCapital_eq := rfl
  lastStepIndex_eq := rfl
  positions_eq := rfl
  start_eq := fun _ => rfl

/-- The settlement of an admissible bar: on the equity so far, with what the bar earns and costs. -/
theorem settlement_eq {c : ℚ} {bars : List UpdateArgs} {l : PortfolioLedger} {a : UpdateArgs} (h : Kept c bars l)
    (ha : l.Admissible a) :
    (l.settlement a).prevEquity = l.equity ∧
      (l.settlement a).equity = l.equity + (earned (bars ++ [a]) - earned bars) - a.frictionCost.toRat := by
  have hstep : a.stepIndex.toInt = bars.length := by
    rw [ha.stepIndex_eq, h.lastStepIndex_eq]
    omega
  rw [earned_concat]
  unfold settlement Settlement.equity
  by_cases h0 : bars = []
  · subst h0
    rw [if_pos (by rw [hstep]; rfl), h.initialCapital_eq, h.start_eq rfl]
    exact ⟨rfl, by simp; ring⟩
  · have hne : ¬ a.stepIndex.toInt = 0 := by
      have := List.length_pos_iff.2 h0
      omega
    obtain ⟨b, hb⟩ := Option.isSome_iff_exists.1 (List.getLast?_isSome.2 h0)
    rw [if_neg hne]
    simp only [currentPositions, h.positions_eq, hb, Option.map_some, Option.getD_some]
    exact ⟨trivial, by ring⟩

/-- A bar keeps the invariant. -/
theorem Kept.posted {c : ℚ} {bars : List UpdateArgs} {l : PortfolioLedger} {a : UpdateArgs} {r : BarExecutionRecord}
    (h : Kept c bars l) (ha : l.Admissible a) (he : 0 < (l.settlement a).equity)
    (hr : r.toBarExecutionRecordFields = l.recordOf a) :
    Kept c (bars ++ [a]) { l.posted a with history := l.history ++ [r] } := by
  obtain ⟨hprev, heq⟩ := settlement_eq h ha
  have hpos := h.equity_pos
  have hc := h.capital_pos
  exact
    { equity_eq := by
        simp only [PortfolioLedger.posted]
        rw [heq, spent_concat, h.equity_eq]
        ring
      equity_eq_cash := by simp [PortfolioLedger.posted, currentPositions]
      equity_pos := he
      netReturns_prod := by
        simp only [PortfolioLedger.posted, List.map_append, List.prod_append, h.netReturns_prod, List.map_singleton,
          List.prod_singleton, hprev]
        field_simp
        ring
      hwm_eq := by
        simp only [PortfolioLedger.posted]
        rw [List.foldl_append, h.hwm_eq]
        rfl
      equityCurve_last := by
        simp only [PortfolioLedger.posted]
        rw [← List.cons_append, List.getLast?_concat]
      equityCurve_eq := by
        simp only [PortfolioLedger.posted, List.map_append, List.map_singleton, hr, h.equityCurve_eq]
        rfl
      bars_length := by
        simp only [PortfolioLedger.posted, List.length_append, List.length_singleton]
        exact ⟨by rw [h.bars_length.1], by rw [h.bars_length.2]⟩
      capital_pos := hc
      initialCapital_eq := h.initialCapital_eq
      lastStepIndex_eq := by
        simp only [PortfolioLedger.posted, List.length_append, List.length_singleton]
        rw [ha.stepIndex_eq, h.lastStepIndex_eq]
        push_cast
        ring
      positions_eq := by simp [PortfolioLedger.posted]
      start_eq := fun h0 => absurd h0 (by simp) }

/-- A run keeps the invariant. -/
theorem Kept.run {c : ℚ} {bars : List UpdateArgs} {l : PortfolioLedger} (h : Kept c bars l) (calls : List UpdateArgs) :
    Kept c (bars ++ l.accepted calls) (l.run calls) := by
  induction calls generalizing bars l with
  | nil => simpa [accepted, PortfolioLedger.run] using h
  | cons a calls ih =>
    rw [PortfolioLedger.run, accepted]
    rcases l.update_cases a with ⟨exc, herr⟩ | ⟨ha, he, r, hr, hok⟩
    · rw [herr, if_neg (by simp [Except.isOk, Except.toBool])]
      exact ih h
    · rw [hok]
      have hnext := ih (h.posted ha he hr)
      rwa [List.append_assoc] at hnext

/-- A ledger that was made starts with nothing but its capital, which is above zero. -/
theorem init_eq_ok {v : PyValue} {l : PortfolioLedger} (h : init v = .ok l) : 0 < v.toRat ∧ l = initial v.toRat := by
  have hcreate : ∀ x : ℚ, create x = .ok l → 0 < x ∧ l = initial x := by
    intro x hx
    unfold create at hx
    split at hx
    · cases hx
    · rename_i hpos
      exact ⟨not_le.1 hpos, (Except.ok.inj hx).symm⟩
  unfold init at h
  split at h
  · exact hcreate _ h
  · exact hcreate _ h
  · cases h
  · cases h

theorem init_int {n : ℤ} (h : 0 < n) : init (.int n) = .ok (initial (PyValue.int n).toRat) :=
  if_neg (not_le.2 (Int.cast_pos.2 h))

/-- In every state a sequence of calls reaches, the ledger accounts for the bars that were accepted, and a call that raises leaves
it as it is. -/
theorem accounts_of_run {v : PyValue} {l : PortfolioLedger} (h : init v = .ok l) (calls : List UpdateArgs) :
    Accounts v.toRat (l.accepted calls) (l.run calls) ∧
      ∀ a exc, ((l.run calls).update a).1 = .error exc → ((l.run calls).update a).2 = l.run calls := by
  obtain ⟨hpos, rfl⟩ := init_eq_ok h
  have hkept := (kept_initial hpos).run calls
  rw [List.nil_append] at hkept
  exact ⟨hkept.toAccounts, fun a exc hraise => update_error hraise⟩

/-- A call for two assets at bar `t`. -/
def pairCall (t : ℤ) (returns positions : List ℚ) (cost : ℚ) : UpdateArgs where
  stepIndex := .int t
  timestamp := .int (86400 * t)
  returnVector := .ndarray (.vector returns)
  newPositions := .ndarray (.vector positions)
  frictionCost := .float cost
  circuitBreakerTier := .text "NORMAL"
  circuitBreakerHaircut := .float 1
  targetAllocations := .ndarray (.vector positions)

/-- Three bars, with a call out of order and one of ruin between them. -/
def pairCalls : List UpdateArgs :=
  [pairCall 0 [0, 0] [60, 20] 1, pairCall 2 [0, 0] [0, 0] 0, pairCall 1 [-2, 0] [0, 0] 0,
    pairCall 1 [1 / 10, 1 / 20] [50, 50] 2, pairCall 2 [1 / 50, -1 / 10] [0, 0] 1]

theorem accounts_of_run_pairCalls :
    Accounts (PyValue.int 100).toRat ((initial (PyValue.int 100).toRat).accepted pairCalls)
        ((initial (PyValue.int 100).toRat).run pairCalls) ∧
      ∀ a exc, (((initial (PyValue.int 100).toRat).run pairCalls).update a).1 = .error exc →
        (((initial (PyValue.int 100).toRat).run pairCalls).update a).2 = (initial (PyValue.int 100).toRat).run pairCalls :=
  accounts_of_run (init_int (by decide)) pairCalls

example : ((initial 100).accepted pairCalls).length = 3 ∧ ((initial 100).run pairCalls).equity = 99 := by decide +kernel

end PortfolioLedger
end Quant
