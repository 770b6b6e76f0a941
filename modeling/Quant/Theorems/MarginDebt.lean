import Quant.Theorems.JournalCash

/-!
# The margin debt of a portfolio

A fill sets the debt from the balance it leaves. The accrual of a day sets it from the balance it found, before the charge: the
debt is what the balance is short of zero only if the charge leaves both as they were.
-/

namespace Quant

open Pylib

/-! ## The charge of a day -/

namespace FinancingConfig

/-- The interest on a balance. -/
def interestOn (c : FinancingConfig) (cash days : ℚ) : ℚ :=
  if 0 ≤ cash then 0 else round (|cash| * (c.annualMarginRate / c.dayCountConvention) * days) 4

/-- The fees on the short positions. -/
def feesOn (c : FinancingConfig) (positions : List (String × ℚ)) (prices : Dict String ℚ) (days : ℚ) : ℚ :=
  ((positions.filter (fun p => p.2 < 0)).map (fun p => c.borrowFee p.1 (|p.2| * prices.getD p.1 0) days)).sum

/-- The charge of a day: the interest and the fees. -/
def charge (c : FinancingConfig) (cash : ℚ) (positions prices : Dict String ℚ) (days : ℚ) : ℚ :=
  c.interestOn cash days + c.feesOn positions.items prices days

variable (c : FinancingConfig)

theorem calculateMarginInterest_ok {cash days interest : ℚ} (h : c.calculateMarginInterest cash days = .ok interest) :
    interest = c.interestOn cash days := by
  unfold calculateMarginInterest at h
  unfold interestOn
  split at h
  · cases h
  · split at h
    · rename_i hzero
      cases h
      rcases hzero with hcash | hdays
      · rw [if_pos hcash]
      · rw [hdays, mul_zero, round_of_hasDecimals (HasDecimals.zero 4), ite_self]
    · rename_i hzero
      cases h
      rw [not_or] at hzero
      rw [if_neg hzero.1]

theorem borrowLoop_ok {prices : Dict String ℚ} {days : ℚ} {ps : List (String × ℚ)} {st st' : BorrowState}
    (h : c.borrowLoop prices days ps st = .ok st') : st'.totalFees = st.totalFees + c.feesOn ps prices days := by
  induction ps generalizing st with
  | nil =>
    cases h
    simp [feesOn]
  | cons p ps ih =>
    obtain ⟨sym, qty⟩ := p
    rw [borrowLoop] at h
    split at h
    · rename_i hlong
      rw [ih h, feesOn, feesOn, List.filter_cons_of_neg (by simpa using hlong)]
    · rename_i hshort
      split at h
      · cases h
      · rename_i price hprice
        split at h
        · cases h
        · have hget : prices.getD sym 0 = price := Dict.getD_of_get?_some 0 hprice
          rw [ih h, feesOn, feesOn, List.filter_cons_of_pos (by simpa using hshort), List.map_cons, List.sum_cons, hget,
            add_assoc]

theorem hasDecimals_interestOn (cash days : ℚ) : HasDecimals 4 (c.interestOn cash days) := by
  unfold interestOn
  split
  · exact HasDecimals.zero 4
  · exact hasDecimals_round _ 4

theorem hasDecimals_feesOn (ps : List (String × ℚ)) (prices : Dict String ℚ) (days : ℚ) :
    HasDecimals 4 (c.feesOn ps prices days) := by
  refine HasDecimals.sum fun x hx => ?_
  obtain ⟨p, -, rfl⟩ := List.mem_map.1 hx
  exact hasDecimals_round _ 4

theorem hasDecimals_charge (cash : ℚ) (positions prices : Dict String ℚ) (days : ℚ) :
    HasDecimals 4 (c.charge cash positions prices days) :=
  (c.hasDecimals_interestOn cash days).add (c.hasDecimals_feesOn positions.items prices days)

/-- The fees that are calculated are the ones on the short positions. -/
theorem calculateBorrowFees_ok {positions prices : Dict String ℚ} {days : ℚ} {out : ℚ × ℚ × Dict String ℚ}
    (h : c.calculateBorrowFees positions prices days = .ok out) : 0 ≤ days ∧ out.1 = c.feesOn positions.items prices days := by
  unfold calculateBorrowFees at h
  obtain ⟨hdays, h⟩ := of_check_ok h
  split at h
  · cases h
  · rename_i st hloop
    have htotal := c.borrowLoop_ok hloop
    rw [zero_add] at htotal
    cases h
    exact ⟨not_lt.1 hdays, by rw [htotal, round_of_hasDecimals (c.hasDecimals_feesOn _ prices days)]⟩

/-- The entries of a charge. -/
def chargeJournal (portfolioId : String) (cash : ℚ) (positions prices : Dict String ℚ) (days : ℚ) (draw : AccrualDraw) :
    List JournalEntryDraft :=
  chargeEntries portfolioId draw.marginTx "EXPENSE_MARGIN_INTEREST" (c.interestOn cash days) draw.now ++
    chargeEntries portfolioId draw.borrowTx "EXPENSE_SHORT_BORROW" (c.feesOn positions.items prices days) draw.now

/-- What an accrual that returned did: it took the charge from the balance, the debt is that of the balance it found, and the
journal is that of the charge. -/
theorem accrueDailyFinancing_ok {portfolioId : String} {cash : ℚ} {positions prices : Dict String ℚ} {dateStr : String} {days : ℚ}
    {draw : AccrualDraw} {res : DailyAccrualResult}
    (h : c.accrueDailyFinancing portfolioId cash positions prices dateStr days draw = .ok res) :
    0 ≤ days ∧ res.cashBalanceBefore = cash ∧ res.cashBalanceAfter = round (cash - c.charge cash positions prices days) 4 ∧
      res.marginDebitBalance = max 0 (-cash) ∧
      res.journalEntries = c.chargeJournal portfolioId cash positions prices days draw := by
  unfold accrueDailyFinancing at h
  split at h
  · cases h
  · rename_i interest hinterest
    split at h
    · cases h
    · rename_i fees notional perSymbol hfees
      dsimp only at h
      split at h
      · cases h
      · cases h
        obtain ⟨hdays, rfl⟩ := c.calculateBorrowFees_ok hfees
        obtain rfl := c.calculateMarginInterest_ok hinterest
        refine ⟨hdays, rfl, ?_, rfl, rfl⟩
        have hcharge := c.hasDecimals_charge cash positions prices days
        rw [charge] at hcharge
        dsimp only
        rw [round_of_hasDecimals hcharge, charge]

end FinancingConfig

/-- The debt of a balance is that of the balance after a charge in two cases: neither is short of zero, or nothing is charged and
the balance is in whole units already. -/
theorem debt_eq_iff {cash charge : ℚ} (h : HasDecimals 4 charge) :
    max 0 (-cash) = max 0 (-round (cash - charge) 4) ↔
      0 ≤ cash ∧ charge ≤ cash + 1 / 2 / 10 ^ 4 ∨ cash < 0 ∧ HasDecimals 4 cash ∧ charge = 0 := by
  rcases le_or_gt 0 cash with hcash | hcash
  · have hzero : max 0 (-cash) = 0 := max_eq_left (neg_nonpos.2 hcash)
    have hiff : 0 = max 0 (-round (cash - charge) 4) ↔ 0 ≤ round (cash - charge) 4 := by
      rw [eq_comm, max_eq_left_iff, neg_nonpos]
    rw [hzero, hiff, round_nonneg_iff]
    constructor
    · intro hle
      exact .inl ⟨hcash, by linarith⟩
    · rintro (⟨-, hle⟩ | ⟨hneg, -⟩)
      · linarith
      · exact absurd hneg (not_lt.2 hcash)
  · have hpos : max 0 (-cash) = -cash := max_eq_right (neg_nonneg.2 hcash.le)
    rw [hpos]
    constructor
    · intro heq
      have hround : round (cash - charge) 4 = cash := by
        rcases max_choice 0 (-round (cash - charge) 4) with hmax | hmax
        · rw [hmax] at heq
          linarith
        · rw [hmax] at heq
          exact (neg_injective heq).symm
      have hdec : HasDecimals 4 cash := hround ▸ hasDecimals_round (cash - charge) 4
      rw [round_of_hasDecimals (hdec.sub h)] at hround
      exact .inr ⟨hcash, hdec, by linarith⟩
    · rintro (⟨hneg, -⟩ | ⟨-, hdec, hzero⟩)
      · exact absurd hcash (not_lt.2 hneg)
      · rw [hzero, sub_zero, round_of_hasDecimals hdec, hpos]

/-! ## Calls of the service -/

namespace LedgerService

/-- A call that changes the balance. -/
inductive LedgerCall
  | fill (c : FillCall)
  | accrual (c : AccrualCall)

/-- The service and the database after a call, whether it returned or raised. -/
def call (st : LedgerService × LedgerDb) : LedgerCall → LedgerService × LedgerDb
  | .fill c => (st.1.recordFill st.2 c).2
  | .accrual c => (st.1, (st.1.accrueDailyEod st.2 c).2)

/-- The margin debt of the portfolio is what its balance is short of zero. -/
def DebtMatches (st : LedgerService × LedgerDb) : Prop :=
  ∀ row, st.2.portfolioLedgers.get? st.1.portfolioId = some row → row.marginDebt = max 0 (-row.cashBalance)

/-- The charge of a day leaves the balance at or above zero, or there is none on a balance below it. -/
def ChargeCovered (svc : LedgerService) (db : LedgerDb) (c : AccrualCall) : Prop :=
  ∀ row, db.portfolioLedgers.get? svc.portfolioId = some row →
    0 ≤ row.cashBalance ∧
        svc.financingModel.charge row.cashBalance svc.positions c.currentPrices c.days ≤ row.cashBalance + 1 / 2 / 10 ^ 4 ∨
      row.cashBalance < 0 ∧ HasDecimals 4 row.cashBalance ∧
        svc.financingModel.charge row.cashBalance svc.positions c.currentPrices c.days = 0

/-- What a call must meet: a fill nothing, an accrual that its charge is covered. -/
def KeepsDebt (st : LedgerService × LedgerDb) : LedgerCall → Prop
  | .fill _ => True
  | .accrual c => ChargeCovered st.1 st.2 c

/-- A fill that raised changed nothing in the database. -/
theorem recordFill_error {svc : LedgerService} {db : LedgerDb} {c : FillCall} {exc : Exc} {st : LedgerService × LedgerDb}
    (h : svc.recordFill db c = (.error exc, st)) : st.2 = db ∧ st.1.portfolioId = svc.portfolioId := by
  unfold recordFill at h
  split at h
  · cases h
    exact ⟨rfl, rfl⟩
  · split at h
    · cases h
      exact ⟨rfl, rfl⟩
    · cases h

/-- A fill that returned leaves the debt right. -/
theorem debtMatches_recordFill {svc : LedgerService} {db : LedgerDb} {c : FillCall} {res : FillAllocationResult}
    {st : LedgerService × LedgerDb} (h : svc.recordFill db c = (.ok res, st)) : DebtMatches st := by
  obtain ⟨e', -, hsvc, hpersist⟩ := recordFill_ok h
  have hid : st.1.portfolioId = svc.portfolioId := by rw [hsvc]
  intro row hrow
  rw [hid, LedgerDb.writeFill_get? (persistFill_ok hpersist)] at hrow
  obtain ⟨old, -, rfl⟩ := Option.map_eq_some_iff.1 hrow
  rfl

theorem debtMatches_fill {st : LedgerService × LedgerDb} (h : DebtMatches st) (c : FillCall) :
    DebtMatches (call st (.fill c)) := by
  cases hcall : st.1.recordFill st.2 c with
  | mk out st' =>
    have hst : call st (.fill c) = st' := by rw [call, hcall]
    rw [hst]
    cases out with
    | error exc =>
      obtain ⟨hdb, hid⟩ := recordFill_error hcall
      rw [DebtMatches, hdb, hid]
      exact h
    | ok res => exact debtMatches_recordFill hcall

/-- An accrual raised, with nothing changed, or returned, with the charge taken from the balance. -/
theorem accrueDailyEod_cases (svc : LedgerService) (db : LedgerDb) (c : AccrualCall) :
    (∃ exc, svc.accrueDailyEod db c = (.error exc, db)) ∨
      ∃ accrual row row' db', svc.accrueDailyEod db c = (.ok accrual, db') ∧
        db.portfolioLedgers.get? svc.portfolioId = some row ∧ db'.portfolioLedgers.get? svc.portfolioId = some row' ∧
        row'.cashBalance =
          round (row.cashBalance - svc.financingModel.charge row.cashBalance svc.positions c.currentPrices c.days) 4 ∧
        row'.marginDebt = max 0 (-row.cashBalance) := by
  unfold accrueDailyEod
  split
  · exact .inl ⟨_, rfl⟩
  · split
    · exact .inl ⟨_, rfl⟩
    · rename_i row hrow
      split
      · exact .inl ⟨_, rfl⟩
      · rename_i accrual haccrual
        obtain ⟨-, -, hcash, hdebt, -⟩ := FinancingConfig.accrueDailyFinancing_ok _ haccrual
        split
        · exact .inl ⟨_, rfl⟩
        · dsimp only
          split
          · exact .inl ⟨_, rfl⟩
          · split
            · exact .inl ⟨_, rfl⟩
            · split
              · exact .inl ⟨_, rfl⟩
              · exact .inr ⟨accrual, row, _, _, rfl, hrow, Dict.get?_set_self _ _ _, hcash, hdebt⟩

/-- An accrual that returned leaves the debt right exactly when its charge was covered. -/
theorem debtMatches_accrual_iff {svc : LedgerService} {db db' : LedgerDb} {c : AccrualCall} {accrual : DailyAccrualResult}
    (h : svc.accrueDailyEod db c = (.ok accrual, db')) : DebtMatches (svc, db') ↔ ChargeCovered svc db c := by
  rcases accrueDailyEod_cases svc db c with ⟨exc, herr⟩ | ⟨accrual', row, row', db'', hok, hrow, hrow', hcash, hdebt⟩
  · rw [herr] at h
    cases h
  · rw [hok] at h
    cases h
    have hcharge := svc.financingModel.hasDecimals_charge row.cashBalance svc.positions c.currentPrices c.days
    have hiff := @debt_eq_iff row.cashBalance _ hcharge
    rw [← hcash, ← hdebt] at hiff
    constructor
    · intro hmatch row₁ hrow₁
      rw [hrow] at hrow₁
      cases hrow₁
      exact hiff.1 (hmatch row' hrow')
    · intro hcovered row₁ hrow₁
      rw [hrow'] at hrow₁
      cases hrow₁
      exact hiff.2 (hcovered row hrow)

theorem debtMatches_accrual {st : LedgerService × LedgerDb} (h : DebtMatches st) {c : AccrualCall}
    (hc : ChargeCovered st.1 st.2 c) : DebtMatches (call st (.accrual c)) := by
  rw [call]
  rcases accrueDailyEod_cases st.1 st.2 c with ⟨exc, herr⟩ | ⟨accrual, row, row', db', hok, -⟩
  · rw [herr]
    exact h
  · rw [hok]
    exact (debtMatches_accrual_iff hok).2 hc

/-- In a run of fills and accruals, in any order, whose charges are all covered, the debt stays right. Whatever the run started
from, a fill that returns next leaves it right, and an accrual that returns next exactly when its charge is covered. -/
theorem marginDebt_of_run {st₀ st : LedgerService × LedgerDb} (hrun : Run (stepOf call) KeepsDebt st₀ st) :
    (DebtMatches st₀ → DebtMatches st) ∧
      (∀ (c : FillCall) (res : FillAllocationResult) (st' : LedgerService × LedgerDb),
        st.1.recordFill st.2 c = (.ok res, st') → DebtMatches st') ∧
      ∀ (c : AccrualCall) (accrual : DailyAccrualResult) (db' : LedgerDb),
        st.1.accrueDailyEod st.2 c = (.ok accrual, db') → (DebtMatches (st.1, db') ↔ ChargeCovered st.1 st.2 c) := by
  refine ⟨hrun.invariant fun t i u ht hc hs => ?_, fun c res st' => debtMatches_recordFill,
    fun c accrual db' => debtMatches_accrual_iff⟩
  rw [hs]
  cases i with
  | fill c => exact debtMatches_fill ht c
  | accrual c => exact debtMatches_accrual ht hc

/-! ## A day after a purchase or a short sale -/

/-- A day with one price. -/
def oneDay (price : ℚ) : AccrualCall :=
  { dateStr := "2026-01-02"
    currentPrices := Dict.set ∅ "AAPL" price
    draw := { now := { micros := 1 }, marginTx := "tx-m", borrowTx := "tx-b" } }

/-- A million shares at one, bought with less than that: the interest of the day is taken from the balance and missing from the
debt. -/
theorem marginDebt_oneDay : ∃ row,
    (deskService.recordFill deskDb (millionShares "BUY" 1 0 "0")).1.isOk = true ∧
    ((bought 1).1.accrueDailyEod (bought 1).2 (oneDay 1)).1.isOk = true ∧
    ((bought 1).1.accrueDailyEod (bought 1).2 (oneDay 1)).2.portfolioLedgers.get? (bought 1).1.portfolioId = some row ∧
    row.marginDebt ≠ max 0 (-row.cashBalance) := by
  refine ⟨{ portfolioId := "default_portfolio", cashBalance := -9001625 / 10, marginDebt := 900000, totalEquity := 998375 / 10 },
    ?_, ?_, ?_, ?_⟩ <;> decide +kernel

/-- The service and the database after a million shares are sold short at a tenth. -/
def shorted : LedgerService × LedgerDb := call (deskService, deskDb) (.fill (millionShares "SELL" (1 / 10) 0 "0"))

theorem row_shorted : shorted.2.portfolioLedgers.get? shorted.1.portfolioId =
    some { portfolioId := "default_portfolio", cashBalance := 200000, totalEquity := 100000 } := by
  decide +kernel

/-- The borrow fee of the day is taken from a balance that covers it. -/
theorem chargeCovered_oneDay : ChargeCovered shorted.1 shorted.2 (oneDay (1 / 10)) := by
  intro row hrow
  rw [row_shorted] at hrow
  cases hrow
  left
  decide +kernel

/-- The state after the sale and the accrual. -/
def closed : LedgerService × LedgerDb := call shorted (.accrual (oneDay (1 / 10)))

example : (closed.2.portfolioLedgers.get? "default_portfolio").map (fun row => (row.cashBalance, row.marginDebt)) =
    some (1999958333 / 10000, 0) := by
  decide +kernel

theorem marginDebt_of_run_oneDay :
    (DebtMatches (deskService, deskDb) → DebtMatches closed) ∧
      (∀ (c : FillCall) (res : FillAllocationResult) (st' : LedgerService × LedgerDb),
        closed.1.recordFill closed.2 c = (.ok res, st') → DebtMatches st') ∧
      ∀ (c : AccrualCall) (accrual : DailyAccrualResult) (db' : LedgerDb),
        closed.1.accrueDailyEod closed.2 c = (.ok accrual, db') →
          (DebtMatches (closed.1, db') ↔ ChargeCovered closed.1 closed.2 c) :=
  marginDebt_of_run ((Run.refl.tail (i := .fill (millionShares "SELL" (1 / 10) 0 "0")) trivial rfl).tail
    (i := .accrual (oneDay (1 / 10))) chargeCovered_oneDay rfl)

end LedgerService

end Quant
