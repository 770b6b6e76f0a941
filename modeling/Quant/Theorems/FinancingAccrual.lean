import Quant.Theorems.MarginDebt

/-!
# The accrual of a day

The interest and the fees of an accrual go to the journal one by one, and off the balance in one sum. The rates of the table are
not checked: a negative one turns a fee into a rebate, and a sum of fees below zero is paid out without an entry.
-/

namespace Quant

open Pylib

/-- What the entries credit to the account of the cash. -/
def cashCredits (entries : List JournalEntryDraft) : ℚ :=
  ((entries.filter (fun e => e.entryType = .credit ∧ e.accountName = "ASSET_CASH")).map (·.amount)).sum

theorem cashCredits_append (es fs : List JournalEntryDraft) : cashCredits (es ++ fs) = cashCredits es + cashCredits fs := by
  simp [cashCredits]

theorem entryTotal_append (t : EntryType) (es fs : List JournalEntryDraft) :
    entryTotal t (es ++ fs) = entryTotal t es + entryTotal t fs := by
  simp [entryTotal]

namespace FinancingConfig

/-! ## The entries of a charge -/

/-- An amount in units of the fourth decimal is beyond the threshold as soon as it is above zero. -/
theorem threshold_lt_iff {amount : ℚ} (h : HasDecimals 4 amount) : 1 / 10 ^ 6 < amount ↔ 0 < amount := by
  constructor
  · intro hlt
    exact lt_trans (by norm_num) hlt
  · intro hpos
    have hle := h.le_abs hpos.ne'
    rw [abs_of_pos hpos] at hle
    exact lt_of_lt_of_le (by norm_num) hle

/-- The entries of one amount credit the cash and debit the expense by what of it is above zero. -/
theorem totals_chargeEntries {amount : ℚ} (h : HasDecimals 4 amount) (portfolioId txId account : String) (now : Instant) :
    cashCredits (chargeEntries portfolioId txId account amount now) = max 0 amount ∧
      entryTotal .debit (chargeEntries portfolioId txId account amount now) = max 0 amount := by
  unfold chargeEntries
  by_cases hpos : 0 < amount
  · rw [if_pos ((threshold_lt_iff h).2 hpos), max_eq_right hpos.le]
    simp [cashCredits, entryTotal]
  · rw [if_neg (mt (threshold_lt_iff h).1 hpos), max_eq_left (not_lt.1 hpos)]
    simp [cashCredits, entryTotal]

variable (c : FinancingConfig)

theorem dayCount_pos : (0 : ℚ) < c.dayCountConvention := by
  rcases c.dayCountConvention_mem with h | h <;> rw [h] <;> norm_num

theorem interestOn_nonneg (cash : ℚ) {days : ℚ} (h : 0 ≤ days) : 0 ≤ c.interestOn cash days := by
  have hrate := c.annualMarginRate_nonneg
  have hcount := c.dayCount_pos
  unfold interestOn
  split
  · exact le_rfl
  · have hinterest : 0 ≤ |cash| * (c.annualMarginRate / c.dayCountConvention) * days := by positivity
    exact (round_nonneg_iff _ 4).2 (le_trans (by norm_num) hinterest)

/-! ## Fees and rebates -/

/-- The yearly rate on a short position: that of the table, or the default. -/
def borrowRate (sym : String) : ℚ := c.hardToBorrowRates.getD sym c.defaultBorrowRate

/-- What a rate comes to on a short position in some days. -/
def billed (rate : ℚ) (prices : Dict String ℚ) (days : ℚ) (p : String × ℚ) : ℚ :=
  round (|p.2| * prices.getD p.1 0 * (rate / c.dayCountConvention) * days) 4

/-- The fees of the short positions whose rate is not negative. -/
def owed (positions : List (String × ℚ)) (prices : Dict String ℚ) (days : ℚ) : ℚ :=
  ((positions.filter (fun p => p.2 < 0 ∧ 0 ≤ c.borrowRate p.1)).map
    (fun p => c.billed (c.borrowRate p.1) prices days p)).sum

/-- What the short positions with a negative rate bring in. -/
def rebates (positions : List (String × ℚ)) (prices : Dict String ℚ) (days : ℚ) : ℚ :=
  ((positions.filter (fun p => p.2 < 0 ∧ c.borrowRate p.1 < 0)).map
    (fun p => c.billed (-c.borrowRate p.1) prices days p)).sum

/-- The rates of opposite signs come to opposite amounts. -/
theorem billed_neg (rate : ℚ) (prices : Dict String ℚ) (days : ℚ) (p : String × ℚ) :
    c.billed (-rate) prices days p = -c.billed rate prices days p := by
  unfold billed
  rw [neg_div, mul_neg, neg_mul, round_neg]

/-- The fees are what is owed less the rebates. -/
theorem feesOn_eq (positions : List (String × ℚ)) (prices : Dict String ℚ) (days : ℚ) :
    c.feesOn positions prices days = c.owed positions prices days - c.rebates positions prices days := by
  unfold feesOn owed rebates
  induction positions with
  | nil => simp
  | cons p ps ih =>
    by_cases hshort : p.2 < 0
    · have hfee : c.borrowFee p.1 (|p.2| * prices.getD p.1 0) days = c.billed (c.borrowRate p.1) prices days p := rfl
      rw [List.filter_cons_of_pos (by simpa using hshort), List.map_cons, List.sum_cons, ih, hfee]
      rcases le_or_gt 0 (c.borrowRate p.1) with hrate | hrate
      · rw [List.filter_cons_of_pos (by simp [hshort, hrate]), List.filter_cons_of_neg (by simp [hrate]),
          List.map_cons, List.sum_cons]
        ring
      · rw [List.filter_cons_of_neg (by simp [hrate]), List.filter_cons_of_pos (by simp [hshort, hrate]),
          List.map_cons, List.sum_cons,
          billed_neg]
        ring
    · rw [List.filter_cons_of_neg (by simpa using hshort), List.filter_cons_of_neg (by simp [hshort]),
        List.filter_cons_of_neg (by simp [hshort]), ih]

/-! ## The accrual -/

/-- What an accrual took from the balance is what it credited to the cash, and is debited as well and not negative. -/
structure Balanced (res : DailyAccrualResult) : Prop where
  taken : res.cashBalanceBefore - res.cashBalanceAfter = cashCredits res.journalEntries
  debited : cashCredits res.journalEntries = entryTotal .debit res.journalEntries
  nonneg : 0 ≤ cashCredits res.journalEntries

/-- The two totals of the journal of a charge. -/
theorem totals_chargeJournal (portfolioId : String) (cash : ℚ) (positions prices : Dict String ℚ) {days : ℚ} (hdays : 0 ≤ days)
    (draw : AccrualDraw) :
    cashCredits (c.chargeJournal portfolioId cash positions prices days draw) =
        c.interestOn cash days + max 0 (c.feesOn positions.items prices days) ∧
      entryTotal .debit (c.chargeJournal portfolioId cash positions prices days draw) =
        c.interestOn cash days + max 0 (c.feesOn positions.items prices days) := by
  obtain ⟨hcredit, hdebit⟩ := totals_chargeEntries (c.hasDecimals_interestOn cash days) portfolioId draw.marginTx
    "EXPENSE_MARGIN_INTEREST" draw.now
  obtain ⟨hcredit', hdebit'⟩ := totals_chargeEntries (c.hasDecimals_feesOn positions.items prices days) portfolioId draw.borrowTx
    "EXPENSE_SHORT_BORROW" draw.now
  rw [chargeJournal, cashCredits_append, entryTotal_append, hcredit, hcredit', hdebit, hdebit',
    max_eq_right (c.interestOn_nonneg cash hdays)]
  exact ⟨rfl, rfl⟩

/-- An accrual on a balance of four decimals is balanced exactly if the rebates on the short positions with a negative rate are no
more than the fees on the others. -/
theorem accrualBalanced_iff {portfolioId : String} {cash : ℚ} {positions prices : Dict String ℚ} {dateStr : String} {days : ℚ}
    {draw : AccrualDraw} {res : DailyAccrualResult} (hcash : HasDecimals 4 cash)
    (h : c.accrueDailyFinancing portfolioId cash positions prices dateStr days draw = .ok res) :
    Balanced res ↔ c.rebates positions.items prices days ≤ c.owed positions.items prices days := by
  obtain ⟨hdays, hbefore, hafter, -, hjournal⟩ := c.accrueDailyFinancing_ok h
  obtain ⟨hcredit, hdebit⟩ := c.totals_chargeJournal portfolioId cash positions prices hdays draw
  rw [round_of_hasDecimals (hcash.sub (c.hasDecimals_charge cash positions prices days))] at hafter
  have htaken : res.cashBalanceBefore - res.cashBalanceAfter = c.interestOn cash days + c.feesOn positions.items prices days := by
    rw [hbefore, hafter, charge]
    ring
  have hfees : 0 ≤ c.feesOn positions.items prices days ↔
      c.rebates positions.items prices days ≤ c.owed positions.items prices days := by
    rw [feesOn_eq, sub_nonneg]
  rw [← hfees]
  constructor
  · intro hbal
    have hsame := hbal.taken
    rw [htaken, hjournal, hcredit, add_right_inj] at hsame
    exact max_eq_right_iff.1 hsame.symm
  · intro hnonneg
    rw [max_eq_right hnonneg] at hcredit hdebit
    refine ⟨?_, ?_, ?_⟩
    · rw [htaken, hjournal, hcredit]
    · rw [hjournal, hcredit, hdebit]
    · rw [hjournal, hcredit]
      exact add_nonneg (c.interestOn_nonneg cash hdays) hnonneg

/-- The loop over the positions found a positive price for each that is short. -/
theorem price_pos_of_borrowLoop {prices : Dict String ℚ} {days : ℚ} {ps : List (String × ℚ)} {st st' : BorrowState}
    (h : c.borrowLoop prices days ps st = .ok st') : ∀ p ∈ ps, p.2 < 0 → 0 < prices.getD p.1 0 := by
  induction ps generalizing st with
  | nil => exact fun p hp => absurd hp List.not_mem_nil
  | cons p ps ih =>
    obtain ⟨sym, qty⟩ := p
    rw [borrowLoop] at h
    refine List.forall_mem_cons.2 ?_
    split at h
    · rename_i hlong
      exact ⟨fun hshort => absurd hshort (not_lt.2 hlong), ih h⟩
    · split at h
      · cases h
      · rename_i price hprice
        split at h
        · cases h
        · rename_i hpos
          refine ⟨fun _ => ?_, ih h⟩
          rw [Dict.getD_of_get?_some 0 hprice]
          exact not_le.1 hpos

/-- What is owed in an accrual that returned is not negative. -/
theorem owed_nonneg {portfolioId : String} {cash : ℚ} {positions prices : Dict String ℚ} {dateStr : String} {days : ℚ}
    {draw : AccrualDraw} {res : DailyAccrualResult}
    (h : c.accrueDailyFinancing portfolioId cash positions prices dateStr days draw = .ok res) :
    0 ≤ c.owed positions.items prices days := by
  obtain ⟨hdays, -⟩ := c.accrueDailyFinancing_ok h
  obtain ⟨st, hloop⟩ : ∃ st, c.borrowLoop prices days positions.items {} = .ok st := by
    cases hloop : c.borrowLoop prices days positions.items {} with
    | ok st => exact ⟨st, rfl⟩
    | error exc =>
      rw [accrueDailyFinancing, calculateBorrowFees, if_neg (not_lt.2 hdays), hloop] at h
      split at h <;> cases h
  refine List.sum_nonneg fun x hx => ?_
  obtain ⟨p, hp, rfl⟩ := List.mem_map.1 hx
  obtain ⟨hp, hp'⟩ := List.mem_filter.1 hp
  obtain ⟨hshort, hrate⟩ := of_decide_eq_true hp'
  have hprice := c.price_pos_of_borrowLoop hloop p hp hshort
  have hcount := c.dayCount_pos
  have hamount : 0 ≤ |p.2| * prices.getD p.1 0 * (c.borrowRate p.1 / c.dayCountConvention) * days := by positivity
  exact (round_nonneg_iff _ 4).2 (le_trans (by norm_num) hamount)

/-- Where no short position has a negative rate, the accrual is one that is balanced. -/
theorem rebates_le_owed {portfolioId : String} {cash : ℚ} {positions prices : Dict String ℚ} {dateStr : String} {days : ℚ}
    {draw : AccrualDraw} {res : DailyAccrualResult}
    (h : c.accrueDailyFinancing portfolioId cash positions prices dateStr days draw = .ok res)
    (hrates : ∀ p ∈ positions.items, p.2 < 0 → 0 ≤ c.borrowRate p.1) :
    c.rebates positions.items prices days ≤ c.owed positions.items prices days := by
  have hnone : positions.items.filter (fun p => p.2 < 0 ∧ c.borrowRate p.1 < 0) = [] := by
    refine List.filter_eq_nil_iff.2 fun p hp => ?_
    simp only [decide_eq_true_eq, not_and, not_lt]
    exact hrates p hp
  rw [rebates, hnone, List.map_nil, List.sum_nil]
  exact c.owed_nonneg h

/-! ## A hundred shares short -/

/-- The default configuration with one rate in the table. -/
def listed (rate : ℚ) : FinancingConfig := { FinancingConfig.default with hardToBorrowRates := Dict.set ∅ "GME" rate }

/-- A hundred shares short. -/
def hundredShort : Dict String ℚ := Dict.set ∅ "GME" (-100)

def gmePrice : Dict String ℚ := Dict.set ∅ "GME" 36

/-- What a day costs. -/
def gmeDay (rate : ℚ) : Except Exc DailyAccrualResult :=
  (listed rate).accrueDailyFinancing "default_portfolio" 1000 hundredShort gmePrice "2026-01-02" 1
    { now := { micros := 1 }, marginTx := "tx-m", borrowTx := "tx-b" }

theorem hasDecimals_thousand : HasDecimals 4 1000 := ⟨10000000, by norm_num⟩

/-- The rate of the table is minus a tenth: the constructor accepts it, one is paid to the borrower, and the journal is empty. -/
theorem accrualUnbalanced_gme : (listed (-1 / 10)).toFinancingConfigFields.create = .ok (listed (-1 / 10)) ∧
    HasDecimals 4 1000 ∧ ∃ res, gmeDay (-1 / 10) = .ok res ∧ res.cashBalanceAfter = 1001 ∧ ¬ Balanced res := by
  have hok : gmeDay (-1 / 10) = .ok
      { portfolioId := "default_portfolio", dateStr := "2026-01-02", cashBalanceBefore := 1000, marginDebitBalance := 0,
        marginInterestAccrued := 0, shortBorrowNotional := 3600, borrowFeesAccrued := -1, totalFinancingDrag := -1,
        cashBalanceAfter := 1001, journalEntries := [] } := by decide +kernel
  refine ⟨by decide +kernel, hasDecimals_thousand, _, hok, rfl, fun hbal => ?_⟩
  have htaken := hbal.taken
  norm_num [cashCredits] at htaken

/-- The rate of the table is a tenth. -/
theorem accrualBalanced_iff_gme : ∃ res, gmeDay (1 / 10) = .ok res ∧
    (Balanced res ↔ (listed (1 / 10)).rebates hundredShort.items gmePrice 1 ≤
      (listed (1 / 10)).owed hundredShort.items gmePrice 1) := by
  have hok : (gmeDay (1 / 10)).toOption.isSome = true := by decide +kernel
  cases h : gmeDay (1 / 10) with
  | error exc =>
    rw [h] at hok
    cases hok
  | ok res => exact ⟨res, rfl, accrualBalanced_iff _ hasDecimals_thousand h⟩

end FinancingConfig

end Quant
