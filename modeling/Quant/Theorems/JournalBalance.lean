import Mathlib.Tactic.Ring
import Quant.Lemmas.Ledger

/-!
# When the journal of a fill is balanced

A gain or a loss of one unit of the fourth decimal gets no entry, though the cash and the cost it comes from differ by it. The
journal of a fill is balanced exactly when the lots it takes from have as many such gains as such losses.
-/

namespace Quant

open Pylib

/-! ## One trade -/

/-- The proceeds of what is taken from a lot, as they are recorded. -/
def proceedsOf (price : ℚ) (p : TaxLot × ℚ) : ℚ := round (round p.2 6 * round price 4) 4

/-- The cost of what is taken from a lot, as it is recorded. -/
def basisOf (p : TaxLot × ℚ) : ℚ := round (p.2 * p.1.costBasisPerShare) 4

/-- The recorded gain on what is taken from a lot. -/
def gainOf (price : ℚ) (p : TaxLot × ℚ) : ℚ := p.1.side.sign * (proceedsOf price p - basisOf p)

/-- A gain that gets no entry. -/
def suppressed (g : ℚ) : ℚ := if |g| ≤ 1 / 10 ^ 4 then g else 0

theorem hasDecimals_gainOf (price : ℚ) (p : TaxLot × ℚ) : HasDecimals 4 (gainOf price p) := by
  have hdiff := (hasDecimals_round (round p.2 6 * round price 4) 4).sub (hasDecimals_round (p.2 * p.1.costBasisPerShare) 4)
  have hneg := (hasDecimals_round (p.2 * p.1.costBasisPerShare) 4).sub (hasDecimals_round (round p.2 6 * round price 4) 4)
  unfold gainOf proceedsOf basisOf
  cases p.1.side with
  | long =>
    rw [LotSide.sign, one_mul]
    exact hdiff
  | short =>
    rw [LotSide.sign, neg_one_mul, neg_sub]
    exact hneg

/-- The entry of a gain makes up for it, unless it gets none. -/
theorem balance_gainEntries (tx : Transaction) (g : ℚ) : balance (tx.gainEntries g) = suppressed g - g := by
  unfold Transaction.gainEntries suppressed
  by_cases hgain : g > 1 / 10 ^ 4
  · have habs : ¬ |g| ≤ 1 / 10 ^ 4 := not_le.2 (lt_of_lt_of_le hgain (le_abs_self g))
    rw [if_pos hgain, if_neg habs]
    simp [JournalEntryDraft.signed, Transaction.entry]
  · by_cases hloss : g < -(1 / 10 ^ 4)
    · have habs : ¬ |g| ≤ 1 / 10 ^ 4 := not_le.2 (lt_of_lt_of_le (lt_neg_of_lt_neg hloss) (neg_le_abs g))
      have hneg : |g| = -g := abs_of_neg (hloss.trans (by norm_num))
      rw [if_neg hgain, if_pos hloss, if_neg habs, hneg]
      simp [JournalEntryDraft.signed, Transaction.entry]
    · have habs : |g| ≤ 1 / 10 ^ 4 := abs_le.2 ⟨not_lt.1 hloss, not_lt.1 hgain⟩
      rw [if_neg hgain, if_neg hloss, if_pos habs, balance_nil, sub_self]

/-- A trade is balanced up to the gain that gets no entry. -/
theorem balance_tradeEntries (tx : Transaction) (symbol : String) {price : ℚ} {p : TaxLot × ℚ} {t : RealizedGainRecord}
    (h : Records price p t) : balance (tx.tradeEntries symbol t) = suppressed (gainOf price p) := by
  have hproceeds : round (t.quantity * t.executionPrice) 4 = proceedsOf price p := by
    rw [h.quantity, h.executionPrice, proceedsOf]
  have hbasis : round t.costBasis 4 = basisOf p := by rw [h.costBasis, round_round, basisOf]
  have hgain := hasDecimals_gainOf price p
  unfold Transaction.tradeEntries
  rw [h.side]
  cases hside : p.1.side with
  | long =>
    have hg : proceedsOf price p - basisOf p = gainOf price p := by rw [gainOf, hside, LotSide.sign, one_mul]
    simp only [hproceeds, hbasis, if_true, hg, round_of_hasDecimals hgain, balance_append, balance_gainEntries]
    simp only [balance_cons, balance_nil, JournalEntryDraft.signed, Transaction.entry, if_true, reduceCtorEq, if_false]
    linarith
  | short =>
    have hg : basisOf p - proceedsOf price p = gainOf price p := by
      rw [gainOf, hside, LotSide.sign, neg_one_mul, neg_sub]
    have hcover : ¬ "COVER" = "SELL" := by decide
    simp only [hproceeds, hbasis, reduceCtorEq, if_false, hcover, if_true, hg, round_of_hasDecimals hgain, balance_append,
      balance_gainEntries]
    simp only [balance_cons, balance_nil, JournalEntryDraft.signed, Transaction.entry, if_true, reduceCtorEq, if_false]
    linarith

/-- A new lot is balanced. -/
theorem balance_lotEntries (tx : Transaction) (symbol : String) (l : TaxLot) : balance (tx.lotEntries symbol l) = 0 := by
  unfold Transaction.lotEntries
  cases l.side <;> simp [JournalEntryDraft.signed, Transaction.entry]

/-! ## The transaction -/

/-- The debits of a fill exceed its credits by the gains that get no entry. -/
theorem balance_journalEntries (tx : Transaction) (symbol : String) {price : ℚ} {ps : List (TaxLot × ℚ)}
    {res : FillAllocationResult} (h : List.Forall₂ (Records price) ps res.allocatedTrades) :
    balance (tx.journalEntries symbol res) = (ps.map (fun p => suppressed (gainOf price p))).sum := by
  have hlots : balance (res.newOpenLots.flatMap (tx.lotEntries symbol)) = 0 := by
    rw [balance_flatMap]
    exact List.sum_eq_zero fun x hx => by
      obtain ⟨l, -, rfl⟩ := List.mem_map.1 hx
      exact balance_lotEntries tx symbol l
  rw [Transaction.journalEntries, balance_append, hlots, add_zero, balance_flatMap]
  generalize res.allocatedTrades = ts at h
  induction h with
  | nil => rfl
  | cons hp _ ih => rw [List.map_cons, List.sum_cons, List.map_cons, List.sum_cons, balance_tradeEntries tx symbol hp, ih]

/-- Only a gain or a loss of one unit of the fourth decimal gets no entry. -/
theorem suppressed_eq {g : ℚ} (h : HasDecimals 4 g) :
    suppressed g = 1 / 10 ^ 4 * ((if g = 1 / 10 ^ 4 then 1 else 0) - if g = -(1 / 10 ^ 4) then 1 else 0) := by
  unfold suppressed
  by_cases hpos : g = 1 / 10 ^ 4
  · rw [hpos]
    norm_num
  · by_cases hneg : g = -(1 / 10 ^ 4)
    · rw [hneg]
      norm_num
    · rw [if_neg hpos, if_neg hneg, sub_zero, mul_zero]
      split
      · rename_i hle
        by_contra hne
        have habs := le_antisymm hle (h.le_abs hne)
        rcases abs_choice g with hc | hc
        · exact hpos (by rw [← hc, habs])
        · exact hneg (by rw [← habs, hc, neg_neg])
      · rfl

theorem sum_suppressed {gs : List ℚ} (h : ∀ g ∈ gs, HasDecimals 4 g) :
    (gs.map suppressed).sum = 1 / 10 ^ 4 * ((gs.count (1 / 10 ^ 4) : ℚ) - gs.count (-(1 / 10 ^ 4))) := by
  induction gs with
  | nil => simp
  | cons g gs ih =>
    rw [List.forall_mem_cons] at h
    rw [List.map_cons, List.sum_cons, ih h.2, suppressed_eq h.1, List.count_cons, List.count_cons]
    by_cases hpos : g = 1 / 10 ^ 4 <;> by_cases hneg : g = -(1 / 10 ^ 4) <;> simp [hpos, hneg] <;> ring

namespace LedgerService

/-- The recorded gains on what a fill takes. -/
def takenGains (svc : LedgerService) (c : FillCall) : List ℚ :=
  (svc.taxLotEngine.taken c.args).map (gainOf c.executionPrice)

/-- The database raises nothing of the service's own. -/
def FillCall.Foreign (c : FillCall) : Prop :=
  ∀ n exc, c.faults.query n = some exc ∨ c.faults.commit n = some exc → exc.cls ≠ .unbalancedTransaction

theorem insertRows_error {κ ν : Type} [DecidableEq κ] {table : String} {key : ν → κ} {rows : List ν} {d : Dict κ ν} {exc : Exc}
    (h : insertRows table key rows d = .error exc) : exc = integrityError table := by
  induction rows generalizing d with
  | nil => cases h
  | cons row rows ih =>
    rw [insertRows] at h
    split at h
    · exact (Except.error.inj h).symm
    · exact ih h

/-- The error of an unbalanced transaction is raised by its check only. -/
theorem persistFill_error {portfolioId : String} {db : LedgerDb} {c : FillCall} {res : FillAllocationResult} {exc : Exc}
    (hc : c.Foreign) (hbal : (c.transaction portfolioId).unbalancedFault
      ((c.transaction portfolioId).journalEntries c.symbol res) = none)
    (h : persistFill portfolioId db c res = .error exc) : exc.cls ≠ .unbalancedTransaction := by
  unfold persistFill at h
  split at h
  · rename_i hfault
    obtain ⟨n, -, hn⟩ := List.exists_of_findSome?_eq_some hfault
    cases h
    exact hc n exc (.inl hn)
  · dsimp only at h
    rw [hbal] at h
    dsimp only at h
    split at h
    · rename_i hfault
      cases h
      exact hc _ exc (.inl hfault)
    · split at h
      · rename_i hfault
        cases h
        exact hc _ exc (.inr hfault)
      · unfold LedgerDb.writeFill at h
        split at h
        · rename_i hins
          cases h
          simp [insertRows_error hins, integrityError]
        · split at h
          · rename_i hins
            cases h
            simp [insertRows_error hins, integrityError]
          · cases h

/-- A fill that the engine accepts has a balanced journal, and `record_fill` finds it so, exactly if among the gains on what it
takes those of one unit of the fourth decimal are as many as those of minus one. -/
theorem journalBalanced_iff {svc : LedgerService} {c : FillCall} (hc : c.Foreign) {res : FillAllocationResult} {e' : TaxLotEngine}
    (h : svc.taxLotEngine.allocateFill c.args c.entropy = (.ok res, e')) :
    (entryTotal .debit ((c.transaction svc.portfolioId).journalEntries c.symbol res) =
        entryTotal .credit ((c.transaction svc.portfolioId).journalEntries c.symbol res) ∧
      ∀ (db : LedgerDb) (exc : Exc), (svc.recordFill db c).1 = .error exc → exc.cls ≠ .unbalancedTransaction) ↔
    (svc.takenGains c).count (1 / 10 ^ 4) = (svc.takenGains c).count (-(1 / 10 ^ 4)) := by
  obtain ⟨s, -, -, -, hrec, -⟩ := TaxLotEngine.allocateFill_takes h
  have hdec : ∀ g ∈ svc.takenGains c, HasDecimals 4 g := by
    intro g hg
    obtain ⟨p, -, rfl⟩ := List.mem_map.1 hg
    exact hasDecimals_gainOf _ p
  have hbalance : balance ((c.transaction svc.portfolioId).journalEntries c.symbol res) =
      1 / 10 ^ 4 * (((svc.takenGains c).count (1 / 10 ^ 4) : ℚ) - (svc.takenGains c).count (-(1 / 10 ^ 4))) := by
    rw [balance_journalEntries _ _ hrec, ← sum_suppressed hdec, takenGains, List.map_map]
    rfl
  rw [← entryTotal_sub] at hbalance
  constructor
  · rintro ⟨heq, -⟩
    rw [heq, sub_self] at hbalance
    have hzero := (mul_eq_zero.1 hbalance.symm).resolve_left (by norm_num)
    exact_mod_cast sub_eq_zero.1 hzero
  · intro hcount
    rw [hcount, sub_self, mul_zero, sub_eq_zero] at hbalance
    refine ⟨hbalance, fun db exc herr => ?_⟩
    have hnone : (c.transaction svc.portfolioId).unbalancedFault
        ((c.transaction svc.portfolioId).journalEntries c.symbol res) = none := by
      simp [Transaction.unbalancedFault, hbalance, iscloseTo]
    unfold recordFill at herr
    rw [h] at herr
    dsimp only at herr
    split at herr
    · rename_i hpersist
      cases herr
      exact persistFill_error hc hnone hpersist
    · cases herr

/-! ## A share bought and sold -/

/-- A service without lots. -/
def deskService : LedgerService :=
  { portfolioId := "default_portfolio", taxLotEngine := {}, financingModel := .default }

/-- One share, at a price. -/
def oneShare (side : String) (price : ℚ) (now : ℤ) (hex : String) : FillCall :=
  { symbol := "AAPL"
    side := side
    quantity := 1
    executionPrice := price
    entropy := { now := now, hex := fun _ => hex }
    txId := "tx-" ++ hex }

/-- A database that does not fail raises nothing. -/
theorem foreign_oneShare (side : String) (price : ℚ) (now : ℤ) (hex : String) : (oneShare side price now hex).Foreign := by
  rintro n exc (h | h) <;> cases h

/-- The service after a purchase. -/
def holding (price : ℚ) : LedgerService := (deskService.recordFill {} (oneShare "BUY" price 0 "0")).2.1

/-- Bought at 100.0001 and sold at 100.0002: the gain has no entry, so the debits are more than the credits. -/
theorem journalUnbalanced_oneShare : ∃ (res : FillAllocationResult) (e' : TaxLotEngine),
    (holding (1000001 / 10000)).taxLotEngine.allocateFill (oneShare "SELL" (1000002 / 10000) 1 "1").args
      (oneShare "SELL" (1000002 / 10000) 1 "1").entropy = (.ok res, e') ∧
    entryTotal .debit (((oneShare "SELL" (1000002 / 10000) 1 "1").transaction "default_portfolio").journalEntries "AAPL" res) ≠
      entryTotal .credit
        (((oneShare "SELL" (1000002 / 10000) 1 "1").transaction "default_portfolio").journalEntries "AAPL" res) := by
  obtain ⟨res, e', h⟩ := exists_ok_of_isOk (x := (holding (1000001 / 10000)).taxLotEngine.allocateFill
    (oneShare "SELL" (1000002 / 10000) 1 "1").args (oneShare "SELL" (1000002 / 10000) 1 "1").entropy) (by decide +kernel)
  obtain ⟨s, -, -, -, hrec, -⟩ := TaxLotEngine.allocateFill_takes h
  refine ⟨res, e', h, fun heq => ?_⟩
  have hbalance := balance_journalEntries ((oneShare "SELL" (1000002 / 10000) 1 "1").transaction "default_portfolio") "AAPL" hrec
  rw [← entryTotal_sub, heq, sub_self] at hbalance
  have hgain : ((((holding (1000001 / 10000)).taxLotEngine.taken (oneShare "SELL" (1000002 / 10000) 1 "1").args).map
      (fun p => suppressed (gainOf (oneShare "SELL" (1000002 / 10000) 1 "1").args.executionPrice p))).sum) ≠ 0 := by
    decide +kernel
  exact hgain hbalance.symm

/-- Bought at 100 and sold at 110. -/
theorem journalBalanced_iff_oneShare : ∃ (res : FillAllocationResult) (e' : TaxLotEngine),
    (holding 100).taxLotEngine.allocateFill (oneShare "SELL" 110 1 "1").args (oneShare "SELL" 110 1 "1").entropy = (.ok res, e') ∧
    ((entryTotal .debit (((oneShare "SELL" 110 1 "1").transaction (holding 100).portfolioId).journalEntries "AAPL" res) =
        entryTotal .credit (((oneShare "SELL" 110 1 "1").transaction (holding 100).portfolioId).journalEntries "AAPL" res) ∧
      ∀ (db : LedgerDb) (exc : Exc), ((holding 100).recordFill db (oneShare "SELL" 110 1 "1")).1 = .error exc →
        exc.cls ≠ .unbalancedTransaction) ↔
    ((holding 100).takenGains (oneShare "SELL" 110 1 "1")).count (1 / 10 ^ 4) =
      ((holding 100).takenGains (oneShare "SELL" 110 1 "1")).count (-(1 / 10 ^ 4))) := by
  obtain ⟨res, e', h⟩ := exists_ok_of_isOk (x := (holding 100).taxLotEngine.allocateFill (oneShare "SELL" 110 1 "1").args
    (oneShare "SELL" 110 1 "1").entropy) (by decide +kernel)
  exact ⟨res, e', h, journalBalanced_iff (foreign_oneShare "SELL" 110 1 "1") h⟩

end LedgerService

end Quant
