import Mathlib.Algebra.BigOperators.Ring.List
import Quant.Pylib.Runs
import Quant.Theorems.JournalBalance
import Quant.Theorems.TaxLot

/-!
# The cash of the journal and the cash balance

The cash balance moves by the quantity at the price of the fill. The journal moves by what the trades record, a quantity of six
decimals at a price of four, and by the lot a rest opens. What the two differ by beyond the rounding of their amounts is the value
that recording loses or adds.
-/

namespace Quant

open Pylib

/-! ## Movements of cash -/

/-- The entries on the cash account. -/
def cashEntries (entries : List JournalEntryDraft) : List JournalEntryDraft :=
  entries.filter (fun e => e.accountName = "ASSET_CASH")

/-- The debits less the credits on the cash account. -/
def cashMovement (entries : List JournalEntryDraft) : ℚ := balance (cashEntries entries)

theorem cashEntries_append (entries entries' : List JournalEntryDraft) :
    cashEntries (entries ++ entries') = cashEntries entries ++ cashEntries entries' :=
  List.filter_append _ _

theorem inventory_ne_cash (symbol : String) : "ASSET_INVENTORY_" ++ symbol ≠ "ASSET_CASH" := by
  intro h
  have hlen := congrArg String.length h
  simp only [String.length_append] at hlen
  have h16 : "ASSET_INVENTORY_".length = 16 := by decide
  have h10 : "ASSET_CASH".length = 10 := by decide
  omega

theorem liability_ne_cash (symbol : String) : "LIABILITY_SHORT_" ++ symbol ≠ "ASSET_CASH" := by
  intro h
  have hlen := congrArg String.length h
  simp only [String.length_append] at hlen
  have h16 : "LIABILITY_SHORT_".length = 16 := by decide
  have h10 : "ASSET_CASH".length = 10 := by decide
  omega

theorem cashEntries_gainEntries (tx : Transaction) (g : ℚ) : cashEntries (tx.gainEntries g) = [] := by
  unfold Transaction.gainEntries
  split_ifs <;> simp [cashEntries, Transaction.entry]

/-- A trade moves its proceeds: in for a lot that was long, out for one that was short. -/
theorem cashEntries_tradeEntries (tx : Transaction) (symbol : String) {price : ℚ} {p : TaxLot × ℚ} {t : RealizedGainRecord}
    (h : Records price p t) :
    ∃ e, cashEntries (tx.tradeEntries symbol t) = [e] ∧ e.signed = p.1.side.sign * proceedsOf price p := by
  have hproceeds : round (t.quantity * t.executionPrice) 4 = proceedsOf price p := by
    rw [h.quantity, h.executionPrice, proceedsOf]
  have hinv := inventory_ne_cash symbol
  have hliab := liability_ne_cash symbol
  unfold Transaction.tradeEntries
  rw [h.side]
  cases hside : p.1.side with
  | long =>
    refine ⟨tx.entry "ASSET_CASH" .debit (proceedsOf price p), ?_, ?_⟩
    · simp only [if_true, hproceeds]
      rw [cashEntries_append, cashEntries_gainEntries]
      simp [cashEntries, Transaction.entry, hinv]
    · simp [JournalEntryDraft.signed, Transaction.entry, LotSide.sign]
  | short =>
    have hcover : ¬ "COVER" = "SELL" := by decide
    refine ⟨tx.entry "ASSET_CASH" .credit (proceedsOf price p), ?_, ?_⟩
    · simp only [reduceCtorEq, if_false, hcover, if_true, hproceeds]
      rw [cashEntries_append, cashEntries_gainEntries]
      simp [cashEntries, Transaction.entry, hliab]
    · simp [JournalEntryDraft.signed, Transaction.entry, LotSide.sign]

/-- A new lot moves its cost: out for a long one, in for a short one. -/
theorem cashEntries_lotEntries (tx : Transaction) (symbol : String) (l : TaxLot) :
    ∃ e, cashEntries (tx.lotEntries symbol l) = [e] ∧
      e.signed = -l.side.sign * round (l.originalQuantity * l.costBasisPerShare) 4 := by
  have hinv := inventory_ne_cash symbol
  have hliab := liability_ne_cash symbol
  unfold Transaction.lotEntries
  cases l.side with
  | long =>
    refine ⟨tx.entry "ASSET_CASH" .credit (round (l.originalQuantity * l.costBasisPerShare) 4), ?_, ?_⟩
    · simp [cashEntries, Transaction.entry, hinv]
    · simp [JournalEntryDraft.signed, Transaction.entry, LotSide.sign]
  | short =>
    refine ⟨tx.entry "ASSET_CASH" .debit (round (l.originalQuantity * l.costBasisPerShare) 4), ?_, ?_⟩
    · simp [cashEntries, Transaction.entry, hliab]
    · simp [JournalEntryDraft.signed, Transaction.entry, LotSide.sign]

/-- Where each item has one entry on the cash account, next to its value, the movement is next to their sum. -/
theorem cashMovement_flatMap {α β : Type} {R : α → β → Prop} {f : β → List JournalEntryDraft} {v : α → ℚ}
    (hf : ∀ x y, R x y → ∃ e, cashEntries (f y) = [e] ∧ |e.signed - v x| ≤ 5 / 10 ^ 5) {xs : List α} {ys : List β}
    (h : List.Forall₂ R xs ys) :
    (cashEntries (ys.flatMap f)).length = xs.length ∧
      |cashMovement (ys.flatMap f) - (xs.map v).sum| ≤ 5 / 10 ^ 5 * xs.length := by
  induction h with
  | nil => simp [cashMovement, cashEntries]
  | @cons x y xs ys hxy _ ih =>
    obtain ⟨hlen, hsum⟩ := ih
    obtain ⟨e, he, hone⟩ := hf x y hxy
    have hmove : cashMovement ((y :: ys).flatMap f) = e.signed + cashMovement (ys.flatMap f) := by
      rw [List.flatMap_cons, cashMovement, cashEntries_append, he, balance_append, balance_cons, balance_nil, add_zero,
        cashMovement]
    constructor
    · rw [List.flatMap_cons, cashEntries_append, he, List.length_append, hlen, List.length_singleton, List.length_cons]
      omega
    · rw [hmove, List.map_cons, List.sum_cons, List.length_cons, Nat.cast_add, Nat.cast_one, add_sub_add_comm]
      refine (abs_add_le _ _).trans ?_
      linarith

/-- The movement of the trades of a fill: their recorded values, up to the rounding of each. -/
theorem cashMovement_trades (tx : Transaction) (symbol : String) {price : ℚ} {ps : List (TaxLot × ℚ)}
    {ts : List RealizedGainRecord} (h : List.Forall₂ (Records price) ps ts) :
    (cashEntries (ts.flatMap (tx.tradeEntries symbol))).length = ps.length ∧
      |cashMovement (ts.flatMap (tx.tradeEntries symbol)) -
          (ps.map (fun p => p.1.side.sign * (round p.2 6 * round price 4))).sum| ≤ 5 / 10 ^ 5 * ps.length := by
  refine cashMovement_flatMap (fun p t hp => ?_) h
  obtain ⟨e, he, hsigned⟩ := cashEntries_tradeEntries tx symbol hp
  refine ⟨e, he, ?_⟩
  have hsign : |p.1.side.sign| = 1 := by cases p.1.side <;> simp [LotSide.sign]
  rw [hsigned, ← mul_sub, abs_mul, hsign, one_mul]
  exact (Pylib.abs_round_sub_le _ 4).trans (by norm_num)

/-- The movement of the new lots of a fill: their costs, up to the rounding of each. -/
theorem cashMovement_lots (tx : Transaction) (symbol : String) (ls : List TaxLot) :
    (cashEntries (ls.flatMap (tx.lotEntries symbol))).length = ls.length ∧
      |cashMovement (ls.flatMap (tx.lotEntries symbol)) -
          (ls.map (fun l => -l.side.sign * (l.originalQuantity * l.costBasisPerShare))).sum| ≤ 5 / 10 ^ 5 * ls.length := by
  refine cashMovement_flatMap (R := Eq) (fun l l' hl => ?_) (List.forall₂_eq_eq_eq ▸ rfl)
  obtain ⟨e, he, hsigned⟩ := cashEntries_lotEntries tx symbol l'
  refine ⟨e, he, ?_⟩
  have hsign : |-l'.side.sign| = 1 := by cases l'.side <;> simp [LotSide.sign]
  rw [hsigned, hl, ← mul_sub, abs_mul, hsign, one_mul]
  exact (Pylib.abs_round_sub_le _ 4).trans (by norm_num)

/-! ## The value a fill records -/

namespace TaxLotEngine

/-- The quantity of the lot that a fill opens. -/
def openedQuantity (e : TaxLotEngine) (a : FillArgs) : ℚ :=
  match FillSide.parse a.side with
  | none => 0
  | some s =>
    if isIncreasing s (e.getPosition a.symbol) then a.quantity
    else
      let left := a.quantity - takenQuantity (e.taken a)
      if left ≤ lotEpsilon then 0 else round left 6

/-- The value of a fill in the records of the engine. -/
def recordedValue (e : TaxLotEngine) (a : FillArgs) : ℚ :=
  ((e.taken a).map (fun p => round p.2 6 * round a.executionPrice 4)).sum + e.openedQuantity a * a.executionPrice

/-- What recording adds to the value of a fill. -/
def recordingDrift (e : TaxLotEngine) (a : FillArgs) : ℚ := e.recordedValue a - a.quantity * a.executionPrice

/-- The new lots are of the quantity the fill opens, on the side it opens. -/
theorem Opens.value {e : TaxLotEngine} {a : FillArgs} {s : FillSide} (hside : FillSide.parse a.side = some s) {ls : List TaxLot}
    (h : Opens e a s ls) :
    (ls.map (fun l => -l.side.sign * (l.originalQuantity * l.costBasisPerShare))).sum =
      -s.sign * (e.openedQuantity a * a.executionPrice) := by
  have hsign := s.sign_opens
  cases h with
  | whole l hs hl hq hc => simp [openedQuantity, hside, hs, hl, hq, hc, hsign]
  | none hs hrem =>
    simp only [openedQuantity, hside, hs, Bool.false_eq_true, if_false, if_pos hrem]
    simp
  | rest l hs hrem hl hq hc =>
    simp only [openedQuantity, hside, hs, Bool.false_eq_true, if_false, if_neg (not_le.2 hrem)]
    simp [hl, hq, hc, hsign]

theorem mem_takes {S : List TaxLot} {r : ℚ} {p : TaxLot × ℚ} (h : p ∈ takes S r) : p.1 ∈ S := by
  induction S generalizing r with
  | nil => simp [takes] at h
  | cons l ls ih =>
    rw [takes] at h
    split at h
    · simp at h
    · rcases List.mem_cons.1 h with rfl | h
      · exact List.mem_cons_self
      · exact List.mem_cons_of_mem l (ih h)

/-- A fill takes from lots on the side it closes. -/
theorem WellFormed.side_of_taken {e : TaxLotEngine} (he : e.WellFormed) {a : FillArgs} {s : FillSide}
    (hside : FillSide.parse a.side = some s) {p : TaxLot × ℚ} (h : p ∈ e.taken a) : p.1.side = s.closes := by
  cases hs : isIncreasing s (e.getPosition a.symbol) with
  | true => simp [taken_of_increasing hside hs] at h
  | false =>
    rw [taken_of_closing hside hs] at h
    obtain ⟨q, hq, hqp⟩ := List.mem_map.1 (mem_takes h)
    obtain ⟨hget, ho⟩ := mem_sortedLots.1 hq
    rw [← hqp]
    exact he.side_of_closing hs (List.mem_of_getElem? hget) ho

/-- The trades of a fill are of the value it takes. -/
theorem WellFormed.taken_value {e : TaxLotEngine} (he : e.WellFormed) {a : FillArgs} {s : FillSide}
    (hside : FillSide.parse a.side = some s) :
    ((e.taken a).map (fun p => p.1.side.sign * (round p.2 6 * round a.executionPrice 4))).sum =
      -s.sign * ((e.taken a).map (fun p => round p.2 6 * round a.executionPrice 4)).sum := by
  rw [← List.sum_map_mul_left]
  refine congrArg List.sum (List.map_congr_left fun p hp => ?_)
  rw [he.side_of_taken hside hp, FillSide.sign_closes]

end TaxLotEngine

namespace LedgerService

/-- The movement of cash in the journal of a fill: the value it records, up to the rounding of each entry. -/
theorem cashMovement_journal {e e' : TaxLotEngine} (he : e.WellFormed) {a : FillArgs} {rnd : Entropy} {res : FillAllocationResult}
    (h : e.allocateFill a rnd = (.ok res, e')) (tx : Transaction) {s : FillSide} (hs : FillSide.parse a.side = some s) :
    |cashMovement (tx.journalEntries a.symbol res) + s.sign * e.recordedValue a| ≤
      5 / 10 ^ 5 * (cashEntries (tx.journalEntries a.symbol res)).length := by
  obtain ⟨s', hside, -, -, hrec, hopens⟩ := TaxLotEngine.allocateFill_takes h
  rw [hs] at hside
  obtain rfl := Option.some.inj hside
  obtain ⟨htlen, htrades⟩ := cashMovement_trades tx a.symbol hrec
  obtain ⟨hllen, hlots⟩ := cashMovement_lots tx a.symbol res.newOpenLots
  rw [he.taken_value hs] at htrades
  rw [hopens.value hs] at hlots
  have hlen : (cashEntries (tx.journalEntries a.symbol res)).length = (e.taken a).length + res.newOpenLots.length := by
    rw [Transaction.journalEntries, cashEntries_append, List.length_append, htlen, hllen]
  have hmove : cashMovement (tx.journalEntries a.symbol res) =
      cashMovement (res.allocatedTrades.flatMap (tx.tradeEntries a.symbol)) +
        cashMovement (res.newOpenLots.flatMap (tx.lotEntries a.symbol)) := by
    rw [Transaction.journalEntries, cashMovement, cashEntries_append, balance_append, cashMovement, cashMovement]
  have hsum := (abs_add_le _ _).trans (add_le_add htrades hlots)
  rw [hmove, hlen, TaxLotEngine.recordedValue]
  rw [Nat.cast_add, mul_add (5 / 10 ^ 5)]
  refine le_of_eq_of_le (congrArg abs ?_) hsum
  ring

/-- A call that returned, from one state of the service and the database to the next. -/
def Recorded (st : LedgerService × LedgerDb) (c : FillCall) (st' : LedgerService × LedgerDb) : Prop :=
  ∃ res, st.1.recordFill st.2 c = (.ok res, st'.1, st'.2)

theorem Recorded.wellFormed {st st' : LedgerService × LedgerDb} {c : FillCall} (h : Recorded st c st')
    (he : st.1.taxLotEngine.WellFormed) : st'.1.taxLotEngine.WellFormed := by
  obtain ⟨res, hcall⟩ := h
  obtain ⟨e', halloc, hsvc, -⟩ := recordFill_ok hcall
  have hkeep := he.allocateFill c.args c.entropy
  rw [halloc] at hkeep
  rw [hsvc]
  exact hkeep

/-- The change of cash is the value of the fill, up to the rounding of the balance. -/
theorem abs_cashChange_le (row : DBPortfolioLedger) {a : FillArgs} {s : FillSide} (hs : FillSide.parse a.side = some s) :
    |(row.addCash (cashDelta a)).cashBalance - row.cashBalance + s.sign * (a.quantity * a.executionPrice)| ≤ 5 / 10 ^ 5 := by
  have hdelta : cashDelta a = -(s.sign * (a.quantity * a.executionPrice)) := by
    rw [cashDelta, hs]
    cases s <;> simp [FillSide.sign]
  rw [DBPortfolioLedger.addCash, hdelta]
  have hround := Pylib.abs_round_sub_le (row.cashBalance + -(s.sign * (a.quantity * a.executionPrice))) 4
  refine le_of_eq_of_le (congrArg abs ?_) (hround.trans (by norm_num))
  ring

/-- What the journal of a call and the change of the balance differ by. -/
def cashGap (entries : List DBLedgerEntry) (row row' : DBPortfolioLedger) : ℚ :=
  |cashMovement entries - (row'.cashBalance - row.cashBalance)|

/-- The rounding of each entry on the cash account, and of the balance. -/
def cashTolerance (entries : List DBLedgerEntry) : ℚ := 5 / 10 ^ 5 * (cashEntries entries).length + 5 / 10 ^ 5

/-- A call that returned: the gap is what recording added to the value of the fill, up to the tolerance. -/
theorem abs_cashGap_sub_le {svc svc' : LedgerService} (he : svc.taxLotEngine.WellFormed) {db db' : LedgerDb} {c : FillCall}
    (h : Recorded (svc, db) c (svc', db')) {row : DBPortfolioLedger}
    (hrow : db.portfolioLedgers.get? svc.portfolioId = some row) :
    ∃ row' entries, db'.portfolioLedgers.get? svc.portfolioId = some row' ∧ db'.ledgerEntries = db.ledgerEntries ++ entries ∧
      abs (cashGap entries row row' - |svc.taxLotEngine.recordingDrift c.args|) ≤ cashTolerance entries := by
  obtain ⟨res, hcall⟩ := h
  obtain ⟨e', halloc, -, hpersist⟩ := recordFill_ok hcall
  have hwrite := persistFill_ok hpersist
  obtain ⟨-, hentries, -⟩ := LedgerDb.writeFill_ok hwrite
  have hrow' := LedgerDb.writeFill_get? hwrite
  rw [hrow, Option.map_some] at hrow'
  refine ⟨_, _, hrow', hentries, ?_⟩
  obtain ⟨s, hs, -⟩ := TaxLotEngine.allocateFill_takes halloc
  have hjournal := cashMovement_journal he halloc (c.transaction svc.portfolioId) hs
  have hchange := abs_cashChange_le row (a := c.toFillArgs) hs
  have hsum := (abs_sub _ _).trans (add_le_add hjournal hchange)
  have hsign : |s.sign| = 1 := by cases s <;> simp [FillSide.sign]
  have hdrift : |svc.taxLotEngine.recordingDrift c.args| = |-s.sign * svc.taxLotEngine.recordingDrift c.args| := by
    rw [abs_mul, abs_neg, hsign, one_mul]
  rw [hdrift, cashGap]
  refine (abs_abs_sub_abs_le_abs_sub _ _).trans (le_of_eq_of_le (congrArg abs ?_) hsum)
  rw [TaxLotEngine.recordingDrift]
  simp only [FillCall.args]
  ring

theorem wellFormed_of_run {st st' : LedgerService × LedgerDb} (h : Run Recorded (fun _ _ => True) st st')
    (he : st.1.taxLotEngine.WellFormed) : st'.1.taxLotEngine.WellFormed :=
  h.invariant (I := fun u => u.1.taxLotEngine.WellFormed) (fun _ _ _ hu _ hc => hc.wellFormed hu) he

/-- After any calls that returned, the journal and the balance agree on the next one if recording it adds nothing to its value and
takes nothing from it. They cannot agree where it adds or takes more than twice the tolerance. -/
theorem journalCash_of_recorded {svc₀ : LedgerService} (he : svc₀.taxLotEngine.WellFormed) {db₀ : LedgerDb}
    {svc svc' : LedgerService} {db db' : LedgerDb} (hrun : Run Recorded (fun _ _ => True) (svc₀, db₀) (svc, db)) {c : FillCall}
    (h : Recorded (svc, db) c (svc', db')) {row : DBPortfolioLedger}
    (hrow : db.portfolioLedgers.get? svc.portfolioId = some row) :
    ∃ row' entries, db'.portfolioLedgers.get? svc.portfolioId = some row' ∧ db'.ledgerEntries = db.ledgerEntries ++ entries ∧
      (svc.taxLotEngine.recordingDrift c.args = 0 → cashGap entries row row' ≤ cashTolerance entries) ∧
      (cashGap entries row row' ≤ cashTolerance entries →
        |svc.taxLotEngine.recordingDrift c.args| ≤ 2 * cashTolerance entries) := by
  obtain ⟨row', entries, hrow', hentries, hgap⟩ := abs_cashGap_sub_le (wellFormed_of_run hrun he) h hrow
  obtain ⟨hlow, hhigh⟩ := abs_le.1 hgap
  refine ⟨row', entries, hrow', hentries, fun hdrift => ?_, fun hle => ?_⟩
  · rw [hdrift, abs_zero] at hhigh
    linarith
  · linarith

/-! ## A million shares bought and sold -/

/-- The tables with the ledger of the portfolio. -/
def deskDb : LedgerDb := { portfolioLedgers := Dict.set ∅ "default_portfolio" { portfolioId := "default_portfolio" } }

/-- A million shares, at a price. -/
def millionShares (side : String) (price : ℚ) (now : ℤ) (hex : String) : FillCall :=
  { oneShare side price now hex with quantity := 1000000 }

/-- The service and the database after a purchase. -/
def bought (price : ℚ) : LedgerService × LedgerDb := (deskService.recordFill deskDb (millionShares "BUY" price 0 "0")).2

/-- A call that succeeds is one that returned. -/
theorem recorded_of_isOk {st : LedgerService × LedgerDb} {c : FillCall} (h : (st.1.recordFill st.2 c).1.isOk = true) :
    Recorded st c (st.1.recordFill st.2 c).2 := by
  obtain ⟨res, st', hcall⟩ := exists_ok_of_isOk h
  rw [Recorded, hcall]
  exact ⟨res, rfl⟩

theorem run_bought {price : ℚ} (h : (deskService.recordFill deskDb (millionShares "BUY" price 0 "0")).1.isOk = true) :
    Run Recorded (fun _ _ => True) (deskService, deskDb) (bought price) :=
  Run.refl.tail trivial (recorded_of_isOk h)

theorem wellFormed_deskService : deskService.taxLotEngine.WellFormed := by
  intro symbol l hl
  simp [deskService, TaxLotEngine.lotsOf] at hl

/-- The service and the database after the sale. -/
def sold (price : ℚ) : LedgerService × LedgerDb :=
  ((bought price).1.recordFill (bought price).2 (millionShares "SELL" price 1 "1")).2

/-- Bought and sold at 10.00004: the journal of the sale has ten a share, and the balance forty more. -/
theorem journalCash_millionShares : ∃ row row' entries,
    Run Recorded (fun _ _ => True) (deskService, deskDb) (bought (1000004 / 100000)) ∧
    Recorded (bought (1000004 / 100000)) (millionShares "SELL" (1000004 / 100000) 1 "1") (sold (1000004 / 100000)) ∧
    (bought (1000004 / 100000)).2.portfolioLedgers.get? "default_portfolio" = some row ∧
    (sold (1000004 / 100000)).2.portfolioLedgers.get? "default_portfolio" = some row' ∧
    (sold (1000004 / 100000)).2.ledgerEntries = (bought (1000004 / 100000)).2.ledgerEntries ++ entries ∧
    ¬ cashGap entries row row' ≤ cashTolerance entries := by
  refine ⟨{ portfolioId := "default_portfolio", cashBalance := -9900040, marginDebt := 9900040 },
    { portfolioId := "default_portfolio", cashBalance := 100000 },
    (sold (1000004 / 100000)).2.ledgerEntries.drop (bought (1000004 / 100000)).2.ledgerEntries.length,
    run_bought (by decide +kernel), recorded_of_isOk (by decide +kernel), by decide +kernel, by decide +kernel,
    by decide +kernel, by decide +kernel⟩

/-- Bought at 10 and sold at 10. -/
theorem journalCash_of_recorded_millionShares : ∃ row row' entries,
    (bought 10).2.portfolioLedgers.get? (bought 10).1.portfolioId = some row ∧
    (sold 10).2.portfolioLedgers.get? (bought 10).1.portfolioId = some row' ∧
    (sold 10).2.ledgerEntries = (bought 10).2.ledgerEntries ++ entries ∧ cashGap entries row row' ≤ cashTolerance entries := by
  have hrow : (bought 10).2.portfolioLedgers.get? (bought 10).1.portfolioId =
      some { portfolioId := "default_portfolio", cashBalance := -9900000, marginDebt := 9900000 } := by decide +kernel
  have hrun : Run Recorded (fun _ _ => True) (deskService, deskDb) ((bought 10).1, (bought 10).2) :=
    run_bought (by decide +kernel)
  have hcall : Recorded ((bought 10).1, (bought 10).2) (millionShares "SELL" 10 1 "1") ((sold 10).1, (sold 10).2) :=
    recorded_of_isOk (by decide +kernel)
  obtain ⟨row', entries, hrow', hentries, hle, -⟩ := journalCash_of_recorded wellFormed_deskService hrun hcall hrow
  exact ⟨_, row', entries, hrow, hrow', hentries, hle (by decide +kernel)⟩

end LedgerService

end Quant
