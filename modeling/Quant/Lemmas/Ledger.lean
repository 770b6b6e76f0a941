import Quant.Lemmas.Inventory
import Quant.Services.LedgerService

/-!
# What a fill writes into the journal

A fill takes quantities from the lots it is matched against, in the order of its method; each of them becomes a realized trade
with its numbers rounded, and each trade two entries and perhaps a third one. The entries of a fill as sums over what it takes.
-/

namespace Quant

open Pylib

/-! ## What a fill takes -/

/-- What a fill of `r` takes from some open lots, in their order. -/
def takes : List TaxLot → ℚ → List (TaxLot × ℚ)
  | [], _ => []
  | l :: ls, r => if r ≤ lotEpsilon then [] else (l, l.matchQty r) :: takes ls (r - l.matchQty r)

/-- The quantity that is taken. -/
def takenQuantity (ps : List (TaxLot × ℚ)) : ℚ := (ps.map (·.2)).sum

/-- What a call takes from the open lots of its symbol; one that opens a lot takes nothing. -/
def TaxLotEngine.taken (e : TaxLotEngine) (a : FillArgs) : List (TaxLot × ℚ) :=
  match FillSide.parse a.side with
  | none => []
  | some s =>
    if isIncreasing s (e.getPosition a.symbol) then []
    else takes ((e.sortedLots a.symbol (a.method.getD e.defaultMethod)).map Prod.fst) a.quantity

/-- A trade records what was taken from a lot. -/
structure Records (price : ℚ) (p : TaxLot × ℚ) (t : RealizedGainRecord) : Prop where
  quantity : t.quantity = round p.2 6
  executionPrice : t.executionPrice = round price 4
  costBasis : t.costBasis = round (p.2 * p.1.costBasisPerShare) 4
  side : t.side = if p.1.side = .long then "SELL" else "COVER"
  lotId : t.lotId = p.1.lotId

namespace TaxLotEngine

section Loop

variable (e : TaxLotEngine) (a : FillArgs) (t : Instant) (rnd : Entropy)

theorem matchLot_trades (ms : MatchState) (p : TaxLot × ℕ) :
    ∃ tr, (matchLot e a t rnd ms p).trades = ms.trades ++ [tr] ∧
      Records a.executionPrice (p.1, p.1.matchQty ms.remainingFill) tr :=
  ⟨_, rfl, rfl, rfl, rfl, rfl, rfl⟩

/-- The loop takes from the lots it comes to, and records it. -/
theorem matchLots_takes (S : List (TaxLot × ℕ)) (ms : MatchState) :
    (matchLots e a t rnd S ms).remainingFill = ms.remainingFill - takenQuantity (takes (S.map Prod.fst) ms.remainingFill) ∧
      ∃ ts, (matchLots e a t rnd S ms).trades = ms.trades ++ ts ∧
        List.Forall₂ (Records a.executionPrice) (takes (S.map Prod.fst) ms.remainingFill) ts := by
  induction S generalizing ms with
  | nil => exact ⟨by simp [matchLots, takes, takenQuantity], [], by simp [matchLots], List.Forall₂.nil⟩
  | cons p ps ih =>
    rw [matchLots, List.map_cons, takes]
    split
    · exact ⟨by simp [takenQuantity], [], by simp, List.Forall₂.nil⟩
    · obtain ⟨hrem, ts, hts, hrec⟩ := ih (matchLot e a t rnd ms p)
      have hnext : (matchLot e a t rnd ms p).remainingFill = ms.remainingFill - p.1.matchQty ms.remainingFill := rfl
      rw [hnext] at hrem hrec
      obtain ⟨tr, htr, hp⟩ := matchLot_trades e a t rnd ms p
      refine ⟨?_, tr :: ts, ?_, List.Forall₂.cons hp hrec⟩
      · rw [hrem, takenQuantity, takenQuantity, List.map_cons, List.sum_cons, sub_sub]
      · rw [hts, htr, List.append_assoc, List.singleton_append]

end Loop

/-- The lots a returned call opens: one of the whole quantity, or one of what is left over. -/
inductive Opens (e : TaxLotEngine) (a : FillArgs) (s : FillSide) : List TaxLot → Prop
  | whole (l : TaxLot) (hs : isIncreasing s (e.getPosition a.symbol) = true) (hside : l.side = s.opens)
      (hq : l.originalQuantity = a.quantity) (hc : l.costBasisPerShare = a.executionPrice) : Opens e a s [l]
  | none (hs : isIncreasing s (e.getPosition a.symbol) = false)
      (hrem : a.quantity - takenQuantity (e.taken a) ≤ lotEpsilon) : Opens e a s []
  | rest (l : TaxLot) (hs : isIncreasing s (e.getPosition a.symbol) = false)
      (hrem : lotEpsilon < a.quantity - takenQuantity (e.taken a)) (hside : l.side = s.opens)
      (hq : l.originalQuantity = round (a.quantity - takenQuantity (e.taken a)) 6)
      (hc : l.costBasisPerShare = a.executionPrice) : Opens e a s [l]

theorem taken_of_closing {e : TaxLotEngine} {a : FillArgs} {s : FillSide} (hside : FillSide.parse a.side = some s)
    (hs : isIncreasing s (e.getPosition a.symbol) = false) :
    e.taken a = takes ((e.sortedLots a.symbol (a.method.getD e.defaultMethod)).map Prod.fst) a.quantity := by
  simp [taken, hside, hs]

theorem taken_of_increasing {e : TaxLotEngine} {a : FillArgs} {s : FillSide} (hside : FillSide.parse a.side = some s)
    (hs : isIncreasing s (e.getPosition a.symbol) = true) : e.taken a = [] := by
  simp [taken, hside, hs]

theorem matched_takes {e : TaxLotEngine} {a : FillArgs} {s : FillSide} (hside : FillSide.parse a.side = some s)
    (hs : isIncreasing s (e.getPosition a.symbol) = false) (t : Instant) (rnd : Entropy) :
    (e.matched a t rnd).remainingFill = a.quantity - takenQuantity (e.taken a) ∧
      List.Forall₂ (Records a.executionPrice) (e.taken a) (e.matched a t rnd).trades := by
  obtain ⟨hrem, ts, hts, hrec⟩ :=
    matchLots_takes e a t rnd (e.sortedLots a.symbol (a.method.getD e.defaultMethod)) (e.startMatch a)
  rw [taken_of_closing hside hs]
  refine ⟨hrem, ?_⟩
  rw [matched, hts]
  exact hrec

/-- A symbol that is seen for the first time changes nothing that is taken. -/
theorem taken_touch (e : TaxLotEngine) (a : FillArgs) : (e.touch a.symbol).taken a = e.taken a := by
  have hpos : (e.touch a.symbol).getPosition a.symbol = e.getPosition a.symbol := getPosition_congr (lotsOf_touch e _ _)
  have hdefault : (e.touch a.symbol).defaultMethod = e.defaultMethod := by
    unfold touch
    split <;> rfl
  simp only [taken, hpos, hdefault, sortedLots, lotsOf_touch]

/-- What a returned call took, recorded and opened. -/
theorem allocateFill_takes {e e' : TaxLotEngine} {a : FillArgs} {rnd : Entropy} {res : FillAllocationResult}
    (h : e.allocateFill a rnd = (.ok res, e')) :
    ∃ s, FillSide.parse a.side = some s ∧ 0 < a.quantity ∧ 0 < a.executionPrice ∧
      List.Forall₂ (Records a.executionPrice) (e.taken a) res.allocatedTrades ∧ Opens e a s res.newOpenLots := by
  obtain ⟨s, -, hq, hp, hside, halloc, -⟩ := allocateFill_ok h
  have hpos : (e.touch a.symbol).getPosition a.symbol = e.getPosition a.symbol := getPosition_congr (lotsOf_touch e _ _)
  refine ⟨s, hside, hq, hp, ?_⟩
  cases halloc with
  | opened l hs hl =>
    have hinc : isIncreasing s (e.getPosition a.symbol) = true := by rw [← hpos]; exact hs
    rw [taken_of_increasing hside hinc]
    exact ⟨List.Forall₂.nil, Opens.whole l hinc (congrArg LotFields.side hl) (congrArg LotFields.originalQuantity hl)
      (congrArg LotFields.costBasisPerShare hl)⟩
  | closed hs hf hrem =>
    obtain ⟨hleft, hrec⟩ := matched_takes hside hs (a.timestamp.getD { micros := rnd.now }) rnd
    rw [taken_touch] at hleft hrec
    rw [hleft] at hrem
    exact ⟨hrec, Opens.none (by rw [← hpos]; exact hs) hrem⟩
  | flipped l hs hf hrem hl =>
    obtain ⟨hleft, hrec⟩ := matched_takes hside hs (a.timestamp.getD { micros := rnd.now }) rnd
    rw [taken_touch] at hleft hrec
    rw [hleft] at hrem hl
    exact ⟨hrec, Opens.rest l (by rw [← hpos]; exact hs) hrem (congrArg LotFields.side hl)
      (congrArg LotFields.originalQuantity hl) (congrArg LotFields.costBasisPerShare hl)⟩

end TaxLotEngine

/-! ## Sums of entries -/

/-- A debit counts up, a credit down. -/
def JournalEntryDraft.signed (e : JournalEntryDraft) : ℚ := if e.entryType = .debit then e.amount else -e.amount

/-- The debits less the credits of some entries. -/
def balance (entries : List JournalEntryDraft) : ℚ := (entries.map (·.signed)).sum

@[simp]
theorem balance_nil : balance [] = 0 := rfl

@[simp]
theorem balance_cons (e : JournalEntryDraft) (entries : List JournalEntryDraft) :
    balance (e :: entries) = e.signed + balance entries := by
  simp [balance]

@[simp]
theorem balance_append (entries entries' : List JournalEntryDraft) :
    balance (entries ++ entries') = balance entries + balance entries' := by
  simp [balance]

theorem balance_flatMap {α : Type} (f : α → List JournalEntryDraft) (l : List α) :
    balance (l.flatMap f) = (l.map (fun x => balance (f x))).sum := by
  induction l with
  | nil => rfl
  | cons x l ih => rw [List.flatMap_cons, balance_append, ih, List.map_cons, List.sum_cons]

theorem entryTotal_sub (entries : List JournalEntryDraft) :
    entryTotal .debit entries - entryTotal .credit entries = balance entries := by
  induction entries with
  | nil => simp [entryTotal]
  | cons e entries ih =>
    rw [balance_cons, ← ih]
    cases h : e.entryType <;> simp [entryTotal, JournalEntryDraft.signed, h] <;> ring

/-! ## A call that returned -/

namespace LedgerService

/-- What a returned call did to the engine. -/
theorem recordFill_ok {svc svc' : LedgerService} {db db' : LedgerDb} {c : FillCall} {res : FillAllocationResult}
    (h : svc.recordFill db c = (.ok res, svc', db')) :
    ∃ e', svc.taxLotEngine.allocateFill c.args c.entropy = (.ok res, e') ∧ svc' = { svc with taxLotEngine := e' } ∧
      persistFill svc.portfolioId db c res = .ok db' := by
  unfold recordFill at h
  split at h
  · cases h
  · rename_i res' e' halloc
    split at h
    · cases h
    · rename_i db'' hpersist
      cases h
      exact ⟨e', halloc, rfl, hpersist⟩

/-- What a returned call wrote. -/
theorem persistFill_ok {portfolioId : String} {db db' : LedgerDb} {c : FillCall} {res : FillAllocationResult}
    (h : persistFill portfolioId db c res = .ok db') :
    db.writeFill portfolioId res ((c.transaction portfolioId).journalEntries c.symbol res)
    (cashDelta c.toFillArgs) = .ok db' := by
  unfold persistFill at h
  split at h
  · cases h
  · dsimp only at h
    split at h
    · cases h
    · split at h
      · cases h
      · split at h
        · cases h
        · exact h

end LedgerService

/-- What is in the database after a fill is written. -/
theorem LedgerDb.writeFill_ok {db db' : LedgerDb} {portfolioId : String} {res : FillAllocationResult}
    {entries : List DBLedgerEntry} {cashDelta : ℚ} (h : db.writeFill portfolioId res entries cashDelta = .ok db') :
    insertRows "tax_lots.id" (·.lotId) (res.newOpenLots.map (lotRow portfolioId)) (res.depletedLots.foldl updateLot db.taxLots) =
        .ok db'.taxLots ∧
      db'.ledgerEntries = db.ledgerEntries ++ entries ∧
      db'.portfolioLedgers = match db.portfolioLedgers.get? portfolioId with
        | none => db.portfolioLedgers
        | some row => db.portfolioLedgers.set portfolioId (row.addCash cashDelta) := by
  unfold LedgerDb.writeFill at h
  split at h
  · cases h
  · rename_i taxLots hlots
    split at h
    · cases h
    · cases h
      exact ⟨hlots, rfl, rfl⟩

/-- The row of the portfolio after a fill. -/
theorem LedgerDb.writeFill_get? {db db' : LedgerDb} {portfolioId : String} {res : FillAllocationResult}
    {entries : List DBLedgerEntry} {cashDelta : ℚ} (h : db.writeFill portfolioId res entries cashDelta = .ok db') :
    db'.portfolioLedgers.get? portfolioId = (db.portfolioLedgers.get? portfolioId).map (·.addCash cashDelta) := by
  obtain ⟨-, -, hledger⟩ := writeFill_ok h
  rw [hledger]
  cases hrow : db.portfolioLedgers.get? portfolioId with
  | none => simpa using hrow
  | some row => simp

end Quant
