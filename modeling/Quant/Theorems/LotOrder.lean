import Quant.Lemmas.TaxLot
import Quant.Pylib.Sorting
import Quant.Execution.Models

namespace Quant

open Pylib

namespace TaxLotEngine

/-! ## Tax lots: the order in which a closing fill consumes them

FIFO is meant to match the open lots by the time they were opened and then by their insertion, and LIFO the other way round. The
loop runs over a sort by the time alone, which is stable also with `reverse=True`: among lots of one time the oldest comes first
under either method. So LIFO is right exactly when the fill is used up before it reaches such lots.
-/

/-- The open lots of a symbol with their places, in the order of insertion. -/
def openPlaces (e : TaxLotEngine) (symbol : String) : List (TaxLot × ℕ) := (e.lotsOf symbol).zipIdx.filter (fun p => p.1.isOpen)

/-- A lot is opened before another: at an earlier time, or inserted earlier at the same time. -/
def OpenedBefore (p q : TaxLot × ℕ) : Prop :=
  p.1.openTimestamp.micros < q.1.openTimestamp.micros ∨ p.1.openTimestamp.micros = q.1.openTimestamp.micros ∧ p.2 < q.2

instance (p q : TaxLot × ℕ) : Decidable (OpenedBefore p q) := inferInstanceAs (Decidable (_ ∨ _))

/-- The open lots by the time they were opened, and then by their insertion. -/
def fifoOrder (e : TaxLotEngine) (symbol : String) : List (TaxLot × ℕ) :=
  (e.openPlaces symbol).mergeSort (fun p q => !decide (OpenedBefore q p))

/-- The order a method stands for: LIFO is the reverse of FIFO. -/
def methodOrder (e : TaxLotEngine) (symbol : String) : TaxLotMethod → List (TaxLot × ℕ)
  | .fifo => e.fifoOrder symbol
  | .lifo => (e.fifoOrder symbol).reverse

/-- The lots are consumed greedily in an order: the trades are made with the first lots of it, all of these but the last are used
up, the other lots are left alone, and the loop ends with the fill or with the lots. -/
structure GreedyIn (order : List (TaxLot × ℕ)) (before : List TaxLot) (ms : MatchState) : Prop where
  inOrder : ms.depleted <+: order.map Prod.snd
  traded : ms.trades.map (·.lotId) = ms.depleted.filterMap (fun i => before[i]?.map (·.lotId))
  complete : ∀ i ∈ ms.depleted.dropLast, ∃ l, ms.lots[i]? = some l ∧ l.remainingQuantity = 0
  untouched : ∀ i, i ∉ ms.depleted → ms.lots[i]? = before[i]?
  ends : ms.remainingFill ≤ lotEpsilon ∨ ms.depleted.length = order.length

/-! ### The orders -/

theorem mem_openPlaces {e : TaxLotEngine} {symbol : String} {p : TaxLot × ℕ} :
    p ∈ e.openPlaces symbol ↔ (e.lotsOf symbol)[p.2]? = some p.1 ∧ p.1.isOpen = true := by
  rw [openPlaces, List.mem_filter, List.mem_zipIdx_iff_getElem?]

/-- The open lots of a symbol are listed by their places. -/
theorem openPlaces_pairwise (e : TaxLotEngine) (symbol : String) : (e.openPlaces symbol).Pairwise (fun p q => p.2 < q.2) := by
  refine List.Pairwise.sublist List.filter_sublist ?_
  have h : ((e.lotsOf symbol).zipIdx.map Prod.snd).Pairwise (· < ·) := by
    rw [List.zipIdx_map_snd]
    exact List.pairwise_lt_range'
  exact List.pairwise_map.1 h

theorem OpenedBefore.asymm {p q : TaxLot × ℕ} (h : OpenedBefore p q) : ¬ OpenedBefore q p := by
  unfold OpenedBefore at *
  omega

/-- Of two open lots at different places one is opened before the other. -/
theorem openedBefore_total {p q : TaxLot × ℕ} (h : p.2 ≠ q.2) : OpenedBefore p q ∨ OpenedBefore q p := by
  unfold OpenedBefore
  omega

theorem fifoOrder_perm (e : TaxLotEngine) (symbol : String) : (e.fifoOrder symbol).Perm (e.openPlaces symbol) :=
  List.mergeSort_perm _ _

theorem fifoOrder_pairwise (e : TaxLotEngine) (symbol : String) : (e.fifoOrder symbol).Pairwise OpenedBefore := by
  have h := mergeSort_stable (fun p q => !decide (OpenedBefore q p)) Prod.snd (fun p q r hpq hqr => ?_) (fun p q => ?_)
    (e.openPlaces_pairwise symbol)
  · refine h.imp fun {p q} ⟨hpq, hqp⟩ => ?_
    simp only [Bool.not_eq_true', decide_eq_false_iff_not] at hpq hqp
    by_contra hn
    have hlt : p.2 < q.2 := hqp hn
    exact (openedBefore_total hlt.ne).elim hn hpq
  · simp only [Bool.not_eq_true', decide_eq_false_iff_not] at hpq hqr ⊢
    unfold OpenedBefore at *
    omega
  · simp only [Bool.or_eq_true, Bool.not_eq_true', decide_eq_false_iff_not]
    by_contra hn
    push Not at hn
    exact hn.1.asymm hn.2

/-- Which of two lots a method matches first. -/
def Precedes : TaxLotMethod → TaxLot × ℕ → TaxLot × ℕ → Prop
  | .fifo, p, q => OpenedBefore p q
  | .lifo, p, q => OpenedBefore q p

theorem Precedes.asymm {m : TaxLotMethod} {p q : TaxLot × ℕ} (h : Precedes m p q) : ¬ Precedes m q p := by
  cases m
  · exact OpenedBefore.asymm (p := p) (q := q) h
  · exact OpenedBefore.asymm (p := q) (q := p) h

theorem methodOrder_perm (e : TaxLotEngine) (symbol : String) (m : TaxLotMethod) :
    (e.methodOrder symbol m).Perm (e.openPlaces symbol) := by
  cases m
  · exact e.fifoOrder_perm symbol
  · exact (List.reverse_perm _).trans (e.fifoOrder_perm symbol)

theorem methodOrder_pairwise (e : TaxLotEngine) (symbol : String) (m : TaxLotMethod) :
    (e.methodOrder symbol m).Pairwise (Precedes m) := by
  cases m
  · exact e.fifoOrder_pairwise symbol
  · exact List.pairwise_reverse.2 (e.fifoOrder_pairwise symbol)

/-- How the loop orders two open lots: by the time, and by their insertion at one time, whichever the method is. -/
def Sorted : TaxLotMethod → TaxLot × ℕ → TaxLot × ℕ → Prop
  | .fifo, p, q => OpenedBefore p q
  | .lifo, p, q =>
    q.1.openTimestamp.micros < p.1.openTimestamp.micros ∨ p.1.openTimestamp.micros = q.1.openTimestamp.micros ∧ p.2 < q.2

theorem sortedLots_pairwise (e : TaxLotEngine) (symbol : String) (m : TaxLotMethod) :
    (e.sortedLots symbol m).Pairwise (Sorted m) := by
  cases m with
  | fifo =>
    refine (mergeSort_stable (fun p q : TaxLot × ℕ => p.1.openTimestamp.micros ≤ q.1.openTimestamp.micros) Prod.snd
      (fun p q r hpq hqr => ?_) (fun p q => ?_) (e.openPlaces_pairwise symbol)).imp fun {p q} ⟨hle, hpos⟩ => ?_
    · simp only [decide_eq_true_eq] at hpq hqr ⊢
      omega
    · simp only [Bool.or_eq_true, decide_eq_true_eq]
      omega
    · simp only [decide_eq_true_eq] at hle hpos
      unfold Sorted OpenedBefore
      omega
  | lifo =>
    refine (mergeSort_stable (fun p q : TaxLot × ℕ => q.1.openTimestamp.micros ≤ p.1.openTimestamp.micros) Prod.snd
      (fun p q r hpq hqr => ?_) (fun p q => ?_) (e.openPlaces_pairwise symbol)).imp fun {p q} ⟨hle, hpos⟩ => ?_
    · simp only [decide_eq_true_eq] at hpq hqr ⊢
      omega
    · simp only [Bool.or_eq_true, decide_eq_true_eq]
      omega
    · simp only [decide_eq_true_eq] at hle hpos
      unfold Sorted
      omega

/-! ### What the loop reaches -/

/-- The lots a fill of `r` is matched against. -/
def reached : List (TaxLot × ℕ) → ℚ → List (TaxLot × ℕ)
  | [], _ => []
  | p :: ps, r => if r ≤ lotEpsilon then [] else p :: reached ps (r - p.1.matchQty r)

theorem reached_of_le {r : ℚ} (h : r ≤ lotEpsilon) (S : List (TaxLot × ℕ)) : reached S r = [] := by
  cases S with
  | nil => rfl
  | cons p ps => rw [reached, if_pos h]

theorem reached_cons {r : ℚ} (h : ¬ r ≤ lotEpsilon) (p : TaxLot × ℕ) (ps : List (TaxLot × ℕ)) :
    reached (p :: ps) r = p :: reached ps (r - p.1.matchQty r) := by
  rw [reached, if_neg h]

theorem isPrefix_reached (S : List (TaxLot × ℕ)) (r : ℚ) : reached S r <+: S := by
  induction S generalizing r with
  | nil => exact List.nil_prefix
  | cons p ps ih =>
    by_cases h : r ≤ lotEpsilon
    · rw [reached_of_le h]
      exact List.nil_prefix
    · rw [reached_cons h]
      exact (List.prefix_cons_inj p).2 (ih _)

/-- A lot with more than a negligible rest of the fill behind it was used up. -/
theorem matchQty_of_rest {l : TaxLot} {r : ℚ} (h : ¬ r - l.matchQty r ≤ lotEpsilon) : l.matchQty r = l.remainingQuantity ∧
    l.remainingQuantity ≤ r := by
  rcases le_total l.remainingQuantity r with hle | hle
  · exact ⟨min_eq_left hle, hle⟩
  · rw [TaxLot.matchQty, min_eq_right hle, sub_self] at h
    exact absurd lotEpsilon_pos.le h

/-- A lot is reached exactly when the lots before it leave more than a negligible rest. -/
theorem mem_reached_append (A B : List (TaxLot × ℕ)) (p : TaxLot × ℕ) (r : ℚ) (hn : p ∉ A) :
    p ∈ reached (A ++ p :: B) r ↔ lotEpsilon < r - total A := by
  induction A generalizing r with
  | nil =>
    by_cases h : r ≤ lotEpsilon
    · simp [reached_of_le h, total, h]
    · simp [reached_cons h, total, not_le.1 h]
  | cons x A ih =>
    obtain ⟨hx, hn⟩ := not_or.1 (List.mem_cons.not.1 hn)
    have ht : total (x :: A) = x.1.remainingQuantity + total A := by simp [total]
    have hA := total_nonneg A
    have hx0 := x.1.remainingQuantity_nonneg
    by_cases h : r ≤ lotEpsilon
    · simp only [List.cons_append, reached_of_le h, List.not_mem_nil, false_iff, not_lt, ht]
      linarith
    · rw [List.cons_append, reached_cons h, List.mem_cons, or_iff_right hx]
      by_cases hr : r - x.1.matchQty r ≤ lotEpsilon
      · have hq := min_le_left x.1.remainingQuantity r
        simp only [reached_of_le hr, List.not_mem_nil, false_iff, not_lt, ht]
        unfold TaxLot.matchQty at hr
        linarith
      · rw [ih _ hn, (matchQty_of_rest hr).1, ht, sub_add_eq_sub_sub]

section Loop

variable (e : TaxLotEngine) (a : FillArgs) (fillTime : Instant) (rnd : Entropy)

/-- What a match appends to a list, the loop appends for each lot it reaches. -/
theorem matchLots_appends {β : Type} (kept : MatchState → List β) (entry : TaxLot × ℕ → β)
    (hmatch : ∀ ms p, kept (matchLot e a fillTime rnd ms p) = kept ms ++ [entry p]) (S : List (TaxLot × ℕ)) (ms : MatchState) :
    kept (matchLots e a fillTime rnd S ms) = kept ms ++ (reached S ms.remainingFill).map entry := by
  induction S generalizing ms with
  | nil => simp [matchLots, reached]
  | cons p ps ih =>
    by_cases h : ms.remainingFill ≤ lotEpsilon
    · rw [matchLots_of_le e a fillTime rnd _ h, reached_of_le h, List.map_nil, List.append_nil]
    · rw [matchLots, if_neg h, ih, hmatch, reached_cons h, List.append_assoc]
      rfl

/-- The lots the loop matched are those it reached, in the order it runs over them. -/
theorem depleted_matchLots (S : List (TaxLot × ℕ)) (ms : MatchState) :
    (matchLots e a fillTime rnd S ms).depleted = ms.depleted ++ (reached S ms.remainingFill).map Prod.snd :=
  matchLots_appends e a fillTime rnd (·.depleted) Prod.snd (fun _ _ => rfl) S ms

/-- The trades are made with the lots reached. -/
theorem lotIds_matchLots (S : List (TaxLot × ℕ)) (ms : MatchState) :
    (matchLots e a fillTime rnd S ms).trades.map (·.lotId) =
      ms.trades.map (·.lotId) ++ (reached S ms.remainingFill).map (·.1.lotId) :=
  matchLots_appends e a fillTime rnd (·.trades.map (·.lotId)) (·.1.lotId) (fun ms p => by simp [matchLot]) S ms

/-- Every lot reached but the last is used up. -/
theorem matchLots_complete (S : List (TaxLot × ℕ)) (ms : MatchState) (hS : Places ms.lots S) :
    ∀ p ∈ (reached S ms.remainingFill).dropLast,
      ∃ l, (matchLots e a fillTime rnd S ms).lots[p.2]? = some l ∧ l.remainingQuantity = 0 := by
  induction S generalizing ms with
  | nil => intro p hp; simp [reached] at hp
  | cons x ps ih =>
    intro p hp
    by_cases h : ms.remainingFill ≤ lotEpsilon
    · simp [reached_of_le h] at hp
    · have htail := ih _ (hS.tail e a fillTime rnd)
      rw [reached_cons h] at hp
      rw [matchLots, if_neg h]
      cases hL : reached ps (ms.remainingFill - x.1.matchQty ms.remainingFill) with
      | nil => simp [hL] at hp
      | cons y ys =>
        -- The lot is not the last one, so a rest of the fill was left after it.
        have hr : ¬ ms.remainingFill - x.1.matchQty ms.remainingFill ≤ lotEpsilon := by
          intro hr
          rw [reached_of_le hr] at hL
          cases hL
        rw [hL, List.dropLast_cons_cons] at hp
        rcases List.mem_cons.1 hp with rfl | hps
        · have hn := (List.nodup_cons.1 (by simpa using hS.1 : (p.2 :: ps.map Prod.snd).Nodup)).1
          have hlt : p.2 < ms.lots.length := (List.getElem?_eq_some_iff.1 (hS.2 p List.mem_cons_self)).1
          refine ⟨p.1.deplete ms.remainingFill, ?_, p.1.deplete_of_le (matchQty_of_rest hr).2⟩
          rw [matchLots_getElem?_of_not_mem e a fillTime rnd ps _ hn]
          exact List.getElem?_set_self hlt
        · have hm : (matchLot e a fillTime rnd ms x).remainingFill = ms.remainingFill - x.1.matchQty ms.remainingFill := rfl
          rw [hm, hL] at htail
          exact htail p hps

/-- A place that was not reached is left alone. -/
theorem matchLots_untouched (S : List (TaxLot × ℕ)) (ms : MatchState) {j : ℕ}
    (hj : j ∉ (reached S ms.remainingFill).map Prod.snd) :
    (matchLots e a fillTime rnd S ms).lots[j]? = ms.lots[j]? := by
  induction S generalizing ms with
  | nil => rfl
  | cons p ps ih =>
    by_cases h : ms.remainingFill ≤ lotEpsilon
    · rw [matchLots_of_le e a fillTime rnd _ h]
    · rw [reached_cons h, List.map_cons, List.mem_cons, not_or] at hj
      rw [matchLots, if_neg h, ih _ hj.2]
      exact List.getElem?_set_ne (fun heq => hj.1 heq.symm)

/-- The loop ends when the fill is used up or the lots are. -/
theorem matchLots_ends (S : List (TaxLot × ℕ)) (ms : MatchState) :
    (matchLots e a fillTime rnd S ms).remainingFill ≤ lotEpsilon ∨ reached S ms.remainingFill = S := by
  induction S generalizing ms with
  | nil => exact .inr rfl
  | cons p ps ih =>
    by_cases h : ms.remainingFill ≤ lotEpsilon
    · rw [matchLots_of_le e a fillTime rnd _ h]
      exact .inl h
    · rw [matchLots, if_neg h, reached_cons h]
      refine (ih _).imp_right fun heq => ?_
      exact congrArg (p :: ·) heq

end Loop

/-! ### The law -/

/-- Lots of one time that are both open are not reached: the open lots that are newer take the fill. -/
def TiesUnreached (e : TaxLotEngine) (symbol : String) (q : ℚ) : Prop :=
  ∀ p ∈ e.openPlaces symbol, ∀ p' ∈ e.openPlaces symbol, p.1.openTimestamp.micros = p'.1.openTimestamp.micros → p.2 ≠ p'.2 →
    q - total ((e.openPlaces symbol).filter (fun x => p.1.openTimestamp.micros < x.1.openTimestamp.micros)) ≤ lotEpsilon

instance (e : TaxLotEngine) (symbol : String) (q : ℚ) : Decidable (e.TiesUnreached symbol q) :=
  inferInstanceAs (Decidable (∀ p ∈ e.openPlaces symbol, ∀ p' ∈ e.openPlaces symbol, _ → _ → _))

section Law

variable (e : TaxLotEngine) (a : FillArgs) (fillTime : Instant) (rnd : Entropy)

/-- The lots reached by a fill. -/
def reachedLots (e : TaxLotEngine) (a : FillArgs) : List (TaxLot × ℕ) :=
  reached (e.sortedLots a.symbol (a.method.getD e.defaultMethod)) a.quantity

/-- The loop is greedy in an order of the open lots exactly when the lots it reaches come first in that order. -/
theorem greedyIn_iff {order : List (TaxLot × ℕ)} (hperm : order.Perm (e.openPlaces a.symbol)) :
    GreedyIn order (e.lotsOf a.symbol) (e.matched a fillTime rnd) ↔ (e.reachedLots a).map Prod.snd <+: order.map Prod.snd := by
  have hS := sortedLots_places e a.symbol (a.method.getD e.defaultMethod)
  have hd : (e.matched a fillTime rnd).depleted = (e.reachedLots a).map Prod.snd := by
    rw [matched, depleted_matchLots]
    rfl
  refine ⟨fun h => hd ▸ h.inOrder, fun h => ⟨hd ▸ h, ?_, ?_, ?_, ?_⟩⟩
  · have ht : (e.matched a fillTime rnd).trades.map (·.lotId) = (e.reachedLots a).map (·.1.lotId) := by
      rw [matched, lotIds_matchLots]
      rfl
    rw [ht, hd, List.filterMap_map, ← List.filterMap_eq_map]
    refine List.filterMap_congr fun p hp => ?_
    have hp' := hS.2 p ((isPrefix_reached _ _).subset hp)
    simp [hp']
  · rw [hd, ← List.map_dropLast]
    intro i hi
    obtain ⟨p, hp, rfl⟩ := List.mem_map.1 hi
    exact matchLots_complete e a fillTime rnd _ (e.startMatch a) hS p hp
  · intro i hi
    rw [hd] at hi
    exact matchLots_untouched e a fillTime rnd _ (e.startMatch a) hi
  · refine (matchLots_ends e a fillTime rnd _ (e.startMatch a)).imp_right fun heq => ?_
    have hlen : (e.reachedLots a).length = (e.sortedLots a.symbol (a.method.getD e.defaultMethod)).length :=
      congrArg List.length heq
    rw [hd, List.length_map, hlen, hperm.length_eq]
    exact (sortedLots_perm e a.symbol _).length_eq

/-- FIFO reaches the first lots of its order. -/
theorem isPrefix_reachedLots_fifo (hm : a.method.getD e.defaultMethod = .fifo) :
    (e.reachedLots a).map Prod.snd <+: (e.methodOrder a.symbol .fifo).map Prod.snd := by
  have heq : e.sortedLots a.symbol .fifo = e.fifoOrder a.symbol :=
    List.Perm.eq_of_pairwise (fun p q _ _ hpq hqp => absurd hqp (OpenedBefore.asymm hpq))
      (e.sortedLots_pairwise a.symbol .fifo) (e.fifoOrder_pairwise a.symbol)
      ((sortedLots_perm e a.symbol .fifo).trans (e.fifoOrder_perm a.symbol).symm)
  rw [reachedLots, hm, heq]
  exact (isPrefix_reached _ _).map Prod.snd

/-- The open lots that are newer than a lot LIFO runs over are before it. -/
theorem newer_sublist {A B : List (TaxLot × ℕ)} {p : TaxLot × ℕ} (hS : e.sortedLots a.symbol .lifo = A ++ p :: B) :
    ((A ++ p :: B).filter (fun x => p.1.openTimestamp.micros < x.1.openTimestamp.micros)).Sublist A := by
  have hsort := e.sortedLots_pairwise a.symbol .lifo
  rw [hS] at hsort
  have hB : (p :: B).filter (fun x => p.1.openTimestamp.micros < x.1.openTimestamp.micros) = [] := by
    refine List.filter_eq_nil_iff.2 fun x hx => ?_
    rcases List.mem_cons.1 hx with rfl | hx
    · simp
    · have := (List.pairwise_cons.1 (List.pairwise_append.1 hsort).2.1).1 x hx
      unfold Sorted at this
      simp only [decide_eq_true_eq]
      omega
  rw [List.filter_append, hB, List.append_nil]
  exact List.filter_sublist

theorem total_le_of_sublist {S T : List (TaxLot × ℕ)} (h : S.Sublist T) : total S ≤ total T := by
  refine (h.map (fun p => p.1.remainingQuantity)).sum_le_sum fun x hx => ?_
  obtain ⟨p, -, rfl⟩ := List.mem_map.1 hx
  exact p.1.remainingQuantity_nonneg

theorem total_filter_openPlaces (m : TaxLotMethod) (f : TaxLot × ℕ → Bool) :
    total ((e.openPlaces a.symbol).filter f) = total ((e.sortedLots a.symbol m).filter f) :=
  (((sortedLots_perm e a.symbol m).symm.filter f).map _).sum_eq

/-- A lot that LIFO reaches shares its time with no other open lot, when such lots are not reached. -/
theorem ts_ne_of_reached (h : e.TiesUnreached a.symbol a.quantity) (hm : a.method.getD e.defaultMethod = .lifo) {p q : TaxLot × ℕ}
    (hp : p ∈ e.reachedLots a) (hq : q ∈ e.openPlaces a.symbol) (hne : p.2 ≠ q.2) :
    p.1.openTimestamp.micros ≠ q.1.openTimestamp.micros := by
  intro hts
  rw [reachedLots, hm] at hp
  have hpS := (isPrefix_reached _ _).subset hp
  obtain ⟨A, B, hS⟩ := List.append_of_mem hpS
  have hnd : (A ++ p :: B).Nodup := hS ▸ List.Nodup.of_map _ (sortedLots_places e a.symbol .lifo).1
  have hpA : p ∉ A := fun hpA => (List.nodup_append.1 hnd).2.2 p hpA p List.mem_cons_self rfl
  rw [hS, mem_reached_append A B p _ hpA] at hp
  have hle := h p (mem_openPlaces.2 (mem_sortedLots.1 hpS)) q hq hts hne
  rw [e.total_filter_openPlaces a .lifo, hS] at hle
  have := total_le_of_sublist (e.newer_sublist a hS)
  linarith

/-- LIFO reaches the first lots of its order when it reaches no lots of one time. -/
theorem isPrefix_reachedLots_lifo (h : e.TiesUnreached a.symbol a.quantity) (hm : a.method.getD e.defaultMethod = .lifo) :
    (e.reachedLots a).map Prod.snd <+: (e.methodOrder a.symbol .lifo).map Prod.snd := by
  obtain ⟨rest, hrest⟩ : e.reachedLots a <+: e.sortedLots a.symbol .lifo := by
    rw [reachedLots, hm]
    exact isPrefix_reached _ _
  have hsort := e.sortedLots_pairwise a.symbol .lifo
  have hopen : ∀ q ∈ e.sortedLots a.symbol .lifo, q ∈ e.openPlaces a.symbol := fun q hq => mem_openPlaces.2 (mem_sortedLots.1 hq)
  rw [← hrest] at hsort hopen
  obtain ⟨hr, -, hcross⟩ := List.pairwise_append.1 hsort
  -- A lot that is reached is newer than the lots after it, since it shares its time with none of them.
  have hnewer : ∀ p ∈ e.reachedLots a, ∀ q ∈ e.openPlaces a.symbol, Sorted .lifo p q → Precedes .lifo p q := by
    intro p hp q hq hs
    have hne := e.ts_ne_of_reached a h hm hp hq
    unfold Sorted at hs
    unfold Precedes OpenedBefore
    omega
  have hperm : (e.reachedLots a ++ rest).Perm (e.methodOrder a.symbol .lifo) := by
    rw [hrest]
    exact (sortedLots_perm e a.symbol .lifo).trans (e.methodOrder_perm a.symbol .lifo).symm
  refine (isPrefix_of_pairwise (Precedes .lifo) (fun p q => Precedes.asymm) hperm
    (e.methodOrder_pairwise a.symbol .lifo) ?_ ?_).map _
  · exact hr.imp_of_mem fun {p q} hp hq hs => hnewer p hp q (hopen q (List.mem_append_left _ hq)) hs
  · exact fun p hp q hq => hnewer p hp q (hopen q (List.mem_append_right _ hq)) (hcross p hp q hq)

/-- When a fill gets past the lots newer than an open lot, LIFO reaches the first inserted lot of that time. -/
theorem exists_first_reached (hm : a.method.getD e.defaultMethod = .lifo) {p : TaxLot × ℕ} (hp : p ∈ e.openPlaces a.symbol)
    (hlt : lotEpsilon < a.quantity -
      total ((e.openPlaces a.symbol).filter (fun x => p.1.openTimestamp.micros < x.1.openTimestamp.micros))) :
    ∃ g ∈ e.sortedLots a.symbol .lifo, (∀ x ∈ e.sortedLots a.symbol .lifo,
      x.1.openTimestamp.micros = p.1.openTimestamp.micros → g.1.openTimestamp.micros = p.1.openTimestamp.micros ∧ g.2 ≤ x.2) ∧
      g ∈ e.reachedLots a := by
  let newer : TaxLot × ℕ → Bool := fun x => p.1.openTimestamp.micros < x.1.openTimestamp.micros
  have hsort := e.sortedLots_pairwise a.symbol .lifo
  have hsplit := List.takeWhile_append_dropWhile (p := newer) (l := e.sortedLots a.symbol .lifo)
  have hA : ∀ x ∈ (e.sortedLots a.symbol .lifo).takeWhile newer, newer x = true := fun x hx => List.mem_takeWhile_imp hx
  have hhead := List.head?_dropWhile_not newer (e.sortedLots a.symbol .lifo)
  have hpS : p ∈ e.sortedLots a.symbol .lifo := mem_sortedLots.2 (mem_openPlaces.1 hp)
  have hrest : ∀ x ∈ e.sortedLots a.symbol .lifo, newer x = false → x ∈ (e.sortedLots a.symbol .lifo).dropWhile newer := by
    intro x hx hnew
    rw [← hsplit] at hx
    refine (List.mem_append.1 hx).resolve_left fun hxA => ?_
    rw [hA x hxA] at hnew
    cases hnew
  have htotal : total ((e.sortedLots a.symbol .lifo).takeWhile newer) ≤ total ((e.openPlaces a.symbol).filter newer) := by
    rw [e.total_filter_openPlaces a .lifo]
    refine total_le_of_sublist ?_
    rw [← List.filter_eq_self.2 hA]
    exact (List.takeWhile_sublist _).filter _
  cases hB : (e.sortedLots a.symbol .lifo).dropWhile newer with
  | nil =>
    have := hrest p hpS (by simp [newer])
    simp [hB] at this
  | cons g B =>
    rw [hB] at hsplit hhead hrest
    have hgnew : ¬ p.1.openTimestamp.micros < g.1.openTimestamp.micros := by simpa [newer] using hhead
    rw [← hsplit] at hsort
    have hgS : g ∈ e.sortedLots a.symbol .lifo := by
      rw [← hsplit]
      simp
    have hfirst : ∀ x ∈ e.sortedLots a.symbol .lifo, x.1.openTimestamp.micros = p.1.openTimestamp.micros →
        g.1.openTimestamp.micros = p.1.openTimestamp.micros ∧ g.2 ≤ x.2 := by
      intro x hx hts
      rcases List.mem_cons.1 (hrest x hx (by simp [newer, hts])) with rfl | hxB
      · exact ⟨hts, le_refl _⟩
      · have := (List.pairwise_cons.1 (List.pairwise_append.1 hsort).2.1).1 x hxB
        unfold Sorted at this
        omega
    refine ⟨g, hgS, hfirst, ?_⟩
    have hgA : g ∉ (e.sortedLots a.symbol .lifo).takeWhile newer := fun hgA => hgnew (by simpa [newer] using hA g hgA)
    rw [reachedLots, hm, ← hsplit, mem_reached_append _ _ _ _ hgA]
    linarith

/-- When LIFO reaches open lots of one time, it takes an older one before a newer one. -/
theorem not_isPrefix_reachedLots_lifo (h : ¬ e.TiesUnreached a.symbol a.quantity) (hm : a.method.getD e.defaultMethod = .lifo) :
    ¬ (e.reachedLots a).map Prod.snd <+: (e.methodOrder a.symbol .lifo).map Prod.snd := by
  intro hpre
  simp only [TiesUnreached, not_forall, not_le] at h
  obtain ⟨p, hp, p', hp', hts, hne, hlt⟩ := h
  have hS := sortedLots_places e a.symbol .lifo
  have hsort := e.sortedLots_pairwise a.symbol .lifo
  obtain ⟨g, hgS, hg, hgreach⟩ := e.exists_first_reached a hm hp hlt
  obtain ⟨k, hkS, hkts, hklt⟩ : ∃ k ∈ e.sortedLots a.symbol .lifo, k.1.openTimestamp.micros = p.1.openTimestamp.micros ∧
      g.2 < k.2 := by
    have hpS : p ∈ e.sortedLots a.symbol .lifo := mem_sortedLots.2 (mem_openPlaces.1 hp)
    have hpS' : p' ∈ e.sortedLots a.symbol .lifo := mem_sortedLots.2 (mem_openPlaces.1 hp')
    have h1 := (hg p hpS rfl).2
    have h2 := (hg p' hpS' hts.symm).2
    rcases Nat.lt_or_ge g.2 p.2 with hlt | hge
    · exact ⟨p, hpS, rfl, hlt⟩
    · exact ⟨p', hpS', hts.symm, by omega⟩
  have hgts := (hg k hkS hkts).1
  have hneq : k ≠ g := fun heq => absurd hklt (heq ▸ lt_irrefl _)
  -- LIFO has the newer one first, and the loop has it second.
  have horder : [k, g].Sublist (e.methodOrder a.symbol .lifo) := by
    refine pair_sublist_of_pairwise (e.methodOrder_pairwise a.symbol .lifo) ?_ ?_ hneq ?_
    · exact (e.methodOrder_perm a.symbol .lifo).mem_iff.2 (mem_openPlaces.2 (mem_sortedLots.1 hkS))
    · exact (e.methodOrder_perm a.symbol .lifo).mem_iff.2 (mem_openPlaces.2 (mem_sortedLots.1 hgS))
    · unfold Precedes OpenedBefore
      omega
  have hloop : [g, k].Sublist (e.sortedLots a.symbol .lifo) := by
    refine pair_sublist_of_pairwise hsort hgS hkS hneq.symm ?_
    unfold Sorted
    omega
  have hnd : ((e.methodOrder a.symbol .lifo).map Prod.snd).Nodup :=
    (((e.methodOrder_perm a.symbol .lifo).trans (sortedLots_perm e a.symbol .lifo).symm).map Prod.snd).nodup_iff.2 hS.1
  have hfirst := pair_sublist_of_isPrefix hpre hnd (horder.map Prod.snd) (List.mem_map_of_mem hgreach)
  have hreach : ((e.reachedLots a).map Prod.snd).Sublist ((e.sortedLots a.symbol .lifo).map Prod.snd) := by
    rw [reachedLots, hm]
    exact ((isPrefix_reached _ _).map Prod.snd).sublist
  exact not_pair_sublist_swap hS.1 (hloop.map Prod.snd) (hfirst.trans hreach)

/-- LIFO reaches the first lots of its order exactly when it reaches no open lots of one time. -/
theorem greedyIn_methodOrder_iff :
    GreedyIn (e.methodOrder a.symbol (a.method.getD e.defaultMethod)) (e.lotsOf a.symbol) (e.matched a fillTime rnd) ↔
      a.method.getD e.defaultMethod = .fifo ∨ e.TiesUnreached a.symbol a.quantity := by
  rw [greedyIn_iff e a fillTime rnd (e.methodOrder_perm a.symbol _)]
  cases hm : a.method.getD e.defaultMethod with
  | fifo => exact iff_of_true (e.isPrefix_reachedLots_fifo a hm) (.inl rfl)
  | lifo =>
    refine ⟨fun h => .inr ?_, fun h => e.isPrefix_reachedLots_lifo a (h.resolve_left nofun) hm⟩
    by_contra hn
    exact e.not_isPrefix_reachedLots_lifo a hn hm h

end Law

/-! ### The call -/

/-- A call on valid arguments on the other side of the position, whose instants can be compared. -/
structure Closing (e : TaxLotEngine) (a : FillArgs) (rnd : Entropy) (s : FillSide) : Prop where
  symbol_ne : a.symbol ≠ ""
  quantity_pos : 0 < a.quantity
  executionPrice_pos : 0 < a.executionPrice
  side : FillSide.parse a.side = some s
  closing : isIncreasing s (e.getPosition a.symbol) = false
  instants : e.instantFault a.symbol a.quantity (a.timestamp.getD { micros := rnd.now }) = none

theorem matchLots_congr {e e' : TaxLotEngine} (h : e.portfolioId = e'.portfolioId) (a : FillArgs) (t : Instant) (rnd : Entropy)
    (S : List (TaxLot × ℕ)) (ms : MatchState) : e.matchLots a t rnd S ms = e'.matchLots a t rnd S ms := by
  induction S generalizing ms with
  | nil => rfl
  | cons p ps ih =>
    have hm : e.matchLot a t rnd ms p = e'.matchLot a t rnd ms p := by simp only [matchLot, h]
    rw [matchLots, matchLots, hm, ih]

/-- The loop does not depend on whether the symbol was seen before. -/
theorem matched_touch (e : TaxLotEngine) (a : FillArgs) (t : Instant) (rnd : Entropy) :
    (e.touch a.symbol).matched a t rnd = e.matched a t rnd := by
  have hid : (e.touch a.symbol).portfolioId = e.portfolioId := by
    unfold touch
    split <;> rfl
  have hmethod : (e.touch a.symbol).defaultMethod = e.defaultMethod := by
    unfold touch
    split <;> rfl
  simp only [matched, startMatch, sortedLots, lotsOf_touch, hmethod]
  exact matchLots_congr hid a t rnd _ _

theorem finish_snd (e : TaxLotEngine) (symbol : String) (trades : List RealizedGainRecord) (newLots : List TaxLot)
    (depleted : List ℕ) (pnl : ℚ) : (e.finish symbol trades newLots depleted pnl).2 = e := by
  unfold finish
  split <;> rfl

theorem finish_trades {e : TaxLotEngine} {symbol : String} {trades : List RealizedGainRecord} {newLots : List TaxLot}
    {depleted : List ℕ} {pnl : ℚ} {res : FillAllocationResult}
    (h : (e.finish symbol trades newLots depleted pnl).1 = .ok res) : res.allocatedTrades = trades := by
  unfold finish at h
  cases hv : e.verifyInventoryConservation symbol with
  | error exc =>
    rw [hv] at h
    cases h
  | ok _ =>
    rw [hv] at h
    cases h
    rfl

/-- A closing call leaves the lots the loop left, perhaps with the lot of a flip behind them, and returns the trades of the
loop. -/
theorem Closing.allocateFill {e : TaxLotEngine} {a : FillArgs} {rnd : Entropy} {s : FillSide} (h : e.Closing a rnd s) :
    (∃ opened, (e.allocateFill a rnd).2.lotsOf a.symbol =
        (e.matched a (a.timestamp.getD { micros := rnd.now }) rnd).lots ++ opened) ∧
      ∀ res, (e.allocateFill a rnd).1 = .ok res →
        res.allocatedTrades = (e.matched a (a.timestamp.getD { micros := rnd.now }) rnd).trades := by
  have hlots : (e.touch a.symbol).lotsOf a.symbol = e.lotsOf a.symbol := lotsOf_touch e a.symbol a.symbol
  have hcall : e.allocateFill a rnd = (e.touch a.symbol).close a s (a.timestamp.getD { micros := rnd.now }) rnd := by
    unfold TaxLotEngine.allocateFill
    rw [if_neg h.symbol_ne, if_neg (not_le.2 h.quantity_pos), if_neg (not_le.2 h.executionPrice_pos), h.side]
    simp only [getPosition_congr hlots, h.closing]
    rfl
  rw [hcall]
  unfold close
  rw [instantFault_congr hlots, h.instants]
  simp only [matched_touch]
  split
  · split
    · exact ⟨⟨[], by rw [lotsOf_withLots_self, List.append_nil]⟩, fun res hres => by cases hres⟩
    · split
      · exact ⟨⟨[], by rw [lotsOf_withLots_self, List.append_nil]⟩, fun res hres => by cases hres⟩
      · rename_i l _
        exact ⟨⟨[l], by rw [finish_snd, lotsOf_withLots_self]⟩, fun res hres => finish_trades hres⟩
  · exact ⟨⟨[], by rw [finish_snd, lotsOf_withLots_self, List.append_nil]⟩, fun res hres => finish_trades hres⟩

/-- A closing call consumes the lots greedily in the order of its method: the lots it leaves, and the trades it returns, are those
of a loop that is greedy in that order. -/
def MatchesInOrder (e : TaxLotEngine) (a : FillArgs) (rnd : Entropy) : Prop :=
  let ms := e.matched a (a.timestamp.getD { micros := rnd.now }) rnd
  (∃ opened, (e.allocateFill a rnd).2.lotsOf a.symbol = ms.lots ++ opened) ∧
    (∀ res, (e.allocateFill a rnd).1 = .ok res → res.allocatedTrades = ms.trades) ∧
    GreedyIn (e.methodOrder a.symbol (a.method.getD e.defaultMethod)) (e.lotsOf a.symbol) ms

/-- A closing call consumes the lots in the order of its method exactly when the method is FIFO or the fill does not reach open
lots of one time. -/
theorem matchesInOrder_iff {e : TaxLotEngine} {a : FillArgs} {rnd : Entropy} {s : FillSide} (h : e.Closing a rnd s) :
    e.MatchesInOrder a rnd ↔ a.method.getD e.defaultMethod = .fifo ∨ e.TiesUnreached a.symbol a.quantity := by
  rw [← greedyIn_methodOrder_iff e a (a.timestamp.getD { micros := rnd.now }) rnd]
  exact ⟨fun hm => hm.2.2, fun hg => ⟨h.allocateFill.1, h.allocateFill.2, hg⟩⟩

/-- A LIFO engine that bought ten shares twice, at two given times. -/
def boughtTwice (t t' : ℤ) : TaxLotEngine :=
  let buy (e : TaxLotEngine) (t : ℤ) (hex : String) : TaxLotEngine :=
    (e.allocateFill { symbol := "AAPL", side := "BUY", quantity := 10, executionPrice := 100, timestamp := some { micros := t } }
      { now := t, hex := fun _ => hex }).2
  buy (buy { defaultMethod := .lifo } t "0") t' "1"

/-- A sale of AAPL. -/
def saleOf (quantity : ℚ) : FillArgs :=
  { symbol := "AAPL", side := "SELL", quantity := quantity, executionPrice := 110, timestamp := some { micros := 9 } }

example : ((boughtTwice 5 6).lotsOf "AAPL").length = 2 := by decide +kernel

theorem closing_boughtTwice_tie : (boughtTwice 5 5).Closing (saleOf 4) { now := 9, hex := fun _ => "2" } .sell :=
  ⟨by decide, by decide +kernel, by decide +kernel, by decide +kernel, by decide +kernel, by decide +kernel⟩

theorem closing_boughtTwice : (boughtTwice 5 6).Closing (saleOf 15) { now := 9, hex := fun _ => "2" } .sell :=
  ⟨by decide, by decide +kernel, by decide +kernel, by decide +kernel, by decide +kernel, by decide +kernel⟩

/-- Of two lots bought at one time LIFO sells the one bought first. -/
theorem not_matchesInOrder_boughtTwice :
    ¬ ∀ e a rnd s, TaxLotEngine.Closing e a rnd s → e.MatchesInOrder a rnd := by
  intro h
  have hm := (h _ _ _ _ closing_boughtTwice_tie).2.2
  rw [greedyIn_methodOrder_iff] at hm
  revert hm
  decide +kernel

/-- Fifteen of two lots of ten bought one after the other: LIFO sells the second and half of the first. -/
theorem matchesInOrder_boughtTwice : (boughtTwice 5 6).MatchesInOrder (saleOf 15) { now := 9, hex := fun _ => "2" } :=
  (matchesInOrder_iff closing_boughtTwice).2 (by decide +kernel)

end TaxLotEngine

end Quant
