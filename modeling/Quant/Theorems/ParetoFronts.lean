import Mathlib.Algebra.Order.BigOperators.Group.List
import Mathlib.Order.Monotone.Defs
import Mathlib.Tactic.FieldSimp
import Mathlib.Tactic.Linarith
import Mathlib.Tactic.Ring
import Quant.Analytics.ParetoSorting
import Quant.Pylib.Fronts

namespace Quant

open Pylib

/-! ## Fronts of a population

The sort computes dominance from deviations of whole series, and raises where two series have different lengths. Where it returns,
each comparison it made is the one of `dominates`, so its fronts are those of a sequential search in the order of the presort.
-/

/-! ### Deviations of part of a series -/

theorem sum_sq_sub (xs : List ℚ) (m : ℚ) :
    (xs.map fun x => (x - m) ^ 2).sum = (xs.map fun x => x ^ 2).sum - 2 * m * xs.sum + xs.length * m ^ 2 := by
  induction xs with
  | nil => simp
  | cons x xs ih =>
    simp only [List.map_cons, List.sum_cons, List.length_cons, Nat.cast_add, Nat.cast_one, ih]
    ring

theorem dot_deviations (xs : List ℚ) :
    dot (deviations xs) (deviations xs) = (xs.map fun x => (x - xs.sum / xs.length) ^ 2).sum := by
  have hdot : ∀ ys : List ℚ, dot ys ys = (ys.map fun y => y ^ 2).sum := by
    intro ys
    induction ys with
    | nil => rfl
    | cons y ys ih =>
      rw [dot] at ih ⊢
      rw [List.zipWith_cons_cons, List.sum_cons, List.map_cons, List.sum_cons, ih, sq]
  rw [hdot, deviations, List.map_map]
  rfl

/-- The squared deviations from the mean are the least ones. -/
theorem dot_deviations_le (xs : List ℚ) (m : ℚ) :
    dot (deviations xs) (deviations xs) ≤ (xs.map fun x => (x - m) ^ 2).sum := by
  rw [dot_deviations, sum_sq_sub, sum_sq_sub]
  obtain h0 | hne := Nat.eq_zero_or_pos xs.length
  · rw [List.length_eq_zero_iff.1 h0]
    simp
  · have hpos : (0 : ℚ) < xs.length := by exact_mod_cast hne
    obtain ⟨mean, hmean⟩ : ∃ mean, mean = xs.sum / xs.length := ⟨_, rfl⟩
    have hsum : xs.sum = xs.length * mean := by
      rw [hmean]
      field_simp
    have hsq := mul_nonneg hpos.le (sq_nonneg (mean - m))
    rw [← hmean, hsum]
    linarith

theorem dot_deviations_nonneg (xs : List ℚ) : 0 ≤ dot (deviations xs) (deviations xs) := by
  rw [dot_deviations]
  refine List.sum_nonneg fun y hy => ?_
  obtain ⟨x, -, rfl⟩ := List.mem_map.1 hy
  exact sq_nonneg _

/-- Part of a series deviates less than the series. -/
theorem dot_deviations_take_le (xs : List ℚ) (t : ℕ) :
    dot (deviations (xs.take t)) (deviations (xs.take t)) ≤ dot (deviations xs) (deviations xs) := by
  refine (dot_deviations_le (xs.take t) (xs.sum / xs.length)).trans ?_
  rw [dot_deviations]
  refine List.Sublist.sum_le_sum ((List.take_sublist t xs).map _) fun y hy => ?_
  obtain ⟨x, -, rfl⟩ := List.mem_map.1 hy
  exact sq_nonneg _

namespace DependentNonDominatedSorter

variable {sqrt : ℚ → ℚ}

theorem linalgNorm_take_lt (hsqrt : MonotoneOn sqrt (Set.Ici 0)) {xs : List ℚ} {t : ℕ}
    (h : linalgNorm sqrt (deviations xs) < tinyNorm) : linalgNorm sqrt (deviations (xs.take t)) < tinyNorm :=
  (hsqrt (dot_deviations_nonneg _) (dot_deviations_nonneg _) (dot_deviations_take_le xs t)).trans_lt h

/-! ### Dominance in the sort -/

/-- Where the sort gets a standard error, it is the one `dominates` computes by itself. -/
theorem seDiff_of_cached (hsqrt : MonotoneOn sqrt (Set.Ici 0)) {a b : CandidateFitness} {se : ℚ}
    (h : seDiff sqrt a b (some (cached sqrt a)) (some (cached sqrt b)) = .ok se) : seDiff sqrt a b none none = .ok se := by
  have hlen : ∀ c : CandidateFitness, (deviations c.returnSeries).length = c.returnSeries.length := by
    intro c
    simp [deviations]
  simp only [seDiff, cached, hlen, computeDependentDsrVariancePrecomputed] at h
  rw [← h]
  simp only [seDiff, computeDependentDsrVariance]
  split
  · rfl
  · rename_i hshort
    rw [if_neg hshort] at h
    by_cases htiny : linalgNorm sqrt (deviations a.returnSeries) < tinyNorm ∨
      linalgNorm sqrt (deviations b.returnSeries) < tinyNorm
    · rw [if_pos htiny]
      have htake := htiny.imp (linalgNorm_take_lt (t := min a.returnSeries.length b.returnSeries.length) hsqrt)
        (linalgNorm_take_lt (t := min a.returnSeries.length b.returnSeries.length) hsqrt)
      rw [if_pos htake]
    · rw [if_neg htiny] at h ⊢
      rw [npDot, hlen, hlen] at h ⊢
      by_cases heq : a.returnSeries.length = b.returnSeries.length
      · rw [if_pos heq]
        have ha : a.returnSeries.take (min a.returnSeries.length b.returnSeries.length) = a.returnSeries :=
          List.take_of_length_le (by omega)
        have hb : b.returnSeries.take (min a.returnSeries.length b.returnSeries.length) = b.returnSeries :=
          List.take_of_length_le (by omega)
        rw [ha, hb, if_neg htiny]
      · rw [if_neg heq] at h
        cases h

/-- Where the sort gets an answer from `dominates`, it is the one `dominates` gives without what was computed before. -/
theorem dominates_of_cached (hsqrt : MonotoneOn sqrt (Set.Ici 0)) {p : DependentNonDominatedSorter} {a b : CandidateFitness}
    {oa ob : ObjectiveRow} {r : Bool} (h : p.dominates sqrt a b oa ob (some (cached sqrt a)) (some (cached sqrt b)) = .ok r) :
    p.dominates sqrt a b oa ob none none = .ok r := by
  unfold dominates at h ⊢
  cases hse : seDiff sqrt a b (some (cached sqrt a)) (some (cached sqrt b)) with
  | ok se =>
    rw [hse] at h
    rw [seDiff_of_cached hsqrt hse]
    exact h
  | error exc =>
    rw [hse] at h
    simp only [Except.map] at h
    dsimp only
    split_ifs at h ⊢ <;> exact h

variable {n : ℕ}

/-- One individual of a population dominates another. -/
def Dominates (p : DependentNonDominatedSorter) (sqrt : ℚ → ℚ) (candidates : Fin n → CandidateFitness)
    (objectiveMatrix : Fin n → ObjectiveRow) (j i : Fin n) : Bool :=
  p.dominates sqrt (candidates j) (candidates i) (objectiveMatrix j) (objectiveMatrix i) none none = .ok true

variable {p : DependentNonDominatedSorter} {candidates : Fin n → CandidateFitness} {objectiveMatrix : Fin n → ObjectiveRow}

/-- The checks the sort makes before it asks `dominates` are among its own. -/
theorem dominates_of_rejected {j i : Fin n} (hj : (candidates j).isFeasible) (hi : (candidates i).isFeasible)
    (h : ¬ ((objectiveMatrix j).regret ≤ (objectiveMatrix i).regret + weakSlack ∧
      (objectiveMatrix j).negNovelty ≤ (objectiveMatrix i).negNovelty + weakSlack)) :
    p.Dominates sqrt candidates objectiveMatrix j i = false := by
  rw [Dominates, decide_eq_false_iff_not, dominates, if_neg (by simp [hi]), if_neg (by simp [hj]), if_neg (by simp [hj])]
  by_cases hregret : (objectiveMatrix i).regret + weakSlack < (objectiveMatrix j).regret
  · rw [if_pos hregret]
    simp
  · have hnovelty : (objectiveMatrix i).negNovelty + weakSlack < (objectiveMatrix j).negNovelty := by
      by_contra hle
      exact h ⟨not_lt.1 hregret, not_lt.1 hle⟩
    rw [if_neg hregret, if_pos hnovelty]
    simp

/-- The innermost loop, where it returns, finds whether a member of the front dominates. -/
theorem isDominated_ok (hsqrt : MonotoneOn sqrt (Set.Ici 0)) {i : Fin n} (hi : (candidates i).isFeasible) {front : List (Fin n)}
    (hfront : ∀ j ∈ front, (candidates j).isFeasible) {r : Bool}
    (h : p.isDominated sqrt candidates objectiveMatrix i front = .ok r) :
    r = front.any fun j => p.Dominates sqrt candidates objectiveMatrix j i := by
  induction front with
  | nil => exact (Except.ok.inj h).symm
  | cons j front ih =>
    have hj := hfront j List.mem_cons_self
    have hrest := fun k hk => hfront k (List.mem_cons_of_mem j hk)
    rw [List.any_cons]
    rw [isDominated] at h
    split at h
    · cases hdom : p.dominates sqrt (candidates j) (candidates i) (objectiveMatrix j) (objectiveMatrix i)
          (some (cached sqrt (candidates j))) (some (cached sqrt (candidates i))) with
      | error exc =>
        rw [hdom] at h
        cases h
      | ok b =>
        have hplain := dominates_of_cached hsqrt hdom
        rw [hdom] at h
        cases b with
        | true =>
          rw [show p.Dominates sqrt candidates objectiveMatrix j i = true by simp [Dominates, hplain]]
          exact (Except.ok.inj h).symm
        | false =>
          rw [show p.Dominates sqrt candidates objectiveMatrix j i = false by simp [Dominates, hplain], Bool.false_or]
          exact ih hrest h
    · rename_i hreject
      rw [dominates_of_rejected hj hi hreject, Bool.false_or]
      exact ih hrest h

/-- The loop over the fronts, where it returns, puts the candidate into the first front without a dominator. -/
theorem place_ok (hsqrt : MonotoneOn sqrt (Set.Ici 0)) {i : Fin n} (hi : (candidates i).isFeasible)
    {fronts fronts' : List (List (Fin n))}
    (hfronts : ∀ j ∈ fronts.flatten, (candidates j).isFeasible)
    (h : p.place sqrt candidates objectiveMatrix i fronts = .ok fronts') :
    fronts' = placeInFront (p.Dominates sqrt candidates objectiveMatrix) i fronts := by
  induction fronts generalizing fronts' with
  | nil => exact (Except.ok.inj h).symm
  | cons front fronts ih =>
    simp only [List.flatten_cons, List.mem_append] at hfronts
    rw [place] at h
    rw [placeInFront]
    cases hdom : p.isDominated sqrt candidates objectiveMatrix i front with
    | error exc =>
      rw [hdom] at h
      cases h
    | ok b =>
      have hany := isDominated_ok hsqrt hi (fun j hj => hfronts j (.inl hj)) hdom
      rw [hdom] at h
      rw [← hany]
      cases b with
      | false => exact (Except.ok.inj h).symm
      | true =>
        simp only at h
        cases hrest : p.place sqrt candidates objectiveMatrix i fronts with
        | error exc =>
          rw [hrest] at h
          cases h
        | ok rest =>
          rw [hrest] at h
          rw [← Except.ok.inj h, if_pos rfl, ih (fun j hj => hfronts j (.inr hj)) hrest]

/-- The fronts the sort returns are those of the sequential search. -/
theorem assignFronts_ok (hsqrt : MonotoneOn sqrt (Set.Ici 0)) {order : List (Fin n)}
    (horder : ∀ j ∈ order, (candidates j).isFeasible)
    {fronts fronts' : List (List (Fin n))} (hfronts : ∀ j ∈ fronts.flatten, (candidates j).isFeasible)
    (h : p.assignFronts sqrt candidates objectiveMatrix fronts order = .ok fronts') :
    fronts' = sequentialFronts (p.Dominates sqrt candidates objectiveMatrix) fronts order := by
  induction order generalizing fronts with
  | nil => exact (Except.ok.inj h).symm
  | cons i order ih =>
    have hi := horder i List.mem_cons_self
    rw [assignFronts] at h
    cases hplace : p.place sqrt candidates objectiveMatrix i fronts with
    | error exc =>
      rw [hplace] at h
      cases h
    | ok next =>
      rw [hplace] at h
      have hnext := place_ok hsqrt hi hfronts hplace
      subst hnext
      refine ih (fun j hj => horder j (List.mem_cons_of_mem i hj)) (fun j hj => ?_) h
      obtain rfl | hj := List.mem_cons.1 ((placeInFront_perm _ i fronts).mem_iff.1 hj)
      · exact hi
      · exact hfronts j hj

/-! ### Populations of one series length -/

section

variable (p) (sqrt) (objectiveMatrix)

theorem seDiff_cached_isOk {a b : CandidateFitness} (h : a.returnSeries.length = b.returnSeries.length) :
    ∃ se, seDiff sqrt a b (some (cached sqrt a)) (some (cached sqrt b)) = .ok se := by
  have hdot : npDot (deviations a.returnSeries) (deviations b.returnSeries) =
      .ok (dot (deviations a.returnSeries) (deviations b.returnSeries)) := if_pos (by simp [deviations, h])
  simp only [seDiff, cached, computeDependentDsrVariancePrecomputed, hdot]
  split_ifs <;> exact ⟨_, rfl⟩

theorem dominates_cached_isOk {a b : CandidateFitness}
    (h : a.returnSeries.length = b.returnSeries.length) (oa ob : ObjectiveRow) :
    ∃ r, p.dominates sqrt a b oa ob (some (cached sqrt a)) (some (cached sqrt b)) = .ok r := by
  obtain ⟨se, hse⟩ := seDiff_cached_isOk sqrt h
  unfold dominates
  rw [hse]
  dsimp only [Except.map]
  split_ifs <;> exact ⟨_, rfl⟩

theorem isDominated_isOk (hlen : ∀ i j, (candidates i).returnSeries.length = (candidates j).returnSeries.length) (i : Fin n)
    (front : List (Fin n)) : ∃ r, p.isDominated sqrt candidates objectiveMatrix i front = .ok r := by
  induction front with
  | nil => exact ⟨_, rfl⟩
  | cons j front ih =>
    obtain ⟨r, hr⟩ := dominates_cached_isOk sqrt p (hlen j i) (objectiveMatrix j) (objectiveMatrix i)
    rw [isDominated]
    split
    · rw [hr]
      cases r
      · exact ih
      · exact ⟨_, rfl⟩
    · exact ih

theorem place_isOk (hlen : ∀ i j, (candidates i).returnSeries.length = (candidates j).returnSeries.length) (i : Fin n)
    (fronts : List (List (Fin n))) : ∃ r, p.place sqrt candidates objectiveMatrix i fronts = .ok r := by
  induction fronts with
  | nil => exact ⟨_, rfl⟩
  | cons front fronts ih =>
    obtain ⟨r, hr⟩ := isDominated_isOk sqrt p objectiveMatrix hlen i front
    obtain ⟨rest, hrest⟩ := ih
    rw [place, hr]
    cases r
    · exact ⟨_, rfl⟩
    · rw [hrest]
      exact ⟨_, rfl⟩

theorem assignFronts_isOk (hlen : ∀ i j, (candidates i).returnSeries.length = (candidates j).returnSeries.length)
    (fronts : List (List (Fin n))) (order : List (Fin n)) :
    ∃ r, p.assignFronts sqrt candidates objectiveMatrix fronts order = .ok r := by
  induction order generalizing fronts with
  | nil => exact ⟨_, rfl⟩
  | cons i order ih =>
    obtain ⟨next, hnext⟩ := place_isOk sqrt p objectiveMatrix hlen i fronts
    rw [assignFronts, hnext]
    exact ih next

end

/-! ### The sort -/

/-- The candidates that are sorted, in the order of the presort. -/
def presorted (candidates : Fin n → CandidateFitness) (objectiveMatrix : Fin n → ObjectiveRow) : List (Fin n) :=
  ((List.finRange n).filter fun i => qualifies (candidates i)).insertionSort
    fun i j => (objectiveMatrix i).negDsr ≤ (objectiveMatrix j).negDsr

/-- The order of the presort: by the first objective, and by the index where it is the same. -/
def PresortedBefore (objectiveMatrix : Fin n → ObjectiveRow) (i j : Fin n) : Prop :=
  (objectiveMatrix i).negDsr < (objectiveMatrix j).negDsr ∨ (objectiveMatrix i).negDsr = (objectiveMatrix j).negDsr ∧ i < j

/-- No individual dominates one that is before it in the presort and has its rank; ranks are those of the dominance among the
candidates that are sorted. -/
def NoLaterDominator (p : DependentNonDominatedSorter) (sqrt : ℚ → ℚ) (candidates : Fin n → CandidateFitness)
    (objectiveMatrix : Fin n → ObjectiveRow) : Prop :=
  ∀ rank : Fin n → ℕ, IsRanking (p.Dominates sqrt candidates objectiveMatrix) (PresortedBefore objectiveMatrix)
      (fun i => qualifies (candidates i) = true) rank →
    ∀ i, qualifies (candidates i) = true → ∀ j, qualifies (candidates j) = true → PresortedBefore objectiveMatrix i j →
      p.Dominates sqrt candidates objectiveMatrix j i = true → rank j ≠ rank i

theorem mem_presorted {i : Fin n} : i ∈ presorted candidates objectiveMatrix ↔ qualifies (candidates i) = true := by
  simp [presorted]

theorem presorted_pairwise (candidates : Fin n → CandidateFitness) (objectiveMatrix : Fin n → ObjectiveRow) :
    (presorted candidates objectiveMatrix).Pairwise (PresortedBefore objectiveMatrix) :=
  pairwise_insertionSort_key (fun i => (objectiveMatrix i).negDsr) ((List.pairwise_lt_finRange n).filter _)

theorem presortedBefore_asymm (i j : Fin n) (h : PresortedBefore objectiveMatrix i j) :
    ¬ PresortedBefore objectiveMatrix j i := by
  rintro (hlt | ⟨heq, hji⟩) <;> rcases h with hlt' | ⟨heq', hij⟩
  · exact lt_asymm hlt hlt'
  · exact hlt.ne heq'.symm
  · exact hlt'.ne heq.symm
  · exact lt_asymm hij hji

theorem presortedBefore_total {i j : Fin n} (h : i ≠ j) :
    PresortedBefore objectiveMatrix i j ∨ PresortedBefore objectiveMatrix j i := by
  rcases lt_trichotomy (objectiveMatrix i).negDsr (objectiveMatrix j).negDsr with hlt | heq | hgt
  · exact .inl (.inl hlt)
  · rcases lt_or_gt_of_ne h with hij | hji
    · exact .inl (.inr ⟨heq, hij⟩)
    · exact .inr (.inr ⟨heq.symm, hji⟩)
  · exact .inr (.inl hgt)

/-- What the sort returns: the fronts of the sequential search over the presorted candidates, and the others. -/
theorem sort_ok (hsqrt : MonotoneOn sqrt (Set.Ici 0)) {fronts : List (List (Fin n))} {infeasible : List (Fin n)}
    (h : p.sort sqrt candidates objectiveMatrix = .ok (fronts, infeasible)) :
    fronts = sequentialFronts (p.Dominates sqrt candidates objectiveMatrix) [] (presorted candidates objectiveMatrix) ∧
      infeasible = (List.finRange n).filter fun i => ¬ qualifies (candidates i) := by
  unfold sort at h
  simp only at h
  split at h
  · rename_i hempty
    obtain ⟨rfl, rfl⟩ := Prod.mk.inj (Except.ok.inj h)
    rw [presorted, hempty]
    exact ⟨rfl, rfl⟩
  · rw [← presorted] at h
    cases hassign : p.assignFronts sqrt candidates objectiveMatrix [] (presorted candidates objectiveMatrix) with
    | error exc =>
      rw [hassign] at h
      cases h
    | ok fronts' =>
      rw [hassign] at h
      obtain ⟨rfl, rfl⟩ := Prod.mk.inj (Except.ok.inj h)
      refine ⟨assignFronts_ok hsqrt (fun i hi => ?_) (by simp) hassign, rfl⟩
      have hq := mem_presorted.1 hi
      simp only [qualifies, decide_eq_true_eq] at hq
      exact hq.1

/-- The sort returns for every population of one series length. Where it returns, its fronts and the indices set apart hold each
individual once (and the fronts alone do where all candidates qualify), each member of a front but the first is dominated by a
member of the front before, and no member of a front dominates another one exactly when no candidate dominates one that the
presort puts before it and that has its rank. -/
theorem sort_nonDominated_iff (hsqrt : MonotoneOn sqrt (Set.Ici 0)) (p : DependentNonDominatedSorter)
    (candidates : Fin n → CandidateFitness) (objectiveMatrix : Fin n → ObjectiveRow) :
    ((∀ i j, (candidates i).returnSeries.length = (candidates j).returnSeries.length) →
      ∃ r, p.sort sqrt candidates objectiveMatrix = .ok r) ∧
    ∀ fronts infeasible, p.sort sqrt candidates objectiveMatrix = .ok (fronts, infeasible) →
      (fronts.flatten ++ infeasible).Perm (List.finRange n) ∧
      (fronts.flatten.Perm (List.finRange n) ↔ ∀ i, qualifies (candidates i) = true) ∧
      (∀ k, ∀ i ∈ frontAt fronts (k + 1), ∃ j ∈ frontAt fronts k, p.Dominates sqrt candidates objectiveMatrix j i = true) ∧
      ((∀ k, ∀ i ∈ frontAt fronts k, ∀ j ∈ frontAt fronts k, j ≠ i → p.Dominates sqrt candidates objectiveMatrix j i = false) ↔
        p.NoLaterDominator sqrt candidates objectiveMatrix) := by
  constructor
  · intro hlen
    obtain ⟨fronts, hfronts⟩ := assignFronts_isOk sqrt p objectiveMatrix hlen [] (presorted candidates objectiveMatrix)
    unfold sort
    simp only
    split
    · exact ⟨_, rfl⟩
    · rw [← presorted, hfronts]
      exact ⟨_, rfl⟩
  · intro fronts infeasible h
    obtain ⟨hfronts, hinfeasible⟩ := sort_ok hsqrt h
    have hsorted := presorted_pairwise candidates objectiveMatrix
    have hlayered : Layered (p.Dominates sqrt candidates objectiveMatrix) (PresortedBefore objectiveMatrix)
        (presorted candidates objectiveMatrix) fronts := by
      rw [hfronts]
      exact (layered_nil _ _).sequential _ hsorted presortedBefore_asymm
    have hflat : fronts.flatten.Perm ((List.finRange n).filter fun i => qualifies (candidates i)) :=
      hlayered.perm.trans (List.perm_insertionSort _ _)
    have hall : (fronts.flatten ++ infeasible).Perm (List.finRange n) := by
      rw [hinfeasible]
      refine (hflat.append_right _).trans ?_
      simpa using List.filter_append_perm (fun i => qualifies (candidates i)) (List.finRange n)
    refine ⟨hall, ⟨fun hperm i => ?_, fun hq => ?_⟩, fun k i hi => ?_, ?_⟩
    · exact (List.mem_filter.1 (hflat.mem_iff.1 (hperm.mem_iff.2 (List.mem_finRange i)))).2
    · have hempty : infeasible = [] := by
        rw [hinfeasible, List.filter_eq_nil_iff]
        intro i _
        simp [hq i]
      rw [hempty, List.append_nil] at hall
      exact hall
    · obtain ⟨j, hj, -, hdom⟩ := hlayered.dominated (k + 1) i hi k (Nat.lt_succ_self k)
      exact ⟨j, hj, hdom⟩
    · rw [hlayered.nonDominated_iff hsorted presortedBefore_asymm fun i _ j _ hij => presortedBefore_total hij]
      simp only [mem_presorted, NoLaterDominator]

/-! Two candidates of one Sharpe ratio, the regret of the second given. -/

/-- A candidate with constant returns. -/
def flatCandidate (regret : ℚ) : CandidateFitness where
  candidateId := "flat"
  dsr := 1 / 2
  minimaxRegret := regret
  returnSeries := List.replicate 100 0
  residualSeries := List.replicate 100 0
  backtestLength := 100
  isFeasible := true
  lengths_eq := rfl
  length_ge := List.length_replicate.ge

/-- The square roots of zero and of `9 / 400`. -/
def sampleSqrt (x : ℚ) : ℚ := if x < 9 / 400 then 0 else 3 / 20

theorem sampleSqrt_monotone : MonotoneOn sampleSqrt (Set.Ici 0) := by
  intro x _ y _ hxy
  unfold sampleSqrt
  split_ifs with hx hy
  · exact le_rfl
  · norm_num
  · exact absurd (hxy.trans_lt (by assumption)) hx
  · exact le_rfl

/-- The objectives of a flat candidate. -/
def flatRow (regret : ℚ) : ObjectiveRow := ⟨-1 / 2, regret, -1 / 2⟩

/-- The regrets of a population of two. -/
def twoRegrets (first second : ℚ) (i : Fin 2) : ℚ := if i = 0 then first else second

theorem noLaterDominator_descending :
    NoLaterDominator {} sampleSqrt (fun i => flatCandidate (twoRegrets (1 / 100) (1 / 20) i))
      (fun i => flatRow (twoRegrets (1 / 100) (1 / 20) i)) := by
  have hsort : sort {} sampleSqrt (fun i => flatCandidate (twoRegrets (1 / 100) (1 / 20) i))
      (fun i => flatRow (twoRegrets (1 / 100) (1 / 20) i)) = .ok ([[0], [1]], []) := by decide +kernel
  refine (((sort_nonDominated_iff sampleSqrt_monotone _ _ _).2 _ _ hsort).2.2.2).1 ?_
  intro k i hi j hj hne
  rcases k with _ | _ | k
  · rw [List.mem_singleton.1 hi, List.mem_singleton.1 hj] at hne
    exact absurd rfl hne
  · rw [List.mem_singleton.1 hi, List.mem_singleton.1 hj] at hne
    exact absurd rfl hne
  · cases hi

theorem dominated_tied :
    sort {} sampleSqrt (fun i => flatCandidate (twoRegrets (1 / 20) (1 / 100) i))
        (fun i => flatRow (twoRegrets (1 / 20) (1 / 100) i)) =
        .ok ([[0, 1]], []) ∧
      Dominates {} sampleSqrt (fun i => flatCandidate (twoRegrets (1 / 20) (1 / 100) i))
        (fun i => flatRow (twoRegrets (1 / 20) (1 / 100) i)) 1 0 = true := by
  decide +kernel

end DependentNonDominatedSorter
end Quant
