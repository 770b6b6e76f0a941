import Mathlib.Data.List.GetD
import Quant.Pylib.Fronts
import Quant.Pylib.Layers
import Quant.Services.GenotypeService

namespace Quant

open Pylib

/-! ## The fronts are the levels of domination -/

section Fronts

variable {n : ℕ}

/-! ### Releasing one index after the other -/

/-- What a pass over released indices does: the count of each falls by how often it is released, and those whose count comes down
to zero are in the next front, once. -/
theorem foldl_releaseOne (released : List (Fin n)) (counts : Fin n → ℤ) (front : List (Fin n)) :
    (released.foldl releaseOne (counts, front)).1 = (fun q => counts q - released.count q) ∧
      ∃ next, (released.foldl releaseOne (counts, front)).2 = front ++ next ∧ next.Nodup ∧
        ∀ q, q ∈ next ↔ 1 ≤ counts q ∧ counts q ≤ released.count q := by
  induction released generalizing counts front with
  | nil =>
    refine ⟨by simp, [], by simp, List.nodup_nil, fun q => ?_⟩
    simp only [List.not_mem_nil, List.count_nil, false_iff, not_and]
    omega
  | cons p released ih =>
    obtain ⟨hcounts, next, hfront, hnodup, hmem⟩ :=
      ih (Function.update counts p (counts p - 1)) (if counts p - 1 = 0 then front ++ [p] else front)
    have hstep : (p :: released).foldl releaseOne (counts, front) =
        released.foldl releaseOne (Function.update counts p (counts p - 1), if counts p - 1 = 0 then front ++
        [p] else front) := by
      simp [releaseOne]
    rw [hstep]
    refine ⟨?_, (if counts p - 1 = 0 then [p] else []) ++ next, ?_, ?_, ?_⟩
    · rw [hcounts]
      funext q
      by_cases hq : q = p
      · subst hq
        simp only [Function.update_self, List.count_cons_self, Nat.cast_succ]
        omega
      · simp [hq, List.count_cons_of_ne (Ne.symm hq)]
    · rw [hfront]
      split <;> simp
    · -- An index that has come down to zero does not do so again.
      split
      · rename_i hzero
        rw [List.singleton_append, List.nodup_cons]
        refine ⟨fun hp => ?_, hnodup⟩
        have := (hmem p).1 hp
        rw [Function.update_self] at this
        omega
      · exact hnodup
    · intro q
      rw [List.mem_append, hmem]
      by_cases hq : q = p
      · subst hq
        simp only [Function.update_self, List.count_cons_self, Nat.cast_succ]
        split <;> simp <;> omega
      · have hnot : q ∉ (if counts p - 1 = 0 then [p] else []) := by
          split <;> simp [hq]
        simp [hq, hnot, List.count_cons_of_ne (Ne.symm hq)]

/-! ### Front by front -/

variable {dom : Fin n → Fin n → Bool} {level : Fin n → ℕ} {dominated : Fin n → List (Fin n)} {counts : Fin n → ℤ}
    {front : List (Fin n)}
  {k : ℕ}

/-- The dominators of an index from a level on. -/
def dominatorsFrom (dom : Fin n → Fin n → Bool) (level : Fin n → ℕ) (k : ℕ) (q : Fin n) : ℕ :=
  (List.finRange n).countP fun p => k ≤ level p ∧ dom p q = true

/-- Before the indices of level `k` are released they are the front, and the count of a higher index is the number of its
dominators that are still to be released. -/
structure AtLevel (dom : Fin n → Fin n → Bool) (level : Fin n → ℕ) (k : ℕ) (counts : Fin n → ℤ)
    (front : List (Fin n)) : Prop where
  nodup : front.Nodup
  mem_iff : ∀ q, q ∈ front ↔ level q = k
  counts_eq : ∀ q, k < level q → counts q = dominatorsFrom dom level k q

/-- An index is released once by each of its dominators in a front. -/
theorem count_flatMap_dominated (hdom : ∀ p, dominated p = (List.finRange n).filter (dom p)) (front : List (Fin n)) (q : Fin n) :
    (front.flatMap dominated).count q = front.countP fun p => dom p q := by
  induction front with
  | nil => simp
  | cons p front ih =>
    have hone : (dominated p).count q = if dom p q = true then 1 else 0 := by
      rw [hdom, ((List.nodup_finRange n).filter (dom p)).count]
      simp
    rw [List.flatMap_cons, List.count_append, hone, ih, List.countP_cons, Nat.add_comm]

/-- How often an index is released by the front of a level. -/
theorem AtLevel.count_eq (h : AtLevel dom level k counts front)
    (hdom : ∀ p, dominated p = (List.finRange n).filter (dom p)) (q : Fin n) :
    (front.flatMap dominated).count q = (List.finRange n).countP fun p => level p = k ∧ dom p q = true := by
  have hperm : front.Perm ((List.finRange n).filter fun p => level p = k) := by
    rw [List.perm_ext_iff_of_nodup h.nodup ((List.nodup_finRange n).filter _)]
    simp [h.mem_iff]
  rw [count_flatMap_dominated hdom, hperm.countP_eq, List.countP_filter]
  exact List.countP_congr fun p _ => by simp [and_comm]

/-- The dominators from a level on are those of the level and those above it. -/
theorem dominatorsFrom_eq_add (dom : Fin n → Fin n → Bool) (level : Fin n → ℕ) (k : ℕ) (q : Fin n) :
    dominatorsFrom dom level k q =
      ((List.finRange n).countP fun p => level p = k ∧ dom p q = true) + dominatorsFrom dom level (k + 1) q := by
  have hsplit : ∀ l : List (Fin n), (l.countP fun p => k ≤ level p ∧ dom p q = true) =
      (l.countP fun p => level p = k ∧ dom p q = true) + l.countP fun p => k + 1 ≤ level p ∧ dom p q = true := by
    intro l
    induction l with
    | nil => rfl
    | cons p l ih =>
      simp only [List.countP_cons, ih, decide_eq_true_eq]
      by_cases hp : dom p q = true
      · simp only [hp, and_true]
        split_ifs <;> omega
      · simp [hp]
  exact hsplit _

/-- Nothing that dominates an index is at its level or above. -/
theorem dominatorsFrom_eq_zero_iff (hlevel : IsLevel (fun p q => dom p q = true) level) (q : Fin n) :
    dominatorsFrom dom level k q = 0 ↔ level q ≤ k := by
  rw [dominatorsFrom, List.countP_eq_zero]
  simp only [List.mem_finRange, forall_true_left, decide_eq_true_eq, not_and]
  constructor
  · intro h
    by_contra hlt
    obtain ⟨j, hj⟩ := Nat.exists_eq_succ_of_ne_zero (Nat.ne_zero_of_lt (not_le.1 hlt))
    obtain ⟨p, hp, hpl⟩ := hlevel.exists_below hj
    exact h p (by omega) hp
  · intro h p hk hp
    have := hlevel.lt_of_dom hp
    omega

/-- Releasing the front of a level leads to the next level. -/
theorem AtLevel.release (h : AtLevel dom level k counts front) (hlevel : IsLevel (fun p q => dom p q = true) level)
    (hdom : ∀ p, dominated p = (List.finRange n).filter (dom p)) :
    AtLevel dom level (k + 1) ((front.flatMap dominated).foldl releaseOne (counts, [])).1
      ((front.flatMap dominated).foldl releaseOne (counts, [])).2 := by
  obtain ⟨hcounts, next, hnext, hnodup, hmem⟩ := foldl_releaseOne (front.flatMap dominated) counts []
  have hsplit := dominatorsFrom_eq_add dom level k
  have hzero := fun q => dominatorsFrom_eq_zero_iff (k := k + 1) hlevel q
  have hcount := h.count_eq hdom
  rw [hnext, List.nil_append]
  refine ⟨hnodup, fun q => ?_, fun q hq => ?_⟩
  · rw [hmem, hcount]
    rcases lt_or_ge k (level q) with hlt | hge
    · -- All dominators still to be released are at level `k` exactly where the index is at the next one.
      have hpos : dominatorsFrom dom level k q ≠ 0 := fun h0 => absurd ((dominatorsFrom_eq_zero_iff hlevel q).1 h0) (not_le.2 hlt)
      have := hsplit q
      have := hzero q
      rw [h.counts_eq q hlt]
      omega
    · -- An index at this level or below is dominated by none of the front.
      have := hsplit q
      have := (dominatorsFrom_eq_zero_iff hlevel q).2 hge
      omega
  · have := hsplit q
    rw [hcounts]
    simp only [hcount, h.counts_eq q (by omega)]
    omega

/-- Without an index at a level there is none above it. -/
theorem AtLevel.level_lt (h : AtLevel dom level k counts []) (hlevel : IsLevel (fun p q => dom p q = true) level) (q : Fin n) :
    level q < k := by
  have hnone : ∀ j q, level q ≠ k + j := by
    intro j
    induction j with
    | zero => exact fun q hq => by simpa using (h.mem_iff q).2 hq
    | succ j ih =>
      intro q hq
      obtain ⟨p, -, hp⟩ := hlevel.exists_below hq
      exact ih p hp
  by_contra hge
  exact hnone (level q - k) q (by omega)

/-- The fronts from a level on: front number `j` holds the indices `j` levels above, each of them once. -/
theorem frontsFrom_spec (hlevel : IsLevel (fun p q => dom p q = true) level)
    (hdom : ∀ p, dominated p = (List.finRange n).filter (dom p))
    (fuel : ℕ) (h : AtLevel dom level k counts front) (hfuel : ∀ q, level q < k + fuel) :
    (∀ front' ∈ frontsFrom dominated fuel counts front, front' ≠ [] ∧ front'.Nodup) ∧
      (∀ j q, q ∈ frontAt (frontsFrom dominated fuel counts front) j ↔ level q = k + j) ∧
      ∀ extra, frontsFrom dominated (fuel + extra) counts front = frontsFrom dominated fuel counts front := by
  have hnone : ∀ {k counts}, AtLevel dom level k counts [] → ∀ j q, q ∈ frontAt ([] : List (List (Fin n))) j ↔
      level q = k + j := by
    intro k counts h j q
    have := h.level_lt hlevel q
    simp only [frontAt, List.getD_nil, List.not_mem_nil, false_iff]
    omega
  induction fuel generalizing k counts front with
  | zero =>
    have hnil : front = [] := List.eq_nil_iff_forall_not_mem.2 fun q hq => by
      have := (h.mem_iff q).1 hq
      have := hfuel q
      omega
    subst hnil
    exact ⟨by simp [frontsFrom], hnone h, fun extra => by cases extra <;> rfl⟩
  | succ fuel ih =>
    cases front with
    | nil => exact ⟨by simp [frontsFrom], hnone h, fun extra => by rw [show fuel + 1 + extra = fuel + extra + 1 by omega]; rfl⟩
    | cons p front =>
      obtain ⟨hall, hat, hextra⟩ := ih (h.release hlevel hdom) fun q => by
        have := hfuel q
        omega
      refine ⟨?_, fun j q => ?_, fun extra => ?_⟩
      · rw [frontsFrom]
        exact List.forall_mem_cons.2 ⟨⟨List.cons_ne_nil _ _, h.nodup⟩, hall⟩
      · rw [frontsFrom]
        cases j with
        | zero => exact h.mem_iff q
        | succ j =>
          rw [frontAt_cons_succ, hat, show k + 1 + j = k + (j + 1) by omega]
      · rw [show fuel + 1 + extra = fuel + extra + 1 by omega, frontsFrom, frontsFrom, hextra]

/-! ### The sort -/

variable {α : Type*} [LinearOrder α] {m : ℕ}

theorem dominatesAll_iff {x y : Fin m → α} : dominatesAll x y = true ↔ (∀ f, y f ≤ x f) ∧ ∃ f, y f < x f := by
  simp [dominatesAll]

theorem dominatesAll_irrefl (x : Fin m → α) : ¬ dominatesAll x x = true := by
  rw [dominatesAll_iff]
  rintro ⟨-, f, hf⟩
  exact lt_irrefl _ hf

theorem dominatesAll_trans {x y z : Fin m → α} (hxy : dominatesAll x y = true) (hyz : dominatesAll y z = true) :
    dominatesAll x z = true := by
  rw [dominatesAll_iff] at hxy hyz ⊢
  obtain ⟨f, hf⟩ := hxy.2
  exact ⟨fun g => (hyz.1 g).trans (hxy.1 g), f, (hyz.1 f).trans_lt hf⟩

/-- One objective vector dominates another. -/
def Dominates (objectives : Fin n → Fin m → α) (p q : Fin n) : Prop := dominatesAll (objectives p) (objectives q) = true

variable (objectives : Fin n → Fin m → α)

theorem dominatedSet_eq (p : Fin n) :
    dominatedSet objectives p = (List.finRange n).filter fun q => dominatesAll (objectives p) (objectives q) := by
  refine List.filter_congr fun q _ => ?_
  by_cases hq : q = p
  · subst hq
    simpa using Bool.eq_false_iff.2 (dominatesAll_irrefl (objectives q))
  · simp [hq]

/-- The count of an index is the number of its dominators. -/
theorem dominationCount_eq (level : Fin n → ℕ) (q : Fin n) :
    dominationCount objectives q = dominatorsFrom (fun p q => dominatesAll (objectives p) (objectives q)) level 0 q := by
  rw [dominationCount, dominatorsFrom, List.countP_eq_length_filter]
  congr 2
  refine List.filter_congr fun p _ => ?_
  by_cases hp : dominatesAll (objectives p) (objectives q) = true
  · -- A dominator is another index, and is not dominated back.
    have hne : p ≠ q := by
      rintro rfl
      exact dominatesAll_irrefl _ hp
    have hback : dominatesAll (objectives q) (objectives p) = false :=
      Bool.eq_false_iff.2 fun h => dominatesAll_irrefl _ (dominatesAll_trans hp h)
    simp [hp, hne, hback]
  · simp [hp]

/-- The fronts of the sort: none of them is empty or holds an index twice, the indices of each are those whose longest chain of
dominations has the length of its number, and the loop has ended by itself. -/
theorem fastNonDominatedSort_fronts :
    (∀ front ∈ fastNonDominatedSort objectives, front ≠ [] ∧ front.Nodup) ∧
      (∀ k i, i ∈ frontAt (fastNonDominatedSort objectives) k ↔ IsLongestChain (Dominates objectives) i k) ∧
      ∀ extra, frontsFrom (dominatedSet objectives) (n + 1 + extra) (dominationCount objectives)
        ((List.finRange n).filter fun p => dominationCount objectives p = 0) = fastNonDominatedSort objectives := by
  have hirrefl : ∀ p, ¬ Dominates objectives p p := fun p => dominatesAll_irrefl _
  have htrans : ∀ p q r, Dominates objectives p q → Dominates objectives q r → Dominates objectives p r :=
    fun _ _ _ => dominatesAll_trans
  obtain ⟨level, hlevel⟩ := exists_isLevel hirrefl htrans
  have hstart : AtLevel (fun p q => dominatesAll (objectives p) (objectives q)) level 0 (dominationCount objectives)
      ((List.finRange n).filter fun p => dominationCount objectives p = 0) := by
    refine ⟨(List.nodup_finRange n).filter _, fun q => ?_, fun q _ => dominationCount_eq objectives level q⟩
    have hzero := dominatorsFrom_eq_zero_iff (k := 0) hlevel q
    rw [List.mem_filter, decide_eq_true_eq, dominationCount_eq objectives level q]
    simp only [List.mem_finRange, true_and, Nat.cast_eq_zero, hzero, Nat.le_zero]
  obtain ⟨hall, hat, hextra⟩ := frontsFrom_spec hlevel (dominatedSet_eq objectives) (n + 1) hstart fun q => by
    have hcard := hlevel.lt_card hirrefl htrans q
    rw [Fintype.card_fin] at hcard
    omega
  refine ⟨hall, fun k i => ?_, hextra⟩
  rw [hlevel.isLongestChain_iff, ← Nat.zero_add k, ← hat k i, Nat.zero_add]
  rfl

/-- Every index is in exactly one front, once. -/
theorem fastNonDominatedSort_perm : (fastNonDominatedSort objectives).flatten.Perm (List.finRange n) := by
  obtain ⟨hall, hat, -⟩ := fastNonDominatedSort_fronts objectives
  have hirrefl : ∀ p, ¬ Dominates objectives p p := fun p => dominatesAll_irrefl _
  obtain ⟨level, hlevel⟩ := exists_isLevel hirrefl fun _ _ _ => dominatesAll_trans
  have hnodup : (fastNonDominatedSort objectives).flatten.Nodup := by
    refine List.nodup_flatten.2 ⟨fun front hfront => (hall front hfront).2,
      List.pairwise_iff_getElem.2 fun i j hi hj hij q hqi hqj => ?_⟩
    have hget : ∀ k (hk : k < (fastNonDominatedSort objectives).length), q ∈ (fastNonDominatedSort objectives)[k] →
        level q = k := by
      intro k hk hq
      rw [← hlevel.isLongestChain_iff, ← hat, frontAt, List.getD_eq_getElem _ _ hk]
      exact hq
    exact hij.ne ((hget i hi hqi).symm.trans (hget j hj hqj))
  rw [List.perm_ext_iff_of_nodup hnodup (List.nodup_finRange n)]
  intro q
  rw [mem_flatten_iff]
  exact ⟨fun _ => List.mem_finRange q, fun _ => ⟨level q, (hat _ q).2 (hlevel.isLongestChain q)⟩⟩

end Fronts

/-! ## The ranked population -/

/-- Blocks that follow one another, each of one rank, the ranks counted up from the first. -/
theorem pairwise_flatMap_zipIdx {β γ : Type*} (rank : γ → ℕ) (block : β × ℕ → List γ) (hblock : ∀ b, ∀ x ∈ block b, rank x = b.2)
    (l : List β) (k : ℕ) :
    ((l.zipIdx k).flatMap block).Pairwise (fun x y => rank x ≤ rank y) ∧ ∀ x ∈ (l.zipIdx k).flatMap block, k ≤ rank x := by
  induction l generalizing k with
  | nil => simp
  | cons b l ih =>
    obtain ⟨hsorted, hbound⟩ := ih (k + 1)
    have hfirst := hblock (b, k)
    rw [List.zipIdx_cons, List.flatMap_cons]
    refine ⟨List.pairwise_append.2 ⟨?_, hsorted, fun x hx y hy => ?_⟩, fun x hx => ?_⟩
    · exact List.pairwise_of_forall_mem_list fun x hx y hy => (hfirst x hx).trans_le (hfirst y hy).ge
    · rw [hfirst x hx]
      exact Nat.le_of_succ_le (hbound y hy)
    · rcases List.mem_append.1 hx with hx | hx
      · exact (hfirst x hx).ge
      · exact Nat.le_of_succ_le (hbound x hx)

namespace GenotypeService

variable {α : Type} [Field α] [LinearOrder α]

/-- Every genotype is ranked exactly once. -/
theorem rankPopulationPareto_perm (genotypes : List (Genotype α)) :
    ((rankPopulationPareto genotypes).map Prod.fst).Perm genotypes := by
  let objectives := fun i : Fin genotypes.length => objectivesOf (genotypes.get i)
  have hfronts : ((rankPopulationPareto genotypes).map Prod.fst).Perm
      (((fastNonDominatedSort objectives).zipIdx 1).flatMap fun b => b.1.map genotypes.get) := by
    rw [rankPopulationPareto, List.map_flatMap]
    refine List.Perm.flatMap_left _ fun b _ => ?_
    rw [List.map_map]
    exact (List.perm_insertionSort _ _).map _
  have hflat : (((fastNonDominatedSort objectives).zipIdx 1).flatMap fun b => b.1.map genotypes.get) =
      (fastNonDominatedSort objectives).flatten.map genotypes.get := by
    rw [← List.flatMap_map Prod.fst, List.zipIdx_map_fst, List.map_flatten, List.flatMap_def]
  have hall := (fastNonDominatedSort_perm objectives).map genotypes.get
  rw [List.map_get_finRange] at hall
  exact hfronts.trans (hflat ▸ hall)

/-- The genotypes come in the order of their ranks. -/
theorem rankPopulationPareto_sorted (genotypes : List (Genotype α)) :
    (rankPopulationPareto genotypes).Pairwise fun r s => r.2.1 ≤ s.2.1 := by
  refine (pairwise_flatMap_zipIdx (fun r : Genotype α × ℕ × WithTop α => r.2.1) _ (fun b x hx => ?_) _ 1).1
  obtain ⟨i, -, rfl⟩ := List.mem_map.1 hx
  rfl

/-- The sort ends and puts every index into one front, by the length of its longest chain of dominations; the ranking has every
genotype once, in the order of the ranks. -/
theorem paretoRanking_spec {β : Type*} [LinearOrder β] {n m : ℕ} (objectives : Fin n → Fin m → β)
    (genotypes : List (Genotype α)) :
    (∀ extra, frontsFrom (dominatedSet objectives) (n + 1 + extra) (dominationCount objectives)
        ((List.finRange n).filter fun p => dominationCount objectives p = 0) = fastNonDominatedSort objectives) ∧
      (fastNonDominatedSort objectives).flatten.Perm (List.finRange n) ∧
      (∀ front ∈ fastNonDominatedSort objectives, front ≠ []) ∧
      (∀ k i, i ∈ frontAt (fastNonDominatedSort objectives) k ↔ IsLongestChain (Dominates objectives) i k) ∧
      ((rankPopulationPareto genotypes).map Prod.fst).Perm genotypes ∧
      (rankPopulationPareto genotypes).Pairwise fun r s => r.2.1 ≤ s.2.1 := by
  obtain ⟨hall, hat, hextra⟩ := fastNonDominatedSort_fronts objectives
  exact ⟨hextra, fastNonDominatedSort_perm objectives, fun front h => (hall front h).1, hat, rankPopulationPareto_perm genotypes,
    rankPopulationPareto_sorted genotypes⟩

example : fastNonDominatedSort ![![1, 5], ![2, 5], ![2, 5], ![0, 9], ![0, 4]] = [[1, 2, 3], [0], [4]] := by decide

end GenotypeService

end Quant
