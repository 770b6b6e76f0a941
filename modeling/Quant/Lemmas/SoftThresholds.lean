import Quant.Analytics.ExecutionSizing
import Quant.Pylib.Projection

/-!
# The two threshold searches

The search over the sorted sizes and the search over the sorted ratios end at the level above which just the budget is left.
-/

namespace Quant

open Pylib

variable {n : ℕ} {α : Type} [Field α] [LinearOrder α]

/-! ## The search over the sizes -/

namespace ThresholdState

theorem count_cum_foldl (b : α) (s : List α) :
    (s.foldl (step b) ⟨0, 0, 0⟩).count = s.length ∧ (s.foldl (step b) ⟨0, 0, 0⟩).cum = s.sum := by
  induction s using List.reverseRecOn with
  | nil => exact ⟨rfl, rfl⟩
  | append_singleton s x ih =>
    rw [List.foldl_concat, List.length_append, List.sum_append, step, ih.1, ih.2]
    simp

end ThresholdState

theorem l1Threshold_concat (b : α) (s : List α) (x : α) : l1Threshold b (s ++ [x]) =
    if 0 < x - (s.sum + x - b) / ((s.length + 1 : ℕ) : α) then (s.sum + x - b) /
    ((s.length + 1 : ℕ) : α) else l1Threshold b s := by
  have hcount := ThresholdState.count_cum_foldl b s
  rw [l1Threshold, List.foldl_concat, ThresholdState.step, hcount.1, hcount.2]
  rfl

variable [IsStrictOrderedRing α]

/-- The threshold is that of the entries above it. -/
theorem l1Threshold_split {b : α} (hb : 0 < b) {s : List α} (hs : s.Pairwise (· ≥ ·)) (hne : s ≠ []) : ∃ u v, s = u ++ v ∧
    l1Threshold b s * u.length = u.sum - b ∧ (∀ x ∈ u, l1Threshold b s < x) ∧ ∀ x ∈ v, x ≤ l1Threshold b s := by
  induction s using List.reverseRecOn with
  | nil => exact absurd rfl hne
  | append_singleton s x ih =>
    rw [List.pairwise_append] at hs
    obtain ⟨hs, -, hlast⟩ := hs
    have hx : ∀ y ∈ s, x ≤ y := fun y hy => hlast y hy x (List.mem_singleton_self x)
    have hlen : (0 : α) < ((s.length + 1 : ℕ) : α) := Nat.cast_pos.2 s.length.succ_pos
    rw [l1Threshold_concat]
    by_cases hpos : 0 < x - (s.sum + x - b) / ((s.length + 1 : ℕ) : α)
    · -- the entry is above the new threshold, and so is everything before it
      rw [if_pos hpos]
      refine ⟨s ++ [x], [], (List.append_nil _).symm, ?_, fun y hy => ?_, fun y hy => absurd hy List.not_mem_nil⟩
      · rw [List.length_append, List.length_singleton, List.sum_append, List.sum_singleton, div_mul_cancel₀ _ hlen.ne']
      · rcases List.mem_append.1 hy with hy | hy
        · exact (sub_pos.1 hpos).trans_le (hx y hy)
        · rw [List.mem_singleton.1 hy]
          exact sub_pos.1 hpos
    · rw [if_neg hpos]
      rw [sub_pos, not_lt, le_div_iff₀ hlen] at hpos
      rcases eq_or_ne s [] with rfl | hne'
      · simp at hpos
        exact absurd hpos (not_le.2 hb)
      · obtain ⟨u, v, heq, hlevel, hu, hv⟩ := ih hs hne'
        refine ⟨u, v ++ [x], by rw [heq, List.append_assoc], hlevel, hu, fun y hy => ?_⟩
        rcases List.mem_append.1 hy with hy | hy
        · exact hv y hy
        · rw [List.mem_singleton.1 hy]
          rcases eq_or_ne v [] with rfl | hvne
          · rw [List.append_nil] at heq
            rw [← heq] at hlevel
            rw [Nat.cast_add, Nat.cast_one, mul_add, mul_one] at hpos
            exact le_of_mul_le_mul_right (by linarith) (Nat.cast_pos.2 (List.length_pos_iff.2 hne'))
          · obtain ⟨z, hz⟩ := List.exists_mem_of_ne_nil v hvne
            exact (hx z (heq ▸ List.mem_append_right u hz)).trans (hv z hz)

omit [LinearOrder α] [IsStrictOrderedRing α] in
theorem sum_map_sub_const (u : List α) (t : α) : (u.map fun x => x - t).sum = u.sum - t * u.length := by
  induction u with
  | nil => simp
  | cons x u ih =>
    rw [List.map_cons, List.sum_cons, List.sum_cons, List.length_cons, ih]
    push_cast
    ring

theorem sum_above_level {u v : List α} {b t : α} (hlevel : t * u.length = u.sum - b) (hu : ∀ x ∈ u, t < x) (hv : ∀ x ∈ v, x ≤ t) :
    ((u ++ v).map fun x => max 0 (x - t)).sum = b := by
  have habove : u.map (fun x => max 0 (x - t)) = u.map fun x => x - t :=
    List.map_congr_left fun x hx => max_eq_right (sub_nonneg.2 (hu x hx).le)
  have hbelow : v.map (fun x => max 0 (x - t)) = v.map fun _ => 0 :=
    List.map_congr_left fun x hx => max_eq_left (sub_nonpos.2 (hv x hx))
  rw [List.map_append, List.sum_append, habove, hbelow, sum_map_sub_const, hlevel]
  simp

omit [Field α] [IsStrictOrderedRing α] in
theorem sortedDescending_perm (a : Fin n → α) : (sortedDescending a).Perm (List.ofFn a) := List.perm_insertionSort _ _

omit [Field α] [IsStrictOrderedRing α] in
theorem sortedDescending_pairwise (a : Fin n → α) : (sortedDescending a).Pairwise (· ≥ ·) := List.pairwise_insertionSort _ _

theorem sum_softL1 {b : α} (hb : 0 < b) (hn : 0 < n) (a : Fin n → α) : ∑ i, softL1 b a i = b := by
  have hne : sortedDescending a ≠ [] := by
    intro hnil
    have hlen := (sortedDescending_perm a).length_eq
    rw [hnil, List.length_nil, List.length_ofFn] at hlen
    omega
  obtain ⟨u, v, heq, hlevel, hu, hv⟩ := l1Threshold_split hb (sortedDescending_pairwise a) hne
  calc ∑ i, softL1 b a i = ((List.ofFn a).map fun x => max 0 (x - l1Threshold b (sortedDescending a))).sum := by
        rw [List.map_ofFn, List.sum_ofFn]
        rfl
    _ = ((sortedDescending a).map fun x => max 0 (x - l1Threshold b (sortedDescending a))).sum :=
        ((sortedDescending_perm a).map _).sum_eq.symm
    _ = b := by
        have hsum := sum_above_level hlevel hu hv
        rwa [← heq] at hsum

/-- Where there is at least the budget, nothing grows. -/
theorem l1Threshold_nonneg {b : α} (hb : 0 < b) (hn : 0 < n) {a : Fin n → α} (hsum : b ≤ ∑ i, a i) :
    0 ≤ l1Threshold b (sortedDescending a) := by
  by_contra hneg
  have : Nonempty (Fin n) := ⟨⟨0, hn⟩⟩
  have hlt : ∑ i, a i < ∑ i, softL1 b a i :=
    Finset.sum_lt_sum_of_nonempty Finset.univ_nonempty fun i _ => (by linarith : a i < a i - _).trans_le (le_max_right 0 _)
  rw [sum_softL1 hb hn] at hlt
  exact absurd hsum (not_le.2 hlt)

theorem softL1_mem {b : α} (hb : 0 < b) (hn : 0 < n) {a : Fin n → α} (ha : ∀ i, 0 ≤ a i) (hsum : b ≤ ∑ i, a i) (i : Fin n) :
    0 ≤ softL1 b a i ∧ softL1 b a i ≤ a i :=
  ⟨le_max_left _ _, max_le (ha i) (sub_le_self _ (l1Threshold_nonneg hb hn hsum))⟩

/-- Where there is at most the budget, nothing shrinks. -/
theorem le_softL1 {b : α} (hb : 0 < b) (hn : 0 < n) {a : Fin n → α} (ha : ∀ i, 0 ≤ a i) (hsum : ∑ i, a i ≤ b) (i : Fin n) :
    a i ≤ softL1 b a i := by
  rcases le_or_gt (l1Threshold b (sortedDescending a)) 0 with hneg | hpos
  · exact le_max_of_le_right (by linarith)
  · have hle : ∀ j ∈ Finset.univ, softL1 b a j ≤ a j := fun j _ => max_le (ha j) (sub_le_self _ hpos.le)
    have heq := (Finset.sum_eq_sum_iff_of_le hle).1 (le_antisymm (Finset.sum_le_sum hle) (hsum.trans (sum_softL1 hb hn a).ge))
    exact (heq i (Finset.mem_univ i)).ge

/-! ## The search over the ratios -/

variable {c a : Fin n → α} {b : α}

omit [IsStrictOrderedRing α] in
theorem ratioPairs_perm (c a : Fin n → α) : (ratioPairs c a).Perm ((List.finRange n).map fun i => (a i / c i, i)) :=
  List.perm_insertionSort _ _

omit [IsStrictOrderedRing α] in
theorem ratioPairs_pairwise (c a : Fin n → α) : (ratioPairs c a).Pairwise fun p q => q.1 ≤ p.1 := by
  have : Std.Total fun p q : α × Fin n => q.1 < p.1 ∨ (q.1 = p.1 ∧ q.2 ≤ p.2) := by
    refine ⟨fun p q => ?_⟩
    rcases lt_trichotomy q.1 p.1 with h | h | h
    · exact .inl (.inl h)
    · rcases le_total q.2 p.2 with h' | h'
      · exact .inl (.inr ⟨h, h'⟩)
      · exact .inr (.inr ⟨h.symm, h'⟩)
    · exact .inr (.inl h)
  have : IsTrans (α × Fin n) fun p q => q.1 < p.1 ∨ (q.1 = p.1 ∧ q.2 ≤ p.2) := by
    refine ⟨fun p q r hpq hqr => ?_⟩
    rcases hpq with hpq | ⟨hpq, hpq'⟩ <;> rcases hqr with hqr | ⟨hqr, hqr'⟩
    · exact .inl (hqr.trans hpq)
    · exact .inl (hqr ▸ hpq)
    · exact .inl (hpq ▸ hqr)
    · exact .inr ⟨hqr.trans hpq, hqr'.trans hpq'⟩
  have hsorted := List.pairwise_insertionSort (fun p q : α × Fin n => q.1 < p.1 ∨ (q.1 = p.1 ∧ q.2 ≤ p.2))
    ((List.finRange n).map fun i => (a i / c i, i))
  exact hsorted.imp fun h => h.elim le_of_lt fun h => h.1.le

omit [IsStrictOrderedRing α] in
theorem mul_ratio_of_mem (hc : ∀ i, 0 < c i) {p : α × Fin n} (hp : p ∈ ratioPairs c a) : c p.2 * p.1 = a p.2 := by
  obtain ⟨i, -, rfl⟩ := List.mem_map.1 ((ratioPairs_perm c a).mem_iff.1 hp)
  exact mul_div_cancel₀ _ (hc i).ne'

/-- The sum over some pairs of the weights times the sizes. -/
def sumCy (c a : Fin n → α) (l : List (α × Fin n)) : α := (l.map fun p => c p.2 * a p.2).sum

/-- The sum over some pairs of the squares of the weights. -/
def sumC2 (c : Fin n → α) (l : List (α × Fin n)) : α := (l.map fun p => c p.2 * c p.2).sum

omit [LinearOrder α] [IsStrictOrderedRing α] in
theorem sumCy_concat (l : List (α × Fin n)) (p : α × Fin n) : sumCy c a (l ++ [p]) = sumCy c a l + c p.2 * a p.2 := by
  simp [sumCy]

omit [LinearOrder α] [IsStrictOrderedRing α] in
theorem sumC2_concat (l : List (α × Fin n)) (p : α × Fin n) : sumC2 c (l ++ [p]) = sumC2 c l + c p.2 * c p.2 := by
  simp [sumC2]

theorem sumC2_nonneg (c : Fin n → α) (l : List (α × Fin n)) : 0 ≤ sumC2 c l :=
  List.sum_nonneg fun x hx => by
    obtain ⟨p, -, rfl⟩ := List.mem_map.1 hx
    exact mul_self_nonneg _

/-- The multiplier is that of the pairs whose ratios are above it. -/
theorem weightedMultiplier_split (hc : ∀ i, 0 < c i) (seen : List (α × Fin n)) {rest : List (α × Fin n)} (hne : rest ≠ [])
    (hsorted : (seen ++ rest).Pairwise fun p q => q.1 ≤ p.1) (hratio : ∀ p ∈ rest, c p.2 * p.1 = a p.2)
    (hlow : ∀ p ∈ rest.head?, sumCy c a seen - b < sumC2 c seen * p.1) : ∃ u v, seen ++ rest = u ++ v ∧
      weightedMultiplier c a b (sumCy c a seen) (sumC2 c seen) rest * sumC2 c u = sumCy c a u - b ∧
      (∀ p ∈ u, weightedMultiplier c a b (sumCy c a seen) (sumC2 c seen) rest < p.1) ∧
      ∀ p ∈ v, p.1 ≤ weightedMultiplier c a b (sumCy c a seen) (sumC2 c seen) rest := by
  induction rest generalizing seen with
  | nil => exact absurd rfl hne
  | cons p pairs ih =>
    have hpos : 0 < sumC2 c (seen ++ [p]) := by
      rw [sumC2_concat]
      exact add_pos_of_nonneg_of_pos (sumC2_nonneg c seen) (mul_pos (hc _) (hc _))
    -- the candidate lies between the one before it and the ratio
    have hlt : (sumCy c a (seen ++ [p]) - b) / sumC2 c (seen ++ [p]) < p.1 := by
      rw [div_lt_iff₀ hpos, sumCy_concat, sumC2_concat, ← hratio p List.mem_cons_self]
      linarith [hlow p rfl]
    have hassoc : seen ++ p :: pairs = seen ++ [p] ++ pairs := by simp
    rw [weightedMultiplier, ← sumCy_concat, ← sumC2_concat]
    rw [hassoc] at hsorted ⊢
    by_cases hfound : ∀ q ∈ pairs.head?, q.1 ≤ (sumCy c a (seen ++ [p]) - b) / sumC2 c (seen ++ [p])
    · rw [if_pos ⟨hlt, hfound⟩]
      obtain ⟨hseen, hpairs, hcross⟩ := List.pairwise_append.1 hsorted
      refine ⟨seen ++ [p], pairs, rfl, div_mul_cancel₀ _ hpos.ne', fun q hq => ?_, fun q hq => ?_⟩
      · rcases List.mem_append.1 hq with hq | hq
        · exact hlt.trans_le ((List.pairwise_append.1 hseen).2.2 q hq p (List.mem_singleton_self p))
        · rwa [List.mem_singleton.1 hq]
      · cases pairs with
        | nil => exact absurd hq List.not_mem_nil
        | cons r pairs =>
          rcases List.mem_cons.1 hq with rfl | hq
          · exact hfound q rfl
          · exact ((List.pairwise_cons.1 hpairs).1 q hq).trans (hfound r rfl)
    · rw [if_neg fun h => hfound h.2]
      push Not at hfound
      obtain ⟨r, hr, hlt'⟩ := hfound
      refine ih _ (fun hnil => ?_) hsorted (fun q hq => hratio q (List.mem_cons_of_mem p hq)) fun q hq => ?_
      · rw [hnil] at hr
        cases hr
      · rw [Option.mem_def.1 hr] at hq
        cases hq
        rw [div_lt_iff₀ hpos] at hlt'
        linarith

theorem sum_above_ratio (hc : ∀ i, 0 < c i) {u v : List (α × Fin n)} {t : α} (hratio : ∀ p ∈ u ++ v, c p.2 * p.1 = a p.2)
    (hlevel : t * sumC2 c u = sumCy c a u - b) (hu : ∀ p ∈ u, t < p.1) (hv : ∀ p ∈ v, p.1 ≤ t) :
    ((u ++ v).map fun p => c p.2 * max 0 (a p.2 - t * c p.2)).sum = b := by
  have habove : ∀ w : List (α × Fin n), (∀ p ∈ w, c p.2 * p.1 = a p.2) → (∀ p ∈ w, t < p.1) →
      (w.map fun p => c p.2 * max 0 (a p.2 - t * c p.2)).sum = sumCy c a w - t * sumC2 c w := by
    intro w hw hlt
    induction w with
    | nil => simp [sumCy, sumC2]
    | cons p w ih =>
      have hp : 0 ≤ a p.2 - t * c p.2 := by
        rw [← hw p List.mem_cons_self]
        nlinarith [hc p.2, hlt p List.mem_cons_self]
      rw [List.map_cons, List.sum_cons, max_eq_right hp,
        ih (fun q hq => hw q (List.mem_cons_of_mem p hq)) fun q hq => hlt q (List.mem_cons_of_mem p hq)]
      simp only [sumCy, sumC2, List.map_cons, List.sum_cons]
      ring
  have hbelow : v.map (fun p => c p.2 * max 0 (a p.2 - t * c p.2)) = v.map fun _ => 0 := by
    refine List.map_congr_left fun p hp => ?_
    have hle : a p.2 - t * c p.2 ≤ 0 := by
      rw [← hratio p (List.mem_append_right u hp)]
      nlinarith [hc p.2, hv p hp]
    rw [max_eq_left hle, mul_zero]
  rw [List.map_append, List.sum_append, hbelow, habove u (fun p hp => hratio p (List.mem_append_left v hp)) hu, hlevel]
  simp

theorem sum_softWeighted (hc : ∀ i, 0 < c i) (hb : 0 < b) (hn : 0 < n) (a : Fin n → α) : ∑ i, c i * softWeighted c b a i = b := by
  have hne : ratioPairs c a ≠ [] := by
    intro hnil
    have hlen := (ratioPairs_perm c a).length_eq
    rw [hnil, List.length_nil, List.length_map, List.length_finRange] at hlen
    omega
  have hratio : ∀ p ∈ ratioPairs c a, c p.2 * p.1 = a p.2 := fun p hp => mul_ratio_of_mem hc hp
  have hlow : ∀ p ∈ (ratioPairs c a).head?, sumCy c a [] - b < sumC2 c [] * p.1 := fun p _ => by simpa [sumCy, sumC2] using hb
  obtain ⟨u, v, heq, hlevel, hu, hv⟩ := weightedMultiplier_split hc [] hne (ratioPairs_pairwise c a) hratio hlow
  rw [List.nil_append] at heq
  have hsum := sum_above_ratio hc (heq ▸ hratio) hlevel hu hv
  rw [← heq, ((ratioPairs_perm c a).map _).sum_eq, List.map_map] at hsum
  rw [← List.sum_ofFn, List.ofFn_eq_map]
  exact hsum

theorem weightedMultiplier_nonneg (hc : ∀ i, 0 < c i) (hb : 0 < b) (hn : 0 < n) (hsum : b < ∑ i, c i * a i) :
    0 ≤ weightedMultiplier c a b 0 0 (ratioPairs c a) :=
  level_nonneg (fun i => (hc i).le) (fun i => (hc i).le) ((sum_softWeighted hc hb hn a).trans_lt hsum)

theorem softWeighted_mem (hc : ∀ i, 0 < c i) (hb : 0 < b) (hn : 0 < n) (ha : ∀ i, 0 ≤ a i)
    (hsum : b < ∑ i, c i * a i) (i : Fin n) :
    0 ≤ softWeighted c b a i ∧ softWeighted c b a i ≤ a i :=
  ⟨le_max_left _ _, max_le (ha i) (sub_le_self _ (mul_nonneg (weightedMultiplier_nonneg hc hb hn hsum) (hc i).le))⟩

end Quant
