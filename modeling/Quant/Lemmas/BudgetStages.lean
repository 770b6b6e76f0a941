import Quant.Lemmas.SoftThresholds

/-!
# The stages of the budget projection

What the Newton rounds and the alternating projections end with, and what the final scaling makes of it.
-/

namespace Quant

open Pylib

variable {n : ℕ} {α : Type} [Field α] [LinearOrder α] {a c x y : Fin n → α} {b1 b2 : α}

/-! ## Scaling into the budgets -/

/-- Scaled down where the weighted sizes exceed the budget. -/
def scaleInto (c : Fin n → α) (b : α) (v : Fin n → α) : Fin n → α := if b < cvarOf c v then fun i => v i * (b / cvarOf c v) else v

theorem l1Of_eq (v : Fin n → α) : l1Of v = cvarOf (fun _ => 1) v := by
  simp [l1Of, cvarOf]

theorem rescaled_eq (y c : Fin n → α) (b1 b2 : α) (x : Fin n → α) :
    rescaled y c b1 b2 x = scaleInto (fun _ => 1) b1 (scaleInto c b2 (withSigns x y)) := by
  simp only [rescaled, scaleInto, l1Of_eq]
  rfl

theorem scaleInto_of_le {v : Fin n → α} {b : α} (h : cvarOf c v ≤ b) : scaleInto c b v = v := if_neg (not_lt.2 h)

variable [IsStrictOrderedRing α]

theorem cvarOf_mul {t : α} (ht : 0 ≤ t) (v : Fin n → α) : cvarOf c (fun i => v i * t) = cvarOf c v * t := by
  simp only [cvarOf, Finset.sum_mul, abs_mul, abs_of_nonneg ht, mul_assoc]

theorem exists_scaleInto (c : Fin n → α) {b : α} (hb : 0 < b) (v : Fin n → α) :
    ∃ t, 0 ≤ t ∧ t ≤ 1 ∧ scaleInto c b v = fun i => v i * t := by
  by_cases h : b < cvarOf c v
  · refine ⟨b / cvarOf c v, div_nonneg hb.le (hb.trans h).le, (div_le_one (hb.trans h)).2 h.le, ?_⟩
    rw [scaleInto, if_pos h]
  · refine ⟨1, zero_le_one, le_rfl, ?_⟩
    simp [scaleInto_of_le (not_lt.1 h)]

theorem cvarOf_scaleInto_le (c : Fin n → α) {b : α} (hb : 0 < b) (v : Fin n → α) : cvarOf c (scaleInto c b v) ≤ b := by
  by_cases h : b < cvarOf c v
  · rw [scaleInto, if_pos h, cvarOf_mul (div_nonneg hb.le (hb.trans h).le), mul_div_cancel₀ _ (hb.trans h).ne']
  · rw [scaleInto_of_le (not_lt.1 h)]
    exact not_lt.1 h

/-- The two scalings are one, into both budgets. -/
theorem exists_rescaled (hc : ∀ i, 0 < c i) (hb1 : 0 < b1) (hb2 : 0 < b2) (y x : Fin n → α) : ∃ t, 0 ≤ t ∧ t ≤ 1 ∧
    rescaled y c b1 b2 x = (fun i => withSigns x y i * t) ∧ l1Of (rescaled y c b1 b2 x) ≤ b1 ∧
    cvarOf c (rescaled y c b1 b2 x) ≤ b2 := by
  obtain ⟨t, ht, ht1, heq⟩ := exists_scaleInto c hb2 (withSigns x y)
  obtain ⟨s, hs, hs1, heq'⟩ := exists_scaleInto (fun _ => 1) hb1 (scaleInto c b2 (withSigns x y))
  have hcvar := cvarOf_scaleInto_le c hb2 (withSigns x y)
  have hl1 := cvarOf_scaleInto_le (fun _ => 1) hb1 (scaleInto c b2 (withSigns x y))
  rw [rescaled_eq, l1Of_eq]
  refine ⟨t * s, mul_nonneg ht hs, mul_le_one₀ ht1 hs hs1, ?_, hl1, ?_⟩
  · rw [heq', heq]
    funext i
    exact mul_assoc _ _ _
  · have hnonneg : 0 ≤ cvarOf c (scaleInto c b2 (withSigns x y)) :=
      Finset.sum_nonneg fun i _ => mul_nonneg (hc i).le (abs_nonneg _)
    rw [heq', cvarOf_mul hs]
    exact (mul_le_of_le_one_right hnonneg hs1).trans hcvar

/-! ## The signs -/

theorem withSigns_mul_nonneg (x y : Fin n → α) (i : Fin n) : 0 ≤ withSigns x y i * y i := by
  rw [withSigns]
  split_ifs with hzero hneg
  · rw [zero_mul]
  · exact mul_nonneg_of_nonpos_of_nonpos (neg_nonpos.2 (abs_nonneg _)) hneg.le
  · exact mul_nonneg (abs_nonneg _) (not_lt.1 hneg)

theorem abs_withSigns (h : ∀ i, 0 ≤ x i ∧ x i ≤ |y i|) (i : Fin n) : |withSigns x y i| = x i := by
  rw [withSigns]
  split_ifs with hzero hneg
  · have hle := (h i).2
    rw [hzero, abs_zero] at hle
    rw [abs_zero, le_antisymm hle (h i).1]
  · rw [abs_neg, abs_abs, abs_of_nonneg (h i).1]
  · rw [abs_abs, abs_of_nonneg (h i).1]

theorem l1Of_withSigns (h : ∀ i, 0 ≤ x i ∧ x i ≤ |y i|) : l1Of (withSigns x y) = ∑ i, x i := by
  simp only [l1Of, abs_withSigns h]

theorem cvarOf_withSigns (h : ∀ i, 0 ≤ x i ∧ x i ≤ |y i|) : cvarOf c (withSigns x y) = ∑ i, c i * x i := by
  simp only [cvarOf, abs_withSigns h]

theorem rescaled_of_le (h : ∀ i, 0 ≤ x i ∧ x i ≤ |y i|) (h1 : ∑ i, x i ≤ b1) (h2 : ∑ i, c i * x i ≤ b2) :
    rescaled y c b1 b2 x = withSigns x y := by
  have hcvar : scaleInto c b2 (withSigns x y) = withSigns x y := scaleInto_of_le (by rwa [cvarOf_withSigns h])
  rw [rescaled_eq, hcvar, scaleInto_of_le]
  rwa [← l1Of_eq, l1Of_withSigns h]

theorem abs_rescaled_le (hc : ∀ i, 0 < c i) (hb1 : 0 < b1) (hb2 : 0 < b2) (h : ∀ i, 0 ≤ x i ∧ x i ≤ |y i|) (i : Fin n) :
    |rescaled y c b1 b2 x i| ≤ |y i| := by
  obtain ⟨t, ht, ht1, heq, -⟩ := exists_rescaled hc hb1 hb2 y x
  rw [heq, abs_mul, abs_withSigns h, abs_of_nonneg ht]
  exact (mul_le_of_le_one_right (h i).1 ht1).trans (h i).2

/-- Thresholds leave a projection, with the signs put back. -/
theorem isProjection_withSigns {K : Set (Fin n → α)} {w : Fin n → α} (hw : ∀ i, 0 ≤ w i) (hx : ∀ i, x i = max 0 (|y i| - w i))
    (hmem : withSigns x y ∈ K) (hle : ∀ z ∈ K, ∑ i, w i * |z i| ≤ ∑ i, w i * x i) : IsProjection K y (withSigns x y) := by
  have hbounds : ∀ i, 0 ≤ x i ∧ x i ≤ |y i| := fun i => by
    rw [hx]
    exact ⟨le_max_left _ _, max_le (abs_nonneg _) (sub_le_self _ (hw i))⟩
  refine .of_softThreshold ⟨fun i => ?_, withSigns_mul_nonneg x y⟩ hw hmem ?_
  · rw [abs_withSigns hbounds, hx]
  · simpa only [abs_withSigns hbounds] using hle

/-! ## The Newton rounds -/

theorem softBoth_mem (ha : ∀ i, 0 ≤ a i) (hc : ∀ i, 0 < c i) {lam1 lam2 : α} (h1 : 0 ≤ lam1) (h2 : 0 ≤ lam2) (i : Fin n) :
    0 ≤ softBoth c a lam1 lam2 i ∧ softBoth c a lam1 lam2 i ≤ a i :=
  ⟨le_max_left _ _, max_le (ha i) (by linarith [mul_nonneg h2 (hc i).le])⟩

omit [IsStrictOrderedRing α] in
/-- What is above both multiples sums, over an active set that it shares, to what the linear equations say. -/
theorem sum_softBoth {lam1 lam2 : α} (hmask : ∀ i, 0 < softBoth c a lam1 lam2 i ↔ 0 < x i) (w : Fin n → α) :
    ∑ i, w i * softBoth c a lam1 lam2 i =
      activeSum x (fun i => w i * a i) - lam1 * activeSum x w - lam2 * activeSum x fun i => w i * c i := by
  simp only [activeSum, Finset.mul_sum, ← Finset.sum_sub_distrib]
  refine Finset.sum_congr rfl fun i _ => ?_
  by_cases hi : 0 < x i
  · have hpos := (hmask i).2 hi
    have hval : softBoth c a lam1 lam2 i = a i - lam1 - lam2 * c i := by
      rw [softBoth] at hpos ⊢
      rcases max_choice 0 (a i - lam1 - lam2 * c i) with h | h <;> rw [h] at hpos
      · exact absurd hpos (lt_irrefl _)
      · exact h
    rw [if_pos hi, if_pos hi, if_pos hi, hval]
    ring
  · have hval : softBoth c a lam1 lam2 i = 0 := le_antisymm (not_lt.1 fun h => hi ((hmask i).1 h)) (le_max_left _ _)
    rw [if_neg hi, if_neg hi, if_neg hi, hval]
    ring

theorem activeSum_pos {v : Fin n → α} (hv : ∀ i, 0 < v i) (hactive : activeSum x (fun _ => 1) ≠ 0) : 0 < activeSum x v := by
  obtain ⟨i, hi⟩ : ∃ i, 0 < x i := by
    by_contra hnone
    push Not at hnone
    exact hactive (Finset.sum_eq_zero fun i _ => if_neg (not_lt.2 (hnone i)))
  refine Finset.sum_pos' (fun j _ => ?_) ⟨i, Finset.mem_univ i, ?_⟩
  · split_ifs
    · exact (hv j).le
    · exact le_rfl
  · rw [if_pos hi]
    exact hv i

/-- The multipliers solve the linear equations. -/
theorem newton_solve (sa sca b1 b2 : α) {k sc scc : α} (hdet : k * scc - sc * sc ≠ 0) :
    sa - (scc * (sa - b1) - sc * (sca - b2)) / (k * scc - sc * sc) * k -
        (k * (sca - b2) - sc * (sa - b1)) / (k * scc - sc * sc) * sc = b1 ∧
      sca - (scc * (sa - b1) - sc * (sca - b2)) / (k * scc - sc * sc) * sc -
        (k * (sca - b2) - sc * (sa - b1)) / (k * scc - sc * sc) * scc = b2 := by
  have hcramer : ∀ p q r s t : α, p * r + q * s = (k * scc - sc * sc) * t →
      p / (k * scc - sc * sc) * r + q / (k * scc - sc * sc) * s = t := by
    intro p q r s t h
    rw [div_mul_eq_mul_div, div_mul_eq_mul_div, ← add_div, h, mul_div_cancel_left₀ _ hdet]
  have h1 := hcramer (scc * (sa - b1) - sc * (sca - b2)) (k * (sca - b2) - sc * (sa - b1)) k sc (sa - b1) (by ring)
  have h2 := hcramer (scc * (sa - b1) - sc * (sca - b2)) (k * (sca - b2) - sc * (sa - b1)) sc scc (sca - b2) (by ring)
  exact ⟨by linarith, by linarith⟩

/-- What the stage ends with: a point at which both budgets are spent, or a threshold for one of them. -/
def NewtonOutcome.Sound (a c : Fin n → α) (b1 b2 : α) : NewtonOutcome n α → Prop
  | .converged lam1 lam2 x => x = softBoth c a (max 0 lam1) (max 0 lam2) ∧
      (0 ≤ lam1 → 0 ≤ lam2 → ∑ i, x i = b1 ∧ ∑ i, c i * x i = b2)
  | .parallel x => ∃ b, 0 < b ∧ b ≤ b1 ∧ x = softL1 b a
  | .unsolved => True

theorem newtonStage_sound (hc : ∀ i, 0 < c i) (hb1 : 0 < b1) (hb2 : 0 < b2) (rounds : ℕ) (lam1 lam2 : α) :
    (newtonStage a c b1 b2 rounds lam1 lam2).Sound a c b1 b2 := by
  induction rounds generalizing lam1 lam2 with
  | zero => exact trivial
  | succ rounds ih =>
    rw [newtonStage]
    dsimp only
    split_ifs with hempty hdet hptp hmask
    · exact trivial
    · have hk : 0 < activeSum (softBoth c a lam1 lam2) fun _ => 1 := activeSum_pos (fun _ => zero_lt_one) hempty
      exact ⟨_, lt_min hb1 (div_pos hb2 (div_pos (activeSum_pos hc hempty) hk)), min_le_left _ _, rfl⟩
    · exact trivial
    · refine ⟨rfl, fun h1 h2 => ?_⟩
      have hne := ((lit_pos.2 (by norm_num)).trans_le (not_lt.1 hdet)).ne'
      have hsolve := newton_solve (activeSum (softBoth c a lam1 lam2) a)
        (activeSum (softBoth c a lam1 lam2) fun i => c i * a i) b1 b2 hne
      have hsum := sum_softBoth hmask.2
      rw [max_eq_right h1, max_eq_right h2] at hsum ⊢
      have hones := hsum fun _ => 1
      simp only [one_mul] at hones
      exact ⟨hones.trans hsolve.1, (hsum c).trans hsolve.2⟩
    · exact ih _ _

/-! ## The alternating projections -/

/-- A point and a correction within what is left. -/
theorem dykstraHalf_mem (exceeds : (Fin n → α) → Bool) (soft : (Fin n → α) → Fin n → α)
    (hsoft : ∀ v, (∀ i, 0 ≤ v i) → exceeds v = true → ∀ i, 0 ≤ soft v i ∧ soft v i ≤ v i) {corr : Fin n → α}
    (hx : ∀ i, 0 ≤ x i) (hcorr : ∀ i, 0 ≤ corr i) (i : Fin n) :
    0 ≤ (dykstraHalf exceeds soft x corr).1 i ∧ 0 ≤ (dykstraHalf exceeds soft x corr).2 i ∧
      (dykstraHalf exceeds soft x corr).1 i + (dykstraHalf exceeds soft x corr).2 i = x i + corr i := by
  have hpos : ∀ j, max 0 (x j + corr j) = x j + corr j := fun j => max_eq_right (add_nonneg (hx j) (hcorr j))
  simp only [dykstraHalf, hpos]
  split_ifs with hexceeds
  · obtain ⟨h0, hle⟩ := hsoft _ (fun j => add_nonneg (hx j) (hcorr j)) hexceeds i
    exact ⟨h0, sub_nonneg.2 hle, by ring⟩
  · exact ⟨add_nonneg (hx i) (hcorr i), (sub_self _).ge, by ring⟩

theorem dykstra_mem (hc : ∀ i, 0 < c i) (hb1 : 0 < b1) (hb2 : 0 < b2) (hn : 0 < n) (rounds : ℕ) {xD pCorr qCorr : Fin n → α}
    (hx : ∀ i, 0 ≤ xD i) (hp : ∀ i, 0 ≤ pCorr i) (hq : ∀ i, 0 ≤ qCorr i)
    (hsum : ∀ i, xD i + pCorr i + qCorr i = a i) (i : Fin n) :
    0 ≤ dykstra c b1 b2 rounds xD pCorr qCorr i ∧ dykstra c b1 b2 rounds xD pCorr qCorr i ≤ a i := by
  induction rounds generalizing xD pCorr qCorr with
  | zero =>
    rw [dykstra]
    exact ⟨hx i, by linarith [hp i, hq i, hsum i]⟩
  | succ rounds ih =>
    rw [dykstra]
    dsimp only
    have hfirst := dykstraHalf_mem (fun v => b1 < ∑ i, v i) (softL1 b1)
      (fun v hv hexceeds => softL1_mem hb1 hn hv (of_decide_eq_true hexceeds).le) hx hp
    have hsecond := dykstraHalf_mem (fun v => b2 < ∑ i, c i * v i) (softWeighted c b2)
      (fun v hv hexceeds => softWeighted_mem hc hb2 hn hv (of_decide_eq_true hexceeds))
      (fun j => (hfirst j).1) hq
    split_ifs
    · exact ⟨(hsecond i).1, by linarith [(hsecond i).2, (hfirst i).2, hsum i]⟩
    · refine ih (fun j => (hsecond j).1) (fun j => (hfirst j).2.1) (fun j => (hsecond j).2.1) fun j => ?_
      linarith [(hsecond j).2.2, (hfirst j).2.2, hsum j]

end Quant
