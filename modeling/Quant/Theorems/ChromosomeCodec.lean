import Mathlib.Analysis.SpecialFunctions.Log.Basic
import Mathlib.Tactic.Linarith
import Mathlib.Tactic.FieldSimp
import Quant.Analytics.Chromosomes

namespace Quant

open Pylib

/-! ## The chromosome codec

Over the reals with their logarithm and exponential. Each gene comes back from its unit value; what the codec changes are the
logits, which `decode` centres and then clips. The clip is what can move the priors.
-/

noncomputable section

attribute [local instance] two_atLeastTwo three_atLeastTwo four_atLeastTwo

/-! ### The codec gene by gene -/

/-- The value of a gene in a chromosome. -/
def StrategyChromosome.value (c : StrategyChromosome ℝ) (n : GeneName) : ℝ := (c.getattr (geneOf n).block n).getD 0

/-- The chromosome `decode` makes of decoded values. -/
def assemble (v : GeneName → ℝ) : StrategyChromosome ℝ :=
  let meanLogit := (v .logitBull + v .logitBear + v .logitPanic) / 3
  { representation := ⟨v .tauSlow, v .tauRatio, v .alphaDecay, v .fractionalD⟩
    gameTheory := ⟨v .ambiguityTemp, v .riskAversion, v .predatoryIntensity, clip (v .logitBull - meanLogit) (-2) 2,
      clip (v .logitBear - meanLogit) (-2) 2, clip (v .logitPanic - meanLogit) (-2) 2⟩
    inference := ⟨nearestInt (v .executionHorizon), v .hyperbolicDecay, v .profitTakeMult, v .stopLossMult,
      nearestInt (v .holdingPeriod), v .metaLabelThresh⟩
    risk := ⟨v .volTarget, v .maxWeight, v .maxDrawdownLimit, v .turnoverBudget⟩ }

theorem decode_eq (u : GeneName → ℝ) :
    decode Real.log Real.exp geneRegistry (geneRegistry.map fun g => u g.name) =
      .ok (assemble fun n => (geneOf n).toPhys Real.log Real.exp (clip (u n) 0 1)) := rfl

theorem encode_eq (c : StrategyChromosome ℝ) :
    encode Real.log geneRegistry c =
      .ok (geneRegistry.map fun g => clip ((geneOf g.name).toUnit Real.log (c.value g.name)) 0 1) := rfl

/-- `decode(encode(c))`. -/
def recoded (c : StrategyChromosome ℝ) : Except CodecError (StrategyChromosome ℝ) :=
  (encode Real.log geneRegistry c).bind (decode Real.log Real.exp geneRegistry)

/-! ### One gene -/

/-- A value the gene admits: within its bounds, and for a discrete gene on the grid of its steps. -/
structure GeneSpec.Admits (g : GeneSpec) (v : ℝ) : Prop where
  lower_le : g.lowerBound ≤ v
  le_upper : v ≤ g.upperBound
  on_grid : g.scaleType = .discreteInt → ∃ k : ℤ, v = g.lowerBound + k * g.stepSize

/-- What the proofs use of a gene of the registry. -/
structure GeneSpec.Sound (g : GeneSpec) : Prop where
  lower_lt_upper : g.lowerBound < g.upperBound
  step_pos : 0 < g.stepSize
  log_lower : g.scaleType = .logarithmic → 1 / 10 ^ 12 ≤ g.lowerBound
  grid : g.scaleType = .discreteInt → (g.nSteps - 1) * g.stepSize = g.upperBound - g.lowerBound

theorem sound_of_mem {g : GeneSpec} (h : g ∈ geneRegistry) : g.Sound := by
  have hall : ∀ g ∈ geneRegistry, g.lowerBound < g.upperBound ∧ 0 < g.stepSize ∧
      (g.scaleType = .logarithmic → 1 / 10 ^ 12 ≤ g.lowerBound) ∧
      (g.scaleType = .discreteInt → (g.nSteps - 1) * g.stepSize = g.upperBound - g.lowerBound) := by decide +kernel
  obtain ⟨h1, h2, h3, h4⟩ := hall g h
  exact ⟨h1, h2, h3, h4⟩

theorem geneOf_mem (n : GeneName) : geneOf n ∈ geneRegistry := by
  cases n <;> decide +kernel

theorem tiny_le {x : ℚ} (h : 1 / 10 ^ 12 ≤ x) : (1 / 10 ^ 12 : ℝ) ≤ x := by
  have hcast := (Rat.cast_le (K := ℝ)).2 h
  push_cast at hcast
  exact hcast

/-- A value comes back from its unit value on a linear scale. -/
theorem linear_roundTrip {lo hi v : ℝ} (hlt : lo < hi) (h : lo ≤ v ∧ v ≤ hi) :
    (0 ≤ (v - lo) / (hi - lo) ∧ (v - lo) / (hi - lo) ≤ 1) ∧ lo + (v - lo) / (hi - lo) * (hi - lo) = v := by
  have hpos : 0 < hi - lo := sub_pos.2 hlt
  refine ⟨⟨div_nonneg (by linarith) hpos.le, (div_le_one hpos).2 (by linarith)⟩, ?_⟩
  rw [div_mul_cancel₀ _ hpos.ne']
  ring

/-- A value the gene admits has a unit value, and comes back from it. -/
theorem GeneSpec.Sound.roundTrip {g : GeneSpec} (hg : g.Sound) {v : ℝ} (hv : g.Admits v) :
    (0 ≤ g.toUnit Real.log v ∧ g.toUnit Real.log v ≤ 1) ∧ g.toPhys Real.log Real.exp (g.toUnit Real.log v) = v := by
  have hlt : (g.lowerBound : ℝ) < g.upperBound := by exact_mod_cast hg.lower_lt_upper
  unfold GeneSpec.toUnit GeneSpec.toPhys
  cases hscale : g.scaleType with
  | linear => exact linear_roundTrip hlt ⟨hv.lower_le, hv.le_upper⟩
  | softmaxLogit => exact linear_roundTrip hlt ⟨hv.lower_le, hv.le_upper⟩
  | logarithmic =>
    have htiny := tiny_le (hg.log_lower hscale)
    have hlow : (0 : ℝ) < g.lowerBound := lt_of_lt_of_le (by positivity) htiny
    have hvpos : 0 < v := lt_of_lt_of_le hlow hv.lower_le
    have htrip := linear_roundTrip (Real.log_lt_log hlow hlt)
      ⟨Real.log_le_log hlow hv.lower_le, Real.log_le_log hvpos hv.le_upper⟩
    simp only [max_eq_left (htiny.trans hv.lower_le)]
    exact ⟨htrip.1, by rw [htrip.2, Real.exp_log hvpos]⟩
  | discreteInt =>
    obtain ⟨k, hk⟩ := hv.on_grid hscale
    have hstep : (0 : ℝ) < g.stepSize := by exact_mod_cast hg.step_pos
    have hgrid : ((g.nSteps : ℝ) - 1) * g.stepSize = g.upperBound - g.lowerBound := by exact_mod_cast hg.grid hscale
    have hindex : nearestInt ((v - g.lowerBound) / g.stepSize) = k := by
      rw [hk, add_sub_cancel_left, mul_div_cancel_right₀ _ hstep.ne', nearestInt_intCast]
    have hk0 : (0 : ℝ) ≤ k := by
      have := hv.lower_le
      rw [hk] at this
      exact nonneg_of_mul_nonneg_left (by linarith) hstep
    have hk1 : (k : ℝ) ≤ g.nSteps - 1 := by
      have := hv.le_upper
      rw [hk] at this
      exact le_of_mul_le_mul_right (by linarith) hstep
    have hn : (0 : ℝ) < g.nSteps := by linarith
    have hk0' : 0 ≤ k := by exact_mod_cast hk0
    have hk1' : k ≤ g.nSteps - 1 := by exact_mod_cast hk1
    simp only [hindex]
    refine ⟨⟨div_nonneg (by linarith) hn.le, (div_le_one hn).2 (by linarith)⟩, ?_⟩
    have hfloor : ⌊((k : ℝ) + 1 / 2) / g.nSteps * g.nSteps⌋ = k := by
      rw [div_mul_cancel₀ _ hn.ne', Int.floor_eq_iff]
      constructor <;> linarith
    rw [hfloor, max_eq_right hk0', min_eq_right hk1', hk]

/-- What a unit value decodes to the gene admits. -/
theorem GeneSpec.Sound.admits_toPhys {g : GeneSpec} (hg : g.Sound) {u : ℝ} (hu : 0 ≤ u ∧ u ≤ 1) :
    g.Admits (g.toPhys Real.log Real.exp u) := by
  have hlt : (g.lowerBound : ℝ) < g.upperBound := by exact_mod_cast hg.lower_lt_upper
  have hbetween : ∀ lo hi : ℝ, lo < hi → lo ≤ lo + u * (hi - lo) ∧ lo + u * (hi - lo) ≤ hi := by
    intro lo hi h
    have hpos : 0 ≤ hi - lo := by linarith
    have h0 := mul_nonneg hu.1 hpos
    have h1 := mul_le_mul_of_nonneg_right hu.2 hpos
    constructor <;> linarith
  unfold GeneSpec.toPhys
  cases hscale : g.scaleType with
  | linear => exact ⟨(hbetween _ _ hlt).1, (hbetween _ _ hlt).2, by rw [hscale]; nofun⟩
  | softmaxLogit => exact ⟨(hbetween _ _ hlt).1, (hbetween _ _ hlt).2, by rw [hscale]; nofun⟩
  | logarithmic =>
    have htiny := tiny_le (hg.log_lower hscale)
    have hlow : (0 : ℝ) < g.lowerBound := lt_of_lt_of_le (by positivity) htiny
    have hb := hbetween _ _ (Real.log_lt_log hlow hlt)
    refine ⟨?_, ?_, by rw [hscale]; nofun⟩
    · calc (g.lowerBound : ℝ) = Real.exp (Real.log g.lowerBound) := (Real.exp_log hlow).symm
        _ ≤ _ := Real.exp_le_exp.2 hb.1
    · calc Real.exp _ ≤ Real.exp (Real.log g.upperBound) := Real.exp_le_exp.2 hb.2
        _ = g.upperBound := Real.exp_log (hlow.trans hlt)
  | discreteInt =>
    have hstep : (0 : ℝ) < g.stepSize := by exact_mod_cast hg.step_pos
    have hgrid : ((g.nSteps : ℝ) - 1) * g.stepSize = g.upperBound - g.lowerBound := by exact_mod_cast hg.grid hscale
    have hn : (0 : ℝ) ≤ g.nSteps - 1 := nonneg_of_mul_nonneg_left (by linarith) hstep
    have hn' : 0 ≤ g.nSteps - 1 := by exact_mod_cast hn
    generalize hk : min (g.nSteps - 1) (max 0 ⌊u * g.nSteps⌋) = k
    have hk0 : (0 : ℝ) ≤ k := by exact_mod_cast hk ▸ le_min hn' (le_max_left 0 _)
    have hk1 : (k : ℝ) ≤ g.nSteps - 1 := by exact_mod_cast hk ▸ min_le_left _ _
    have h0 := mul_nonneg hk0 hstep.le
    have h1 := mul_le_mul_of_nonneg_right hk1 hstep.le
    exact ⟨by linarith, by linarith, fun _ => ⟨k, rfl⟩⟩

/-! ### The logits -/

/-- No logit is more than two from the mean of the three. -/
def CentredLogits (a b c : ℝ) : Prop := |a - (a + b + c) / 3| ≤ 2 ∧ |b - (a + b + c) / 3| ≤ 2 ∧ |c - (a + b + c) / 3| ≤ 2

theorem clip_eq_self {x : ℝ} (h : |x| ≤ 2) : clip x (-2) 2 = x := clip_of_mem (abs_le.1 h)

theorem clip_eq_self_iff {x : ℝ} : clip x (-2) 2 = x ↔ |x| ≤ 2 := by
  constructor
  · intro h
    rw [← h]
    exact abs_le.2 (clip_mem (by norm_num))
  · exact clip_eq_self

/-- The clip moves up only what is below the interval. -/
theorem clip_eq_neg_two {x : ℝ} (h : x < clip x (-2) 2) : x < -2 ∧ clip x (-2) 2 = -2 := by
  have hlow : x < -2 := by
    by_contra hge
    have hle : clip x (-2) 2 ≤ x := by
      rw [clip, max_eq_right (not_lt.1 hge)]
      exact min_le_right 2 x
    exact absurd h (not_lt.2 hle)
  refine ⟨hlow, ?_⟩
  rw [clip, max_eq_left hlow.le]
  exact min_eq_right (by norm_num)

/-- The clip moves down only what is above the interval. -/
theorem clip_eq_two {x : ℝ} (h : clip x (-2) 2 < x) : 2 < x ∧ clip x (-2) 2 = 2 := by
  have hhigh : 2 < x := by
    by_contra hle
    have hge : x ≤ clip x (-2) 2 := le_min (not_lt.1 hle) (le_max_right (-2) x)
    exact absurd h (not_lt.2 hge)
  refine ⟨hhigh, ?_⟩
  exact min_eq_left (hhigh.le.trans (le_max_right (-2) x))

/-- The priors of logits, without the shift. -/
theorem regimePriors_eq (c : GameTheoryChromosome ℝ) :
    c.regimePriors Real.exp =
      [c.logitBull, c.logitBear, c.logitPanic].map fun x =>
        Real.exp x / (Real.exp c.logitBull + Real.exp c.logitBear + Real.exp c.logitPanic) := by
  have hshift : ∀ x m : ℝ, Real.exp (x - m) = Real.exp x * Real.exp (-m) := by
    intro x m
    rw [sub_eq_add_neg, Real.exp_add]
  simp only [GameTheoryChromosome.regimePriors, List.map_cons, List.map_nil, List.sum_cons, List.sum_nil, hshift, add_zero]
  have hm : Real.exp (-max (max c.logitBull c.logitBear) c.logitPanic) ≠ 0 := (Real.exp_pos _).ne'
  simp only [← add_mul, ← add_assoc, mul_div_mul_right _ _ hm]

/-- Logits have the same priors exactly when they differ from one another by the same amounts. -/
theorem regimePriors_eq_iff (c d : GameTheoryChromosome ℝ) :
    c.regimePriors Real.exp = d.regimePriors Real.exp ↔
      c.logitBull - c.logitBear = d.logitBull - d.logitBear ∧ c.logitBear - c.logitPanic = d.logitBear - d.logitPanic := by
  have hpos : ∀ e : GameTheoryChromosome ℝ, 0 < Real.exp e.logitBull + Real.exp e.logitBear + Real.exp e.logitPanic := by
    intro e
    positivity
  rw [regimePriors_eq, regimePriors_eq]
  generalize hS : Real.exp c.logitBull + Real.exp c.logitBear + Real.exp c.logitPanic = S
  generalize hT : Real.exp d.logitBull + Real.exp d.logitBear + Real.exp d.logitPanic = T
  have hSpos : 0 < S := hS ▸ hpos c
  have hTpos : 0 < T := hT ▸ hpos d
  simp only [List.map_cons, List.map_nil, List.cons.injEq, and_true]
  constructor
  · rintro ⟨h1, h2, h3⟩
    have hlog : ∀ x y : ℝ, Real.exp x / S = Real.exp y / T → x - Real.log S = y - Real.log T := by
      intro x y h
      have := congrArg Real.log h
      rwa [Real.log_div (Real.exp_pos x).ne' hSpos.ne', Real.log_div (Real.exp_pos y).ne' hTpos.ne', Real.log_exp,
        Real.log_exp] at this
    have e1 := hlog _ _ h1
    have e2 := hlog _ _ h2
    have e3 := hlog _ _ h3
    constructor <;> linarith
  · rintro ⟨h1, h2⟩
    -- the logits of one are those of the other and a constant
    have hexp : ∀ x y : ℝ, x - y = c.logitPanic - d.logitPanic →
        Real.exp x = Real.exp y * Real.exp (c.logitPanic - d.logitPanic) := by
      intro x y h
      rw [← Real.exp_add, ← h]
      congr 1
      ring
    have e1 := hexp c.logitBull d.logitBull (by linarith)
    have e2 := hexp c.logitBear d.logitBear (by linarith)
    have e3 := hexp c.logitPanic d.logitPanic rfl
    have hST : S = T * Real.exp (c.logitPanic - d.logitPanic) := by
      rw [← hS, ← hT, e1, e2, e3]
      ring
    have hne : Real.exp (c.logitPanic - d.logitPanic) ≠ 0 := (Real.exp_pos _).ne'
    rw [e1, e2, e3, hST]
    exact ⟨mul_div_mul_right _ _ hne, mul_div_mul_right _ _ hne, mul_div_mul_right _ _ hne⟩

/-- Clipping numbers that sum to zero keeps their differences exactly when it changes none of them. -/
theorem clip_differences_iff {x y z : ℝ} (h : x + y + z = 0) :
    (clip x (-2) 2 - clip y (-2) 2 = x - y ∧ clip y (-2) 2 - clip z (-2) 2 = y - z) ↔ |x| ≤ 2 ∧ |y| ≤ 2 ∧ |z| ≤ 2 := by
  constructor
  · rintro ⟨h1, h2⟩
    simp only [← clip_eq_self_iff]
    -- all three are moved by one amount, which is zero, as they are not all below or all above
    have hmoved : clip x (-2) 2 = x := by
      rcases lt_trichotomy x (clip x (-2) 2) with hlt | heq | hgt
      · have hx := (clip_eq_neg_two hlt).1
        have hy := (clip_eq_neg_two (show y < clip y (-2) 2 by linarith)).1
        have hz := (clip_eq_neg_two (show z < clip z (-2) 2 by linarith)).1
        linarith
      · exact heq.symm
      · have hx := (clip_eq_two hgt).1
        have hy := (clip_eq_two (show clip y (-2) 2 < y by linarith)).1
        have hz := (clip_eq_two (show clip z (-2) 2 < z by linarith)).1
        linarith
    exact ⟨hmoved, by linarith, by linarith⟩
  · rintro ⟨hx, hy, hz⟩
    rw [clip_eq_self hx, clip_eq_self hy, clip_eq_self hz]
    exact ⟨rfl, rfl⟩

/-- Of numbers that sum to zero before and after the clip, and are at most four apart, the clip changes none. -/
theorem clip_unmoved {x y z : ℝ} (h : x + y + z = 0) (h' : clip x (-2) 2 + clip y (-2) 2 + clip z (-2) 2 = 0)
    (hxy : |x - y| ≤ 4) (hxz : |x - z| ≤ 4) : clip x (-2) 2 = x := by
  obtain ⟨hxy1, hxy2⟩ := abs_le.1 hxy
  obtain ⟨hxz1, hxz2⟩ := abs_le.1 hxz
  rcases lt_trichotomy x (clip x (-2) 2) with hlt | heq | hgt
  · have hx := (clip_eq_neg_two hlt).1
    -- no other is above the interval, so the sum went up
    have hup : ∀ w, w - x ≤ 4 → w ≤ clip w (-2) 2 := by
      intro w hw
      by_contra hlow
      have := (clip_eq_two (not_le.1 hlow)).1
      linarith
    have hy := hup y (by linarith)
    have hz := hup z (by linarith)
    linarith
  · exact heq.symm
  · have hx := (clip_eq_two hgt).1
    have hdown : ∀ w, x - w ≤ 4 → clip w (-2) 2 ≤ w := by
      intro w hw
      by_contra hhigh
      have := (clip_eq_neg_two (not_le.1 hhigh)).1
      linarith
    have hy := hdown y hxy2
    have hz := hdown z hxz2
    linarith

/-- Numbers that come back when their mean is taken off and the rest clipped sum to zero. -/
theorem sum_eq_zero_of_recentred {x y z : ℝ} (h1 : clip (x - (x + y + z) / 3) (-2) 2 = x)
    (h2 : clip (y - (x + y + z) / 3) (-2) 2 = y) (h3 : clip (z - (x + y + z) / 3) (-2) 2 = z) : x + y + z = 0 := by
  rcases lt_trichotomy 0 (x + y + z) with hpos | heq | hneg
  · have hend : ∀ w, clip (w - (x + y + z) / 3) (-2) 2 = w → w = -2 := by
      intro w hw
      rw [← (clip_eq_neg_two (show w - (x + y + z) / 3 < clip (w - (x + y + z) / 3) (-2) 2 by rw [hw]; linarith)).2, hw]
    linarith [hend x h1, hend y h2, hend z h3]
  · exact heq.symm
  · have hend : ∀ w, clip (w - (x + y + z) / 3) (-2) 2 = w → w = 2 := by
      intro w hw
      rw [← (clip_eq_two (show clip (w - (x + y + z) / 3) (-2) 2 < w - (x + y + z) / 3 by rw [hw]; linarith)).2, hw]
    linarith [hend x h1, hend y h2, hend z h3]

/-- Centring and clipping once more changes nothing exactly when the first clip changed nothing, for logits within the bounds. -/
theorem recentre_iff {a b c : ℝ} (ha : |a| ≤ 2) (hb : |b| ≤ 2) (hc : |c| ≤ 2) {x y z : ℝ}
    (hx : x = clip (a - (a + b + c) / 3) (-2) 2) (hy : y = clip (b - (a + b + c) / 3) (-2) 2)
    (hz : z = clip (c - (a + b + c) / 3) (-2) 2) :
    (clip (x - (x + y + z) / 3) (-2) 2 = x ∧ clip (y - (x + y + z) / 3) (-2) 2 = y ∧ clip (z - (x + y + z) / 3) (-2) 2 = z) ↔
      CentredLogits a b c := by
  have hapart : ∀ p q : ℝ, |p| ≤ 2 → |q| ≤ 2 → |(p - (a + b + c) / 3) - (q - (a + b + c) / 3)| ≤ 4 := by
    intro p q hp hq
    rw [sub_sub_sub_cancel_right]
    calc |p - q| ≤ |p| + |q| := abs_sub p q
      _ ≤ 4 := by linarith
  unfold CentredLogits
  simp only [← clip_eq_self_iff]
  constructor
  · rintro ⟨h1, h2, h3⟩
    have hsum := sum_eq_zero_of_recentred h1 h2 h3
    rw [hx, hy, hz] at hsum
    refine ⟨clip_unmoved (by ring) hsum (hapart a b ha hb) (hapart a c ha hc),
      clip_unmoved (by ring) (by linarith) (hapart b a hb ha) (hapart b c hb hc),
      clip_unmoved (by ring) (by linarith) (hapart c a hc ha) (hapart c b hc hb)⟩
  · rintro ⟨h1, h2, h3⟩
    have hmean : x + y + z = 0 := by
      rw [hx, hy, hz, h1, h2, h3]
      ring
    rw [hmean, zero_div, sub_zero, sub_zero, sub_zero]
    have hbound : ∀ w : ℝ, clip (clip w (-2) 2) (-2) 2 = clip w (-2) 2 := fun w => clip_of_mem (clip_mem (by norm_num))
    rw [hx, hy, hz]
    exact ⟨hbound _, hbound _, hbound _⟩

/-! ### The codec -/

/-- The genes lie within the bounds of the registry, the discrete ones on their grid. -/
def StrategyChromosome.InRegistry (c : StrategyChromosome ℝ) : Prop := ∀ n, (geneOf n).Admits (c.value n)

/-- Two chromosomes with the same genes but for the logits. -/
structure StrategyChromosome.AgreesOffLogits (c d : StrategyChromosome ℝ) : Prop where
  representation : c.representation = d.representation
  ambiguityTemp : c.gameTheory.ambiguityTemp = d.gameTheory.ambiguityTemp
  riskAversion : c.gameTheory.riskAversion = d.gameTheory.riskAversion
  predatoryIntensity : c.gameTheory.predatoryIntensity = d.gameTheory.predatoryIntensity
  inference : c.inference = d.inference
  risk : c.risk = d.risk

/-- The priors of a chromosome's scenarios. -/
def StrategyChromosome.priors (c : StrategyChromosome ℝ) : List ℝ := c.gameTheory.regimePriors Real.exp

theorem bind_ok {ε α β : Type*} (a : α) (f : α → Except ε β) : (Except.ok a).bind f = f a := rfl

theorem recoded_eq {c : StrategyChromosome ℝ} (h : c.InRegistry) : recoded c = .ok (assemble c.value) := by
  have hgene : ∀ n, (geneOf n).toPhys Real.log Real.exp (clip (clip ((geneOf n).toUnit Real.log (c.value n)) 0 1) 0 1) =
      c.value n := by
    intro n
    obtain ⟨hmem, hback⟩ := (sound_of_mem (geneOf_mem n)).roundTrip (h n)
    rw [clip_of_mem hmem, clip_of_mem hmem, hback]
  have hdec := decode_eq fun n => clip ((geneOf n).toUnit Real.log (c.value n)) 0 1
  simp only [hgene] at hdec
  calc recoded c = (Except.ok _).bind (decode Real.log Real.exp geneRegistry) := congrArg (Except.bind · _) (encode_eq c)
    _ = decode Real.log Real.exp geneRegistry _ := bind_ok _ _
    _ = .ok (assemble c.value) := hdec

theorem assemble_agreesOffLogits (c : StrategyChromosome ℝ) : (assemble c.value).AgreesOffLogits c where
  representation := rfl
  ambiguityTemp := rfl
  riskAversion := rfl
  predatoryIntensity := rfl
  inference := by
    have hint : ∀ k : ℤ, nearestInt (k : ℝ) = k := nearestInt_intCast
    exact InferenceChromosome.ext (hint _) rfl rfl rfl (hint _) rfl
  risk := rfl

/-- The priors survive the codec exactly when no logit is more than two from the mean. -/
theorem assemble_priors_iff (c : StrategyChromosome ℝ) :
    (assemble c.value).priors = c.priors ↔
    CentredLogits c.gameTheory.logitBull c.gameTheory.logitBear c.gameTheory.logitPanic := by
  generalize hm : (c.gameTheory.logitBull + c.gameTheory.logitBear + c.gameTheory.logitPanic) / 3 = m
  have hlogits : (assemble c.value).gameTheory.logitBull = clip (c.gameTheory.logitBull - m) (-2) 2 ∧
      (assemble c.value).gameTheory.logitBear = clip (c.gameTheory.logitBear - m) (-2) 2 ∧
      (assemble c.value).gameTheory.logitPanic = clip (c.gameTheory.logitPanic - m) (-2) 2 := by
    subst hm
    exact ⟨rfl, rfl, rfl⟩
  have hzero : (c.gameTheory.logitBull - m) + (c.gameTheory.logitBear - m) + (c.gameTheory.logitPanic - m) = 0 := by
    rw [← hm]
    ring
  have hdiff := clip_differences_iff hzero
  rw [sub_sub_sub_cancel_right, sub_sub_sub_cancel_right] at hdiff
  unfold StrategyChromosome.priors CentredLogits
  rw [regimePriors_eq_iff, hlogits.1, hlogits.2.1, hlogits.2.2, hm]
  exact hdiff

/-- The raw logit that `decode` reads at a place of the unit vector. -/
def rawLogit (u : List ℝ) (i : ℕ) : ℝ := -2 + u.getD i 0 * 4

/-- A vector of the unit cube. -/
def InCube (u : List ℝ) : Prop := u.length = 20 ∧ ∀ x ∈ u, 0 ≤ x ∧ x ≤ 1

/-- The entry of a gene. -/
def entry (u : List ℝ) (n : GeneName) : ℝ := u.getD ((geneRegistry.map (·.name)).idxOf n) 0

theorem eq_map_entry {u : List ℝ} (h : u.length = 20) : u = geneRegistry.map fun g => entry u g.name := by
  have hlen : (geneRegistry.map fun g => entry u g.name).length = 20 := by
    rw [List.length_map]
    rfl
  refine List.ext_getElem (by rw [h, hlen]) fun i h1 h2 => ?_
  rw [List.getElem_map]
  have hidx : ∀ i, (hi : i < 20) → (geneRegistry.map (·.name)).idxOf (geneRegistry.get ⟨i, hi⟩).name = i := by decide
  have hi : i < 20 := h ▸ h1
  unfold entry
  rw [show geneRegistry[i] = geneRegistry.get ⟨i, hi⟩ from rfl, hidx i hi, List.getD_eq_getElem?_getD,
    List.getElem?_eq_getElem h1, Option.getD_some]

theorem entry_mem {u : List ℝ} (h : InCube u) (n : GeneName) : 0 ≤ entry u n ∧ entry u n ≤ 1 := by
  unfold entry
  have hi : (geneRegistry.map (·.name)).idxOf n < u.length := by
    rw [h.1]
    cases n <;> decide
  rw [List.getD_eq_getElem?_getD, List.getElem?_eq_getElem hi, Option.getD_some]
  exact h.2 _ (List.getElem_mem hi)

/-- The values `decode` reads off a vector of the cube. -/
def valuesOf (u : List ℝ) (n : GeneName) : ℝ := (geneOf n).toPhys Real.log Real.exp (entry u n)

theorem decode_inCube {u : List ℝ} (h : InCube u) : decode Real.log Real.exp geneRegistry u = .ok (assemble (valuesOf u)) := by
  have hdec := decode_eq (entry u)
  rw [← eq_map_entry h.1] at hdec
  simp only [clip_of_mem (entry_mem h _)] at hdec
  exact hdec

theorem valuesOf_admits {u : List ℝ} (h : InCube u) (n : GeneName) : (geneOf n).Admits (valuesOf u n) :=
  (sound_of_mem (geneOf_mem n)).admits_toPhys (entry_mem h n)

/-- A discrete gene decodes to an integer. -/
theorem nearestInt_valuesOf {u : List ℝ} (h : InCube u) {n : GeneName} (hn : n = .executionHorizon ∨ n = .holdingPeriod) :
    ((nearestInt (valuesOf u n) : ℤ) : ℝ) = valuesOf u n := by
  have hgrid : ∃ k : ℤ, valuesOf u n = k := by
    have hadm := valuesOf_admits h n
    rcases hn with rfl | rfl
    · obtain ⟨k, hk⟩ := hadm.on_grid rfl
      refine ⟨1 + k, ?_⟩
      rw [hk]
      simp [geneOf, geneRegistry]
    · obtain ⟨k, hk⟩ := hadm.on_grid rfl
      refine ⟨5 + k * 5, ?_⟩
      rw [hk]
      simp [geneOf, geneRegistry]
  obtain ⟨k, hk⟩ := hgrid
  rw [hk, nearestInt_intCast]

/-- What decodes from the cube has its genes in the registry's bounds. -/
theorem assemble_valuesOf {u : List ℝ} (h : InCube u) :
    (assemble (valuesOf u)).InRegistry ∧
      ∀ n, (geneOf n).scaleType ≠ .softmaxLogit → (assemble (valuesOf u)).value n = valuesOf u n := by
  have hoff : ∀ n, (geneOf n).scaleType ≠ .softmaxLogit → (assemble (valuesOf u)).value n = valuesOf u n := by
    intro n hn
    cases n with
    | logitBull => exact absurd rfl hn
    | logitBear => exact absurd rfl hn
    | logitPanic => exact absurd rfl hn
    | executionHorizon => exact nearestInt_valuesOf h (.inl rfl)
    | holdingPeriod => exact nearestInt_valuesOf h (.inr rfl)
    | _ => rfl
  have hclip : ∀ n x, (assemble (valuesOf u)).value n = clip x (-2) 2 → (geneOf n).lowerBound = -2 ∧ (geneOf n).upperBound = 2 ∧
      (geneOf n).scaleType = .softmaxLogit → (geneOf n).Admits ((assemble (valuesOf u)).value n) := by
    intro n x hx hb
    have hmem := clip_mem (x := x) (show (-2 : ℝ) ≤ 2 by norm_num)
    rw [hx]
    exact ⟨by rw [hb.1]; push_cast; exact hmem.1, by rw [hb.2.1]; push_cast; exact hmem.2, by rw [hb.2.2]; nofun⟩
  refine ⟨fun n => ?_, hoff⟩
  by_cases hn : (geneOf n).scaleType = .softmaxLogit
  · cases n with
    | logitBull => exact hclip _ _ rfl ⟨rfl, rfl, rfl⟩
    | logitBear => exact hclip _ _ rfl ⟨rfl, rfl, rfl⟩
    | logitPanic => exact hclip _ _ rfl ⟨rfl, rfl, rfl⟩
    | _ => cases hn
  · rw [hoff n hn]
    exact valuesOf_admits h n

theorem valuesOf_logit {u : List ℝ} :
    valuesOf u .logitBull = rawLogit u 7 ∧ valuesOf u .logitBear = rawLogit u 8 ∧ valuesOf u .logitPanic = rawLogit u 9 := by
  have hlogit : ∀ x : ℝ, ((-2 : ℚ) : ℝ) + x * (((2 : ℚ) : ℝ) - ((-2 : ℚ) : ℝ)) = -2 + x * 4 := by
    intro x
    push_cast
    ring
  exact ⟨hlogit _, hlogit _, hlogit _⟩

theorem abs_rawLogit_le {u : List ℝ} (h : InCube u) {i : ℕ} (hi : i < 20) : |rawLogit u i| ≤ 2 := by
  have hmem : 0 ≤ u.getD i 0 ∧ u.getD i 0 ≤ 1 := by
    rw [List.getD_eq_getElem?_getD, List.getElem?_eq_getElem (h.1 ▸ hi), Option.getD_some]
    exact h.2 _ (List.getElem_mem _)
  unfold rawLogit
  rw [abs_le]
  constructor <;> linarith [hmem.1, hmem.2]

/-- What decodes from the cube comes back from its own vector exactly when the clip changed none of its logits. -/
theorem assemble_valuesOf_iff {u : List ℝ} (h : InCube u) :
    assemble (assemble (valuesOf u)).value = assemble (valuesOf u) ↔
    CentredLogits (rawLogit u 7) (rawLogit u 8) (rawLogit u 9) := by
  obtain ⟨ha, hb, hc⟩ := valuesOf_logit (u := u)
  have hiff := recentre_iff (abs_rawLogit_le h (i := 7) (by omega)) (abs_rawLogit_le h (i := 8) (by omega))
    (abs_rawLogit_le h (i := 9) (by omega)) rfl rfl rfl
  rw [← hiff, ← ha, ← hb, ← hc]
  constructor
  · intro heq
    have hgame := congrArg StrategyChromosome.gameTheory heq
    exact ⟨congrArg GameTheoryChromosome.logitBull hgame, congrArg GameTheoryChromosome.logitBear hgame,
      congrArg GameTheoryChromosome.logitPanic hgame⟩
  · rintro ⟨h1, h2, h3⟩
    have hkeep := assemble_agreesOffLogits (assemble (valuesOf u))
    exact StrategyChromosome.ext hkeep.representation
      (GameTheoryChromosome.ext hkeep.ambiguityTemp hkeep.riskAversion hkeep.predatoryIntensity h1 h2 h3)
      hkeep.inference hkeep.risk

/-- The codec gives back every gene but the logits. It gives back the priors exactly where no logit is more than two from the mean
of the three, and it is stable on what decodes from the cube exactly where the raw logits are. -/
theorem recoded_iff_centred {c : StrategyChromosome ℝ} (hc : c.InRegistry) {u : List ℝ} (hu : InCube u) :
    (∃ c', recoded c = .ok c' ∧ c'.AgreesOffLogits c ∧
      (c'.priors = c.priors ↔ CentredLogits c.gameTheory.logitBull c.gameTheory.logitBear c.gameTheory.logitPanic)) ∧
    ∃ d, decode Real.log Real.exp geneRegistry u = .ok d ∧
      (recoded d = .ok d ↔ CentredLogits (rawLogit u 7) (rawLogit u 8) (rawLogit u 9)) := by
  refine ⟨⟨_, recoded_eq hc, assemble_agreesOffLogits c, assemble_priors_iff c⟩, _, decode_inCube hu, ?_⟩
  rw [recoded_eq (assemble_valuesOf hu).1, Except.ok.injEq]
  exact assemble_valuesOf_iff hu

/-- The centre of the cube. -/
def centre : List ℝ := List.replicate 20 (1 / 2)

theorem centre_inCube : InCube centre := by
  refine ⟨rfl, ?_⟩
  intro x hx
  rw [List.eq_of_mem_replicate hx]
  norm_num

theorem recoded_centre :
    (∃ c', recoded (assemble (valuesOf centre)) = .ok c' ∧ c'.AgreesOffLogits (assemble (valuesOf centre)) ∧
      (c'.priors = (assemble (valuesOf centre)).priors ↔ CentredLogits (assemble (valuesOf centre)).gameTheory.logitBull
        (assemble (valuesOf centre)).gameTheory.logitBear (assemble (valuesOf centre)).gameTheory.logitPanic)) ∧
    ∃ c, decode Real.log Real.exp geneRegistry centre = .ok c ∧
      (recoded c = .ok c ↔ CentredLogits (rawLogit centre 7) (rawLogit centre 8) (rawLogit centre 9)) :=
  recoded_iff_centred (assemble_valuesOf centre_inCube).1 centre_inCube

/-- The corner of the cube that is all bull. -/
def bullCorner : List ℝ := [0, 0, 0, 0, 0, 0, 0, 1, 0, 0, 0, 0, 0, 0, 0, 0, 0, 0, 0, 0]

theorem bullCorner_inCube : InCube bullCorner := by
  refine ⟨rfl, ?_⟩
  intro x hx
  simp only [bullCorner, List.mem_cons, List.not_mem_nil, or_false] at hx
  rcases hx with rfl | rfl | rfl | rfl | rfl | rfl | rfl | rfl | rfl | rfl | rfl | rfl | rfl | rfl | rfl | rfl | rfl
      | rfl | rfl | rfl <;>
    norm_num

/-- At the corner neither part holds: the decoded chromosome has other priors after the codec, and other logits. -/
theorem recoded_bullCorner :
    (¬ ∀ c : StrategyChromosome ℝ, c.InRegistry → ∃ c', recoded c = .ok c' ∧ c'.AgreesOffLogits c ∧ c'.priors = c.priors) ∧
      ¬ ∀ u, InCube u → ∃ c, decode Real.log Real.exp geneRegistry u = .ok c ∧ recoded c = .ok c := by
  have hin := bullCorner_inCube
  have hrec := recoded_eq (assemble_valuesOf hin).1
  obtain ⟨h7, h8, h9⟩ := valuesOf_logit (u := bullCorner)
  have hraw : rawLogit bullCorner 7 = 2 ∧ rawLogit bullCorner 8 = -2 ∧ rawLogit bullCorner 9 = -2 := by
    simp only [rawLogit, bullCorner, List.getD_cons_succ, List.getD_cons_zero]
    norm_num
  constructor
  · intro hall
    obtain ⟨c', hc', -, hpri⟩ := hall _ (assemble_valuesOf hin).1
    rw [hrec] at hc'
    rw [← Except.ok.inj hc', assemble_priors_iff] at hpri
    have hbull : (assemble (valuesOf bullCorner)).gameTheory.logitBull = 2 := by
      change clip (valuesOf bullCorner .logitBull - (valuesOf bullCorner .logitBull + valuesOf bullCorner .logitBear +
        valuesOf bullCorner .logitPanic) / 3) (-2) 2 = 2
      rw [h7, h8, h9, hraw.1, hraw.2.1, hraw.2.2]
      norm_num [clip]
    have hother : (assemble (valuesOf bullCorner)).gameTheory.logitBear = -4 / 3 ∧
        (assemble (valuesOf bullCorner)).gameTheory.logitPanic = -4 / 3 := by
      change clip (valuesOf bullCorner .logitBear - (valuesOf bullCorner .logitBull + valuesOf bullCorner .logitBear +
        valuesOf bullCorner .logitPanic) / 3) (-2) 2 = -4 / 3 ∧ clip (valuesOf bullCorner .logitPanic -
          (valuesOf bullCorner .logitBull + valuesOf bullCorner .logitBear + valuesOf bullCorner .logitPanic) / 3) (-2) 2 = -4 / 3
      rw [h7, h8, h9, hraw.1, hraw.2.1, hraw.2.2]
      norm_num [clip]
    rw [hbull, hother.1, hother.2] at hpri
    have := (abs_le.1 hpri.1).2
    norm_num at this
  · intro hall
    obtain ⟨c, hc, hstable⟩ := hall _ hin
    rw [decode_inCube hin] at hc
    rw [← Except.ok.inj hc, hrec, Except.ok.injEq, assemble_valuesOf_iff hin, hraw.1, hraw.2.1, hraw.2.2] at hstable
    have := (abs_le.1 hstable.1).2
    norm_num at this

end

end Quant
