import Mathlib.Analysis.Real.Sqrt
import Quant.Analytics.HypergamicSelection

/-!
# The cached gate

Normalising the residuals before the product or after it gives one correlation, as long as there is something to divide by. The
gate rejects a pair with a constant series; its cached path sees a zero vector, finds no correlation and accepts.
-/

namespace Quant

open Pylib

section Field

variable {α : Type} [Field α] [LinearOrder α] {sqrt : α → α} {config : HypergamicConfig}

omit [LinearOrder α] in
theorem dotOver_map_div (xs ys : List α) (a b : α) : dotOver (xs.map (· / a)) (ys.map (· / b)) = dotOver xs ys / (a * b) := by
  unfold dotOver
  induction xs generalizing ys with
  | nil => simp
  | cons x xs ih =>
    cases ys with
    | nil => simp
    | cons y ys =>
      rw [List.map_cons, List.map_cons, List.zipWith_cons_cons, List.sum_cons, ih, List.zipWith_cons_cons, List.sum_cons, add_div,
        div_mul_div_comm]

omit [LinearOrder α] in
/-- A zero vector has no product with any other. -/
theorem dotOver_zero_left (xs ys : List α) : dotOver (xs.map fun _ => 0) ys = 0 := by
  unfold dotOver
  induction xs generalizing ys with
  | nil => simp
  | cons x xs ih =>
    cases ys with
    | nil => simp
    | cons y ys => rw [List.map_cons, List.zipWith_cons_cons, List.sum_cons, zero_mul, zero_add, ih]

omit [LinearOrder α] in
theorem dotOver_comm (xs ys : List α) : dotOver xs ys = dotOver ys xs := by
  unfold dotOver
  rw [List.zipWith_comm_of_comm fun x y => mul_comm x y]

theorem length_unitResidualOver (res : List α) : (unitResidualOver sqrt res).length = res.length := by
  by_cases h : tinyNormOver ≤ normOver sqrt (deviationsOver res)
  · have hunit : unitResidualOver sqrt res = (deviationsOver res).map (· / normOver sqrt (deviationsOver res)) := if_pos h
    rw [hunit, deviationsOver, List.length_map, List.length_map]
  · have hunit : unitResidualOver sqrt res = (deviationsOver res).map fun _ => 0 := if_neg h
    rw [hunit, deviationsOver, List.length_map, List.length_map]

/-- Neither series of a pair counts as constant. -/
def BothVary (sqrt : α → α) (resA resB : List α) : Prop :=
  tinyNormOver ≤ normOver sqrt (deviationsOver resA) ∧ tinyNormOver ≤ normOver sqrt (deviationsOver resB)

/-- The product of the cached vectors of a pair with a constant series is zero. -/
theorem dotOver_unit_of_constant {resA resB : List α} (h : ¬ BothVary sqrt resA resB) :
    dotOver (unitResidualOver sqrt resA) (unitResidualOver sqrt resB) = 0 := by
  unfold BothVary at h
  by_cases hA : tinyNormOver ≤ normOver sqrt (deviationsOver resA)
  · have hB : ¬ tinyNormOver ≤ normOver sqrt (deviationsOver resB) := fun hB => h ⟨hA, hB⟩
    have hunit : unitResidualOver sqrt resB = (deviationsOver resB).map fun _ => 0 := if_neg hB
    rw [hunit, dotOver_comm, dotOver_zero_left]
  · have hunit : unitResidualOver sqrt resA = (deviationsOver resA).map fun _ => 0 := if_neg hA
    rw [hunit, dotOver_zero_left]

/-- The product of the cached vectors of a pair that varies is the correlation. -/
theorem dotOver_unit_of_vary {resA resB : List α} (h : BothVary sqrt resA resB) :
    dotOver (unitResidualOver sqrt resA) (unitResidualOver sqrt resB) =
      dotOver (deviationsOver resA) (deviationsOver resB) /
      (normOver sqrt (deviationsOver resA) * normOver sqrt (deviationsOver resB)) := by
  have hA : unitResidualOver sqrt resA = (deviationsOver resA).map (· / normOver sqrt (deviationsOver resA)) := if_pos h.1
  have hB : unitResidualOver sqrt resB = (deviationsOver resB).map (· / normOver sqrt (deviationsOver resB)) := if_pos h.2
  rw [hA, hB, dotOver_map_div]

/-- The plain gate on two series of one length. -/
theorem gateEvaluate_of_length_eq {resA resB : List α} (relaxationLevel : ℤ) (hlen : resA.length = resB.length)
    (h2 : ¬ resA.length < 2) :
    gateEvaluate sqrt config resA resB relaxationLevel =
      if normOver sqrt (deviationsOver resA) < tinyNormOver ∨ normOver sqrt (deviationsOver resB) < tinyNormOver then (false, 1)
      else gateVerdict config relaxationLevel (dotOver (deviationsOver resA) (deviationsOver resB) /
        (normOver sqrt (deviationsOver resA) * normOver sqrt (deviationsOver resB))) := by
  simp only [gateEvaluate, hlen, min_self, if_neg (hlen ▸ h2)]
  rw [← hlen, List.take_length, hlen, List.take_length]

variable [IsStrictOrderedRing α]

theorem deltaEff_le_one (config : HypergamicConfig) (level : ℕ) : config.deltaEff level ≤ 1 := by
  have hfactor : config.relaxationFactor ^ level ≤ 1 := pow_le_one₀ config.relaxationFactor_mem.1.le config.relaxationFactor_mem.2
  have hnonneg : 0 ≤ config.relaxationFactor ^ level := pow_nonneg config.relaxationFactor_mem.1.le level
  exact mul_le_one₀ config.orthogonalityThreshold_mem.2 hnonneg hfactor

/-- Series without a correlation are accepted at every level. -/
theorem gateVerdict_zero (relaxationLevel : ℤ) : gateVerdict config relaxationLevel (0 : α) = (true, 0) := by
  have hdelta : ((config.deltaEff (max 0 relaxationLevel).toNat : ℚ) : α) ≤ 1 := by
    exact_mod_cast deltaEff_le_one config (max 0 relaxationLevel).toNat
  simp [gateVerdict, hdelta]

/-- Both gates agree, on any square root, exactly on pairs too short for a correlation and on pairs of one length that both
vary. -/
theorem gates_agree_iff (resA resB : List α) (relaxationLevel : ℤ) :
    gateEvaluateNormalized config (unitResidualOver sqrt resA) (unitResidualOver sqrt resB) relaxationLevel =
        .ok (gateEvaluate sqrt config resA resB relaxationLevel) ↔
      min resA.length resB.length < 2 ∨ (resA.length = resB.length ∧ BothVary sqrt resA resB) := by
  unfold gateEvaluateNormalized
  rw [length_unitResidualOver, length_unitResidualOver]
  by_cases hshort : min resA.length resB.length < 2
  · rw [if_pos (min_lt_iff.1 hshort)]
    refine iff_of_true ?_ (.inl hshort)
    simp only [gateEvaluate, if_pos hshort]
  · rw [if_neg fun h => hshort (min_lt_iff.2 h)]
    by_cases hlen : resA.length = resB.length
    · have h2 : ¬ resA.length < 2 := by rwa [← hlen, min_self] at hshort
      rw [if_pos hlen, gateEvaluate_of_length_eq relaxationLevel hlen h2]
      by_cases hvary : BothVary sqrt resA resB
      · refine iff_of_true ?_ (.inr ⟨hlen, hvary⟩)
        rw [dotOver_unit_of_vary hvary, if_neg (not_or.2 ⟨not_lt.2 hvary.1, not_lt.2 hvary.2⟩)]
      · refine iff_of_false (fun heq => ?_) fun h => h.elim hshort fun h => hvary h.2
        have hconstant : normOver sqrt (deviationsOver resA) < tinyNormOver ∨ normOver sqrt (deviationsOver resB) <
            tinyNormOver := by
          by_contra hno
          exact hvary ⟨not_lt.1 (not_or.1 hno).1, not_lt.1 (not_or.1 hno).2⟩
        rw [dotOver_unit_of_constant hvary, if_pos hconstant] at heq
        -- one gate reports full correlation, the other none
        have hrho := congrArg Prod.snd (Except.ok.inj heq)
        rw [gateVerdict_zero] at hrho
        exact zero_ne_one hrho
    · rw [if_neg hlen]
      exact iff_of_false (fun h => by cases h) fun h => h.elim hshort fun h => hlen h.1

end Field

/-! ## The exact square root -/

/-- With exact arithmetic and the exact norm, the gate on cached residuals gives the verdict and the correlation of the plain gate
exactly on pairs too short for a correlation, and on pairs of one length whose deviations both have a norm of at least `1e-12`. -/
theorem cachedGate_agrees_iff (config : HypergamicConfig) (resA resB : List ℝ) (relaxationLevel : ℤ) :
    gateEvaluateNormalized config (unitResidualOver Real.sqrt resA) (unitResidualOver Real.sqrt resB) relaxationLevel =
        .ok (gateEvaluate Real.sqrt config resA resB relaxationLevel) ↔
      min resA.length resB.length < 2 ∨ (resA.length = resB.length ∧ BothVary Real.sqrt resA resB) :=
  gates_agree_iff resA resB relaxationLevel

/-! ## A flat series and a longer one -/

/-- A configuration with the defaults. -/
def defaultHypergamic : HypergamicConfig := HypergamicConfig.withElitism 2

/-- The residuals of a candidate as real numbers. -/
def realResiduals (f : CandidateFitness) : List ℝ := f.residualSeries.map fun x : ℚ => (x : ℝ)

theorem dotOver_cast (xs ys : List ℚ) : dotOver (xs.map fun x : ℚ => (x : ℝ)) (ys.map fun y : ℚ => (y : ℝ)) = dotOver xs ys := by
  unfold dotOver
  induction xs generalizing ys with
  | nil => simp
  | cons x xs ih =>
    cases ys with
    | nil => simp
    | cons y ys =>
      rw [List.map_cons, List.map_cons, List.zipWith_cons_cons, List.sum_cons, ih, List.zipWith_cons_cons, List.sum_cons]
      push_cast
      rfl

theorem deviationsOver_cast (xs : List ℚ) :
    deviationsOver (xs.map fun x : ℚ => (x : ℝ)) = (deviationsOver xs).map fun x : ℚ => (x : ℝ) := by
  have hsum : (xs.map fun x : ℚ => (x : ℝ)).sum = (xs.sum : ℝ) := by
    induction xs with
    | nil => simp
    | cons x xs ih => rw [List.map_cons, List.sum_cons, ih, List.sum_cons, Rat.cast_add]
  simp only [deviationsOver, List.map_map, hsum, List.length_map]
  refine List.map_congr_left fun x _ => ?_
  rw [Function.comp_apply, Function.comp_apply, Rat.cast_sub, Rat.cast_div, Rat.cast_natCast]

theorem normOver_cast (xs : List ℚ) : normOver Real.sqrt (xs.map fun x : ℚ => (x : ℝ)) = Real.sqrt ((dotOver xs xs : ℚ) : ℝ) := by
  rw [normOver, dotOver_cast]

/-- A candidate over a hundred bars or more. -/
def candidateOf (residuals : List ℚ) (h : 100 ≤ residuals.length) : CandidateFitness where
  candidateId := "candidate"
  dsr := 1
  minimaxRegret := 0
  returnSeries := residuals
  residualSeries := residuals
  backtestLength := residuals.length
  isFeasible := true
  lengths_eq := rfl
  length_ge := h

/-- A flat series of a hundred bars, one that steps up half way, one that swings every bar, and one of a bar more that swings
every other bar. -/
def flatCandidate : CandidateFitness := candidateOf (List.replicate 100 0) (by decide)

def stepCandidate : CandidateFitness := candidateOf (List.replicate 50 0 ++ List.replicate 50 1) (by decide)

def swingCandidate : CandidateFitness := candidateOf (List.replicate 50 [1, -1]).flatten (by decide)

def longerCandidate : CandidateFitness := candidateOf ((List.replicate 25 [1, 1, -1, -1]).flatten ++ [0]) (by decide)

theorem not_bothVary_flat (res : List ℝ) : ¬ BothVary Real.sqrt (realResiduals flatCandidate) res := by
  intro h
  have hnorm := h.1
  have hzero : dotOver (deviationsOver flatCandidate.residualSeries) (deviationsOver flatCandidate.residualSeries) = 0 := by
    decide +kernel
  rw [realResiduals, deviationsOver_cast, normOver_cast, hzero, Rat.cast_zero, Real.sqrt_zero] at hnorm
  exact absurd hnorm (not_le.2 (Rat.cast_pos.2 (by decide +kernel)))

/-- The plain gate accepts a series and a longer one by what they have in common. -/
theorem gateEvaluate_longer :
    gateEvaluate Real.sqrt defaultHypergamic (realResiduals swingCandidate) (realResiduals longerCandidate) 0 = (true, 0) := by
  have hcommon : min swingCandidate.residualSeries.length longerCandidate.residualSeries.length = 100 := by decide
  have hswing : swingCandidate.residualSeries.take 100 = swingCandidate.residualSeries := by decide
  have hnorm : dotOver (deviationsOver swingCandidate.residualSeries) (deviationsOver swingCandidate.residualSeries) = 100 := by
    decide +kernel
  have hnorm' : dotOver (deviationsOver (longerCandidate.residualSeries.take 100))
      (deviationsOver (longerCandidate.residualSeries.take 100)) = 100 := by
    decide +kernel
  have hdot : dotOver (deviationsOver swingCandidate.residualSeries)
      (deviationsOver (longerCandidate.residualSeries.take 100)) = 0 := by
    decide +kernel
  have htiny : ¬ Real.sqrt ((100 : ℚ) : ℝ) < tinyNormOver := by
    rw [not_lt, tinyNormOver]
    refine Real.le_sqrt_of_sq_le ?_
    norm_num [tinyNorm]
  unfold gateEvaluate
  simp only [realResiduals, List.length_map, hcommon, ← List.map_take, hswing, deviationsOver_cast, normOver_cast, hnorm, hnorm',
    dotOver_cast, hdot]
  rw [if_neg (by norm_num), if_neg (not_or.2 ⟨htiny, htiny⟩), Rat.cast_zero, zero_div, gateVerdict_zero]

/-- The gates differ on two candidates with series of one length of which one is constant, and on two that the plain gate
accepts. -/
theorem not_cachedGate_agrees :
    (¬ ∀ (config : HypergamicConfig) (a b : CandidateFitness) (relaxationLevel : ℤ),
      a.residualSeries.length = b.residualSeries.length →
        gateEvaluateNormalized config (unitResidualOver Real.sqrt (realResiduals a))
        (unitResidualOver Real.sqrt (realResiduals b))
          relaxationLevel = .ok (gateEvaluate Real.sqrt config (realResiduals a) (realResiduals b) relaxationLevel)) ∧
    ¬ ∀ (config : HypergamicConfig) (a b : CandidateFitness) (relaxationLevel : ℤ),
      (gateEvaluate Real.sqrt config (realResiduals a) (realResiduals b) relaxationLevel).1 = true →
        gateEvaluateNormalized config (unitResidualOver Real.sqrt (realResiduals a))
        (unitResidualOver Real.sqrt (realResiduals b))
          relaxationLevel = .ok (gateEvaluate Real.sqrt config (realResiduals a) (realResiduals b) relaxationLevel) := by
  refine ⟨fun h => ?_, fun h => ?_⟩
  · rcases (gates_agree_iff _ _ _).1 (h defaultHypergamic flatCandidate stepCandidate 0 (by decide))
        with hshort | ⟨-, hvary⟩
    · simp only [realResiduals, List.length_map] at hshort
      exact absurd hshort (by decide)
    · exact not_bothVary_flat _ hvary
  · rcases (gates_agree_iff _ _ _).1 (h defaultHypergamic _ _ 0 (congrArg Prod.fst gateEvaluate_longer)) with hshort | ⟨hlen, -⟩
    · simp only [realResiduals, List.length_map] at hshort
      exact absurd hshort (by decide)
    · simp only [realResiduals, List.length_map] at hlen
      exact absurd hlen (by decide)

end Quant
