import Mathlib.Analysis.SpecialFunctions.Log.Basic
import Mathlib.Analysis.Complex.ExponentialBounds
import Quant.Execution.PreTradeGate
import Quant.Pylib.Binary64

/-!
# The decision of the gate and its code

Every dimension but momentum makes a diagnosis where it fails, so the code names the first dimension that fails unless that is
momentum: then the order is rejected with the code `OK`, or with the code of a dimension that comes later.
-/

namespace Quant

open Pylib

section Folds

variable {α : Type}

/-- The code after some diagnoses: the first of them sets it, where none is set. -/
theorem foldl_diagnose (t : Tally α) (ds : List (Diagnosis α)) (h : ∀ d ∈ ds, d.code ≠ "OK") :
    (ds.foldl Tally.diagnose t).primaryCode = if t.primaryCode =
    "OK" then (ds.head?.map (·.code)).getD "OK" else t.primaryCode := by
  induction ds generalizing t with
  | nil => split <;> simp_all
  | cons d ds ih =>
    obtain ⟨hd, hds⟩ := List.forall_mem_cons.1 h
    rw [List.foldl_cons, ih _ hds, Tally.diagnose]
    by_cases hok : t.primaryCode = "OK"
    · simp [hok, hd]
    · simp [hok]

/-- The checks after the dimensions of a list. -/
theorem foldl_add_checks [Field α] (M : GateMath α) (t : Tally α) (l : List (Assessment α)) :
    (l.foldl (Tally.add M) t).checks = t.checks ++ l.map (·.check) := by
  induction l generalizing t with
  | nil => simp
  | cons a l ih =>
    rw [List.foldl_cons, ih]
    simp [Tally.add]

/-- The score after dimensions that add nothing. -/
theorem foldl_add_score [Field α] {M : GateMath α} (hround : M.round 0 = 0) {t : Tally α} (ht : t.logOddsDelta = 0)
    {l : List (Assessment α)} (h : ∀ a ∈ l, a.check.score = 0) : (l.foldl (Tally.add M) t).logOddsDelta = 0 := by
  induction l generalizing t with
  | nil => exact ht
  | cons a l ih =>
    obtain ⟨ha, hl⟩ := List.forall_mem_cons.1 h
    refine ih ?_ hl
    rw [Tally.add, ht, ha, add_zero, hround]

end Folds

section Dimensions

variable {α : Type} [Field α] [LinearOrder α]

/-- What the gate relies on in its arithmetic: zero is not rounded, and the prior of a tenth comes out below the threshold. -/
structure GateMath.Sound (M : GateMath α) : Prop where
  round_zero : M.round 0 = 0
  prior : toxicityProb M 0 < maxToxicProbabilityThreshold M

/-- The code of a dimension that fails: the first one that it sets. -/
def dimensionCode (request : PreTradeDecisionRequest α) : DimensionName → Option String
  | .dataFreshness => some errGateStaleData
  | .microstructureToxicity => some errGateToxicFlowDetected
  | .macroRegime => some errGateMacroRegimeConflict
  | .momentumAlignment => none
  | .capitalRiskBudget =>
    some (if maxConsecutiveLosses ≤
      request.consecutiveLosses then errGateConsecutiveLossBreach else errGateDrawdownBudgetExceeded)

theorem dimensionCode_ne (request : PreTradeDecisionRequest α) {name : DimensionName} {code : String}
    (h : dimensionCode request name = some code) : code ≠ "OK" := by
  cases name with
  | momentumAlignment => cases h
  | capitalRiskBudget =>
    obtain rfl := Option.some.inj h
    split <;> decide
  | dataFreshness | microstructureToxicity | macroRegime =>
    obtain rfl := Option.some.inj h
    decide

/-- The decision and the code of a verdict agree: an order is refused exactly with a fault code, the one of the first dimension
that fails. -/
def CodeAgrees (request : PreTradeDecisionRequest α) (result : PreTradeDecisionResult α) : Prop :=
  (result.allowed = false ↔ result.primaryCode ≠ "OK") ∧
    (result.allowed = false → ∃ c ∈ result.checks.find? fun c => !c.passed, dimensionCode request c.name =
      some result.primaryCode)

/-! ## What a dimension says -/

/-- A dimension that passes adds nothing, and one that fails makes the diagnosis of its code first, if it has one. -/
structure Assessment.Sound (request : PreTradeDecisionRequest α) (a : Assessment α) : Prop where
  score_eq : a.check.passed = true → a.check.score = 0
  diagnoses_eq : a.check.passed = true → a.diagnoses = []
  head_eq : a.check.passed = false → a.diagnoses.head?.map (·.code) = dimensionCode request a.check.name
  code_ne : ∀ d ∈ a.diagnoses, d.code ≠ "OK"

variable (M : GateMath α) (request : PreTradeDecisionRequest α)

theorem dataFreshness_sound : (dataFreshness M request).Sound request := by
  by_cases h : request.dataAgeSeconds ≤ maxDataAgeSeconds M
  all_goals constructor <;> simp [dataFreshness, h, dimensionCode, errGateStaleData]

theorem microstructureToxicity_sound : (microstructureToxicity M request).Sound request := by
  cases h : toxicFlow M request
  all_goals constructor <;> simp [microstructureToxicity, h, dimensionCode, errGateToxicFlowDetected]

theorem macroRegime_sound : (macroRegime M request).Sound request := by
  by_cases h : request.isBuying = true ∧ request.macroYieldSpread < -M.num (50 / 100)
  all_goals constructor <;> simp [macroRegime, h, dimensionCode, errGateMacroRegimeConflict]

theorem momentumAlignment_sound : (momentumAlignment M request).Sound request := by
  refine ⟨?_, fun _ => rfl, fun _ => rfl, fun d hd => absurd hd List.not_mem_nil⟩
  dsimp only [momentumAlignment]
  generalize decide (M.round (M.num 3 * request.trailingVolatilityPct) < |request.currentBarReturnPct|) = shock
  generalize decide (request.isBuying = true ∧ request.currentBarReturnPct < M.round (-M.num 2 * request.trailingVolatilityPct)) =
    adverse
  cases shock <;> cases adverse <;> simp

theorem capitalRiskBudget_sound : (capitalRiskBudget M request).Sound request := by
  by_cases h1 : maxConsecutiveLosses ≤ request.consecutiveLosses <;> by_cases h2 : maxDrawdownThresholdPct M ≤
    request.currentDrawdownPct
  all_goals
    constructor <;>
      simp [capitalRiskBudget, h1, h2, dimensionCode, errGateConsecutiveLossBreach, errGateDrawdownBudgetExceeded]

theorem dimensions_sound : ∀ a ∈ dimensions M request, a.Sound request := by
  simp [dimensions, dataFreshness_sound, microstructureToxicity_sound, macroRegime_sound, momentumAlignment_sound,
    capitalRiskBudget_sound]

/-! ## What the dimensions come to -/

/-- A code that is set stays. -/
theorem foldl_add_code_of_ne {t : Tally α} {l : List (Assessment α)} (hl : ∀ a ∈ l, a.Sound request) (h : t.primaryCode ≠ "OK") :
    (l.foldl (Tally.add M) t).primaryCode = t.primaryCode := by
  induction l generalizing t with
  | nil => rfl
  | cons a l ih =>
    obtain ⟨ha, hl⟩ := List.forall_mem_cons.1 hl
    have hcode : (t.add M a).primaryCode = t.primaryCode := by
      rw [Tally.add]
      exact (foldl_diagnose t _ ha.code_ne).trans (if_neg h)
    rw [List.foldl_cons, ih hl (hcode ▸ h), hcode]

/-- The first dimension that fails sets its code, if it has one. -/
theorem foldl_add_code_of_find {t : Tally α} {l : List (Assessment α)} {a : Assessment α} {code : String}
    (hl : ∀ a ∈ l, a.Sound request) (ht : t.primaryCode = "OK") (hfind : l.find? (fun a => !a.check.passed) = some a)
    (hcode : dimensionCode request a.check.name = some code) : (l.foldl (Tally.add M) t).primaryCode = code := by
  induction l generalizing t with
  | nil => cases hfind
  | cons b l ih =>
    obtain ⟨hb, hl⟩ := List.forall_mem_cons.1 hl
    rw [List.foldl_cons]
    cases hpassed : b.check.passed with
    | true =>
      rw [List.find?_cons_of_neg (by simp [hpassed])] at hfind
      refine ih hl ?_ hfind
      rw [Tally.add, hb.diagnoses_eq hpassed]
      exact ht
    | false =>
      rw [List.find?_cons_of_pos (by simp [hpassed])] at hfind
      obtain rfl := Option.some.inj hfind
      have hset : (t.add M b).primaryCode = code := by
        rw [Tally.add]
        refine (foldl_diagnose t _ hb.code_ne).trans ?_
        rw [if_pos ht, hb.head_eq hpassed, hcode, Option.getD_some]
      rw [foldl_add_code_of_ne M request hl (hset ▸ dimensionCode_ne request hcode), hset]

/-! ## The verdict -/

variable [FloorRing α] (latencyNs : ℤ)

/-- The verdict where no check fails and the posterior is not excessive. -/
theorem verdict_of_passed {t : Tally α} (hany : (t.checks.any fun c => !c.passed) = false)
    (hprob : toxicityProb M t.logOddsDelta < maxToxicProbabilityThreshold M) :
    (PreTradeDecisionGate.verdict M latencyNs request t).allowed = true ∧
      (PreTradeDecisionGate.verdict M latencyNs request t).primaryCode = "OK" := by
  have hexcess : ¬ maxToxicProbabilityThreshold M ≤ toxicityProb M t.logOddsDelta := not_le.2 hprob
  simp [PreTradeDecisionGate.verdict, hany, hexcess]

/-- The verdict where a check fails. -/
theorem verdict_of_failed {t : Tally α} (hany : (t.checks.any fun c => !c.passed) = true) :
    (PreTradeDecisionGate.verdict M latencyNs request t).allowed = false ∧
      (t.primaryCode ≠ "OK" → (PreTradeDecisionGate.verdict M latencyNs request t).primaryCode = t.primaryCode) := by
  refine ⟨by simp [PreTradeDecisionGate.verdict, hany], fun hcode => ?_⟩
  simp [PreTradeDecisionGate.verdict, hany, hcode]

variable {M} in
/-- The decision and the code of an entry agree unless the first dimension that fails has no code. -/
theorem verdict_agrees_iff (hM : M.Sound) :
    CodeAgrees request (PreTradeDecisionGate.verdict M latencyNs request (tally M request)) ↔
      ∀ a ∈ (dimensions M request).find? fun a => !a.check.passed, dimensionCode request a.check.name ≠ none := by
  have hsound := dimensions_sound M request
  have hchecks : (tally M request).checks = (dimensions M request).map (·.check) := foldl_add_checks _ _ _
  have hfind : (PreTradeDecisionGate.verdict M latencyNs request (tally M request)).checks.find? (fun c => !c.passed) =
      ((dimensions M request).find? fun a => !a.check.passed).map (·.check) := by
    show (tally M request).checks.find? _ = _
    rw [hchecks, List.find?_map]
    rfl
  cases hfirst : (dimensions M request).find? fun a => !a.check.passed with
  | none =>
    -- nothing fails and nothing is added to the prior, so the order passes
    have hpassed : ∀ a ∈ dimensions M request, a.check.passed = true := by simpa using List.find?_eq_none.1 hfirst
    have hany : ((tally M request).checks.any fun c => !c.passed) = false := by
      rw [hchecks, List.any_map]
      exact List.any_eq_false.2 fun a ha => by simp [hpassed a ha]
    have hzero : (tally M request).logOddsDelta = 0 :=
      foldl_add_score hM.round_zero rfl fun a ha => (hsound a ha).score_eq (hpassed a ha)
    obtain ⟨hallowed, hcode⟩ := verdict_of_passed M request latencyNs hany (hzero ▸ hM.prior)
    refine iff_of_true ⟨?_, fun h => absurd (hallowed.symm.trans h) (by decide)⟩ fun _ ha => nomatch ha
    exact iff_of_false (fun h => absurd (hallowed.symm.trans h) (by decide)) (not_not.2 hcode)
  | some a =>
    have hany : ((tally M request).checks.any fun c => !c.passed) = true := by
      rw [hchecks, List.any_map]
      exact List.any_eq_true.2 ⟨a, List.mem_of_find?_eq_some hfirst, List.find?_some hfirst⟩
    obtain ⟨hrefused, hcode⟩ := verdict_of_failed M request latencyNs hany
    rw [hfirst] at hfind
    constructor
    · rintro ⟨-, h⟩ b hb hnone
      obtain rfl := Option.some.inj hb
      obtain ⟨c, hc, hc'⟩ := h hrefused
      rw [hfind] at hc
      obtain rfl := Option.some.inj hc
      exact absurd (hnone.symm.trans hc') (by simp)
    · intro h
      obtain ⟨code, hdim⟩ := Option.ne_none_iff_exists'.1 (h a rfl)
      have ht : (tally M request).primaryCode = code := foldl_add_code_of_find M request hsound rfl hfirst hdim
      have hset : (tally M request).primaryCode ≠ "OK" := ht ▸ dimensionCode_ne request hdim
      refine ⟨iff_of_true hrefused ?_, fun _ => ⟨a.check, hfind, ?_⟩⟩
      · rw [hcode hset]
        exact hset
      · rw [hcode hset, ht, hdim]

/-! ## Orders that are refused without a code -/

/-- An entry whose momentum fails while the dimensions before it pass, by the comparisons of the gate. -/
structure MomentumFailsFirst : Prop where
  entry : request.isExit = false
  fresh : request.dataAgeSeconds ≤ M.num 120
  buyBook : request.isBuying = true → -M.num (35 / 100) ≤ request.orderBookImbalance
  sellBook : request.isBuying = false → request.orderBookImbalance ≤ M.num (35 / 100)
  spread : request.marketSpreadBps ≤ M.num 35
  yields : request.isBuying = true → -M.num (50 / 100) ≤ request.macroYieldSpread
  momentum : M.round (M.num 3 * request.trailingVolatilityPct) < |request.currentBarReturnPct| ∨
    (request.isBuying = true ∧ request.currentBarReturnPct < M.round (-M.num 2 * request.trailingVolatilityPct))

omit [FloorRing α] in
theorem dataFreshness_passed : (dataFreshness M request).check.passed = true ↔ request.dataAgeSeconds ≤ M.num 120 :=
  decide_eq_true_iff

omit [FloorRing α] in
theorem microstructureToxicity_passed : (microstructureToxicity M request).check.passed = true ↔
    (request.isBuying = true → -M.num (35 / 100) ≤ request.orderBookImbalance) ∧
      (request.isBuying = false → request.orderBookImbalance ≤ M.num (35 / 100)) ∧ request.marketSpreadBps ≤ M.num 35 := by
  cases h : request.isBuying <;> simp [microstructureToxicity, toxicFlow, h, ite_eq_iff]

omit [FloorRing α] in
theorem macroRegime_passed : (macroRegime M request).check.passed = true ↔
    (request.isBuying = true → -M.num (50 / 100) ≤ request.macroYieldSpread) := by
  cases h : request.isBuying <;> simp [macroRegime, h]

omit [FloorRing α] in
theorem momentumAlignment_passed : (momentumAlignment M request).check.passed = false ↔
    (M.round (M.num 3 * request.trailingVolatilityPct) < |request.currentBarReturnPct| ∨
      (request.isBuying = true ∧ request.currentBarReturnPct < M.round (-M.num 2 * request.trailingVolatilityPct))) := by
  simp only [momentumAlignment, Bool.and_eq_false_iff, Bool.not_eq_false', decide_eq_true_eq]

omit [FloorRing α] in
theorem momentumFailsFirst_iff (hentry : request.isExit = false) : MomentumFailsFirst M request ↔
    (dataFreshness M request).check.passed = true ∧ (microstructureToxicity M request).check.passed = true ∧
      (macroRegime M request).check.passed = true ∧ (momentumAlignment M request).check.passed = false := by
  rw [dataFreshness_passed, microstructureToxicity_passed, macroRegime_passed, momentumAlignment_passed]
  constructor
  · intro h
    exact ⟨h.fresh, ⟨h.buyBook, h.sellBook, h.spread⟩, h.yields, h.momentum⟩
  · rintro ⟨hfresh, ⟨hbuy, hsell, hspread⟩, hyields, hmomentum⟩
    exact ⟨hentry, hfresh, hbuy, hsell, hspread, hyields, hmomentum⟩

omit [FloorRing α] in
/-- The first dimension that fails has no code exactly where momentum fails first. -/
theorem codeless_iff (hentry : request.isExit = false) :
    (∀ a ∈ (dimensions M request).find? fun a => !a.check.passed, dimensionCode request a.check.name ≠ none) ↔
      ¬ MomentumFailsFirst M request := by
  have hnameA : (dataFreshness M request).check.name = .dataFreshness := rfl
  have hnameB : (microstructureToxicity M request).check.name = .microstructureToxicity := rfl
  have hnameC : (macroRegime M request).check.name = .macroRegime := rfl
  have hnameD : (momentumAlignment M request).check.name = .momentumAlignment := rfl
  have hnameE : (capitalRiskBudget M request).check.name = .capitalRiskBudget := rfl
  rw [momentumFailsFirst_iff M request hentry, dimensions]
  cases hA : (dataFreshness M request).check.passed with
  | false => simp [hA, hnameA, dimensionCode]
  | true =>
  cases hB : (microstructureToxicity M request).check.passed with
  | false => simp [hA, hB, hnameB, dimensionCode]
  | true =>
  cases hC : (macroRegime M request).check.passed with
  | false => simp [hA, hB, hC, hnameC, dimensionCode]
  | true =>
  cases hD : (momentumAlignment M request).check.passed with
  | false => simp [hA, hB, hC, hD, hnameD, dimensionCode]
  | true =>
    cases hE : (capitalRiskBudget M request).check.passed with
    | false => simp [hA, hB, hC, hD, hE, hnameE, dimensionCode]
    | true => simp [hA, hB, hC, hD, hE]

variable {M}

theorem entry_agrees_iff (hM : M.Sound) (gate : PreTradeDecisionGate α) (hentry : request.isExit = false) :
    CodeAgrees request (gate.evaluate M latencyNs request).1 ↔ ¬ MomentumFailsFirst M request := by
  show CodeAgrees request (if request.isExit then _ else _) ↔ _
  rw [if_neg (by simp [hentry]), verdict_agrees_iff request latencyNs hM]
  exact codeless_iff M request hentry

/-- The decision and the code of a request agree exactly where momentum is not the first dimension that fails, whatever the
rounding. -/
theorem evaluate_agrees_iff (hM : M.Sound) (gate : PreTradeDecisionGate α) :
    CodeAgrees request (gate.evaluate M latencyNs request).1 ↔ ¬ MomentumFailsFirst M request := by
  cases hexit : request.isExit with
  | true =>
    show CodeAgrees request (if request.isExit then _ else _) ↔ _
    rw [if_pos hexit]
    refine iff_of_true ?_ fun h => absurd (hexit.symm.trans h.entry) (by decide)
    exact ⟨iff_of_false (fun h => nomatch h) (not_not.2 rfl), fun h => nomatch h⟩
  | false => exact entry_agrees_iff request latencyNs hM gate hexit

end Dimensions

/-! ## Doubles -/

section Doubles

/-- `math`'s functions and the rounding of doubles. -/
noncomputable def doubleGateMath : GateMath ℝ where
  log x := toDouble (Real.log x)
  exp x := toDouble (Real.exp x)
  round := toDouble

/-- The prior of a tenth is at most minus one in log odds. -/
theorem priorLogOdds_le : priorLogOdds doubleGateMath ≤ -1 := by
  have heighth : IsDouble (1 / 8 : ℝ) := isDouble_of_eq (k := 1) (e := -3) (by decide) (by decide) (by norm_num [bit])
  have hseven : IsDouble (7 / 8 : ℝ) := isDouble_of_eq (k := 7) (e := -3) (by decide) (by decide) (by norm_num [bit])
  have hsixteenth : IsDouble (1 / 16 : ℝ) := isDouble_of_eq (k := 1) (e := -4) (by decide) (by decide) (by norm_num [bit])
  have hquarter : IsDouble (1 / 4 : ℝ) := isDouble_of_eq (k := 1) (e := -2) (by decide) (by decide) (by norm_num [bit])
  have hone : IsDouble (1 : ℝ) := isDouble_of_eq (k := 1) (e := 0) (by decide) (by decide) (by norm_num [bit])
  have hneg : IsDouble (-1 : ℝ) := isDouble_of_eq (k := -1) (e := 0) (by decide) (by decide) (by norm_num [bit])
  have htenth : doubleGateMath.num (10 / 100) ≤ 1 / 8 := heighth.toDouble_le (by norm_num [lit])
  have htenth' : 1 / 16 ≤ doubleGateMath.num (10 / 100) := hsixteenth.le_toDouble (by norm_num [lit])
  have hninety : 7 / 8 ≤ doubleGateMath.num (90 / 100) := hseven.le_toDouble (by norm_num [lit])
  have hninety' : doubleGateMath.num (90 / 100) ≤ 1 := hone.toDouble_le (by norm_num [lit])
  have hodds : doubleGateMath.num (10 / 100) / doubleGateMath.num (90 / 100) ≤ 1 / 4 := by
    rw [div_le_iff₀ (by linarith)]
    linarith
  have hodds' : 1 / 16 ≤ doubleGateMath.num (10 / 100) / doubleGateMath.num (90 / 100) := by
    rw [le_div_iff₀ (by linarith)]
    linarith
  have hround := hquarter.toDouble_le hodds
  have hround' := hsixteenth.le_toDouble hodds'
  refine hneg.toDouble_le ?_
  rw [Real.log_le_iff_le_exp (by exact lt_of_lt_of_le (by norm_num) hround')]
  refine hround.trans ?_
  rw [Real.exp_neg, ← one_div, one_div_le_one_div (by norm_num) (Real.exp_pos 1)]
  exact (Real.exp_one_lt_d9.trans (by norm_num)).le

/-- So the prior alone is not excessive. -/
theorem doubleGateMath_sound : doubleGateMath.Sound where
  round_zero := toDouble_zero
  prior := by
    have htwo : IsDouble (2 : ℝ) := isDouble_of_eq (k := 1) (e := 1) (by decide) (by decide) (by norm_num [bit])
    have hthree : IsDouble (3 : ℝ) := isDouble_of_eq (k := 3) (e := 0) (by decide) (by decide) (by norm_num [bit])
    have hhalf : IsDouble (1 / 2 : ℝ) := isDouble_of_eq (k := 1) (e := -1) (by decide) (by decide) (by norm_num [bit])
    have hfive : IsDouble (5 / 8 : ℝ) := isDouble_of_eq (k := 5) (e := -3) (by decide) (by decide) (by norm_num [bit])
    have hneg : IsDouble (-1 : ℝ) := isDouble_of_eq (k := -1) (e := 0) (by decide) (by decide) (by norm_num [bit])
    have htotal : toDouble (priorLogOdds doubleGateMath + 0) ≤ -1 := hneg.toDouble_le (by linarith [priorLogOdds_le])
    have hexp : 2 ≤ toDouble (Real.exp (-toDouble (priorLogOdds doubleGateMath + 0))) :=
      htwo.le_toDouble (by linarith [Real.add_one_le_exp (-toDouble (priorLogOdds doubleGateMath + 0))])
    have hsum : 3 ≤ toDouble (1 + toDouble (Real.exp (-toDouble (priorLogOdds doubleGateMath + 0)))) :=
      hthree.le_toDouble (by linarith)
    have hprob : toxicityProb doubleGateMath 0 ≤ 1 / 2 := by
      refine hhalf.toDouble_le ?_
      exact one_div_le_one_div_of_le (by norm_num) ((by norm_num : (2 : ℝ) ≤ 3).trans hsum)
    have hthreshold : 5 / 8 ≤ maxToxicProbabilityThreshold doubleGateMath := hfive.le_toDouble (by norm_num [lit])
    linarith

theorem rally_quantity_pos : (0 : ℝ) < lit 10 := by norm_num [lit]

theorem rally_referencePrice_pos : (0 : ℝ) < lit 100 := by norm_num [lit]

/-- A sale with everything at its default. -/
noncomputable def calmSale : PreTradeDecisionRequest ℝ where
  toPreTradeDecisionFields := PreTradeDecisionFields.withDefaults doubleGateMath "O-1" "AAPL" "SELL" (lit 10) (lit 100) 0
  quantity_pos := rally_quantity_pos
  referencePrice_pos := rally_referencePrice_pos

theorem evaluate_agrees_calmSale :
    CodeAgrees calmSale ((PreTradeDecisionGate.create 1000).evaluate doubleGateMath 0 calmSale).1 := by
  refine (evaluate_agrees_iff calmSale 0 doubleGateMath_sound (PreTradeDecisionGate.create 1000)).2 fun h => ?_
  have hone : IsDouble (1 : ℝ) := isDouble_of_eq (k := 1) (e := 0) (by decide) (by decide) (by norm_num [bit])
  have hzero : IsDouble (0 : ℝ) := toDouble_zero
  rcases h.momentum with hshock | ⟨hbuy, -⟩
  · -- a bar of a twentieth of a percent is far below the volatility
    have hfactor : 1 ≤ doubleGateMath.num 3 := hone.le_toDouble (by norm_num [lit])
    have hvol : 1 ≤ doubleGateMath.num (12 / 10) := hone.le_toDouble (by norm_num [lit])
    have hprod : 1 ≤ toDouble (doubleGateMath.num 3 * doubleGateMath.num (12 / 10)) :=
      hone.le_toDouble (one_le_mul_of_one_le_of_one_le hfactor hvol)
    have hreturn : doubleGateMath.num (5 / 100) ≤ 1 := hone.toDouble_le (by norm_num [lit])
    have hreturn' : 0 ≤ doubleGateMath.num (5 / 100) := hzero.le_toDouble (by norm_num [lit])
    have hlt : toDouble (doubleGateMath.num 3 * doubleGateMath.num (12 / 10)) < |doubleGateMath.num (5 / 100)| := hshock
    rw [abs_of_nonneg hreturn'] at hlt
    linarith
  · exact absurd hbuy (by decide)

/-- The sale in a bar that rose by five percent. -/
noncomputable def rally : PreTradeDecisionRequest ℝ where
  toPreTradeDecisionFields := { calmSale.toPreTradeDecisionFields with currentBarReturnPct := lit 5 }
  quantity_pos := rally_quantity_pos
  referencePrice_pos := rally_referencePrice_pos

theorem rally_codeless : MomentumFailsFirst doubleGateMath rally where
  entry := by decide
  fresh := by
    have hone : IsDouble (1 : ℝ) := isDouble_of_eq (k := 1) (e := 0) (by decide) (by decide) (by norm_num [bit])
    exact hone.le_toDouble (by norm_num [lit])
  buyBook := fun h => absurd h (by decide)
  sellBook := fun _ => by
    have hzero : IsDouble (0 : ℝ) := toDouble_zero
    exact hzero.le_toDouble (by norm_num [lit])
  spread := toDouble_mono (by norm_num [lit])
  yields := fun h => absurd h (by decide)
  momentum := .inl <| by
    have hthree : IsDouble (3 : ℝ) := isDouble_of_eq (k := 3) (e := 0) (by decide) (by decide) (by norm_num [bit])
    have hquarters : IsDouble (5 / 4 : ℝ) := isDouble_of_eq (k := 5) (e := -2) (by decide) (by decide) (by norm_num [bit])
    have hfour : IsDouble (4 : ℝ) := isDouble_of_eq (k := 1) (e := 2) (by decide) (by decide) (by norm_num [bit])
    have hfactor : doubleGateMath.num 3 ≤ 3 := hthree.toDouble_le (by norm_num [lit])
    have hvol : doubleGateMath.num (12 / 10) ≤ 5 / 4 := hquarters.toDouble_le (by norm_num [lit])
    have hprod : toDouble (doubleGateMath.num 3 * doubleGateMath.num (12 / 10)) ≤ 4 := by
      have hzero : IsDouble (0 : ℝ) := toDouble_zero
      have hvol' : 0 ≤ doubleGateMath.num (12 / 10) := hzero.le_toDouble (by norm_num [lit])
      refine hfour.toDouble_le ((mul_le_mul hfactor hvol hvol' (by norm_num)).trans ?_)
      norm_num
    show toDouble (doubleGateMath.num 3 * doubleGateMath.num (12 / 10)) < |(lit 5 : ℝ)|
    exact hprod.trans_lt (by norm_num [lit])

theorem rally_disagrees :
    ¬ CodeAgrees rally ((PreTradeDecisionGate.create 1000).evaluate doubleGateMath 0 rally).1 := fun h =>
  (entry_agrees_iff rally 0 doubleGateMath_sound (PreTradeDecisionGate.create 1000) rally_codeless.entry).1 h rally_codeless

end Doubles
end Quant
