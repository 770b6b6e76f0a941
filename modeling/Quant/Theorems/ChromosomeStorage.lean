import Mathlib.Analysis.SpecialFunctions.Log.Basic
import Mathlib.Tactic.NormNum
import Quant.Analytics.ChromosomeDict

/-!
# Chromosomes are stored without loss

`from_dict` clips everything it reads into the registry's bounds, whatever layout and aliases it read it from. What it wrote is
read from the primary keys, so nothing is left for it to change.
-/

namespace Quant

open Pylib

section Clip

variable {α : Type} [Field α] [LinearOrder α] [IsStrictOrderedRing α]

theorem clipTo_mem (x : α) {lo hi : ℚ} (h : lo ≤ hi) : (lo : α) ≤ clipTo x lo hi ∧ clipTo x lo hi ≤ (hi : α) :=
  clip_mem (Rat.cast_le.2 h)

theorem clipTo_clipTo (x : α) {lo hi : ℚ} (h : lo ≤ hi) : clipTo (clipTo x lo hi) lo hi = clipTo x lo hi :=
  clip_of_mem (clipTo_mem x h)

theorem clip_clip_int (k : ℤ) {lo hi : ℤ} (h : lo ≤ hi) : clip (clip k lo hi) lo hi = clip k lo hi := clip_of_mem (clip_mem h)

end Clip

section Storage

variable {α : Type} [Field α] [LinearOrder α]

/-! ## Clipped chromosomes -/

/-- The representation chromosome with every gene clipped into its bounds. -/
def RepresentationChromosome.clipped (c : RepresentationChromosome α) : RepresentationChromosome α where
  tauSlow := clipTo c.tauSlow 14400 604800
  tauRatio := clipTo c.tauRatio (2 / 100) (50 / 100)
  alphaDecay := clipTo c.alphaDecay 0 1
  fractionalD := clipTo c.fractionalD (5 / 100) (95 / 100)

def GameTheoryChromosome.clipped (c : GameTheoryChromosome α) : GameTheoryChromosome α where
  ambiguityTemp := clipTo c.ambiguityTemp (5 / 100) 5
  riskAversion := clipTo c.riskAversion (1 / 10) 10
  predatoryIntensity := clipTo c.predatoryIntensity 0 1
  logitBull := clipTo c.logitBull (-2) 2
  logitBear := clipTo c.logitBear (-2) 2
  logitPanic := clipTo c.logitPanic (-2) 2

def InferenceChromosome.clipped (c : InferenceChromosome α) : InferenceChromosome α where
  executionHorizon := clip c.executionHorizon 1 20
  hyperbolicDecay := clipTo c.hyperbolicDecay (1 / 100) 2
  profitTakeMult := clipTo c.profitTakeMult (1 / 2) 5
  stopLossMult := clipTo c.stopLossMult (1 / 2) 5
  holdingPeriod := clip c.holdingPeriod 5 100
  metaLabelThresh := clipTo c.metaLabelThresh (40 / 100) (85 / 100)

def RiskChromosome.clipped (c : RiskChromosome α) : RiskChromosome α where
  volTarget := clipTo c.volTarget (5 / 100) (40 / 100)
  maxWeight := clipTo c.maxWeight (5 / 100) (50 / 100)
  maxDrawdownLimit := clipTo c.maxDrawdownLimit (2 / 100) (30 / 100)
  turnoverBudget := clipTo c.turnoverBudget (5 / 100) 1

/-- The four parts clipped. -/
def StrategyChromosome.clipped (c : StrategyChromosome α) : StrategyChromosome α where
  representation := c.representation.clipped
  gameTheory := c.gameTheory.clipped
  inference := c.inference.clipped
  risk := c.risk.clipped

/-! ## What is read is clipped -/

theorem representationOf_clipped {b : ChromosomeBlock α} {c : RepresentationChromosome α} (h : representationOf b = .ok c) :
    ∃ raw, c = RepresentationChromosome.clipped raw := by
  obtain ⟨tauSlow, -, h⟩ := exists_of_bind_ok h
  obtain ⟨tauRatio, -, h⟩ := exists_of_bind_ok h
  obtain ⟨alphaDecay, -, h⟩ := exists_of_bind_ok h
  obtain ⟨fractionalD, -, h⟩ := exists_of_bind_ok h
  exact ⟨⟨tauSlow, tauRatio, alphaDecay, fractionalD⟩, (Except.ok.inj h).symm⟩

theorem gameTheoryOf_clipped {log : α → α} {b : ChromosomeBlock α} {c : GameTheoryChromosome α} (h : gameTheoryOf log b = .ok c) :
    ∃ raw, c = GameTheoryChromosome.clipped raw := by
  obtain ⟨ambiguityTemp, -, h⟩ := exists_of_bind_ok h
  obtain ⟨riskAversion, -, h⟩ := exists_of_bind_ok h
  obtain ⟨predatoryIntensity, -, h⟩ := exists_of_bind_ok h
  obtain ⟨⟨logitBull, logitBear, logitPanic⟩, -, h⟩ := exists_of_bind_ok h
  exact ⟨⟨ambiguityTemp, riskAversion, predatoryIntensity, logitBull, logitBear, logitPanic⟩, (Except.ok.inj h).symm⟩

theorem riskOf_clipped {b : ChromosomeBlock α} {c : RiskChromosome α} (h : riskOf b = .ok c) :
    ∃ raw, c = RiskChromosome.clipped raw := by
  obtain ⟨volTarget, -, h⟩ := exists_of_bind_ok h
  obtain ⟨maxWeight, -, h⟩ := exists_of_bind_ok h
  obtain ⟨maxDrawdownLimit, -, h⟩ := exists_of_bind_ok h
  obtain ⟨turnoverBudget, -, h⟩ := exists_of_bind_ok h
  exact ⟨⟨volTarget, maxWeight, maxDrawdownLimit, turnoverBudget⟩, (Except.ok.inj h).symm⟩

theorem inferenceOf_clipped [FloorRing α] {b : ChromosomeBlock α} {c : InferenceChromosome α} (h : inferenceOf b = .ok c) :
    ∃ raw, c = InferenceChromosome.clipped raw := by
  obtain ⟨executionHorizon, -, h⟩ := exists_of_bind_ok h
  obtain ⟨hyperbolicDecay, -, h⟩ := exists_of_bind_ok h
  obtain ⟨profitTakeMult, -, h⟩ := exists_of_bind_ok h
  obtain ⟨stopLossMult, -, h⟩ := exists_of_bind_ok h
  obtain ⟨holdingPeriod, -, h⟩ := exists_of_bind_ok h
  obtain ⟨metaLabelThresh, -, h⟩ := exists_of_bind_ok h
  exact ⟨⟨executionHorizon, hyperbolicDecay, profitTakeMult, stopLossMult, holdingPeriod, metaLabelThresh⟩,
    (Except.ok.inj h).symm⟩

/-- Whatever layout it comes from, a chromosome that is read is clipped. -/
theorem fromDict_clipped [FloorRing α] {log : α → α} {data : ChromosomeDict α} {c : StrategyChromosome α}
    (h : StrategyChromosome.fromDict log data = .ok c) : ∃ raw, c = StrategyChromosome.clipped raw := by
  obtain ⟨representation, hrepr, h⟩ := exists_of_bind_ok h
  obtain ⟨gameTheory, hgame, h⟩ := exists_of_bind_ok h
  obtain ⟨inference, hinfer, h⟩ := exists_of_bind_ok h
  obtain ⟨risk, hrisk, h⟩ := exists_of_bind_ok h
  obtain ⟨r, rfl⟩ := representationOf_clipped hrepr
  obtain ⟨g, rfl⟩ := gameTheoryOf_clipped hgame
  obtain ⟨i, rfl⟩ := inferenceOf_clipped hinfer
  obtain ⟨k, rfl⟩ := riskOf_clipped hrisk
  exact ⟨⟨r, g, i, k⟩, (Except.ok.inj h).symm⟩

/-! ## What is written is read from its primary keys -/

theorem representationOf_toDict [FloorRing α] (c : RepresentationChromosome α) :
    representationOf c.toDict = .ok c.clipped := rfl

theorem gameTheoryOf_toDict [FloorRing α] (log exp : α → α) (c : GameTheoryChromosome α) :
    gameTheoryOf log (c.toDict exp) = .ok c.clipped := rfl

theorem inferenceOf_toDict [FloorRing α] (c : InferenceChromosome α) : inferenceOf c.toDict = .ok c.clipped := rfl

theorem riskOf_toDict [FloorRing α] (c : RiskChromosome α) : riskOf c.toDict = .ok c.clipped := rfl

theorem fromDict_toDict [FloorRing α] (log exp : α → α) (c : StrategyChromosome α) :
    StrategyChromosome.fromDict log (c.toDict exp) = .ok c.clipped := by
  have hrepr : (c.toDict exp).block .repr = c.representation.toDict := rfl
  have hgame : (c.toDict exp).block .game = c.gameTheory.toDict exp := rfl
  have hinfer : (c.toDict exp).block .infer = c.inference.toDict := rfl
  have hrisk : (c.toDict exp).block .risk = c.risk.toDict := rfl
  rw [StrategyChromosome.fromDict, hrepr, hgame, hinfer, hrisk, representationOf_toDict, gameTheoryOf_toDict,
    inferenceOf_toDict, riskOf_toDict]
  rfl

variable [IsStrictOrderedRing α]

/-- Clipping twice is clipping once. -/
theorem StrategyChromosome.clipped_clipped (c : StrategyChromosome α) : c.clipped.clipped = c.clipped := by
  have hrepr : c.representation.clipped.clipped = c.representation.clipped := by
    ext
    all_goals exact clipTo_clipTo _ (by norm_num)
  have hgame : c.gameTheory.clipped.clipped = c.gameTheory.clipped := by
    ext
    all_goals exact clipTo_clipTo _ (by norm_num)
  have hinfer : c.inference.clipped.clipped = c.inference.clipped := by
    ext
    case executionHorizon | holdingPeriod => exact clip_clip_int _ (by norm_num)
    all_goals exact clipTo_clipTo _ (by norm_num)
  have hrisk : c.risk.clipped.clipped = c.risk.clipped := by
    ext
    all_goals exact clipTo_clipTo _ (by norm_num)
  rw [clipped, clipped, hrepr, hgame, hinfer, hrisk]

theorem clip_int_mem (k : ℤ) {lo hi : ℤ} (h : lo ≤ hi) :
    (((lo : ℚ)) : α) ≤ (clip k lo hi : ℤ) ∧ ((clip k lo hi : ℤ) : α) ≤ ((hi : ℚ) : α) := by
  obtain ⟨hlo, hhi⟩ := clip_mem (x := k) h
  rw [Rat.cast_intCast, Rat.cast_intCast, Int.cast_le, Int.cast_le]
  exact ⟨hlo, hhi⟩

/-- Every gene of a clipped chromosome is within the bounds of the registry. -/
theorem clipped_inBounds (c : StrategyChromosome α) : ∀ g ∈ geneRegistry, ∃ x, c.clipped.getattr g.block g.name = some x ∧
    (g.lowerBound : α) ≤ x ∧ x ≤ (g.upperBound : α) := by
  intro g hg
  simp only [geneRegistry, List.mem_cons, List.not_mem_nil, or_false] at hg
  rcases hg with rfl | rfl | rfl | rfl | rfl | rfl | rfl | rfl | rfl | rfl | rfl | rfl | rfl | rfl | rfl | rfl | rfl
      | rfl | rfl | rfl
  case inr.inr.inr.inr.inr.inr.inr.inr.inr.inr.inl => exact ⟨_, rfl, clip_int_mem _ (by norm_num)⟩
  case inr.inr.inr.inr.inr.inr.inr.inr.inr.inr.inr.inr.inr.inr.inl => exact ⟨_, rfl, clip_int_mem _ (by norm_num)⟩
  all_goals exact ⟨_, rfl, clipTo_mem _ (by norm_num)⟩

/-- The fast half-life of a clipped chromosome is below the slow one. -/
theorem clipped_tauFast_lt (c : StrategyChromosome α) : c.clipped.representation.tauFast < c.clipped.representation.tauSlow := by
  obtain ⟨hslow, -⟩ := clipTo_mem c.representation.tauSlow (show (14400 : ℚ) ≤ 604800 by norm_num)
  obtain ⟨-, hratio⟩ := clipTo_mem c.representation.tauRatio (show (2 / 100 : ℚ) ≤ 50 / 100 by norm_num)
  refine mul_lt_of_lt_one_left (lt_of_lt_of_le ?_ hslow) (lt_of_le_of_lt hratio ?_)
  · exact Rat.cast_pos.2 (by norm_num)
  · exact (Rat.cast_lt.2 (show (50 / 100 : ℚ) < 1 by norm_num)).trans_eq Rat.cast_one

/-- A chromosome that was read is within the bounds of the registry, with the fast half-life below the slow one, and is what its
own dictionary reads back as. -/
theorem fromDict_roundTrip [FloorRing α] (log exp : α → α) {data : ChromosomeDict α} {c : StrategyChromosome α}
    (h : StrategyChromosome.fromDict log data = .ok c) :
    (∀ g ∈ geneRegistry, ∃ x, c.getattr g.block g.name = some x ∧ (g.lowerBound : α) ≤ x ∧ x ≤ (g.upperBound : α)) ∧
      c.representation.tauFast < c.representation.tauSlow ∧ StrategyChromosome.fromDict log (c.toDict exp) = .ok c := by
  obtain ⟨raw, rfl⟩ := fromDict_clipped h
  exact ⟨clipped_inBounds raw, clipped_tauFast_lt raw, (fromDict_toDict log exp _).trans (congrArg Except.ok raw.clipped_clipped)⟩

end Storage

/-- A flat dictionary with legacy aliases only. -/
noncomputable def legacyDict : ChromosomeDict ℝ where
  blocks := ∅
  entries := (∅ : ChromosomeBlock ℝ).setAll
    [(.alpha, .float (lit (7 / 10))), (.riskAversionLambda, .int 20), (.sensitivity, .float (lit (1 / 10))),
      (.beliefPrior, .list [lit (2 / 10), lit (3 / 10), lit (5 / 10)])]

theorem fromDict_roundTrip_legacy : ∃ c, StrategyChromosome.fromDict Real.log legacyDict = .ok c ∧
    c.representation.tauFast < c.representation.tauSlow ∧ StrategyChromosome.fromDict Real.log (c.toDict Real.exp) = .ok c := by
  obtain ⟨c, hc⟩ : ∃ c, StrategyChromosome.fromDict Real.log legacyDict = .ok c := ⟨_, rfl⟩
  exact ⟨c, hc, (fromDict_roundTrip Real.log Real.exp hc).2⟩

end Quant
