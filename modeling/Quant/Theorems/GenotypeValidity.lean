import Mathlib.Analysis.SpecialFunctions.Trigonometric.Basic
import Mathlib.Analysis.SpecialFunctions.Log.Basic
import Mathlib.Tactic.Linarith
import Mathlib.Tactic.NormNum
import Mathlib.Tactic.Positivity
import Quant.Pylib.Steps
import Quant.Services.GenotypeService

/-!
# The genotypes of an evolution

Over the reals. A genotype is valid when its blocks read back as a chromosome without clipping and what lies beside the genes
agrees with them. Seeds are valid as far as their half-lives stay within the registry; a child is valid when the noise of its
mutation is zero, for the mutation moves a gene and leaves what was derived from it.
-/

namespace Quant

open Pylib

noncomputable section

/-! ## Values in a block -/

/-- A value within the bounds of a gene. -/
def InBounds (n : GeneName) (x : ℝ) : Prop := ((geneOf n).lowerBound : ℝ) ≤ x ∧ x ≤ ((geneOf n).upperBound : ℝ)

/-- A block has a gene as a number within its bounds. -/
def HoldsFloat (b : ChromosomeBlock ℝ) (n : GeneName) (x : ℝ) : Prop := b.get? (.gene n) = some (.float x) ∧ InBounds n x

/-- A block has a gene as a whole number within its bounds. -/
def HoldsInt (b : ChromosomeBlock ℝ) (n : GeneName) (k : ℤ) : Prop := b.get? (.gene n) = some (.int k) ∧ InBounds n k

/-- The number a block has under a key. -/
def stored (b : ChromosomeBlock ℝ) (k : ChromosomeKey) : Option ℝ := (b.get? k).bind fun v => v.toFloat.toOption

variable {b : ChromosomeBlock ℝ} {n : GeneName} {x : ℝ} {k : ℤ}

theorem geneValue_of_get? {v : BlockValue ℝ} (h : b.get? (.gene n) = some v) (aliases : List ChromosomeKey) :
    geneValue b n aliases = v := by
  rw [geneValue, List.findSome?_cons, h]
  rfl

theorem HoldsFloat.toFloat (h : HoldsFloat b n x) (aliases : List ChromosomeKey) : (geneValue b n aliases).toFloat = .ok x := by
  rw [geneValue_of_get? h.1]
  rfl

theorem HoldsInt.toInt (h : HoldsInt b n k) (aliases : List ChromosomeKey) : (geneValue b n aliases).toInt = .ok k := by
  rw [geneValue_of_get? h.1]
  rfl

theorem HoldsFloat.stored (h : HoldsFloat b n x) : stored b (.gene n) = some x := by
  rw [Quant.stored, h.1]
  rfl

theorem HoldsInt.stored (h : HoldsInt b n k) : Quant.stored b (.gene n) = some (k : ℝ) := by
  rw [Quant.stored, h.1]
  rfl

/-! ## Blocks that read back -/

/-- The representation block of a chromosome within the registry's bounds. -/
structure GoodRepr (b : ChromosomeBlock ℝ) (c : RepresentationChromosome ℝ) : Prop where
  tauSlow : HoldsFloat b .tauSlow c.tauSlow
  tauRatio : HoldsFloat b .tauRatio c.tauRatio
  alphaDecay : HoldsFloat b .alphaDecay c.alphaDecay
  fractionalD : HoldsFloat b .fractionalD c.fractionalD
  tauFast : b.get? .tauFast = some (.float (c.tauRatio * c.tauSlow))
  alpha : b.get? .alpha = some (.float c.alphaDecay)

/-- The game block of a chromosome within the registry's bounds whose risk aversion is one that the mutation keeps. -/
structure GoodGame (b : ChromosomeBlock ℝ) (c : GameTheoryChromosome ℝ) : Prop where
  ambiguityTemp : HoldsFloat b .ambiguityTemp c.ambiguityTemp
  riskAversion : HoldsFloat b .riskAversion c.riskAversion
  predatoryIntensity : HoldsFloat b .predatoryIntensity c.predatoryIntensity
  logitBull : HoldsFloat b .logitBull c.logitBull
  logitBear : HoldsFloat b .logitBear c.logitBear
  logitPanic : HoldsFloat b .logitPanic c.logitPanic
  riskAversionLambda : b.get? .riskAversionLambda = some (.float c.riskAversion)
  kept : 1 / 2 ≤ c.riskAversion

/-- The inference block of a chromosome within the registry's bounds whose profit taking is one that the mutation keeps. -/
structure GoodInfer (b : ChromosomeBlock ℝ) (c : InferenceChromosome ℝ) : Prop where
  executionHorizon : HoldsInt b .executionHorizon c.executionHorizon
  hyperbolicDecay : HoldsFloat b .hyperbolicDecay c.hyperbolicDecay
  profitTakeMult : HoldsFloat b .profitTakeMult c.profitTakeMult
  stopLossMult : HoldsFloat b .stopLossMult c.stopLossMult
  holdingPeriod : HoldsInt b .holdingPeriod c.holdingPeriod
  metaLabelThresh : HoldsFloat b .metaLabelThresh c.metaLabelThresh
  sensitivity : b.get? .sensitivity = some (.float c.metaLabelThresh)
  kept : 1 ≤ c.profitTakeMult

/-- The risk block of a chromosome within the registry's bounds. -/
structure GoodRisk (b : ChromosomeBlock ℝ) (c : RiskChromosome ℝ) : Prop where
  volTarget : HoldsFloat b .volTarget c.volTarget
  maxWeight : HoldsFloat b .maxWeight c.maxWeight
  maxDrawdownLimit : HoldsFloat b .maxDrawdownLimit c.maxDrawdownLimit
  turnoverBudget : HoldsFloat b .turnoverBudget c.turnoverBudget

/-- A whole number within the bounds of a discrete gene. -/
theorem InBounds.clip_int {lo hi : ℤ} (h : InBounds n k) (hlo : (geneOf n).lowerBound = lo) (hhi : (geneOf n).upperBound = hi) :
    clip k lo hi = k := by
  obtain ⟨h1, h2⟩ := h
  rw [hlo, Rat.cast_intCast, Int.cast_le] at h1
  rw [hhi, Rat.cast_intCast, Int.cast_le] at h2
  exact clip_of_mem ⟨h1, h2⟩

theorem GoodRepr.representationOf {c : RepresentationChromosome ℝ} (h : GoodRepr b c) : representationOf b = .ok c := by
  have hratio : tauRatioOf b c.tauSlow = .ok c.tauRatio := by
    rw [tauRatioOf, h.tauRatio.1]
    rfl
  have hclip : (⟨clipTo c.tauSlow 14400 604800, clipTo c.tauRatio (2 / 100) (50 / 100), clipTo c.alphaDecay 0 1,
      clipTo c.fractionalD (5 / 100) (95 / 100)⟩ : RepresentationChromosome ℝ) = c := by
    ext
    · exact clip_of_mem h.tauSlow.2
    · exact clip_of_mem h.tauRatio.2
    · exact clip_of_mem h.alphaDecay.2
    · exact clip_of_mem h.fractionalD.2
  simp only [Quant.representationOf, h.tauSlow.toFloat, h.alphaDecay.toFloat, h.fractionalD.toFloat, bind,
    Except.bind, hratio, hclip]

theorem GoodGame.gameTheoryOf {c : GameTheoryChromosome ℝ} (h : GoodGame b c) (log : ℝ → ℝ) : gameTheoryOf log b = .ok c := by
  have hlogits : logitsOf log b = .ok (c.logitBull, c.logitBear, c.logitPanic) := by
    rw [logitsOf, h.logitBull.1, h.logitBear.1, h.logitPanic.1]
    rfl
  have hclip : (⟨clipTo c.ambiguityTemp (5 / 100) 5, clipTo c.riskAversion (1 / 10) 10, clipTo c.predatoryIntensity 0 1,
      clipTo c.logitBull (-2) 2, clipTo c.logitBear (-2) 2, clipTo c.logitPanic (-2) 2⟩ : GameTheoryChromosome ℝ) = c := by
    ext
    · exact clip_of_mem h.ambiguityTemp.2
    · exact clip_of_mem h.riskAversion.2
    · exact clip_of_mem h.predatoryIntensity.2
    · exact clip_of_mem h.logitBull.2
    · exact clip_of_mem h.logitBear.2
    · exact clip_of_mem h.logitPanic.2
  rw [Quant.gameTheoryOf, h.ambiguityTemp.toFloat, h.riskAversion.toFloat, h.predatoryIntensity.toFloat, hlogits]
  exact congrArg Except.ok hclip

theorem GoodInfer.inferenceOf {c : InferenceChromosome ℝ} (h : GoodInfer b c) : inferenceOf b = .ok c := by
  have hclip : (⟨clip c.executionHorizon 1 20, clipTo c.hyperbolicDecay (1 / 100) 2, clipTo c.profitTakeMult (1 / 2) 5,
      clipTo c.stopLossMult (1 / 2) 5, clip c.holdingPeriod 5 100, clipTo c.metaLabelThresh (40 / 100) (85 / 100)⟩ :
      InferenceChromosome ℝ) = c := by
    ext
    · exact h.executionHorizon.2.clip_int rfl rfl
    · exact clip_of_mem h.hyperbolicDecay.2
    · exact clip_of_mem h.profitTakeMult.2
    · exact clip_of_mem h.stopLossMult.2
    · exact h.holdingPeriod.2.clip_int rfl rfl
    · exact clip_of_mem h.metaLabelThresh.2
  rw [Quant.inferenceOf, h.executionHorizon.toInt, h.hyperbolicDecay.toFloat, h.profitTakeMult.toFloat, h.stopLossMult.toFloat,
    h.holdingPeriod.toInt, h.metaLabelThresh.toFloat]
  exact congrArg Except.ok hclip

theorem GoodRisk.riskOf {c : RiskChromosome ℝ} (h : GoodRisk b c) : riskOf b = .ok c := by
  have hclip : (⟨clipTo c.volTarget (5 / 100) (40 / 100), clipTo c.maxWeight (5 / 100) (50 / 100),
      clipTo c.maxDrawdownLimit (2 / 100) (30 / 100), clipTo c.turnoverBudget (5 / 100) 1⟩ : RiskChromosome ℝ) = c := by
    ext
    · exact clip_of_mem h.volTarget.2
    · exact clip_of_mem h.maxWeight.2
    · exact clip_of_mem h.maxDrawdownLimit.2
    · exact clip_of_mem h.turnoverBudget.2
  rw [Quant.riskOf, h.volTarget.toFloat, h.maxWeight.toFloat, h.maxDrawdownLimit.toFloat, h.turnoverBudget.toFloat]
  exact congrArg Except.ok hclip

/-! ## Valid genotypes -/

/-- The four blocks of a genotype. -/
def Genotype.blocks {α : Type} (g : Genotype α) : Block → ChromosomeBlock α
  | .repr => g.chromosomeRepr
  | .game => g.chromosomeGame
  | .infer => g.chromosomeInfer
  | .risk => g.chromosomeRisk

/-- The dictionary of four blocks. -/
def dictOf (blocks : Block → ChromosomeBlock ℝ) : ChromosomeDict ℝ where
  blocks := (∅ : Dict Block (ChromosomeBlock ℝ)).setAll ([Block.repr, .game, .infer, .risk].map fun b => (b, blocks b))

/-- The blocks read back as a chromosome without clipping, within the registry's bounds, and agree with what is derived from
it. -/
structure ReadsBack (blocks : Block → ChromosomeBlock ℝ) (c : StrategyChromosome ℝ) : Prop where
  decoded : StrategyChromosome.fromDict Real.log (dictOf blocks) = .ok c
  unclipped : ∀ g ∈ geneRegistry, ∃ x, stored (blocks g.block) (.gene g.name) = some x ∧ c.getattr g.block g.name = some x ∧
    (g.lowerBound : ℝ) ≤ x ∧ x ≤ (g.upperBound : ℝ)
  tauFast : stored (blocks .repr) .tauFast = some (c.representation.tauRatio * c.representation.tauSlow)
  riskAversionLambda : stored (blocks .game) .riskAversionLambda = some c.gameTheory.riskAversion
  alpha : stored (blocks .repr) .alpha = some c.representation.alphaDecay
  sensitivity : stored (blocks .infer) .sensitivity = some c.inference.metaLabelThresh

/-- A valid genotype, by its blocks. -/
def ValidBlocks (blocks : Block → ChromosomeBlock ℝ) : Prop := ∃ c, ReadsBack blocks c

/-- The invariant of an evolution without noise. -/
structure GoodBlocks (blocks : Block → ChromosomeBlock ℝ) (c : StrategyChromosome ℝ) : Prop where
  repr : GoodRepr (blocks .repr) c.representation
  game : GoodGame (blocks .game) c.gameTheory
  infer : GoodInfer (blocks .infer) c.inference
  risk : GoodRisk (blocks .risk) c.risk

theorem block_dictOf (blocks : Block → ChromosomeBlock ℝ) (b : Block) : (dictOf blocks).block b = blocks b := by
  cases b <;> rfl

theorem GoodBlocks.readsBack {blocks : Block → ChromosomeBlock ℝ} {c : StrategyChromosome ℝ} (h : GoodBlocks blocks c) :
    ReadsBack blocks c where
  decoded := by
    simp only [StrategyChromosome.fromDict, block_dictOf, h.repr.representationOf, h.game.gameTheoryOf, h.infer.inferenceOf,
      h.risk.riskOf, bind, Except.bind]
  unclipped := by
    have hfloat : ∀ {b n x}, HoldsFloat (blocks b) n x → c.getattr b n = some x →
        ∃ y, stored (blocks b) (.gene n) = some y ∧ c.getattr b n = some y ∧ InBounds n y :=
      fun h hc => ⟨_, h.stored, hc, h.2⟩
    have hint : ∀ {b n} {k : ℤ}, HoldsInt (blocks b) n k → c.getattr b n = some (k : ℝ) →
        ∃ y, stored (blocks b) (.gene n) = some y ∧ c.getattr b n = some y ∧ InBounds n y :=
      fun h hc => ⟨_, h.stored, hc, h.2⟩
    intro g hg
    simp only [geneRegistry, List.mem_cons, List.not_mem_nil, or_false] at hg
    rcases hg with rfl | rfl | rfl | rfl | rfl | rfl | rfl | rfl | rfl | rfl | rfl | rfl | rfl | rfl | rfl | rfl | rfl
        | rfl | rfl | rfl
    · exact hfloat h.repr.tauSlow rfl
    · exact hfloat h.repr.tauRatio rfl
    · exact hfloat h.repr.alphaDecay rfl
    · exact hfloat h.repr.fractionalD rfl
    · exact hfloat h.game.ambiguityTemp rfl
    · exact hfloat h.game.riskAversion rfl
    · exact hfloat h.game.predatoryIntensity rfl
    · exact hfloat h.game.logitBull rfl
    · exact hfloat h.game.logitBear rfl
    · exact hfloat h.game.logitPanic rfl
    · exact hint h.infer.executionHorizon rfl
    · exact hfloat h.infer.hyperbolicDecay rfl
    · exact hfloat h.infer.profitTakeMult rfl
    · exact hfloat h.infer.stopLossMult rfl
    · exact hint h.infer.holdingPeriod rfl
    · exact hfloat h.infer.metaLabelThresh rfl
    · exact hfloat h.risk.volTarget rfl
    · exact hfloat h.risk.maxWeight rfl
    · exact hfloat h.risk.maxDrawdownLimit rfl
    · exact hfloat h.risk.turnoverBudget rfl
  tauFast := by
    rw [stored, h.repr.tauFast]
    rfl
  riskAversionLambda := by
    rw [stored, h.game.riskAversionLambda]
    rfl
  alpha := by
    rw [stored, h.repr.alpha]
    rfl
  sensitivity := by
    rw [stored, h.infer.sensitivity]
    rfl

/-- The value of a gene in the registry: what the blocks have is what is read back, within the bounds. -/
theorem ReadsBack.gene {blocks : Block → ChromosomeBlock ℝ} {c : StrategyChromosome ℝ} (h : ReadsBack blocks c)
    (n : GeneName) {x : ℝ}
    (hx : stored (blocks (geneOf n).block) (.gene n) = some x) : c.getattr (geneOf n).block n = some x ∧ InBounds n x := by
  have hn : geneOf n ∈ geneRegistry ∧ (geneOf n).name = n := by
    cases n <;> decide +kernel
  obtain ⟨y, hy, hc, hbounds⟩ := h.unclipped _ hn.1
  rw [hn.2] at hy hc
  rw [hx] at hy
  cases hy
  exact ⟨hc, hbounds⟩

/-! ## Seeds -/

/-- A chromosome within the registry's bounds, and within those of the mutation. -/
structure WithinBounds (c : StrategyChromosome ℝ) : Prop where
  gene : ∀ n {x}, c.getattr (geneOf n).block n = some x → InBounds n x
  riskAversion : 1 / 2 ≤ c.gameTheory.riskAversion
  profitTakeMult : 1 ≤ c.inference.profitTakeMult

section ToDict

variable {c : StrategyChromosome ℝ} (exp : ℝ → ℝ) (h : WithinBounds c)

include h

theorem goodRepr_toDict : GoodRepr ((c.toDict exp).block .repr) c.representation where
  tauSlow := ⟨rfl, h.gene .tauSlow rfl⟩
  tauRatio := ⟨rfl, h.gene .tauRatio rfl⟩
  alphaDecay := ⟨rfl, h.gene .alphaDecay rfl⟩
  fractionalD := ⟨rfl, h.gene .fractionalD rfl⟩
  tauFast := rfl
  alpha := rfl

theorem goodGame_toDict : GoodGame ((c.toDict exp).block .game) c.gameTheory where
  ambiguityTemp := ⟨rfl, h.gene .ambiguityTemp rfl⟩
  riskAversion := ⟨rfl, h.gene .riskAversion rfl⟩
  predatoryIntensity := ⟨rfl, h.gene .predatoryIntensity rfl⟩
  logitBull := ⟨rfl, h.gene .logitBull rfl⟩
  logitBear := ⟨rfl, h.gene .logitBear rfl⟩
  logitPanic := ⟨rfl, h.gene .logitPanic rfl⟩
  riskAversionLambda := rfl
  kept := h.riskAversion

theorem goodInfer_toDict : GoodInfer ((c.toDict exp).block .infer) c.inference where
  executionHorizon := ⟨rfl, h.gene .executionHorizon rfl⟩
  hyperbolicDecay := ⟨rfl, h.gene .hyperbolicDecay rfl⟩
  profitTakeMult := ⟨rfl, h.gene .profitTakeMult rfl⟩
  stopLossMult := ⟨rfl, h.gene .stopLossMult rfl⟩
  holdingPeriod := ⟨rfl, h.gene .holdingPeriod rfl⟩
  metaLabelThresh := ⟨rfl, h.gene .metaLabelThresh rfl⟩
  sensitivity := rfl
  kept := h.profitTakeMult

theorem goodRisk_toDict : GoodRisk ((c.toDict exp).block .risk) c.risk where
  volTarget := ⟨rfl, h.gene .volTarget rfl⟩
  maxWeight := ⟨rfl, h.gene .maxWeight rfl⟩
  maxDrawdownLimit := ⟨rfl, h.gene .maxDrawdownLimit rfl⟩
  turnoverBudget := ⟨rfl, h.gene .turnoverBudget rfl⟩

/-- The blocks that a chromosome within the bounds is written to read back. -/
theorem goodBlocks_toDict : GoodBlocks (c.toDict exp).block c where
  repr := goodRepr_toDict exp h
  game := goodGame_toDict exp h
  infer := goodInfer_toDict exp h
  risk := goodRisk_toDict exp h

end ToDict

open GenotypeService

theorem inBounds_lit {q : ℚ} (h : (geneOf n).lowerBound ≤ q ∧ q ≤ (geneOf n).upperBound) : InBounds n (lit q) :=
  ⟨Rat.cast_le.2 h.1, Rat.cast_le.2 h.2⟩

theorem inBounds_of_eq {q : ℚ} (hx : x = lit q) (h : (geneOf n).lowerBound ≤ q ∧ q ≤ (geneOf n).upperBound) : InBounds n x :=
  hx ▸ inBounds_lit h

/-- The slow half-life of a seed is within the registry's bounds up to the 121st one. -/
theorem tauSlow_seed_le_iff (i : ℕ) :
    (seedChromosome i : StrategyChromosome ℝ).representation.tauSlow ≤ ((604800 : ℚ) : ℝ) ↔ i ≤ 120 := by
  have hcast : (i : ℝ) ≤ (120 : ℕ) ↔ i ≤ 120 := Nat.cast_le
  rw [← hcast]
  simp only [seedChromosome, lit]
  push_cast
  constructor <;> intro h <;> linarith

theorem withinBounds_seedChromosome {i : ℕ} (hi : i ≤ 120) : WithinBounds (seedChromosome i) where
  gene := by
    have hnonneg : (0 : ℝ) ≤ i := Nat.cast_nonneg i
    have hle : (i : ℝ) ≤ 120 := by exact_mod_cast hi
    have hratio : ((i % 10 : ℕ) : ℝ) ≤ 9 := by exact_mod_cast Nat.le_of_lt_succ (Nat.mod_lt i (by norm_num))
    intro n x hx
    cases n <;> cases hx
    · refine ⟨?_, (tauSlow_seed_le_iff i).2 hi⟩
      change ((14400 : ℚ) : ℝ) ≤ lit 86400 * (1 + i * lit (5 / 100))
      simp only [lit]
      push_cast
      linarith
    · have hmod : (0 : ℝ) ≤ ((i % 10 : ℕ) : ℝ) := Nat.cast_nonneg _
      change ((2 / 100 : ℚ) : ℝ) ≤ lit (5 / 100) + lit (1 / 100) * ((i % 10 : ℕ) : ℝ) ∧
        lit (5 / 100) + lit (1 / 100) * ((i % 10 : ℕ) : ℝ) ≤ ((50 / 100 : ℚ) : ℝ)
      simp only [lit]
      push_cast at hmod hratio ⊢
      constructor <;> linarith
    · exact inBounds_lit (by decide +kernel)
    · exact inBounds_lit (by decide +kernel)
    · exact inBounds_of_eq (show (1 : ℝ) = lit 1 from Rat.cast_one.symm) (by decide +kernel)
    · change ((1 / 10 : ℚ) : ℝ) ≤ 1 + i * lit (5 / 100) ∧ 1 + i * lit (5 / 100) ≤ ((10 : ℚ) : ℝ)
      simp only [lit]
      push_cast
      constructor <;> linarith
    · exact inBounds_lit (by decide +kernel)
    · exact inBounds_of_eq (show (0 : ℝ) = lit 0 from Rat.cast_zero.symm) (by decide)
    · exact inBounds_of_eq (show (0 : ℝ) = lit 0 from Rat.cast_zero.symm) (by decide)
    · exact inBounds_of_eq (show (-1 : ℝ) = lit (-1) by rw [lit, Rat.cast_neg, Rat.cast_one]) (by decide)
    · have hbounds : 1 ≤ (5 + i % 5 : ℤ) ∧ (5 + i % 5 : ℤ) ≤ 20 := by omega
      change ((1 : ℚ) : ℝ) ≤ ((5 + i % 5 : ℤ) : ℝ) ∧ ((5 + i % 5 : ℤ) : ℝ) ≤ ((20 : ℚ) : ℝ)
      exact ⟨by exact_mod_cast hbounds.1, by exact_mod_cast hbounds.2⟩
    · exact inBounds_lit (by decide +kernel)
    · exact inBounds_lit (by decide +kernel)
    · exact inBounds_lit (by decide +kernel)
    · exact inBounds_of_eq (show ((20 : ℤ) : ℝ) = lit 20 by simp only [lit]; push_cast; rfl) (by decide)
    all_goals exact inBounds_lit (by decide +kernel)
  riskAversion := by
    have hnonneg : (0 : ℝ) ≤ i := Nat.cast_nonneg i
    change (1 / 2 : ℝ) ≤ 1 + i * lit (5 / 100)
    simp only [lit]
    push_cast
    linarith
  profitTakeMult := by
    change (1 : ℝ) ≤ lit 2
    simp only [lit]
    norm_num

/-! ## Mutation -/

/-- `math.tan`: the double at -π/2 lies beside the pole. -/
def mathTan (x : ℝ) : ℝ := if x = -(Real.pi / 2) then -16331239353195370 else Real.tan x

/-- The functions of `math` on the reals. -/
def realMath : GenotypeMath ℝ where
  exp := Real.exp
  tan := mathTan
  pi := Real.pi

theorem mathTan_eq_zero_iff {x : ℝ} (hlo : -(Real.pi / 2) ≤ x) (hhi : x < Real.pi / 2) : mathTan x = 0 ↔ x = 0 := by
  have hpi := Real.pi_pos
  rw [mathTan]
  split_ifs with hx
  · constructor
    · intro h
      norm_num at h
    · rintro rfl
      linarith
  · have hlt := lt_of_le_of_ne hlo fun h => hx h.symm
    rw [Real.tan_eq_sin_div_cos, div_eq_zero_iff, or_iff_left (Real.cos_pos_of_mem_Ioo ⟨hlt, hhi⟩).ne']
    exact Real.sin_eq_zero_iff_of_lt_of_lt (by linarith) (by linarith)

theorem cauchyNoise_mem (u : UnitDraw ℝ) : -(1 / 5) ≤ cauchyNoise realMath u ∧ cauchyNoise realMath u ≤ 1 / 5 := by
  have hlit : (lit (-2 / 10) : ℝ) = -(1 / 5) ∧ (lit (2 / 10) : ℝ) = 1 / 5 := by
    simp only [lit]
    constructor <;> norm_num
  rw [cauchyNoise, hlit.1, hlit.2]
  exact ⟨le_max_left _ _, max_le (by norm_num) (min_le_left _ _)⟩

/-- There is no noise exactly when the draw is in the middle. -/
theorem cauchyNoise_eq_zero_iff (u : UnitDraw ℝ) : cauchyNoise realMath u = 0 ↔ u.1 = 1 / 2 := by
  have hpi := Real.pi_pos
  have hlit : (lit (-2 / 10) : ℝ) < 0 ∧ (0 : ℝ) < lit (2 / 10) ∧ (0 : ℝ) < lit (5 / 100) ∧ (lit (1 / 2) : ℝ) = 1 / 2 := by
    simp only [lit]
    norm_num
  obtain ⟨hneg, hpos, hscale, hhalf⟩ := hlit
  have hclip : ∀ z : ℝ, max (lit (-2 / 10)) (min (lit (2 / 10)) z) = 0 ↔ z = 0 := by
    intro z
    constructor
    · intro h
      rcases le_total z (lit (2 / 10)) with hz | hz
      · rw [min_eq_right hz] at h
        rcases le_total z (lit (-2 / 10)) with hz' | hz'
        · rw [max_eq_left hz'] at h
          exact absurd h hneg.ne
        · rwa [max_eq_right hz'] at h
      · rw [min_eq_left hz, max_eq_right (hneg.trans hpos).le] at h
        exact absurd h hpos.ne'
    · rintro rfl
      rw [min_eq_right hpos.le, max_eq_right hneg.le]
  rw [cauchyNoise, hclip, mul_eq_zero, or_iff_left hscale.ne', hhalf]
  change mathTan (Real.pi * (u.1 - 1 / 2)) = 0 ↔ _
  rw [mathTan_eq_zero_iff (by nlinarith [u.2.1]) (by nlinarith [u.2.2]), mul_eq_zero, or_iff_right hpi.ne', sub_eq_zero]

theorem readGene_of_get? (h : b.get? (.gene n) = some (.float x)) (dflt : ℚ) : readGene b n dflt = .ok x := by
  rw [readGene, Dict.getD_of_get?_some _ h]
  rfl

theorem mutateGene_of_get? (h : b.get? (.gene n) = some (.float x)) (dflt : ℚ) (f : ℝ → ℝ) :
    mutateGene n dflt f b = .ok (setGene b n (f x)) := by
  rw [mutateGene, readGene_of_get? h]
  rfl

/-- A mutation that moves a gene nowhere. -/
theorem mutateGene_self (h : b.get? (.gene n) = some (.float x)) (dflt : ℚ) {f : ℝ → ℝ} (hf : f x = x) :
    mutateGene n dflt f b = .ok b := by
  rw [mutateGene_of_get? h, hf, setGene, Dict.set_of_get?_some h]

theorem lit_clip {lo hi : ℚ} {y : ℝ} (hy : y = x) (hlo : (lo : ℝ) ≤ x) (hhi : x ≤ (hi : ℝ)) :
    max (lit lo) (min (lit hi) y) = x := by
  rw [hy, lit, lit, min_eq_right hhi, max_eq_right hlo]

theorem mutateRepr_eq {c : RepresentationChromosome ℝ} (h : GoodRepr b c) (noise : ℝ) :
    mutateRepr noise b = .ok (setGene (setGene b .tauSlow (max (lit 3600) (c.tauSlow * (1 + noise)))) .tauRatio
      (max (lit (1 / 100)) (min (lit (1 / 2)) (c.tauRatio + noise * lit (1 / 10))))) := by
  have hratio : (setGene b .tauSlow (max (lit 3600) (c.tauSlow * (1 + noise)))).get? (.gene .tauRatio) =
      some (.float c.tauRatio) := by
    rw [setGene, Dict.get?_set_of_ne _ _ (by decide)]
    exact h.tauRatio.1
  rw [mutateRepr, mutateGene_of_get? h.tauSlow.1]
  exact mutateGene_of_get? hratio _ _

theorem mutateRepr_zero {c : RepresentationChromosome ℝ} (h : GoodRepr b c) : mutateRepr 0 b = .ok b := by
  have hslow : max (lit 3600) (c.tauSlow * (1 + 0)) = c.tauSlow := by
    rw [add_zero, mul_one]
    exact max_eq_right (le_trans (Rat.cast_le.2 (by decide)) h.tauSlow.2.1)
  have hlo : ((1 / 100 : ℚ) : ℝ) ≤ c.tauRatio := le_trans (Rat.cast_le.2 (by decide +kernel)) h.tauRatio.2.1
  have hhi : c.tauRatio ≤ ((1 / 2 : ℚ) : ℝ) := h.tauRatio.2.2.trans (Rat.cast_le.2 (by decide +kernel))
  rw [mutateRepr, mutateGene_self h.tauSlow.1 _ hslow]
  exact mutateGene_self h.tauRatio.1 _ (lit_clip (by ring) hlo hhi)

theorem mutateGame_zero {c : GameTheoryChromosome ℝ} (h : GoodGame b c) : mutateGame 0 b = .ok b := by
  have hlo : ((1 / 2 : ℚ) : ℝ) ≤ c.riskAversion := by
    push_cast
    exact h.kept
  exact mutateGene_self h.riskAversion.1 _ (lit_clip (by ring) hlo h.riskAversion.2.2)

theorem mutateInfer_zero {c : InferenceChromosome ℝ} (h : GoodInfer b c) : mutateInfer 0 b = .ok b := by
  have hlo : ((1 : ℚ) : ℝ) ≤ c.profitTakeMult := by
    push_cast
    exact h.kept
  rw [mutateInfer, mutateGene_self h.profitTakeMult.1 _ (lit_clip (by ring) hlo h.profitTakeMult.2.2)]
  exact mutateGene_self h.stopLossMult.1 _ (lit_clip (by ring) h.stopLossMult.2.1 h.stopLossMult.2.2)

theorem mutateRisk_zero {c : RiskChromosome ℝ} (h : GoodRisk b c) : mutateRisk 0 b = .ok b := by
  have hhi : c.volTarget ≤ ((1 / 2 : ℚ) : ℝ) := h.volTarget.2.2.trans (Rat.cast_le.2 (by decide +kernel))
  exact mutateGene_self h.volTarget.1 _ (lit_clip (by ring) h.volTarget.2.1 hhi)

/-- A mutation with noise moves the product of the half-life and the ratio, up or down with the noise. -/
theorem mutated_tauFast_ne {τ r noise : ℝ} (hτ : 14400 ≤ τ) (hlo : 1 / 50 ≤ r) (hhi : r ≤ 1 / 2) (hnoise : -(1 / 5) ≤ noise)
    (hne : noise ≠ 0) : max (lit (1 / 100)) (min (lit (1 / 2)) (r + noise * lit (1 / 10))) *
    max (lit 3600) (τ * (1 + noise)) ≠ r * τ := by
  have hlit : (lit (1 / 100) : ℝ) = 1 / 100 ∧ (lit (1 / 2) : ℝ) = 1 / 2 ∧ (lit (1 / 10) : ℝ) = 1 / 10 ∧
      (lit 3600 : ℝ) = 3600 := by
    simp only [lit]
    norm_num
  rw [hlit.1, hlit.2.1, hlit.2.2.1, hlit.2.2.2]
  have hslow : max 3600 (τ * (1 + noise)) = τ * (1 + noise) := max_eq_right (by nlinarith)
  rw [hslow]
  rcases lt_or_gt_of_ne hne with hneg | hpos
  · have hratio : max (1 / 100) (min (1 / 2) (r + noise * (1 / 10))) ≤ r :=
      max_le (by linarith) ((min_le_right _ _).trans (by linarith))
    refine ne_of_lt ?_
    calc max (1 / 100) (min (1 / 2) (r + noise * (1 / 10))) * (τ * (1 + noise)) ≤ r * (τ * (1 + noise)) :=
          mul_le_mul_of_nonneg_right hratio (by nlinarith)
      _ < r * τ := mul_lt_mul_of_pos_left (by nlinarith) (by linarith)
  · have hratio : r ≤ max (1 / 100) (min (1 / 2) (r + noise * (1 / 10))) :=
      (le_min hhi (by linarith)).trans (le_max_right _ _)
    refine ne_of_gt ?_
    calc r * τ < r * (τ * (1 + noise)) := mul_lt_mul_of_pos_left (by nlinarith) (by linarith)
      _ ≤ max (1 / 100) (min (1 / 2) (r + noise * (1 / 10))) * (τ * (1 + noise)) :=
          mul_le_mul_of_nonneg_right hratio (by nlinarith)

/-- A mutated representation block does not read back with what was derived before, unless there was no noise. -/
theorem noise_eq_zero_of_readsBack {blocks : Block → ChromosomeBlock ℝ} {c : StrategyChromosome ℝ} {pRepr : ChromosomeBlock ℝ}
    {p : RepresentationChromosome ℝ} {noise : ℝ} (hp : GoodRepr pRepr p) (hnoise : -(1 / 5) ≤ noise)
    (hmut : mutateRepr noise pRepr = .ok (blocks .repr)) (h : ReadsBack blocks c) : noise = 0 := by
  by_contra hne
  have hbounds : 14400 ≤ p.tauSlow ∧ 1 / 50 ≤ p.tauRatio ∧ p.tauRatio ≤ 1 / 2 := by
    have hslow : ((14400 : ℚ) : ℝ) ≤ p.tauSlow := hp.tauSlow.2.1
    have hratio : ((2 / 100 : ℚ) : ℝ) ≤ p.tauRatio ∧ p.tauRatio ≤ ((50 / 100 : ℚ) : ℝ) := hp.tauRatio.2
    push_cast at hslow hratio
    exact ⟨hslow, by linarith [hratio.1], by linarith [hratio.2]⟩
  rw [mutateRepr_eq hp] at hmut
  have hrepr := (Except.ok.inj hmut).symm
  have hslow : stored (blocks .repr) (.gene .tauSlow) = some (max (lit 3600) (p.tauSlow * (1 + noise))) := by
    rw [hrepr, stored, setGene, setGene, Dict.get?_set_of_ne _ _ (by decide), Dict.get?_set_self]
    rfl
  have hratio : stored (blocks .repr) (.gene .tauRatio) =
      some (max (lit (1 / 100)) (min (lit (1 / 2)) (p.tauRatio + noise * lit (1 / 10)))) := by
    rw [hrepr, stored, setGene, Dict.get?_set_self]
    rfl
  have hfast : stored (blocks .repr) .tauFast = some (p.tauRatio * p.tauSlow) := by
    rw [hrepr, stored, setGene, setGene, Dict.get?_set_of_ne _ _ (by decide), Dict.get?_set_of_ne _ _ (by decide), hp.tauFast]
    rfl
  have hderived := h.tauFast
  rw [hfast, Option.some.injEq] at hderived
  have hslow' : c.representation.tauSlow = _ := Option.some.inj (h.gene .tauSlow hslow).1
  have hratio' : c.representation.tauRatio = _ := Option.some.inj (h.gene .tauRatio hratio).1
  rw [hslow', hratio'] at hderived
  exact mutated_tauFast_ne hbounds.1 hbounds.2.1 hbounds.2.2 hnoise hne hderived.symm

/-! ### What a mutation reads -/

/-- The block has a gene as a number. -/
def HasFloat (b : ChromosomeBlock ℝ) (n : GeneName) : Prop := ∃ x, b.get? (.gene n) = some (.float x)

theorem hasFloat_setGene (b : ChromosomeBlock ℝ) (n : GeneName) (x : ℝ) : HasFloat (setGene b n x) n :=
  ⟨x, Dict.get?_set_self _ _ _⟩

theorem HasFloat.setGene (h : HasFloat b n) (n' : GeneName) (x : ℝ) : HasFloat (setGene b n' x) n := by
  obtain ⟨y, hy⟩ := h
  by_cases hn : n = n'
  · rw [hn]
    exact hasFloat_setGene b n' x
  · exact ⟨y, (Dict.get?_set_of_ne _ _ fun hk => hn (ChromosomeKey.gene.inj hk)).trans hy⟩

/-- The genes that a mutation reads are numbers. -/
structure Readable (blocks : Block → ChromosomeBlock ℝ) : Prop where
  tauSlow : HasFloat (blocks .repr) .tauSlow
  tauRatio : HasFloat (blocks .repr) .tauRatio
  riskAversion : HasFloat (blocks .game) .riskAversion
  profitTakeMult : HasFloat (blocks .infer) .profitTakeMult
  stopLossMult : HasFloat (blocks .infer) .stopLossMult
  volTarget : HasFloat (blocks .risk) .volTarget

/-- A mutated gene, with the others that were numbers before. -/
theorem mutateGene_ok (h : HasFloat b n) (dflt : ℚ) (f : ℝ → ℝ) :
    ∃ b', mutateGene n dflt f b = .ok b' ∧ HasFloat b' n ∧ ∀ n', HasFloat b n' → HasFloat b' n' := by
  obtain ⟨x, hx⟩ := h
  exact ⟨_, mutateGene_of_get? hx dflt f, hasFloat_setGene _ _ _, fun n' h' => h'.setGene _ _⟩

theorem mutateRepr_ok (hslow : HasFloat b .tauSlow) (hratio : HasFloat b .tauRatio) (noise : ℝ) :
    ∃ b', mutateRepr noise b = .ok b' ∧ HasFloat b' .tauSlow ∧ HasFloat b' .tauRatio := by
  obtain ⟨b₁, h₁, hslow₁, hrest₁⟩ := mutateGene_ok hslow 86400 fun x => max (lit 3600) (x * (1 + noise))
  obtain ⟨b₂, h₂, hratio₂, hrest₂⟩ := mutateGene_ok (hrest₁ _ hratio) (5 / 100)
    fun x => max (lit (1 / 100)) (min (lit (1 / 2)) (x + noise * lit (1 / 10)))
  refine ⟨b₂, ?_, hrest₂ _ hslow₁, hratio₂⟩
  rw [mutateRepr, h₁]
  exact h₂

theorem mutateInfer_ok (hprofit : HasFloat b .profitTakeMult) (hstop : HasFloat b .stopLossMult) (noise : ℝ) :
    ∃ b', mutateInfer noise b = .ok b' ∧ HasFloat b' .profitTakeMult ∧ HasFloat b' .stopLossMult := by
  obtain ⟨b₁, h₁, hprofit₁, hrest₁⟩ := mutateGene_ok hprofit 2 fun x => max (lit 1) (min (lit 5) (x * (1 + noise)))
  obtain ⟨b₂, h₂, hstop₂, hrest₂⟩ := mutateGene_ok (hrest₁ _ hstop) 2 fun x => max (lit (1 / 2)) (min (lit 5) (x * (1 - noise)))
  refine ⟨b₂, ?_, hrest₂ _ hprofit₁, hstop₂⟩
  rw [mutateInfer, h₁]
  exact h₂

/-! ## The rows of the repository -/

section Rows

variable {repo repo' : GenotypeRepository ℝ} {call : StepCall ℝ}

/-- The blocks of the stored genotypes. -/
def GenotypeRepository.blocks (repo : GenotypeRepository ℝ) : List (Block → ChromosomeBlock ℝ) := repo.rows.map Genotype.blocks

/-- An evaluation leaves the blocks alone. -/
theorem blocks_recordEvaluation (fns : GenotypeMath ℝ) (repo : GenotypeRepository ℝ) (g : Genotype ℝ)
    (dsr mdd regret novelty : ℝ) :
    (recordEvaluation fns repo g dsr mdd regret novelty).2.blocks = repo.blocks := by
  rw [recordEvaluation, GenotypeRepository.blocks, GenotypeRepository.updateEvaluation, List.map_map]
  refine List.map_congr_left fun row _ => ?_
  rw [Function.comp_apply]
  split
  · funext b
    cases b <;> rfl
  · rfl

/-- A genotype that is registered and evaluated: one row more, and what is returned has the blocks of a row. -/
theorem blocks_registered (fns : GenotypeMath ℝ) (repo : GenotypeRepository ℝ) (generation : ℤ) (cohort : GenotypeCohort)
    (cRepr cGame cInfer cRisk : ChromosomeBlock ℝ) (dsr mdd regret novelty : ℝ) :
    let registered := registerGenotype repo generation cohort cRepr cGame cInfer cRisk
    let recorded := recordEvaluation fns registered.2 registered.1 dsr mdd regret novelty
    recorded.2.blocks = repo.blocks ++ [registered.1.blocks] ∧ recorded.1.blocks ∈ recorded.2.blocks := by
  intro registered recorded
  have hrows : recorded.2.blocks = repo.blocks ++ [registered.1.blocks] := by
    rw [blocks_recordEvaluation]
    exact List.map_append
  refine ⟨hrows, ?_⟩
  cases hfind : recorded.2.getById registered.1.id with
  | none =>
    have hself : recorded.1 = registered.1 := congrArg (Option.getD · registered.1) hfind
    rw [hself, hrows]
    exact List.mem_append_right _ (List.mem_singleton_self _)
  | some row =>
    have hrow : recorded.1 = row := congrArg (Option.getD · registered.1) hfind
    rw [hrow]
    exact List.mem_map_of_mem (List.mem_of_find?_eq_some hfind)

/-- The blocks of one child are made from those of its parents. -/
structure Bred (elites currentPop : List (Genotype ℝ)) (draws : ChildDraws ℝ) (blocks : Block → ChromosomeBlock ℝ) : Prop where
  repr : ∃ g ∈ elites ++ currentPop, mutateRepr (cauchyNoise realMath draws.noise) g.chromosomeRepr = .ok (blocks .repr)
  game : ∃ g ∈ elites ++ currentPop, mutateGame (cauchyNoise realMath draws.noise) g.chromosomeGame = .ok (blocks .game)
  infer : ∃ g ∈ elites ++ currentPop, mutateInfer (cauchyNoise realMath draws.noise) g.chromosomeInfer = .ok (blocks .infer)
  risk : ∃ g ∈ elites ++ currentPop, mutateRisk (cauchyNoise realMath draws.noise) g.chromosomeRisk = .ok (blocks .risk)

theorem mem_of_choice {xs : List (Genotype ℝ)} {k : ℕ} {g : Genotype ℝ} (h : choice xs k = .ok g) : g ∈ xs := by
  unfold choice at h
  split at h
  · rename_i x hx
    cases h
    exact List.mem_of_getElem? hx
  · cases h

theorem bred_of_breed {elites currentPop : List (Genotype ℝ)} {nextGenIdx populationSize : ℤ} {i : ℕ} {draws : ChildDraws ℝ}
    {child : Genotype ℝ} (h : breed realMath elites currentPop nextGenIdx populationSize repo i draws = .ok (child, repo')) :
    ∃ blocks, repo'.blocks = repo.blocks ++ [blocks] ∧ Bred elites currentPop draws blocks := by
  unfold breed at h
  obtain ⟨parentA, hA, h⟩ := exists_of_bind_ok h
  obtain ⟨parentB, hB, h⟩ := exists_of_bind_ok h
  obtain ⟨mutatedRepr, hrepr, h⟩ := exists_of_bind_ok h
  obtain ⟨mutatedGame, hgame, h⟩ := exists_of_bind_ok h
  obtain ⟨mutatedInfer, hinfer, h⟩ := exists_of_bind_ok h
  obtain ⟨mutatedRisk, hrisk, h⟩ := exists_of_bind_ok h
  have hmem : ∀ {γ : Type} (u : UnitDraw ℝ) (block : Genotype ℝ → γ), ∃ g ∈ elites ++ currentPop,
      (if lit (1 / 2) < u.1 then block parentA else block parentB) = block g := by
    intro γ u block
    split
    · exact ⟨parentA, List.mem_append_left _ (mem_of_choice hA), rfl⟩
    · exact ⟨parentB, List.mem_append_right _ (mem_of_choice hB), rfl⟩
  refine ⟨(registerGenotype repo nextGenIdx (cohortOf populationSize i) mutatedRepr mutatedGame mutatedInfer
    mutatedRisk).1.blocks, ?_, ?_⟩
  · have hrepo := congrArg Prod.snd (Except.ok.inj h)
    rw [← show _ = repo' from hrepo]
    exact (blocks_registered realMath repo nextGenIdx _ mutatedRepr mutatedGame mutatedInfer mutatedRisk _ _ _ _).1
  · constructor
    · obtain ⟨g, hg, heq⟩ := hmem draws.crossRepr (·.chromosomeRepr)
      exact ⟨g, hg, heq ▸ hrepr⟩
    · obtain ⟨g, hg, heq⟩ := hmem draws.crossGame (·.chromosomeGame)
      exact ⟨g, hg, heq ▸ hgame⟩
    · obtain ⟨g, hg, heq⟩ := hmem draws.crossInfer (·.chromosomeInfer)
      exact ⟨g, hg, heq ▸ hinfer⟩
    · obtain ⟨g, hg, heq⟩ := hmem draws.crossRisk (·.chromosomeRisk)
      exact ⟨g, hg, heq ▸ hrisk⟩

theorem choice_ok {xs : List (Genotype ℝ)} (h : xs ≠ []) (k : ℕ) : ∃ g ∈ xs, choice xs k = .ok g := by
  have hlt := Nat.mod_lt k (List.length_pos_of_ne_nil h)
  refine ⟨xs[k % xs.length], List.getElem_mem hlt, ?_⟩
  rw [choice, List.getElem?_eq_getElem hlt]

theorem readable_of_bred {elites currentPop : List (Genotype ℝ)} {draws : ChildDraws ℝ} {blocks : Block → ChromosomeBlock ℝ}
    (hread : ∀ g ∈ elites ++ currentPop, Readable g.blocks) (h : Bred elites currentPop draws blocks) : Readable blocks := by
  obtain ⟨gr, hgr, hrepr⟩ := h.repr
  obtain ⟨gg, hgg, hgame⟩ := h.game
  obtain ⟨gi, hgi, hinfer⟩ := h.infer
  obtain ⟨gk, hgk, hrisk⟩ := h.risk
  obtain ⟨br, hbr, hslow, hratio⟩ :=
    mutateRepr_ok (hread gr hgr).tauSlow (hread gr hgr).tauRatio (cauchyNoise realMath draws.noise)
  obtain ⟨bg, hbg, haversion, -⟩ := mutateGene_ok (hread gg hgg).riskAversion 2 fun x =>
    max (lit (1 / 2)) (min (lit 10) (x * (1 + cauchyNoise realMath draws.noise)))
  obtain ⟨bi, hbi, hprofit, hstop⟩ := mutateInfer_ok (hread gi hgi).profitTakeMult (hread gi hgi).stopLossMult
    (cauchyNoise realMath draws.noise)
  obtain ⟨bk, hbk, hvol, -⟩ := mutateGene_ok (hread gk hgk).volTarget (15 / 100) fun x =>
    max (lit (5 / 100)) (min (lit (1 / 2)) (x * (1 + cauchyNoise realMath draws.noise * lit (2 / 10))))
  cases Except.ok.inj (hrepr.symm.trans hbr)
  cases Except.ok.inj (hgame.symm.trans hbg)
  cases Except.ok.inj (hinfer.symm.trans hbi)
  cases Except.ok.inj (hrisk.symm.trans hbk)
  exact ⟨hslow, hratio, haversion, hprofit, hstop, hvol⟩

/-- A child is bred from any population whose genes can be read. -/
theorem breed_ok {elites currentPop : List (Genotype ℝ)} (helites : elites ≠ []) (hpop : currentPop ≠ [])
    (hread : ∀ g ∈ elites ++ currentPop, Readable g.blocks) (nextGenIdx populationSize : ℤ) (repo : GenotypeRepository ℝ) (i : ℕ)
    (draws : ChildDraws ℝ) : ∃ r, breed realMath elites currentPop nextGenIdx populationSize repo i draws = .ok r := by
  obtain ⟨a, ha, hA⟩ := choice_ok helites draws.parentA
  obtain ⟨p, hp, hB⟩ := choice_ok hpop draws.parentB
  have hreadA := hread a (List.mem_append_left _ ha)
  have hreadB := hread p (List.mem_append_right _ hp)
  have hcross : ∀ (u : UnitDraw ℝ) (P : Genotype ℝ → Prop), P a → P p → ∀ block : Genotype ℝ → ChromosomeBlock ℝ,
      ∃ g, P g ∧ (if lit (1 / 2) < u.1 then block a else block p) = block g := by
    intro u P hPa hPp block
    split
    · exact ⟨a, hPa, rfl⟩
    · exact ⟨p, hPp, rfl⟩
  obtain ⟨gr, hgr, heqr⟩ := hcross draws.crossRepr (fun g => Readable g.blocks) hreadA hreadB (·.chromosomeRepr)
  obtain ⟨gg, hgg, heqg⟩ := hcross draws.crossGame (fun g => Readable g.blocks) hreadA hreadB (·.chromosomeGame)
  obtain ⟨gi, hgi, heqi⟩ := hcross draws.crossInfer (fun g => Readable g.blocks) hreadA hreadB (·.chromosomeInfer)
  obtain ⟨gk, hgk, heqk⟩ := hcross draws.crossRisk (fun g => Readable g.blocks) hreadA hreadB (·.chromosomeRisk)
  obtain ⟨br, hbr, -⟩ := mutateRepr_ok hgr.tauSlow hgr.tauRatio (cauchyNoise realMath draws.noise)
  obtain ⟨bg, hbg, -⟩ := mutateGene_ok hgg.riskAversion 2 fun x =>
    max (lit (1 / 2)) (min (lit 10) (x * (1 + cauchyNoise realMath draws.noise)))
  obtain ⟨bi, hbi, -⟩ := mutateInfer_ok hgi.profitTakeMult hgi.stopLossMult (cauchyNoise realMath draws.noise)
  obtain ⟨bk, hbk, -⟩ := mutateGene_ok hgk.volTarget (15 / 100) fun x =>
    max (lit (5 / 100)) (min (lit (1 / 2)) (x * (1 + cauchyNoise realMath draws.noise * lit (2 / 10))))
  rw [breed, hA, hB]
  dsimp only [bind, Except.bind]
  rw [heqr, heqg, heqi, heqk]
  rw [show mutateRepr _ gr.chromosomeRepr = _ from hbr, show mutateGame _ gg.chromosomeGame = _ from hbg,
    show mutateInfer _ gi.chromosomeInfer = _ from hbi, show mutateRisk _ gk.chromosomeRisk = _ from hbk]
  exact ⟨_, rfl⟩

/-- The new rows of a generation are its children, each bred from the population. -/
theorem breedAll_ok {elites currentPop : List (Genotype ℝ)} (hread : ∀ g ∈ elites ++ currentPop, Readable g.blocks)
    (nextGenIdx populationSize : ℤ) (draws : ℕ → ChildDraws ℝ) (is : List ℕ) (hpop : is = [] ∨ elites ≠ [] ∧ currentPop ≠ [])
    (repo : GenotypeRepository ℝ) :
    ∃ offspring repo' new, breedAll realMath elites currentPop nextGenIdx populationSize draws is repo = .ok (offspring, repo') ∧
      repo'.blocks = repo.blocks ++ new ∧ List.Forall₂ (fun i blocks => Bred elites currentPop (draws i) blocks) is new := by
  induction is generalizing repo with
  | nil => exact ⟨[], repo, [], rfl, (List.append_nil _).symm, .nil⟩
  | cons i is ih =>
    obtain ⟨helites, hpop'⟩ := hpop.resolve_left (List.cons_ne_nil _ _)
    obtain ⟨⟨child, repo₁⟩, hchild⟩ := breed_ok helites hpop' hread nextGenIdx populationSize repo i (draws i)
    obtain ⟨blocks, hblocks, hbred⟩ := bred_of_breed hchild
    obtain ⟨offspring, repo₂, new, hrest, hnew, hall⟩ := ih (.inr ⟨helites, hpop'⟩) repo₁
    refine ⟨child :: offspring, repo₂, blocks :: new, ?_, ?_, .cons hbred hall⟩
    · rw [breedAll, hchild]
      dsimp only [bind, Except.bind]
      rw [hrest]
    · rw [hnew, hblocks, List.append_assoc]
      rfl

/-- The blocks of one seed. -/
def seedBlocks (i : ℕ) : Block → ChromosomeBlock ℝ := ((seedChromosome i).toDict Real.exp).block

theorem blocks_seedOne (populationSize : ℤ) (s : List (Genotype ℝ) × GenotypeRepository ℝ) (i : ℕ) :
    (seedOne realMath populationSize s i).2.blocks = s.2.blocks ++ [seedBlocks i] ∧
      ∃ g, (seedOne realMath populationSize s i).1 = s.1 ++ [g] ∧ g.blocks ∈ (seedOne realMath populationSize s i).2.blocks := by
  have hregistered := blocks_registered realMath s.2 0 (cohortOf populationSize i) (seedBlocks i .repr) (seedBlocks i .game)
    (seedBlocks i .infer) (seedBlocks i .risk)
  have hblocks : (registerGenotype s.2 0 (cohortOf populationSize i)
      (seedBlocks i .repr) (seedBlocks i .game) (seedBlocks i .infer)
      (seedBlocks i .risk)).1.blocks = seedBlocks i := by
    funext b
    cases b <;> rfl
  refine ⟨?_, _, rfl, (hregistered _ _ _ _).2⟩
  rw [← hblocks]
  exact (hregistered _ _ _ _).1

/-- Seeding adds the seeds' rows, and what it returns has blocks of rows. -/
theorem blocks_seedInitialPopulation (repo : GenotypeRepository ℝ) (populationSize : ℤ) :
    (seedInitialPopulation realMath repo populationSize).2.blocks = repo.blocks ++
      (List.range populationSize.toNat).map seedBlocks ∧
      (seedInitialPopulation realMath repo populationSize).1.length = populationSize.toNat ∧
      ∀ g ∈ (seedInitialPopulation realMath repo populationSize).1,
        g.blocks ∈ (seedInitialPopulation realMath repo populationSize).2.blocks := by
  rw [seedInitialPopulation]
  induction populationSize.toNat with
  | zero => exact ⟨(List.append_nil _).symm, rfl, fun g hg => absurd hg List.not_mem_nil⟩
  | succ k ih =>
    rw [List.range_succ, List.foldl_append, List.map_append, ← List.append_assoc, ← ih.1]
    obtain ⟨-, hlen, hmem⟩ := ih
    obtain ⟨hrows, g, hcreated, hg⟩ :=
      blocks_seedOne populationSize ((List.range k).foldl (seedOne realMath populationSize) ([], repo)) k
    rw [List.foldl_cons, List.foldl_nil]
    refine ⟨hrows, by rw [hcreated, List.length_append, hlen]; rfl, fun g' hg' => ?_⟩
    rw [hcreated, List.mem_append, List.mem_singleton] at hg'
    rcases hg' with hg' | rfl
    · rw [hrows]
      exact List.mem_append_left _ (hmem g' hg')
    · exact hg

/-- The rows that a step seeds anew. -/
def reseeded (repo : GenotypeRepository ℝ) (call : StepCall ℝ) : List (Block → ChromosomeBlock ℝ) :=
  if repo.getGeneration call.currentGeneration = [] then (List.range call.populationSize.toNat).map seedBlocks else []

/-- The population a step starts from has blocks of rows, and is empty only where no child is asked for. -/
theorem blocks_currentPopulation (repo : GenotypeRepository ℝ) (call : StepCall ℝ) :
    (currentPopulation realMath repo call.currentGeneration call.populationSize).2.blocks = repo.blocks ++ reseeded repo call ∧
      (∀ g ∈ (currentPopulation realMath repo call.currentGeneration call.populationSize).1,
        g.blocks ∈ (currentPopulation realMath repo call.currentGeneration call.populationSize).2.blocks) ∧
      ((currentPopulation realMath repo call.currentGeneration call.populationSize).1 = [] → call.populationSize.toNat = 0) := by
  rw [currentPopulation, reseeded]
  split
  · rename_i hnone
    obtain ⟨hrows, hlen, hmem⟩ := blocks_seedInitialPopulation repo call.populationSize
    refine ⟨by rw [hrows, if_pos hnone], hmem, fun hempty => ?_⟩
    rw [← hlen, hempty]
    rfl
  · rename_i hsome
    refine ⟨by rw [if_neg hsome, List.append_nil], fun g hg => List.mem_map_of_mem (List.mem_of_mem_filter hg), ?_⟩
    exact fun hempty => absurd hempty hsome

theorem mem_of_mem_elitesOf {currentPop : List (Genotype ℝ)} {populationSize : ℤ} {g : Genotype ℝ}
    (h : g ∈ elitesOf currentPop populationSize) : g ∈ currentPop := by
  unfold elitesOf at h
  split at h
  · exact List.mem_of_mem_take h
  · obtain ⟨r, hr, rfl⟩ := List.mem_map.1 h
    obtain ⟨front, -, hr⟩ := List.mem_flatMap.1 (List.mem_of_mem_filter hr)
    obtain ⟨i, -, rfl⟩ := List.mem_map.1 hr
    exact List.get_mem _ _

theorem elitesOf_ne_nil {currentPop : List (Genotype ℝ)} (h : currentPop ≠ []) (populationSize : ℤ) :
    elitesOf currentPop populationSize ≠ [] := by
  unfold elitesOf
  split
  · obtain ⟨g, rest, rfl⟩ := List.exists_cons_of_ne_nil h
    obtain ⟨k, hk⟩ : ∃ k, (max 1 (populationSize.tdiv 5)).toNat = k + 1 := ⟨(max 1 (populationSize.tdiv 5)).toNat - 1, by omega⟩
    rw [hk, List.take_succ_cons]
    exact List.cons_ne_nil _ _
  · rename_i hne
    exact hne

/-- A step on readable rows: it keeps them, seeds anew where it has to, and adds children bred from rows. -/
theorem stepGeneration_ok (hread : ∀ blocks ∈ repo.blocks ++ reseeded repo call, Readable blocks) :
    ∃ offspring repo' elites currentPop new, stepGeneration realMath repo call = .ok (offspring, repo') ∧
      repo'.blocks = repo.blocks ++ reseeded repo call ++ new ∧
      (∀ g ∈ elites ++ currentPop, g.blocks ∈ repo.blocks ++ reseeded repo call) ∧
      List.Forall₂ (fun i blocks => Bred elites currentPop (call.draws i) blocks) (List.range call.populationSize.toNat) new := by
  obtain ⟨hrows, hmem, hempty⟩ := blocks_currentPopulation repo call
  rw [hrows] at hmem
  rw [stepGeneration]
  generalize currentPopulation realMath repo call.currentGeneration call.populationSize = s at hrows hmem hempty ⊢
  obtain ⟨currentPop, repo₁⟩ := s
  have hparents : ∀ g ∈ elitesOf currentPop call.populationSize ++ currentPop, g.blocks ∈ repo.blocks ++ reseeded repo call := by
    intro g hg
    rcases List.mem_append.1 hg with hg | hg
    · exact hmem g (mem_of_mem_elitesOf hg)
    · exact hmem g hg
  have hpop : List.range call.populationSize.toNat = [] ∨ elitesOf currentPop call.populationSize ≠ [] ∧ currentPop ≠ [] := by
    by_cases h : currentPop = []
    · rw [hempty h]
      exact .inl rfl
    · exact .inr ⟨elitesOf_ne_nil h _, h⟩
  obtain ⟨offspring, repo', new, hok, hnew, hbred⟩ :=
    breedAll_ok (fun g hg => hread _ (hparents g hg)) (call.currentGeneration + 1)
    call.populationSize call.draws _ hpop repo₁
  exact ⟨offspring, repo', _, _, new, hok, by rw [hnew, hrows], hparents, hbred⟩

/-! ## Whole evolutions -/

/-- Blocks of some chromosome within the bounds. -/
def IsGood (blocks : Block → ChromosomeBlock ℝ) : Prop := ∃ c, GoodBlocks blocks c

theorem IsGood.valid {blocks : Block → ChromosomeBlock ℝ} (h : IsGood blocks) : ValidBlocks blocks := by
  obtain ⟨c, hc⟩ := h
  exact ⟨c, hc.readsBack⟩

theorem IsGood.readable {blocks : Block → ChromosomeBlock ℝ} (h : IsGood blocks) : Readable blocks := by
  obtain ⟨c, hc⟩ := h
  exact ⟨⟨_, hc.repr.tauSlow.1⟩, ⟨_, hc.repr.tauRatio.1⟩, ⟨_, hc.game.riskAversion.1⟩, ⟨_, hc.infer.profitTakeMult.1⟩,
    ⟨_, hc.infer.stopLossMult.1⟩, ⟨_, hc.risk.volTarget.1⟩⟩

theorem readable_seedBlocks (i : ℕ) : Readable (seedBlocks i) := by
  constructor <;> exact ⟨_, rfl⟩

theorem isGood_seedBlocks {i : ℕ} (hi : i ≤ 120) : IsGood (seedBlocks i) :=
  ⟨_, goodBlocks_toDict _ (withinBounds_seedChromosome hi)⟩

theorem validBlocks_seedBlocks_iff (i : ℕ) : ValidBlocks (seedBlocks i) ↔ i ≤ 120 := by
  constructor
  · rintro ⟨c, hc⟩
    exact (tauSlow_seed_le_iff i).1 (hc.gene .tauSlow rfl).2.2
  · exact fun hi => (isGood_seedBlocks hi).valid

/-- The seeds are valid up to the 121st one. -/
theorem validBlocks_seeds_iff (populationSize : ℤ) :
    (∀ blocks ∈ (List.range populationSize.toNat).map seedBlocks, ValidBlocks blocks) ↔ populationSize ≤ 121 := by
  rw [List.forall_mem_map]
  simp only [List.mem_range, validBlocks_seedBlocks_iff]
  constructor
  · intro h
    by_contra hlarge
    have := h 121 (by omega)
    omega
  · intro h i hi
    omega

/-- A child bred without noise is made of the blocks of its parents. -/
theorem Bred.isGood {elites currentPop : List (Genotype ℝ)} {draws : ChildDraws ℝ} {blocks : Block → ChromosomeBlock ℝ}
    (h : Bred elites currentPop draws blocks) (hgood : ∀ g ∈ elites ++ currentPop, IsGood g.blocks)
    (hnoise : draws.noise.1 = 1 / 2) :
    IsGood blocks := by
  have hzero := (cauchyNoise_eq_zero_iff draws.noise).2 hnoise
  obtain ⟨gr, hgr, hrepr⟩ := h.repr
  obtain ⟨gg, hgg, hgame⟩ := h.game
  obtain ⟨gi, hgi, hinfer⟩ := h.infer
  obtain ⟨gk, hgk, hrisk⟩ := h.risk
  obtain ⟨cr, hcr⟩ := hgood gr hgr
  obtain ⟨cg, hcg⟩ := hgood gg hgg
  obtain ⟨ci, hci⟩ := hgood gi hgi
  obtain ⟨ck, hck⟩ := hgood gk hgk
  rw [hzero] at hrepr hgame hinfer hrisk
  have hr := Except.ok.inj ((mutateRepr_zero hcr.repr).symm.trans hrepr)
  have hg := Except.ok.inj ((mutateGame_zero hcg.game).symm.trans hgame)
  have hi := Except.ok.inj ((mutateInfer_zero hci.infer).symm.trans hinfer)
  have hk := Except.ok.inj ((mutateRisk_zero hck.risk).symm.trans hrisk)
  exact ⟨⟨cr.representation, cg.gameTheory, ci.inference, ck.risk⟩, hr ▸ hcr.repr, hg ▸ hcg.game, hi ▸ hci.infer, hk ▸ hck.risk⟩

/-- A valid child was bred without noise. -/
theorem Bred.noise_eq {elites currentPop : List (Genotype ℝ)} {draws : ChildDraws ℝ} {blocks : Block → ChromosomeBlock ℝ}
    (h : Bred elites currentPop draws blocks) (hgood : ∀ g ∈ elites ++ currentPop, IsGood g.blocks)
    (hvalid : ValidBlocks blocks) :
    draws.noise.1 = 1 / 2 := by
  obtain ⟨g, hg, hrepr⟩ := h.repr
  obtain ⟨p, hp⟩ := hgood g hg
  obtain ⟨c, hc⟩ := hvalid
  exact (cauchyNoise_eq_zero_iff _).1 (noise_eq_zero_of_readsBack hp.repr (cauchyNoise_mem _).1 hrepr hc)

/-- A step without noise, which seeds at most 121 genotypes where it has to. -/
def Unmutated (repo : GenotypeRepository ℝ) (call : StepCall ℝ) : Prop :=
  (repo.getGeneration call.currentGeneration = [] → call.populationSize ≤ 121) ∧
    ∀ i < call.populationSize.toNat, (call.draws i).noise.1 = 1 / 2

/-- Every step of an evolution is without noise. -/
def UnmutatedAlong (repo : GenotypeRepository ℝ) : List (StepCall ℝ) → Prop
  | [] => True
  | call :: calls => Unmutated repo call ∧
    ∀ offspring repo', stepGeneration realMath repo call = .ok (offspring, repo') → UnmutatedAlong repo' calls

theorem readable_reseeded (hread : ∀ blocks ∈ repo.blocks, Readable blocks) (call : StepCall ℝ) :
    ∀ blocks ∈ repo.blocks ++ reseeded repo call, Readable blocks := by
  intro blocks hmem
  rcases List.mem_append.1 hmem with h | h
  · exact hread blocks h
  · unfold reseeded at h
    split at h
    · obtain ⟨i, -, rfl⟩ := List.mem_map.1 h
      exact readable_seedBlocks i
    · cases h

/-- A step on readable rows returns, and leaves them there among readable rows. -/
theorem stepGeneration_readable (hread : ∀ blocks ∈ repo.blocks, Readable blocks) (call : StepCall ℝ) :
    ∃ offspring repo', stepGeneration realMath repo call = .ok (offspring, repo') ∧ repo.blocks ⊆ repo'.blocks ∧
      ∀ blocks ∈ repo'.blocks, Readable blocks := by
  have hseeded := readable_reseeded hread call
  obtain ⟨offspring, repo', elites, currentPop, new, hok, hrows, hparents, hbred⟩ := stepGeneration_ok hseeded
  refine ⟨offspring, repo', hok, fun blocks h => ?_, fun blocks h => ?_⟩
  · rw [hrows]
    exact List.mem_append_left _ (List.mem_append_left _ h)
  · rw [hrows] at h
    rcases List.mem_append.1 h with h | h
    · exact hseeded blocks h
    · obtain ⟨i, -, hi⟩ := exists_of_forall₂_right hbred h
      exact readable_of_bred (fun g hg => hseeded _ (hparents g hg)) hi

/-- An evolution from readable rows returns, and leaves them there. -/
theorem evolve_readable (hread : ∀ blocks ∈ repo.blocks, Readable blocks) (calls : List (StepCall ℝ)) :
    ∃ repo', evolve realMath repo calls = .ok repo' ∧ repo.blocks ⊆ repo'.blocks := by
  induction calls generalizing repo with
  | nil => exact ⟨repo, rfl, List.Subset.refl _⟩
  | cons call calls ih =>
    obtain ⟨offspring, repo₁, hok, hsub, hread₁⟩ := stepGeneration_readable hread call
    obtain ⟨repo', hrest, hsub'⟩ := ih hread₁
    refine ⟨repo', ?_, List.Subset.trans hsub hsub'⟩
    rw [evolve, hok]
    exact hrest

/-- A step on good rows adds valid genotypes only exactly when it is without noise, and these are good again. -/
theorem stepGeneration_valid_iff (hgood : ∀ blocks ∈ repo.blocks, IsGood blocks) {offspring : List (Genotype ℝ)}
    (h : stepGeneration realMath repo call = .ok (offspring, repo')) :
    ((∀ blocks ∈ repo'.blocks, ValidBlocks blocks) → Unmutated repo call) ∧
      (Unmutated repo call → ∀ blocks ∈ repo'.blocks, IsGood blocks) := by
  have hseeded := readable_reseeded (fun blocks hmem => (hgood blocks hmem).readable) call
  obtain ⟨offspring', repo'', elites, currentPop, new, hok, hrows, hparents, hbred⟩ := stepGeneration_ok hseeded
  rw [h] at hok
  cases hok
  rw [hrows]
  -- the reseeded rows are good where there are at most 121 of them
  have hreseeded : (repo.getGeneration call.currentGeneration = [] → call.populationSize ≤ 121) →
      ∀ blocks ∈ repo.blocks ++ reseeded repo call, IsGood blocks := by
    intro hsize blocks hmem
    rcases List.mem_append.1 hmem with hmem | hmem
    · exact hgood blocks hmem
    · unfold reseeded at hmem
      split at hmem
      · rename_i hnone
        obtain ⟨i, hi, rfl⟩ := List.mem_map.1 hmem
        have := hsize hnone
        rw [List.mem_range] at hi
        exact isGood_seedBlocks (by omega)
      · cases hmem
  constructor
  · intro hvalid
    have hsize : repo.getGeneration call.currentGeneration = [] → call.populationSize ≤ 121 := by
      intro hnone
      refine (validBlocks_seeds_iff _).1 fun blocks hmem => hvalid blocks ?_
      rw [reseeded, if_pos hnone]
      exact List.mem_append_left _ (List.mem_append_right _ hmem)
    refine ⟨hsize, fun i hi => ?_⟩
    obtain ⟨blocks, hblocks, hchild⟩ := getElem?_of_forall₂ hbred (List.getElem?_range hi)
    exact hchild.noise_eq (fun g hg => hreseeded hsize _ (hparents g hg))
      (hvalid blocks (List.mem_append_right _ (List.mem_of_getElem? hblocks)))
  · rintro ⟨hsize, hnoise⟩ blocks hmem
    rcases List.mem_append.1 hmem with hmem | hmem
    · exact hreseeded hsize blocks hmem
    · obtain ⟨i, hi, hchild⟩ := exists_of_forall₂_right hbred hmem
      exact hchild.isGood (fun g hg => hreseeded hsize _ (hparents g hg)) (hnoise i (List.mem_range.1 hi))

/-- From good rows, all rows of an evolution are valid exactly when all its steps are without noise. -/
theorem evolve_valid_iff (hgood : ∀ blocks ∈ repo.blocks, IsGood blocks) (calls : List (StepCall ℝ)) :
    ∃ repo', evolve realMath repo calls = .ok repo' ∧
      ((∀ blocks ∈ repo'.blocks, ValidBlocks blocks) ↔ UnmutatedAlong repo calls) := by
  induction calls generalizing repo with
  | nil => exact ⟨repo, rfl, iff_of_true (fun blocks hmem => (hgood blocks hmem).valid) trivial⟩
  | cons call calls ih =>
    obtain ⟨offspring, repo₁, hok, -, hread⟩ := stepGeneration_readable (fun blocks hmem => (hgood blocks hmem).readable) call
    obtain ⟨hnecessary, hsufficient⟩ := stepGeneration_valid_iff hgood hok
    have hevolve : evolve realMath repo (call :: calls) = evolve realMath repo₁ calls := by
      rw [evolve, hok]
      rfl
    rw [hevolve]
    by_cases hcall : Unmutated repo call
    · obtain ⟨repo', hrest, hiff⟩ := ih (hsufficient hcall)
      refine ⟨repo', hrest, hiff.trans ⟨fun hcalls => ⟨hcall, fun offspring' repo'' hok' => ?_⟩, fun hcalls => hcalls.2 _ _ hok⟩⟩
      rw [hok] at hok'
      cases hok'
      exact hcalls
    · -- a row of this step is not valid, and it stays
      obtain ⟨repo', hrest, hsub⟩ := evolve_readable hread calls
      refine ⟨repo', hrest, iff_of_false (fun hvalid => hcall (hnecessary fun blocks hmem => hvalid blocks (hsub hmem)))
        fun h => hcall h.1⟩

/-- The repository that an evolution starts from. -/
def seeded (populationSize : ℤ) : GenotypeRepository ℝ := (seedInitialPopulation realMath ⟨[]⟩ populationSize).2

theorem blocks_seeded (populationSize : ℤ) : (seeded populationSize).blocks = (List.range populationSize.toNat).map seedBlocks :=
  (blocks_seedInitialPopulation ⟨[]⟩ populationSize).1

/-- After seeding and any number of steps, which always return, every stored genotype is valid exactly when at most 121 genotypes
were seeded and every step was without noise. -/
theorem validGenotypes_iff (populationSize : ℤ) (calls : List (StepCall ℝ)) :
    ∃ repo, evolve realMath (seeded populationSize) calls = .ok repo ∧
      ((∀ g ∈ repo.rows, ValidBlocks g.blocks) ↔ populationSize ≤ 121 ∧ UnmutatedAlong (seeded populationSize) calls) := by
  by_cases hsize : populationSize ≤ 121
  · have hgood : ∀ blocks ∈ (seeded populationSize).blocks, IsGood blocks := by
      rw [blocks_seeded, List.forall_mem_map]
      intro i hi
      rw [List.mem_range] at hi
      exact isGood_seedBlocks (by omega)
    obtain ⟨repo, hok, hiff⟩ := evolve_valid_iff hgood calls
    refine ⟨repo, hok, ?_⟩
    rw [and_iff_right hsize, ← hiff]
    exact (List.forall_mem_map (f := Genotype.blocks)).symm
  · have hread : ∀ blocks ∈ (seeded populationSize).blocks, Readable blocks := by
      rw [blocks_seeded, List.forall_mem_map]
      exact fun i _ => readable_seedBlocks i
    obtain ⟨repo, hok, hsub⟩ := evolve_readable hread calls
    refine ⟨repo, hok, iff_of_false (fun hvalid => hsize ((validBlocks_seeds_iff populationSize).1 fun blocks hmem => ?_))
      fun h => hsize h.1⟩
    obtain ⟨g, hg, rfl⟩ := List.mem_map.1 (hsub (by rw [blocks_seeded]; exact hmem))
    exact hvalid g hg

/-- The draws of a child whose noise comes from one draw, the others in the middle. -/
def drawsWithNoise (u : UnitDraw ℝ) : ChildDraws ℝ :=
  let middle : UnitDraw ℝ := ⟨1 / 2, by norm_num, by norm_num⟩
  ⟨0, 0, middle, middle, middle, middle, u, middle, middle, middle, middle⟩

/-- One seed and one child whose noise is drawn at three quarters: the child's fast half-life is that of its parent. -/
theorem validGenotypes_counterexample :
    ∃ repo, evolve realMath (seeded 1) [⟨0, 1, fun _ => drawsWithNoise ⟨3 / 4, by norm_num, by norm_num⟩⟩] = .ok repo ∧
      ¬ ∀ g ∈ repo.rows, ValidBlocks g.blocks := by
  have hgood : ∀ blocks ∈ (seeded 1).blocks, IsGood blocks := by
    rw [blocks_seeded, List.forall_mem_map]
    intro i hi
    rw [List.mem_range] at hi
    exact isGood_seedBlocks (by omega)
  obtain ⟨repo, hok, hiff⟩ := evolve_valid_iff hgood [⟨0, 1, fun _ => drawsWithNoise ⟨3 / 4, by norm_num, by norm_num⟩⟩]
  refine ⟨repo, hok, fun hvalid => ?_⟩
  have hdraw := (hiff.1 (List.forall_mem_map.2 hvalid)).1.2 0 one_pos
  norm_num [drawsWithNoise] at hdraw

end Rows

end

end Quant
