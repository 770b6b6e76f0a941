import Quant.Analytics.Chromosomes
import Quant.Pylib.Dict

/-!
# Chromosomes as dictionaries

`StrategyChromosome.to_dict` and `from_dict` of `analytics/chromosomes.py`, with the derived values and legacy aliases that lie in
the blocks beside the genes. The keys stand as types, a block's values are numbers and lists of numbers.
-/

namespace Quant

open Pylib

/-- The keys of the blocks: the genes, and what is derived from them or stands for them. -/
inductive ChromosomeKey where
  | gene (name : GeneName)
  | tauFast
  | alpha
  | riskAversionLambda
  | beliefPrior
  | modelDepth
  | sensitivity
  deriving DecidableEq, Repr

/-- What a block holds under a key. -/
inductive BlockValue (α : Type*) where
  | float (x : α)
  | int (k : ℤ)
  | list (xs : List α)

abbrev ChromosomeBlock (α : Type*) := Dict ChromosomeKey (BlockValue α)

/-- The dictionary of a chromosome: the entries that are blocks, and the others. -/
structure ChromosomeDict (α : Type*) where
  blocks : Dict Block (ChromosomeBlock α)
  entries : ChromosomeBlock α := ∅

/-- `data.get("chromosome_repr", data)` and the like. -/
def ChromosomeDict.block {α : Type*} (data : ChromosomeDict α) (b : Block) : ChromosomeBlock α := data.blocks.getD b data.entries

section Convert

variable {α : Type} [Field α] [LinearOrder α] [FloorRing α]

/-- `float(v)`. -/
def BlockValue.toFloat : BlockValue α → Except Exc α
  | .float x => .ok x
  | .int k => .ok k
  | .list _ => .error ⟨.typeError, "float() argument must be a string or a real number, not 'list'", []⟩

/-- `int(v)`, which cuts a number off towards zero. -/
def BlockValue.toInt : BlockValue α → Except Exc ℤ
  | .float x => .ok (if 0 ≤ x then ⌊x⌋ else ⌈x⌉)
  | .int k => .ok k
  | .list _ => .error ⟨.typeError, "int() argument must be a string, a bytes-like object or a real number, not 'list'", []⟩

/-- The value under a key, or else under its alias, or else the default of a gene. -/
def geneValue (c : ChromosomeBlock α) (name : GeneName) (aliases : List ChromosomeKey) : BlockValue α :=
  ((ChromosomeKey.gene name :: aliases).findSome? c.get?).getD (.float (geneOf name).defaultValue)

/-- `np.clip` between two literals. -/
def clipTo (x : α) (lo hi : ℚ) : α := clip x lo hi

/-! ## `to_dict` -/

/-- `tau_fast`. -/
def RepresentationChromosome.tauFast (c : RepresentationChromosome α) : α := c.tauRatio * c.tauSlow

def RepresentationChromosome.toDict (c : RepresentationChromosome α) : ChromosomeBlock α :=
  (∅ : ChromosomeBlock α).setAll
    [(.gene .tauSlow, .float c.tauSlow), (.gene .tauRatio, .float c.tauRatio), (.tauFast, .float c.tauFast),
      (.alpha, .float c.alphaDecay),
      (.gene .alphaDecay, .float c.alphaDecay), (.gene .fractionalD, .float c.fractionalD)]

def GameTheoryChromosome.toDict (exp : α → α) (c : GameTheoryChromosome α) : ChromosomeBlock α :=
  (∅ : ChromosomeBlock α).setAll
    [(.gene .ambiguityTemp, .float c.ambiguityTemp), (.gene .riskAversion, .float c.riskAversion),
      (.riskAversionLambda, .float c.riskAversion), (.gene .predatoryIntensity, .float c.predatoryIntensity),
      (.gene .logitBull, .float c.logitBull), (.gene .logitBear, .float c.logitBear), (.gene .logitPanic, .float c.logitPanic),
      (.beliefPrior, .list (c.regimePriors exp))]

def InferenceChromosome.toDict (c : InferenceChromosome α) : ChromosomeBlock α :=
  (∅ : ChromosomeBlock α).setAll
    [(.gene .executionHorizon, .int c.executionHorizon), (.gene .hyperbolicDecay, .float c.hyperbolicDecay),
      (.gene .profitTakeMult, .float c.profitTakeMult), (.gene .stopLossMult, .float c.stopLossMult),
      (.gene .holdingPeriod, .int c.holdingPeriod), (.gene .metaLabelThresh, .float c.metaLabelThresh), (.modelDepth, .int 3),
      (.sensitivity, .float c.metaLabelThresh)]

def RiskChromosome.toDict (c : RiskChromosome α) : ChromosomeBlock α :=
  (∅ : ChromosomeBlock α).setAll
    [(.gene .volTarget, .float c.volTarget), (.gene .maxWeight, .float c.maxWeight),
      (.gene .maxDrawdownLimit, .float c.maxDrawdownLimit), (.gene .turnoverBudget, .float c.turnoverBudget)]

/-- `to_dict`. -/
def StrategyChromosome.toDict (exp : α → α) (c : StrategyChromosome α) : ChromosomeDict α where
  blocks := (∅ : Dict Block (ChromosomeBlock α)).setAll
    [(.repr, c.representation.toDict), (.game, c.gameTheory.toDict exp), (.infer, c.inference.toDict), (.risk, c.risk.toDict)]

/-! ## `from_dict` -/

/-- `tau_ratio`, from the fast half-life where the ratio is missing. -/
def tauRatioOf (cRepr : ChromosomeBlock α) (tauSlow : α) : Except Exc α :=
  match cRepr.get? (.gene .tauRatio), cRepr.get? .tauFast with
  | some ratio, _ => ratio.toFloat
  | none, some fast => if 0 < tauSlow then fast.toFloat.map fun x => clipTo (x / tauSlow) (2 / 100) (50 / 100)
      else .ok ((geneOf .tauRatio).defaultValue : α)
  | none, none => .ok ((geneOf .tauRatio).defaultValue : α)

def representationOf (cRepr : ChromosomeBlock α) : Except Exc (RepresentationChromosome α) := do
  let tauSlow ← (geneValue cRepr .tauSlow []).toFloat
  let tauRatio ← tauRatioOf cRepr tauSlow
  let alphaDecay ← (geneValue cRepr .alphaDecay [.alpha]).toFloat
  let fractionalD ← (geneValue cRepr .fractionalD []).toFloat
  .ok
    { tauSlow := clipTo tauSlow 14400 604800
      tauRatio := clipTo tauRatio (2 / 100) (50 / 100)
      alphaDecay := clipTo alphaDecay 0 1
      fractionalD := clipTo fractionalD (5 / 100) (95 / 100) }

/-- The logits of a legacy prior, centred at zero. -/
def logitsOfPriors (log : α → α) : List α → α × α × α
  | [bull, bear, panic] =>
    if bull ≤ 0 ∨ bear ≤ 0 ∨ panic ≤ 0 then (0, 0, -1)
    else
      let mean := (log bull + log bear + log panic) / ((3 : ℚ) : α)
      (clipTo (log bull - mean) (-2) 2, clipTo (log bear - mean) (-2) 2, clipTo (log panic - mean) (-2) 2)
  | _ => (0, 0, -1)

/-- `logit_bull`, `logit_bear` and `logit_panic`. -/
def logitsOf (log : α → α) (cGame : ChromosomeBlock α) : Except Exc (α × α × α) :=
  match cGame.get? (.gene .logitBull), cGame.get? (.gene .logitBear), cGame.get? (.gene .logitPanic), cGame.get? .beliefPrior with
  | some bull, some bear, some panic, _ => do .ok (← bull.toFloat, ← bear.toFloat, ← panic.toFloat)
  | _, _, _, some (.list priors) => .ok (logitsOfPriors log priors)
  | _, _, _, _ =>
    .ok ((geneOf .logitBull).defaultValue, (geneOf .logitBear).defaultValue, (geneOf .logitPanic).defaultValue)

def gameTheoryOf (log : α → α) (cGame : ChromosomeBlock α) : Except Exc (GameTheoryChromosome α) := do
  let ambiguityTemp ← (geneValue cGame .ambiguityTemp []).toFloat
  let riskAversion ← (geneValue cGame .riskAversion [.riskAversionLambda]).toFloat
  let predatoryIntensity ← (geneValue cGame .predatoryIntensity []).toFloat
  let (logitBull, logitBear, logitPanic) ← logitsOf log cGame
  .ok
    { ambiguityTemp := clipTo ambiguityTemp (5 / 100) 5
      riskAversion := clipTo riskAversion (1 / 10) 10
      predatoryIntensity := clipTo predatoryIntensity 0 1
      logitBull := clipTo logitBull (-2) 2
      logitBear := clipTo logitBear (-2) 2
      logitPanic := clipTo logitPanic (-2) 2 }

def inferenceOf (cInfer : ChromosomeBlock α) : Except Exc (InferenceChromosome α) := do
  let executionHorizon ← (geneValue cInfer .executionHorizon []).toInt
  let hyperbolicDecay ← (geneValue cInfer .hyperbolicDecay []).toFloat
  let profitTakeMult ← (geneValue cInfer .profitTakeMult []).toFloat
  let stopLossMult ← (geneValue cInfer .stopLossMult []).toFloat
  let holdingPeriod ← (geneValue cInfer .holdingPeriod []).toInt
  let metaLabelThresh ← (geneValue cInfer .metaLabelThresh [.sensitivity]).toFloat
  .ok
    { executionHorizon := clip executionHorizon 1 20
      hyperbolicDecay := clipTo hyperbolicDecay (1 / 100) 2
      profitTakeMult := clipTo profitTakeMult (1 / 2) 5
      stopLossMult := clipTo stopLossMult (1 / 2) 5
      holdingPeriod := clip holdingPeriod 5 100
      metaLabelThresh := clipTo metaLabelThresh (40 / 100) (85 / 100) }

def riskOf (cRisk : ChromosomeBlock α) : Except Exc (RiskChromosome α) := do
  let volTarget ← (geneValue cRisk .volTarget []).toFloat
  let maxWeight ← (geneValue cRisk .maxWeight []).toFloat
  let maxDrawdownLimit ← (geneValue cRisk .maxDrawdownLimit []).toFloat
  let turnoverBudget ← (geneValue cRisk .turnoverBudget []).toFloat
  .ok
    { volTarget := clipTo volTarget (5 / 100) (40 / 100)
      maxWeight := clipTo maxWeight (5 / 100) (50 / 100)
      maxDrawdownLimit := clipTo maxDrawdownLimit (2 / 100) (30 / 100)
      turnoverBudget := clipTo turnoverBudget (5 / 100) 1 }

/-- `from_dict`. -/
def StrategyChromosome.fromDict (log : α → α) (data : ChromosomeDict α) : Except Exc (StrategyChromosome α) := do
  let representation ← representationOf (data.block .repr)
  let gameTheory ← gameTheoryOf log (data.block .game)
  let inference ← inferenceOf (data.block .infer)
  let risk ← riskOf (data.block .risk)
  .ok
    { representation := representation
      gameTheory := gameTheory
      inference := inference
      risk := risk }

end Convert

end Quant
