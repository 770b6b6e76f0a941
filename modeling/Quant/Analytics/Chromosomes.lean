import Quant.Exceptions
import Quant.Pylib.Decimal

/-!
# Strategy chromosomes

The gene registry, the chromosomes and `ChromosomeVectorCodec` of `analytics/chromosomes.py`, over any ordered field with floors;
the logarithm and the exponential are parameters. The names of genes and blocks are the attributes of the dataclasses and stand as
types.
-/

namespace Quant

open Pylib

/-! ## The registry -/

inductive ScaleType where
  | linear
  | logarithmic
  | softmaxLogit
  | discreteInt
  deriving DecidableEq, Repr

/-- The sub-chromosomes. -/
inductive Block where
  | repr
  | game
  | infer
  | risk
  deriving DecidableEq, Repr

/-- The attributes of the sub-chromosomes. -/
inductive GeneName where
  | tauSlow
  | tauRatio
  | alphaDecay
  | fractionalD
  | ambiguityTemp
  | riskAversion
  | predatoryIntensity
  | logitBull
  | logitBear
  | logitPanic
  | executionHorizon
  | hyperbolicDecay
  | profitTakeMult
  | stopLossMult
  | holdingPeriod
  | metaLabelThresh
  | volTarget
  | maxWeight
  | maxDrawdownLimit
  | turnoverBudget
  deriving DecidableEq, Repr

structure GeneSpec where
  name : GeneName
  block : Block
  scaleType : ScaleType
  lowerBound : ℚ
  upperBound : ℚ
  defaultValue : ℚ
  stepSize : ℚ := 1
  deriving DecidableEq

/-- `GeneSpec.__post_init__`. -/
def GeneSpec.check (g : GeneSpec) : Except Exc Unit :=
  if g.upperBound ≤ g.lowerBound then
    .error ⟨.valueError,
      "ERR-EVO-CHROM-001: Gene value outside declared physical bounds: lower_bound (%) must be strictly less " ++
      "than upper_bound (%) for gene", [.num g.lowerBound, .num g.upperBound]⟩
  else if g.scaleType = .logarithmic ∧ g.lowerBound ≤ 0 then
    .error ⟨.valueError, "ERR-EVO-CHROM-001: Gene value outside declared physical bounds: logarithmic gene must have " ++
      "lower_bound > 0.0, got %", [.num g.lowerBound]⟩
  else if g.stepSize ≤ 0 then
    .error ⟨.valueError,
      "ERR-EVO-CHROM-001: Gene value outside declared physical bounds: step_size must be strictly positive, got %",
      [.num g.stepSize]⟩
  else .ok ()

/-- `GENE_REGISTRY`. -/
def geneRegistry : List GeneSpec :=
  [⟨.tauSlow, .repr, .logarithmic, 14400, 604800, 86400, 1⟩,
    ⟨.tauRatio, .repr, .linear, 2 / 100, 50 / 100, 10 / 100, 1⟩,
    ⟨.alphaDecay, .repr, .linear, 0, 1, 50 / 100, 1⟩,
    ⟨.fractionalD, .repr, .linear, 5 / 100, 95 / 100, 40 / 100, 1⟩,
    ⟨.ambiguityTemp, .game, .logarithmic, 5 / 100, 5, 1, 1⟩,
    ⟨.riskAversion, .game, .linear, 1 / 10, 10, 1, 1⟩,
    ⟨.predatoryIntensity, .game, .linear, 0, 1, 25 / 100, 1⟩,
    ⟨.logitBull, .game, .softmaxLogit, -2, 2, 0, 1⟩,
    ⟨.logitBear, .game, .softmaxLogit, -2, 2, 0, 1⟩,
    ⟨.logitPanic, .game, .softmaxLogit, -2, 2, -1, 1⟩,
    ⟨.executionHorizon, .infer, .discreteInt, 1, 20, 5, 1⟩,
    ⟨.hyperbolicDecay, .infer, .linear, 1 / 100, 2, 50 / 100, 1⟩,
    ⟨.profitTakeMult, .infer, .linear, 1 / 2, 5, 2, 1⟩,
    ⟨.stopLossMult, .infer, .linear, 1 / 2, 5, 2, 1⟩,
    ⟨.holdingPeriod, .infer, .discreteInt, 5, 100, 20, 5⟩,
    ⟨.metaLabelThresh, .infer, .linear, 40 / 100, 85 / 100, 50 / 100, 1⟩,
    ⟨.volTarget, .risk, .linear, 5 / 100, 40 / 100, 15 / 100, 1⟩,
    ⟨.maxWeight, .risk, .linear, 5 / 100, 50 / 100, 30 / 100, 1⟩,
    ⟨.maxDrawdownLimit, .risk, .linear, 2 / 100, 30 / 100, 10 / 100, 1⟩,
    ⟨.turnoverBudget, .risk, .linear, 5 / 100, 1, 50 / 100, 1⟩]

/-- Every gene of the registry passes its own check, and its default is within its bounds. -/
theorem geneRegistry_check : ∀ g ∈ geneRegistry, g.check = .ok () ∧ g.lowerBound ≤ g.defaultValue ∧
    g.defaultValue ≤ g.upperBound := by
  decide +kernel

/-- The gene of a name. -/
def geneOf (n : GeneName) : GeneSpec := (geneRegistry.find? fun g => g.name = n).getD ⟨n, .repr, .linear, 0, 1, 0, 1⟩

/-! ## The chromosomes -/

@[ext]
structure RepresentationChromosome (α : Type*) where
  tauSlow : α
  tauRatio : α
  alphaDecay : α
  fractionalD : α
  deriving DecidableEq

@[ext]
structure GameTheoryChromosome (α : Type*) where
  ambiguityTemp : α
  riskAversion : α
  predatoryIntensity : α
  logitBull : α
  logitBear : α
  logitPanic : α
  deriving DecidableEq

@[ext]
structure InferenceChromosome (α : Type*) where
  executionHorizon : ℤ
  hyperbolicDecay : α
  profitTakeMult : α
  stopLossMult : α
  holdingPeriod : ℤ
  metaLabelThresh : α
  deriving DecidableEq

@[ext]
structure RiskChromosome (α : Type*) where
  volTarget : α
  maxWeight : α
  maxDrawdownLimit : α
  turnoverBudget : α
  deriving DecidableEq

@[ext]
structure StrategyChromosome (α : Type*) where
  representation : RepresentationChromosome α
  gameTheory : GameTheoryChromosome α
  inference : InferenceChromosome α
  risk : RiskChromosome α
  deriving DecidableEq

/-- `StrategyChromosome()`: the defaults of the four parts. -/
def defaultChromosome : StrategyChromosome ℚ where
  representation :=
    { tauSlow := 86400
      tauRatio := 10 / 100
      alphaDecay := 50 / 100
      fractionalD := 40 / 100 }
  gameTheory :=
    { ambiguityTemp := 1
      riskAversion := 1
      predatoryIntensity := 25 / 100
      logitBull := 0
      logitBear := 0
      logitPanic := -1 }
  inference :=
    { executionHorizon := 5
      hyperbolicDecay := 50 / 100
      profitTakeMult := 2
      stopLossMult := 2
      holdingPeriod := 20
      metaLabelThresh := 50 / 100 }
  risk :=
    { volTarget := 15 / 100
      maxWeight := 30 / 100
      maxDrawdownLimit := 10 / 100
      turnoverBudget := 50 / 100 }

section Codec

attribute [local instance] two_atLeastTwo three_atLeastTwo ten_atLeastTwo

variable {α : Type*} [Field α] [LinearOrder α] [FloorRing α]

/-- `regime_priors`: the softmax of the logits, shifted by the largest. -/
def GameTheoryChromosome.regimePriors (exp : α → α) (c : GameTheoryChromosome α) : List α :=
  let logits := [c.logitBull, c.logitBear, c.logitPanic]
  let top := max (max c.logitBull c.logitBear) c.logitPanic
  let expLogits := logits.map fun x => exp (x - top)
  expLogits.map (· / expLogits.sum)

/-- `getattr` of a sub-chromosome, for the attributes that are fields. -/
def StrategyChromosome.getattr (c : StrategyChromosome α) : Block → GeneName → Option α
  | .repr, .tauSlow => some c.representation.tauSlow
  | .repr, .tauRatio => some c.representation.tauRatio
  | .repr, .alphaDecay => some c.representation.alphaDecay
  | .repr, .fractionalD => some c.representation.fractionalD
  | .game, .ambiguityTemp => some c.gameTheory.ambiguityTemp
  | .game, .riskAversion => some c.gameTheory.riskAversion
  | .game, .predatoryIntensity => some c.gameTheory.predatoryIntensity
  | .game, .logitBull => some c.gameTheory.logitBull
  | .game, .logitBear => some c.gameTheory.logitBear
  | .game, .logitPanic => some c.gameTheory.logitPanic
  | .infer, .executionHorizon => some c.inference.executionHorizon
  | .infer, .hyperbolicDecay => some c.inference.hyperbolicDecay
  | .infer, .profitTakeMult => some c.inference.profitTakeMult
  | .infer, .stopLossMult => some c.inference.stopLossMult
  | .infer, .holdingPeriod => some c.inference.holdingPeriod
  | .infer, .metaLabelThresh => some c.inference.metaLabelThresh
  | .risk, .volTarget => some c.risk.volTarget
  | .risk, .maxWeight => some c.risk.maxWeight
  | .risk, .maxDrawdownLimit => some c.risk.maxDrawdownLimit
  | .risk, .turnoverBudget => some c.risk.turnoverBudget
  | _, _ => none

/-! ## The codec -/

inductive CodecError where
  | dimension (expected got : ℕ)
  | attribute (block : Block) (name : GeneName)
  | key (name : GeneName)
  deriving DecidableEq

/-- `n_steps` of a discrete gene. -/
def GeneSpec.nSteps (g : GeneSpec) : ℤ := roundHalfEven ((g.upperBound - g.lowerBound) / g.stepSize) + 1

/-- The unit value of a physical one. -/
def GeneSpec.toUnit (log : α → α) (g : GeneSpec) (val : α) : α :=
  match g.scaleType with
  | .linear | .softmaxLogit => (val - g.lowerBound) / (g.upperBound - g.lowerBound)
  | .logarithmic => (log (max val (1 / 10 ^ 12)) - log g.lowerBound) / (log g.upperBound - log g.lowerBound)
  | .discreteInt =>
    let stepIdx := nearestInt ((val - g.lowerBound) / g.stepSize)
    (stepIdx + 1 / 2) / g.nSteps

/-- The physical value of a unit one. -/
def GeneSpec.toPhys (log exp : α → α) (g : GeneSpec) (u : α) : α :=
  match g.scaleType with
  | .linear | .softmaxLogit => g.lowerBound + u * (g.upperBound - g.lowerBound)
  | .logarithmic => exp (log g.lowerBound + u * (log g.upperBound - log g.lowerBound))
  | .discreteInt =>
    let stepIdx : ℤ := min (g.nSteps - 1) (max 0 ⌊u * g.nSteps⌋)
    g.lowerBound + stepIdx * g.stepSize

/-- `encode`. -/
def encode (log : α → α) (registry : List GeneSpec) (c : StrategyChromosome α) : Except CodecError (List α) := do
  let u ← registry.mapM fun g =>
    match c.getattr g.block g.name with
    | some val => .ok (g.toUnit log val)
    | none => .error (.attribute g.block g.name)
  return u.map (clip · 0 1)

/-- `decoded_values`: of genes with one name the last one counts. -/
def decodedValues (log exp : α → α) (registry : List GeneSpec) (u : List α) : List (GeneName × α) :=
  (List.zipWith (fun g x => (g.name, g.toPhys log exp (clip x 0 1))) registry u).reverse

/-- `decoded_values[name]`. -/
def decodedValue (values : List (GeneName × α)) (name : GeneName) : Except CodecError α :=
  match values.lookup name with
  | some val => .ok val
  | none => .error (.key name)

/-- `decode`: the logits are centred at zero and clipped. -/
def decode (log exp : α → α) (registry : List GeneSpec) (u : List α) : Except CodecError (StrategyChromosome α) := do
  if u.length ≠ registry.length then throw (.dimension registry.length u.length)
  let values := decodedValues log exp registry u
  let logitBull ← decodedValue values .logitBull
  let logitBear ← decodedValue values .logitBear
  let logitPanic ← decodedValue values .logitPanic
  let meanLogit := (logitBull + logitBear + logitPanic) / 3
  return {
    representation :=
      { tauSlow := ← decodedValue values .tauSlow
        tauRatio := ← decodedValue values .tauRatio
        alphaDecay := ← decodedValue values .alphaDecay
        fractionalD := ← decodedValue values .fractionalD }
    gameTheory :=
      { ambiguityTemp := ← decodedValue values .ambiguityTemp
        riskAversion := ← decodedValue values .riskAversion
        predatoryIntensity := ← decodedValue values .predatoryIntensity
        logitBull := clip (logitBull - meanLogit) (-2) 2
        logitBear := clip (logitBear - meanLogit) (-2) 2
        logitPanic := clip (logitPanic - meanLogit) (-2) 2 }
    inference :=
      { executionHorizon := nearestInt (← decodedValue values .executionHorizon)
        hyperbolicDecay := ← decodedValue values .hyperbolicDecay
        profitTakeMult := ← decodedValue values .profitTakeMult
        stopLossMult := ← decodedValue values .stopLossMult
        holdingPeriod := nearestInt (← decodedValue values .holdingPeriod)
        metaLabelThresh := ← decodedValue values .metaLabelThresh }
    risk :=
      { volTarget := ← decodedValue values .volTarget
        maxWeight := ← decodedValue values .maxWeight
        maxDrawdownLimit := ← decodedValue values .maxDrawdownLimit
        turnoverBudget := ← decodedValue values .turnoverBudget } }

end Codec
end Quant
