import Mathlib.Algebra.Order.Floor.Ring
import Mathlib.Data.List.MinMax
import Mathlib.Data.Rat.Floor
import Quant.Analytics.ParetoSorting
import Quant.Pylib.Upsert

/-!
# Hypergamic selection

`analytics/hypergamic_selection.py`: the cohorts, the orthogonality gate, the matching of pairs and the assembly of the offspring.
A chromosome is any type; its encoding, the square root, the draws of the tournaments and the crossover of two encoded parents are
parameters.
-/

namespace Quant

open Pylib

/-! ## Configuration -/

/-- The settings of `HypergamicConfig` that the selection reads, with their defaults; those of the crossover are left out. -/
structure HypergamicConfigFields where
  alphaRatio : ℚ := 25 / 100
  orthogonalityThreshold : ℚ := 30 / 100
  maxMatingAttempts : ℕ := 5
  relaxationFactor : ℚ := 80 / 100
  tournamentSize : ℕ := 3
  elitismCount : ℕ := 2
  deriving DecidableEq

/-- Settings their constructor accepted. -/
structure HypergamicConfig extends HypergamicConfigFields where
  alphaRatio_mem : 5 / 100 ≤ alphaRatio ∧ alphaRatio ≤ 90 / 100
  orthogonalityThreshold_mem : 0 ≤ orthogonalityThreshold ∧ orthogonalityThreshold ≤ 1
  maxMatingAttempts_pos : 1 ≤ maxMatingAttempts
  relaxationFactor_mem : 0 < relaxationFactor ∧ relaxationFactor ≤ 1
  tournamentSize_pos : 1 ≤ tournamentSize

/-- `HypergamicConfig.__post_init__`; a count is no negative number. -/
def HypergamicConfigFields.create (f : HypergamicConfigFields) : Except Exc HypergamicConfig :=
  if h1 : ¬ (5 / 100 ≤ f.alphaRatio ∧ f.alphaRatio ≤ 90 / 100) then
    .error ⟨.hypergamicSelection, "alpha_ratio must be in [0.05, 0.90], got %", [.num f.alphaRatio]⟩
  else if h2 : ¬ (0 ≤ f.orthogonalityThreshold ∧ f.orthogonalityThreshold ≤ 1) then
    .error ⟨.hypergamicSelection, "orthogonality_threshold must be in [0.0, 1.0], got %", [.num f.orthogonalityThreshold]⟩
  else if h3 : f.maxMatingAttempts < 1 then
    .error ⟨.hypergamicSelection, "max_mating_attempts must be >= 1, got %", [.num f.maxMatingAttempts]⟩
  else if h4 : ¬ (0 < f.relaxationFactor ∧ f.relaxationFactor ≤ 1) then
    .error ⟨.hypergamicSelection, "relaxation_factor must be in (0.0, 1.0], got %", [.num f.relaxationFactor]⟩
  else if h5 : f.tournamentSize < 1 then
    .error ⟨.hypergamicSelection, "tournament_size must be >= 1, got %", [.num f.tournamentSize]⟩
  else .ok
    { f with
      alphaRatio_mem := not_not.1 h1
      orthogonalityThreshold_mem := not_not.1 h2
      maxMatingAttempts_pos := not_lt.1 h3
      relaxationFactor_mem := not_not.1 h4
      tournamentSize_pos := not_lt.1 h5 }

theorem HypergamicConfigFields.default_valid :
    (5 / 100 ≤ ({} : HypergamicConfigFields).alphaRatio ∧ ({} : HypergamicConfigFields).alphaRatio ≤ 90 / 100) ∧
      (0 ≤ ({} : HypergamicConfigFields).orthogonalityThreshold ∧ ({} : HypergamicConfigFields).orthogonalityThreshold ≤ 1) ∧
      1 ≤ ({} : HypergamicConfigFields).maxMatingAttempts ∧
      (0 < ({} : HypergamicConfigFields).relaxationFactor ∧ ({} : HypergamicConfigFields).relaxationFactor ≤ 1) ∧
      1 ≤ ({} : HypergamicConfigFields).tournamentSize := by
  decide +kernel

/-- `HypergamicConfig(elitism_count=...)`. -/
def HypergamicConfig.withElitism (elitismCount : ℕ) : HypergamicConfig where
  elitismCount := elitismCount
  alphaRatio_mem := HypergamicConfigFields.default_valid.1
  orthogonalityThreshold_mem := HypergamicConfigFields.default_valid.2.1
  maxMatingAttempts_pos := HypergamicConfigFields.default_valid.2.2.1
  relaxationFactor_mem := HypergamicConfigFields.default_valid.2.2.2.1
  tournamentSize_pos := HypergamicConfigFields.default_valid.2.2.2.2

/-- `MatingPair`. -/
structure MatingPair where
  alphaId : String
  aspirantId : String
  residualCorrelation : ℚ
  isRelaxed : Bool := false
  relaxationLevel : ℕ := 0
  deriving DecidableEq

/-- `OffspringResult`, without the matcher's counters. -/
structure OffspringResult (χ : Type) where
  offspringChromosomes : List χ
  matingPairs : List MatingPair
  alphaIds : List String
  aspirantIds : List String
  eliteIds : List String

/-- What one reproduction takes from outside: the square root, the encoding of a chromosome, the draws of the tournaments (by the
pair, the attempt and the place in the pool) and the crossover of two encoded parents with the draws of a pair. -/
structure ReproductionFns (χ : Type) where
  sqrt : ℚ → ℚ
  encode : χ → List ℚ
  draw : ℕ → ℕ → ℕ → ℕ
  cross : ℕ → List ℚ → List ℚ → χ

namespace HypergamicConfig

/-! ## Cohorts -/

/-- The candidates that may mate, by id. -/
def viableCandidates (candidates : List CandidateFitness) (ranking : RankingResult) : Dict String CandidateFitness :=
  let candById : Dict String CandidateFitness := (∅ : Dict String CandidateFitness).upsert (·.candidateId)
    (candidates.filter (·.isFeasible))
  (∅ : Dict String CandidateFitness).upsert (·.candidateId)
    (candById.values.filter fun cand => cand.candidateId ∉ ranking.infeasibleIds ∧ 1 / 2 ≤ cand.dsr)

/-- The ids of the Alpha cohort: the viable members of the first front, filled up from the second one by its scores. -/
def alphaCohort (viable : Dict String CandidateFitness) (targetAlpha : ℕ) (f1 : ParetoFront)
    (rest : List ParetoFront) : List String :=
  let alphaIds := f1.candidateIds.filter fun cid => viable.contains cid
  if targetAlpha ≤ alphaIds.length then alphaIds
  else
    match rest with
    | [] => alphaIds
    | f2 :: _ =>
      let f2Pairs := (f2.candidateIds.zip f2.apdScores).filter fun p => viable.contains p.1 ∧ p.1 ∉ alphaIds
      alphaIds ++ ((f2Pairs.insertionSort fun p q => p.2 ≤ q.2).take (targetAlpha - alphaIds.length)).map Prod.fst

/-- `stratify`: the Alpha and the Aspirant cohort. -/
def stratify (config : HypergamicConfig) (candidates : List CandidateFitness) (ranking : RankingResult) :
    Except Exc (List CandidateFitness × List CandidateFitness) :=
  let viable := viableCandidates candidates ranking
  if viable.items = [] then .error ⟨.invalidCohort, "No viable candidates available for hypergamic stratification.", []⟩
  else
    let targetAlpha := max 1 ⌈config.alphaRatio * viable.items.length⌉₊
    match ranking.fronts with
    | [] =>
      let sortedCands := viable.values.insertionSort fun c c' => c'.dsr ≤ c.dsr
      let alphaCands := sortedCands.take targetAlpha
      .ok (alphaCands, if sortedCands.drop targetAlpha = [] then alphaCands else sortedCands.drop targetAlpha)
    | f1 :: rest =>
      let alphaIds := alphaCohort viable targetAlpha f1 rest
      let others := viable.keys.filter fun cid => cid ∉ alphaIds
      let aspirantIds := if others = [] then alphaIds else others
      .ok (alphaIds.filterMap viable.get?, aspirantIds.filterMap viable.get?)

/-! ## The gate -/

/-- The unexplained variance a relaxed gate asks for. -/
def deltaEff (config : HypergamicConfig) (relaxationLevel : ℕ) : ℚ :=
  config.orthogonalityThreshold * config.relaxationFactor ^ relaxationLevel

/-- `ResidualOrthogonalityGate.evaluate`. -/
def evaluate (config : HypergamicConfig) (sqrt : ℚ → ℚ) (alpha aspirant : CandidateFitness) (relaxationLevel : ℕ) : Bool × ℚ :=
  let tBars := min alpha.residualSeries.length aspirant.residualSeries.length
  if tBars < 2 then (false, 1)
  else
    let devA := deviations (alpha.residualSeries.take tBars)
    let devB := deviations (aspirant.residualSeries.take tBars)
    let normA := linalgNorm sqrt devA
    let normB := linalgNorm sqrt devB
    if normA < tinyNorm ∨ normB < tinyNorm then (false, 1)
    else
      let rho := max (-1) (min 1 (dot devA devB / (normA * normB)))
      (config.deltaEff relaxationLevel ≤ 1 - |rho|, rho)

/-- `ResidualOrthogonalityGate.evaluate_normalized`. -/
def evaluateNormalized (config : HypergamicConfig) (unitA unitB : List ℚ) (relaxationLevel : ℕ) : Except Exc (Bool × ℚ) :=
  if unitA.length < 2 ∨ unitB.length < 2 then .ok (false, 1)
  else
    (npDot unitA unitB).map fun product =>
      let rho := max (-1) (min 1 product)
      (config.deltaEff relaxationLevel ≤ 1 - |rho|, rho)

/-! ## Matching -/

/-- The residuals of a candidate, centred and of norm one where they are not constant. -/
def unitResidual (sqrt : ℚ → ℚ) (c : CandidateFitness) : List ℚ :=
  let dev := deviations c.residualSeries
  let norm := linalgNorm sqrt dev
  if tinyNorm ≤ norm then dev.map (· / norm) else dev.map fun _ => 0

section Matching

variable {χ : Type} (config : HypergamicConfig) (fns : ReproductionFns χ)

/-- The winner of a tournament: of the aspirants drawn, the first with the highest `dsr`. -/
def tournament (aspirants : List CandidateFitness) (pairIdx attempts : ℕ) : Option CandidateFitness :=
  let kTourn := min config.tournamentSize aspirants.length
  ((List.range kTourn).filterMap fun k => aspirants[fns.draw pairIdx attempts k % aspirants.length]?).argmax (·.dsr)

/-- The tournaments of one pair until the gate lets a partner pass or the attempts are used up. -/
def court (alpha : CandidateFitness) (aspirants : List CandidateFitness) (pairIdx : ℕ) : ℕ → ℕ → Except Exc (Option MatingPair)
  | 0, _ => .ok none
  | left + 1, attempts =>
    let level := if config.maxMatingAttempts ≤ attempts then attempts - config.maxMatingAttempts + 1 else 0
    match tournament config fns aspirants pairIdx attempts with
    | none => .error ⟨.valueError, "max() arg is an empty sequence", []⟩
    | some aspirant =>
      (config.evaluateNormalized (unitResidual fns.sqrt alpha) (unitResidual fns.sqrt aspirant) level).bind
        fun (isAccepted, rho) =>
        if isAccepted then
          .ok (some
            { alphaId := alpha.candidateId
              aspirantId := aspirant.candidateId
              residualCorrelation := rho
              isRelaxed := decide (0 < level)
              relaxationLevel := level })
        else court alpha aspirants pairIdx left (attempts + 1)

/-- The aspirant farthest from the alpha in the encoding, and the correlation of the two. -/
def farthest (chromosomeMap : Dict String χ) (alpha : CandidateFitness) (uAlpha : List ℚ) (first : CandidateFitness)
    (aspirants : List CandidateFitness) : CandidateFitness × ℚ :=
  (aspirants.foldl (fun (maxDist, chosen) asp =>
    match chromosomeMap.get? asp.candidateId with
    | none => (maxDist, chosen)
    | some chrom =>
      let dist := linalgNorm fns.sqrt (List.zipWith (· - ·) uAlpha (fns.encode chrom))
      if maxDist < dist then (dist, (asp, (config.evaluate fns.sqrt alpha asp 0).2)) else (maxDist, chosen))
    ((-1 : ℚ), (first, (1 : ℚ)))).2

/-- The aspirant whose correlation with the alpha is least in size. -/
def leastCorrelated (alpha first : CandidateFitness) (aspirants : List CandidateFitness) : CandidateFitness × ℚ :=
  (aspirants.foldl (fun (minAbsCorr, chosen) asp =>
    let rho := (config.evaluate fns.sqrt alpha asp 0).2
    if |rho| < minAbsCorr then (|rho|, (asp, rho)) else (minAbsCorr, chosen)) ((2 : ℚ), (first, (1 : ℚ)))).2

/-- The partner of an alpha once its attempts are used up. -/
def fallback (chromosomeMap : Dict String χ) (alpha first : CandidateFitness) (aspirants : List CandidateFitness) :
    CandidateFitness × ℚ :=
  match chromosomeMap.get? alpha.candidateId with
  | some chrom => farthest config fns chromosomeMap alpha (fns.encode chrom) first aspirants
  | none => leastCorrelated config fns alpha first aspirants

/-- The limit of the attempts of a pair. -/
def exhaustionLimit : ℕ := 2 * config.maxMatingAttempts

/-- One pair of `match_pairs`: the alpha is the next one in turn. -/
def matchPair (chromosomeMap : Dict String χ) (alphas aspirants : List CandidateFitness) (pairIdx : ℕ) : Except Exc MatingPair :=
  match alphas[pairIdx % alphas.length]?, aspirants with
  | some alpha, first :: _ =>
    (court config fns alpha aspirants pairIdx (exhaustionLimit config) 0).map fun bestPair =>
      match bestPair with
      | some pair => pair
      | none =>
        let chosen := fallback config fns chromosomeMap alpha first aspirants
        { alphaId := alpha.candidateId
          aspirantId := chosen.1.candidateId
          residualCorrelation := chosen.2
          isRelaxed := true
          relaxationLevel := max 1 (exhaustionLimit config) }
  | _, _ => .error ⟨.indexError, "list index out of range", []⟩

/-- `match_pairs`. -/
def matchPairs (alphas aspirants : List CandidateFitness) (targetPairCount : ℕ) (chromosomeMap : Dict String χ) :
    Except Exc (List MatingPair) :=
  if alphas = [] then .error ⟨.invalidCohort, "Alpha cohort cannot be empty for partner matching.", []⟩
  else if aspirants = [] then .error ⟨.invalidCohort, "Aspirant cohort cannot be empty for partner matching.", []⟩
  else (List.range targetPairCount).mapM (matchPair config fns chromosomeMap alphas aspirants)

/-! ## Reproduction -/

/-- The chromosome of an elite. -/
def eliteChromosome (chromosomeMap : Dict String χ) (eid : String) : Except Exc χ :=
  match chromosomeMap.get? eid with
  | none => .error ⟨.hypergamicSelection, "Elite candidate '%' not found in chromosome_map.", [.str eid]⟩
  | some chrom => .ok chrom

/-- The child of a pair. -/
def crossPair (chromosomeMap : Dict String χ) (pair : MatingPair) (pairIdx : ℕ) : Except Exc χ :=
  match chromosomeMap.get? pair.alphaId, chromosomeMap.get? pair.aspirantId with
  | none, _ => .error ⟨.hypergamicSelection, "Alpha candidate '%' not found in chromosome_map.", [.str pair.alphaId]⟩
  | _, none => .error ⟨.hypergamicSelection, "Aspirant candidate '%' not found in chromosome_map.", [.str pair.aspirantId]⟩
  | some alpha, some aspirant => .ok (fns.cross pairIdx (fns.encode alpha) (fns.encode aspirant))

/-- The champions of the first front that are copied. -/
def eliteIds (ranking : RankingResult) (targetPopulationSize : ℕ) : List String :=
  let front1Cands := ((ranking.fronts.find? fun f => f.rank = 1).map (·.candidateIds)).getD []
  front1Cands.take (min config.elitismCount (min front1Cands.length targetPopulationSize))

/-- The pairs of a reproduction, matched where any are needed. -/
def matchNeeded (alphas aspirants : List CandidateFitness) (neededPairs : ℕ) (chromosomeMap : Dict String χ) :
    Except Exc (List MatingPair) :=
  if 0 < neededPairs then matchPairs config fns alphas aspirants neededPairs chromosomeMap else .ok []

/-- `reproduce`: the elites first, then a child for each pair. -/
def reproduce (candidates : List CandidateFitness) (ranking : RankingResult) (chromosomeMap : Dict String χ)
    (targetPopulationSize : ℕ) :
    Except Exc (OffspringResult χ) :=
  if targetPopulationSize = 0 then
    .error ⟨.hypergamicSelection, "target_population_size must be positive, got %", [.num targetPopulationSize]⟩
  else do
    let (alphas, aspirants) ← config.stratify candidates ranking
    let elites := eliteIds config ranking targetPopulationSize
    let eliteChromosomes ← elites.mapM (eliteChromosome chromosomeMap)
    let matingPairs ← matchNeeded config fns alphas aspirants (targetPopulationSize - elites.length) chromosomeMap
    let crossoverChromosomes ← matingPairs.zipIdx.mapM fun (pair, i) => crossPair fns chromosomeMap pair i
    .ok
      { offspringChromosomes := eliteChromosomes ++ crossoverChromosomes
        matingPairs := matingPairs
        alphaIds := alphas.map (·.candidateId)
        aspirantIds := aspirants.map (·.candidateId)
        eliteIds := elites }

end Matching

end HypergamicConfig

/-!
## The orthogonality gate over a field

`evaluate` and `evaluate_normalized` of `ResidualOrthogonalityGate` and the cached residuals of `match_pairs`, with the numbers in
any ordered field, so that the square root can be the exact one. Over the rationals they are the gate the matching uses.
-/

section Gate

variable {α : Type} [Field α] [LinearOrder α] (sqrt : α → α)

/-- `np.dot` of two vectors of one length. -/
def dotOver (xs ys : List α) : α := (List.zipWith (· * ·) xs ys).sum

/-- `xs - np.mean(xs)`. -/
def deviationsOver (xs : List α) : List α := xs.map (· - xs.sum / xs.length)

/-- `np.linalg.norm`. -/
def normOver (xs : List α) : α := sqrt (dotOver xs xs)

/-- The norm below which a series counts as constant. -/
def tinyNormOver : α := (tinyNorm : ℚ)

/-- Whether the unexplained variance is enough, and the clamped correlation. -/
def gateVerdict (config : HypergamicConfig) (relaxationLevel : ℤ) (product : α) : Bool × α :=
  let rho := max (-1) (min 1 product)
  (((config.deltaEff (max 0 relaxationLevel).toNat : ℚ) : α) ≤ 1 - |rho|, rho)

/-- `ResidualOrthogonalityGate.evaluate` of two residual series. -/
def gateEvaluate (config : HypergamicConfig) (resA resB : List α) (relaxationLevel : ℤ) : Bool × α :=
  let tBars := min resA.length resB.length
  if tBars < 2 then (false, 1)
  else
    let devA := deviationsOver (resA.take tBars)
    let devB := deviationsOver (resB.take tBars)
    let normA := normOver sqrt devA
    let normB := normOver sqrt devB
    if normA < tinyNormOver ∨ normB < tinyNormOver then (false, 1)
    else gateVerdict config relaxationLevel (dotOver devA devB / (normA * normB))

/-- `ResidualOrthogonalityGate.evaluate_normalized`; the product raises where the vectors are not of one length. -/
def gateEvaluateNormalized (config : HypergamicConfig) (unitA unitB : List α) (relaxationLevel : ℤ) : Except Exc (Bool × α) :=
  if unitA.length < 2 ∨ unitB.length < 2 then .ok (false, 1)
  else if unitA.length = unitB.length then .ok (gateVerdict config relaxationLevel (dotOver unitA unitB))
  else .error ⟨.valueError, "shapes (%,) and (%,) not aligned: % (dim 0) != % (dim 0)",
    [.num unitA.length, .num unitB.length, .num unitA.length, .num unitB.length]⟩

/-- The entry of `unit_res_cache` for a residual series. -/
def unitResidualOver (res : List α) : List α :=
  let dev := deviationsOver res
  let norm := normOver sqrt dev
  if tinyNormOver ≤ norm then dev.map (· / norm) else dev.map fun _ => 0

end Gate

/-! ### The gate of the matching -/

variable (config : HypergamicConfig) (sqrt : ℚ → ℚ) (alpha aspirant : CandidateFitness) (relaxationLevel : ℕ)

theorem unitResidual_eq (c : CandidateFitness) : HypergamicConfig.unitResidual sqrt c = unitResidualOver sqrt c.residualSeries :=
  rfl

theorem evaluate_eq : config.evaluate sqrt alpha aspirant relaxationLevel =
    gateEvaluate sqrt config alpha.residualSeries aspirant.residualSeries relaxationLevel := by
  have hlevel : (max 0 (relaxationLevel : ℤ)).toNat = relaxationLevel := by omega
  simp only [gateEvaluate, gateVerdict, hlevel]
  rfl

theorem evaluateNormalized_eq (unitA unitB : List ℚ) : config.evaluateNormalized unitA unitB relaxationLevel =
    gateEvaluateNormalized config unitA unitB relaxationLevel := by
  have hlevel : (max 0 (relaxationLevel : ℤ)).toNat = relaxationLevel := by omega
  simp only [gateEvaluateNormalized, gateVerdict, hlevel, HypergamicConfig.evaluateNormalized, npDot]
  split
  · rfl
  · split <;> rfl

end Quant
