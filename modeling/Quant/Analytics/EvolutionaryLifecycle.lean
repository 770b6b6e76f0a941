import Quant.Analytics.HypergamicSelection
import Quant.Pylib.Decimal

/-!
# The evolutionary lifecycle

`GenerationalLifecycleEngine` of `analytics/evolutionary_lifecycle.py`: the reproduction of a population, its joint pool with the
offspring, the selection of the survivors and the adaptation of the step size. What a mutation draws and the two measures of
diversity are parameters.
-/

namespace Quant

open Pylib

/-! ## Configuration and state -/

/-- The settings of `MutationConfig` the lifecycle reads, with their defaults; those of a single mutation are left out. -/
structure MutationConfigFields where
  initialStepSize : ℚ := 5 / 100
  minStepSize : ℚ := 5 / 1000
  maxStepSize : ℚ := 25 / 100
  expansionFactor : ℚ := 110 / 100
  contractionFactor : ℚ := 90 / 100
  smoothingFactor : ℚ := 20 / 100
  stagnationDiversityThreshold : ℚ := 5 / 100
  stagnationCorrelationThreshold : ℚ := 80 / 100
  stagnationGenerationsLimit : ℕ := 3
  cataclysmicStepSize : ℚ := 35 / 100
  deriving DecidableEq

/-- Settings their constructor accepted. -/
structure MutationConfig extends MutationConfigFields where
  minStepSize_pos : 0 < minStepSize
  minStepSize_lt : minStepSize < maxStepSize
  initialStepSize_mem : minStepSize ≤ initialStepSize ∧ initialStepSize ≤ maxStepSize
  expansionFactor_gt : 1 < expansionFactor
  contractionFactor_mem : 0 < contractionFactor ∧ contractionFactor < 1
  smoothingFactor_mem : 0 < smoothingFactor ∧ smoothingFactor ≤ 1
  stagnationDiversityThreshold_pos : 0 < stagnationDiversityThreshold
  stagnationCorrelationThreshold_mem : 0 ≤ stagnationCorrelationThreshold ∧ stagnationCorrelationThreshold ≤ 1
  stagnationGenerationsLimit_pos : 1 ≤ stagnationGenerationsLimit
  cataclysmicStepSize_pos : 0 < cataclysmicStepSize

/-- `MutationConfig.__post_init__`. -/
def MutationConfigFields.create (f : MutationConfigFields) : Except Exc MutationConfig :=
  if h1 : f.minStepSize ≤ 0 then .error ⟨.lifecycleError, "min_step_size must be positive and finite, got %",
    [.num f.minStepSize]⟩
  else if h2 : f.maxStepSize ≤ f.minStepSize then
    .error ⟨.lifecycleError, "max_step_size must be strictly greater than min_step_size, got min=%, max=%",
      [.num f.minStepSize, .num f.maxStepSize]⟩
  else if h3 : ¬ (f.minStepSize ≤ f.initialStepSize ∧ f.initialStepSize ≤ f.maxStepSize) then
    .error ⟨.lifecycleError, "initial_step_size must be within [%, %], got %",
      [.num f.minStepSize, .num f.maxStepSize, .num f.initialStepSize]⟩
  else if h4 : f.expansionFactor ≤ 1 then .error ⟨.lifecycleError, "expansion_factor must be > 1.0, got %",
    [.num f.expansionFactor]⟩
  else if h5 : ¬ (0 < f.contractionFactor ∧ f.contractionFactor < 1) then
    .error ⟨.lifecycleError, "contraction_factor must be in (0.0, 1.0), got %", [.num f.contractionFactor]⟩
  else if h6 : ¬ (0 < f.smoothingFactor ∧ f.smoothingFactor ≤ 1) then
    .error ⟨.lifecycleError, "smoothing_factor must be in (0.0, 1.0], got %", [.num f.smoothingFactor]⟩
  else if h7 : f.stagnationDiversityThreshold ≤ 0 then
    .error ⟨.lifecycleError, "stagnation_diversity_threshold must be positive, got %", [.num f.stagnationDiversityThreshold]⟩
  else if h8 : ¬ (0 ≤ f.stagnationCorrelationThreshold ∧ f.stagnationCorrelationThreshold ≤ 1) then
    .error ⟨.lifecycleError, "stagnation_correlation_threshold must be in [0.0, 1.0], got %",
      [.num f.stagnationCorrelationThreshold]⟩
  else if h9 : f.stagnationGenerationsLimit < 1 then
    .error ⟨.lifecycleError, "stagnation_generations_limit must be >= 1, got %", [.num f.stagnationGenerationsLimit]⟩
  else if h10 : f.cataclysmicStepSize ≤ 0 then
    .error ⟨.lifecycleError, "cataclysmic_step_size must be positive, got %", [.num f.cataclysmicStepSize]⟩
  else .ok
    { f with
      minStepSize_pos := not_le.1 h1
      minStepSize_lt := not_le.1 h2
      initialStepSize_mem := not_not.1 h3
      expansionFactor_gt := not_le.1 h4
      contractionFactor_mem := not_not.1 h5
      smoothingFactor_mem := not_not.1 h6
      stagnationDiversityThreshold_pos := not_le.1 h7
      stagnationCorrelationThreshold_mem := not_not.1 h8
      stagnationGenerationsLimit_pos := not_lt.1 h9
      cataclysmicStepSize_pos := not_le.1 h10 }

theorem MutationConfigFields.default_valid :
    0 < ({} : MutationConfigFields).minStepSize ∧
      ({} : MutationConfigFields).minStepSize < ({} : MutationConfigFields).maxStepSize ∧
      (({} : MutationConfigFields).minStepSize ≤ ({} : MutationConfigFields).initialStepSize ∧
        ({} : MutationConfigFields).initialStepSize ≤ ({} : MutationConfigFields).maxStepSize) ∧
      1 < ({} : MutationConfigFields).expansionFactor ∧
      (0 < ({} : MutationConfigFields).contractionFactor ∧ ({} : MutationConfigFields).contractionFactor < 1) ∧
      (0 < ({} : MutationConfigFields).smoothingFactor ∧ ({} : MutationConfigFields).smoothingFactor ≤ 1) ∧
      0 < ({} : MutationConfigFields).stagnationDiversityThreshold ∧
      (0 ≤ ({} : MutationConfigFields).stagnationCorrelationThreshold ∧
        ({} : MutationConfigFields).stagnationCorrelationThreshold ≤ 1) ∧
      1 ≤ ({} : MutationConfigFields).stagnationGenerationsLimit ∧
      0 < ({} : MutationConfigFields).cataclysmicStepSize := by
  decide +kernel

/-- `MutationConfig()`. -/
def MutationConfig.default : MutationConfig where
  minStepSize_pos := MutationConfigFields.default_valid.1
  minStepSize_lt := MutationConfigFields.default_valid.2.1
  initialStepSize_mem := MutationConfigFields.default_valid.2.2.1
  expansionFactor_gt := MutationConfigFields.default_valid.2.2.2.1
  contractionFactor_mem := MutationConfigFields.default_valid.2.2.2.2.1
  smoothingFactor_mem := MutationConfigFields.default_valid.2.2.2.2.2.1
  stagnationDiversityThreshold_pos := MutationConfigFields.default_valid.2.2.2.2.2.2.1
  stagnationCorrelationThreshold_mem := MutationConfigFields.default_valid.2.2.2.2.2.2.2.1
  stagnationGenerationsLimit_pos := MutationConfigFields.default_valid.2.2.2.2.2.2.2.2.1
  cataclysmicStepSize_pos := MutationConfigFields.default_valid.2.2.2.2.2.2.2.2.2

/-- The arguments of a generational state. -/
structure GenerationalStateFields where
  generationIndex : ℕ
  populationSize : ℕ
  activeStepSize : ℚ
  smoothedSuccessRatio : ℚ
  phenotypicDiversity : ℚ
  meanResidualCorrelation : ℚ
  stagnationCount : ℕ
  isCataclysmTriggered : Bool
  survivingCandidateIds : List String
  front1Count : ℕ
  deriving DecidableEq

/-- A state its constructor accepted. -/
structure GenerationalState extends GenerationalStateFields where
  populationSize_pos : 0 < populationSize
  activeStepSize_pos : 0 < activeStepSize
  smoothedSuccessRatio_mem : 0 ≤ smoothedSuccessRatio ∧ smoothedSuccessRatio ≤ 1
  phenotypicDiversity_nonneg : 0 ≤ phenotypicDiversity
  meanResidualCorrelation_mem : 0 ≤ meanResidualCorrelation ∧ meanResidualCorrelation ≤ 1
  survivingCandidateIds_length : survivingCandidateIds ≠ [] → survivingCandidateIds.length = populationSize

/-- `GenerationalState.__post_init__`; indices and counts are no negative numbers. -/
def GenerationalStateFields.create (f : GenerationalStateFields) : Except Exc GenerationalState :=
  if h1 : f.populationSize = 0 then
    .error ⟨.invalidGenerationalState, "population_size must be > 0, got %", [.num f.populationSize]⟩
  else if h2 : f.activeStepSize ≤ 0 then
    .error ⟨.invalidGenerationalState, "active_step_size must be positive, got %", [.num f.activeStepSize]⟩
  else if h3 : ¬ (0 ≤ f.smoothedSuccessRatio ∧ f.smoothedSuccessRatio ≤ 1) then
    .error ⟨.invalidGenerationalState, "smoothed_success_ratio must be in [0.0, 1.0], got %", [.num f.smoothedSuccessRatio]⟩
  else if h4 : f.phenotypicDiversity < 0 then
    .error ⟨.invalidGenerationalState, "phenotypic_diversity must be non-negative, got %", [.num f.phenotypicDiversity]⟩
  else if h5 : ¬ (0 ≤ f.meanResidualCorrelation ∧ f.meanResidualCorrelation ≤ 1) then
    .error ⟨.invalidGenerationalState, "mean_residual_correlation must be in [0.0, 1.0], got %", [.num f.meanResidualCorrelation]⟩
  else if h6 : f.survivingCandidateIds ≠ [] ∧ f.survivingCandidateIds.length ≠ f.populationSize then
    .error ⟨.invalidGenerationalState, "surviving_candidate_ids count (%) does not match population_size (%)",
      [.num f.survivingCandidateIds.length, .num f.populationSize]⟩
  else .ok
    { f with
      populationSize_pos := Nat.pos_of_ne_zero h1
      activeStepSize_pos := not_le.1 h2
      smoothedSuccessRatio_mem := not_not.1 h3
      phenotypicDiversity_nonneg := not_lt.1 h4
      meanResidualCorrelation_mem := not_not.1 h5
      survivingCandidateIds_length := fun hne => not_not.1 fun hlen => h6 ⟨hne, hlen⟩ }

/-- What one generation takes from outside: the scores of the rankings of the parents and of the pool, the parameters of the
reproduction, the mutation of a child by its number with a step size, and the two measures of diversity. -/
structure LifecycleFns (χ : Type) where
  parentScores : RankingScores
  jointScores : RankingScores
  reproduction : ReproductionFns χ
  mutate : ℕ → ℚ → χ → χ
  dispersion : List χ → ℚ
  correlation : List CandidateFitness → ℚ

/-! ## Step sizes -/

namespace MutationConfig

/-- The step size a mutation uses. -/
def effectiveSigma (config : MutationConfig) (state : GenerationalState) : ℚ :=
  if state.isCataclysmTriggered then config.cataclysmicStepSize else state.activeStepSize

/-- `adapt_step_size`: the new step size and the new smoothed ratio. -/
def adaptStepSize (config : MutationConfig) (currentStepSize currentSmoothedRatio instantaneousSuccessRatio : ℚ) :
    Except Exc (ℚ × ℚ) :=
  if currentStepSize ≤ 0 then
    .error ⟨.lifecycleError, "current_step_size must be positive and finite, got %", [.num currentStepSize]⟩
  else if ¬ (0 ≤ currentSmoothedRatio ∧ currentSmoothedRatio ≤ 1) then
    .error ⟨.lifecycleError, "current_smoothed_ratio must be in [0.0, 1.0], got %", [.num currentSmoothedRatio]⟩
  else if ¬ (0 ≤ instantaneousSuccessRatio ∧ instantaneousSuccessRatio ≤ 1) then
    .error ⟨.lifecycleError, "instantaneous_success_ratio must be in [0.0, 1.0], got %", [.num instantaneousSuccessRatio]⟩
  else
    let alpha := config.smoothingFactor
    let newSmoothedRatio := clip (alpha * instantaneousSuccessRatio + (1 - alpha) * currentSmoothedRatio) 0 1
    let newStepSize :=
      if 20 / 100 < newSmoothedRatio then currentStepSize * config.expansionFactor
      else if newSmoothedRatio < 20 / 100 then currentStepSize * config.contractionFactor
      else currentStepSize
    .ok (clip newStepSize config.minStepSize config.maxStepSize, newSmoothedRatio)

end MutationConfig

namespace RankingResult

/-- `candidate_meta`: the rank and the score of each ranked id. -/
def candidateMeta (ranking : RankingResult) : Dict String (ℕ × ℚ) :=
  ranking.fronts.foldl
    (fun d front => (front.candidateIds.zip front.apdScores).foldl (fun d p => d.set p.1 (front.rank, p.2)) d) ∅

/-- Whether an offspring counts as a success against its parent. -/
def isSuccess (ranking : RankingResult) (offId parentId : String) : Bool :=
  if offId ∈ ranking.infeasibleIds then false
  else
    match ranking.candidateMeta.get? offId with
    | none => false
    | some (offRank, offApd) =>
      if parentId ∈ ranking.infeasibleIds then true
      else
        match ranking.candidateMeta.get? parentId with
        | none => true
        | some (parentRank, parentApd) => offRank < parentRank ∨ offRank = parentRank ∧ offApd < parentApd

/-- `compute_apd_success_ratio`. -/
def computeApdSuccessRatio (offspringToParent : Dict String String) (ranking : RankingResult) : ℚ :=
  if offspringToParent.items = [] then 0
  else (offspringToParent.items.filter fun p => ranking.isSuccess p.1 p.2).length / offspringToParent.items.length

end RankingResult

/-! ## Stagnation -/

/-- `StagnationReport`. -/
structure StagnationReport where
  phenotypicDiversity : ℚ
  meanResidualCorrelation : ℚ
  isStagnant : Bool
  stagnationCount : ℕ
  isCataclysmTriggered : Bool
  deriving DecidableEq

/-- `StagnationDetector.evaluate`. -/
def MutationConfig.stagnation {χ : Type} (config : MutationConfig) (fns : LifecycleFns χ) (chromosomes : List χ)
    (fitnesses : List CandidateFitness) (currentStagnationCount : ℕ) : Except Exc StagnationReport :=
  let n := chromosomes.length
  if fitnesses.length ≠ n then
    .error ⟨.stagnation, "Count mismatch: % chromosomes vs % residual series", [.num n, .num fitnesses.length]⟩
  else if n < 2 then
    .ok
      { phenotypicDiversity := 0
        meanResidualCorrelation := 0
        isStagnant := false
        stagnationCount := 0
        isCataclysmTriggered := false }
  else
    let tLen := (fitnesses.map (·.residualSeries.length)).headD 0
    match fitnesses.zipIdx.find? fun p => p.1.residualSeries.length ≠ tLen with
    | some (res, idx) =>
      .error ⟨.stagnation, "Residual at index % has length %, expected %", [.num idx, .num res.residualSeries.length, .num tLen]⟩
    | none =>
      let meanParamDispersion := fns.dispersion chromosomes
      let meanResidualCorrelation := clip (fns.correlation fitnesses) 0 1
      let isStagnant : Bool := meanParamDispersion < config.stagnationDiversityThreshold ∧
        config.stagnationCorrelationThreshold < meanResidualCorrelation
      let newStagnationCount := if isStagnant then currentStagnationCount + 1 else 0
      .ok
        { phenotypicDiversity := meanParamDispersion
          meanResidualCorrelation := meanResidualCorrelation
          isStagnant := isStagnant
          stagnationCount := if config.stagnationGenerationsLimit ≤ newStagnationCount then 0 else newStagnationCount
          isCataclysmTriggered := config.stagnationGenerationsLimit ≤ newStagnationCount }

/-! ## The engine -/

/-- The engine: its components, with the defaults of its constructor, and the ranking it keeps for the next generation. -/
structure GenerationalLifecycleEngine where
  mutationConfig : MutationConfig := .default
  hypergamicConfig : HypergamicConfig := .withElitism 0
  sorter : DependentNonDominatedSorter := {}
  cachedRanking : Option (List String × RankingResult) := none

/-- The id of a child. -/
def childId (nextGenIdx i : ℕ) : String := "gen_" ++ toString nextGenIdx ++ "_ind_" ++ toString i

/-- Parents and offspring before they are ranked. -/
structure JointPool (χ : Type) where
  reproResult : OffspringResult χ
  mutatedOffspringMap : Dict String χ
  evaluatedOffspring : List CandidateFitness
  jointFitness : List CandidateFitness
  jointChromosomes : Dict String χ
  offspringToParent : Dict String String

/-- `LifecycleStepResult`. -/
structure LifecycleStepResult (χ : Type) where
  nextChromosomes : Dict String χ
  survivingFitness : List CandidateFitness
  ranking : RankingResult
  state : GenerationalState

namespace GenerationalLifecycleEngine

variable {χ : Type}

/-- `initialize_state`: the state of generation 0, and the engine with the ranking of the population. Every ranked id is of a
record. -/
def initializeState (engine : GenerationalLifecycleEngine) (fns : LifecycleFns χ) (chromosomes : Dict String χ)
    (fitness : List CandidateFitness) (initialStepSize : Option ℚ) : Except Exc
    (GenerationalState × GenerationalLifecycleEngine) :=
  let n := chromosomes.items.length
  if fitness.length ≠ n then
    .error ⟨.lifecycleError, "Mismatch between chromosomes count (%) and fitness count (%)", [.num n, .num fitness.length]⟩
  else
    match fitness.find? fun f => ¬ chromosomes.contains f.candidateId with
    | some f => .error ⟨.lifecycleError, "Candidate '%' in fitness not found in chromosomes.", [.str f.candidateId]⟩
    | none => do
      let ranking ← rankPopulation engine.sorter fns.reproduction.sqrt fns.parentScores fitness
      let orderedIds := ranking.fronts.flatMap (·.candidateIds) ++ ranking.infeasibleIds
      let report ← engine.mutationConfig.stagnation fns (orderedIds.filterMap chromosomes.get?)
        (orderedIds.filterMap fun cid => fitness.find? fun f => f.candidateId = cid) 0
      let state ← GenerationalStateFields.create
        { generationIndex := 0
          populationSize := n
          activeStepSize := initialStepSize.getD engine.mutationConfig.initialStepSize
          smoothedSuccessRatio := 20 / 100
          phenotypicDiversity := report.phenotypicDiversity
          meanResidualCorrelation := report.meanResidualCorrelation
          stagnationCount := report.stagnationCount
          isCataclysmTriggered := report.isCataclysmTriggered
          survivingCandidateIds := orderedIds
          front1Count := (ranking.fronts.head?.map fun f => f.candidateIds.length).getD 0 }
      .ok (state, { engine with cachedRanking := some (fitness.map (·.candidateId), ranking) })

/-! ### Reproduction and mutation -/

/-- The parent the lifecycle writes down for the child at an index. A population is not empty, so the last branch gives an id. -/
def recordedParent (repro : OffspringResult χ) (currentChromosomes : Dict String χ) (i : ℕ) : Option String :=
  match repro.matingPairs[i]? with
  | some pair => some pair.alphaId
  | none =>
    match repro.eliteIds[i - repro.matingPairs.length]? with
    | some eid => some eid
    | none =>
      match repro.alphaIds with
      | alphaId :: _ => some alphaId
      | [] => currentChromosomes.keys.head?

/-- One turn of the loop over the raw children: the mutated child, and the parent written down for it. -/
def mutateChild (fns : LifecycleFns χ) (sigma : ℚ) (nextGenIdx : ℕ) (repro : OffspringResult χ)
    (currentChromosomes : Dict String χ)
    (maps : Dict String χ × Dict String String) (rawChild : χ × ℕ) : Dict String χ × Dict String String :=
  (maps.1.set (childId nextGenIdx rawChild.2) (fns.mutate rawChild.2 sigma rawChild.1),
    match recordedParent repro currentChromosomes rawChild.2 with
    | some parentId => maps.2.set (childId nextGenIdx rawChild.2) parentId
    | none => maps.2)

/-- The mutated children, and `offspring_to_parent` before the evaluation. -/
def mutateOffspring (fns : LifecycleFns χ) (sigma : ℚ) (nextGenIdx : ℕ) (repro : OffspringResult χ)
    (currentChromosomes : Dict String χ) :
    Dict String χ × Dict String String :=
  repro.offspringChromosomes.zipIdx.foldl (mutateChild fns sigma nextGenIdx repro currentChromosomes) (∅, ∅)

/-- The fitness of the offspring: what was computed before, or what the evaluator returns. -/
def evaluateOffspring (evaluator : Option (Dict String χ → List CandidateFitness))
    (offspringFitness : Option (List CandidateFitness))
    (n : ℕ) (mutated : Dict String χ) : Except Exc (List CandidateFitness) :=
  match offspringFitness, evaluator with
  | some fitness, _ =>
    if fitness.length ≠ n then
      .error ⟨.lifecycleError, "offspring_fitness length (%) must match population size (%)", [.num fitness.length, .num n]⟩
    else .ok fitness
  | none, some evaluator =>
    if (evaluator mutated).length ≠ n then
      .error ⟨.lifecycleError, "evaluator returned % fitness records, expected %", [.num (evaluator mutated).length, .num n]⟩
    else .ok (evaluator mutated)
  | none, none => .error ⟨.assertionError, "", []⟩

/-- One turn of the loop that takes over the ids of the evaluator: a record whose id is in the pool names what it names there,
another one stands for the child at its position. -/
def adoptId (mutated : Dict String χ) (joint : Dict String χ × Dict String String) (record : CandidateFitness × ℕ) :
    Except Exc (Dict String χ × Dict String String) :=
  if joint.1.contains record.1.candidateId then .ok joint
  else
    match mutated.keys[record.2]? with
    | none => .error ⟨.indexError, "list index out of range", []⟩
    | some oldId =>
      match mutated.get? oldId with
      | none => .error ⟨.keyError, "%", [.str oldId]⟩
      | some chrom => .ok (joint.1.set record.1.candidateId chrom,
          match joint.2.get? oldId with
          | some parentId => joint.2.set record.1.candidateId parentId
          | none => joint.2)

/-- The ranking of the parents: the one kept, where it is of this population. -/
def parentRanking (engine : GenerationalLifecycleEngine) (fns : LifecycleFns χ) (currentFitness : List CandidateFitness) :
    Except Exc RankingResult :=
  match engine.cachedRanking with
  | some (ids, ranking) =>
    if ids = currentFitness.map (·.candidateId) then .ok ranking
    else rankPopulation engine.sorter fns.reproduction.sqrt fns.parentScores currentFitness
  | none => rankPopulation engine.sorter fns.reproduction.sqrt fns.parentScores currentFitness

/-- `step_generation` up to the joint pool. -/
def formPool (engine : GenerationalLifecycleEngine) (fns : LifecycleFns χ) (currentChromosomes : Dict String χ)
    (currentFitness : List CandidateFitness) (currentState : GenerationalState)
    (evaluator : Option (Dict String χ → List CandidateFitness)) (offspringFitness : Option (List CandidateFitness)) :
    Except Exc (JointPool χ) :=
  let n := currentChromosomes.items.length
  if currentFitness.length ≠ n then
    .error ⟨.lifecycleError, "Population size mismatch: % chromosomes vs % fitness records.",
      [.num n, .num currentFitness.length]⟩
  else if currentState.populationSize ≠ n then
    .error ⟨.invalidGenerationalState, "State population size (%) does not match chromosomes (%).",
      [.num currentState.populationSize, .num n]⟩
  else if evaluator.isNone ∧ offspringFitness.isNone then
    .error ⟨.lifecycleError, "Either evaluator or offspring_fitness must be provided.", []⟩
  else do
    let ranking ← engine.parentRanking fns currentFitness
    let repro ← engine.hypergamicConfig.reproduce fns.reproduction currentFitness ranking currentChromosomes n
    let sigma := engine.mutationConfig.effectiveSigma currentState
    let (mutated, lineage) := mutateOffspring fns sigma (currentState.generationIndex + 1) repro currentChromosomes
    let evaluated ← evaluateOffspring evaluator offspringFitness n mutated
    let joint := currentChromosomes.update mutated
    let (joint, lineage) ← evaluated.zipIdx.foldlM (adoptId mutated) (joint, lineage)
    .ok
      { reproResult := repro
        mutatedOffspringMap := mutated
        evaluatedOffspring := evaluated
        jointFitness := currentFitness ++ evaluated
        jointChromosomes := joint
        offspringToParent := lineage }

/-! ### Survivors -/

/-- Ids one after the other, until there are `n`. -/
def takeUpTo (n : ℕ) (surviving : List String) : List String → List String
  | [] => surviving
  | cid :: cids => if (surviving ++ [cid]).length = n then surviving ++ [cid] else takeUpTo n (surviving ++ [cid]) cids

/-- The loop over the fronts. -/
def takeFronts (n : ℕ) (surviving : List String) : List ParetoFront → List String
  | [] => surviving
  | front :: fronts =>
    if (takeUpTo n surviving front.candidateIds).length = n then takeUpTo n surviving front.candidateIds
    else takeFronts n (takeUpTo n surviving front.candidateIds) fronts

/-- The ids that survive: the fronts in order, then the infeasible ones. -/
def survivingIds (n : ℕ) (ranking : RankingResult) : List String :=
  if (takeFronts n [] ranking.fronts).length < n then takeUpTo n (takeFronts n [] ranking.fronts) ranking.infeasibleIds
  else takeFronts n [] ranking.fronts

/-- A look-up in a dictionary that raises where there is no such key. -/
def getItem {ν : Type} (d : Dict String ν) (cid : String) : Except Exc ν :=
  match d.get? cid with
  | none => .error ⟨.keyError, "%", [.str cid]⟩
  | some v => .ok v

/-- What of a front survives. -/
def survivingFront (surviving : List String) (front : ParetoFront) : ParetoFront :=
  let survPairs := (front.candidateIds.zip front.apdScores).filter fun p => p.1 ∈ surviving
  { rank := front.rank
    candidateIds := survPairs.map Prod.fst
    apdScores := survPairs.map Prod.snd }

/-- The ranking that is kept for the next generation. -/
def survivorRanking (surviving : List String) (ranking : RankingResult) : RankingResult :=
  { fronts := (ranking.fronts.map (survivingFront surviving)).filter fun f => f.candidateIds ≠ []
    infeasibleIds := ranking.infeasibleIds.filter (· ∈ surviving) }

/-- `step_generation` from the joint pool on. -/
def selectSurvivors (engine : GenerationalLifecycleEngine) (fns : LifecycleFns χ) (currentState : GenerationalState) (n : ℕ)
    (pool : JointPool χ) : Except Exc (LifecycleStepResult χ × GenerationalLifecycleEngine) := do
  let ranking ← rankPopulation engine.sorter fns.reproduction.sqrt fns.jointScores pool.jointFitness
  let surviving := survivingIds n ranking
  let fitnessLookup : Dict String CandidateFitness := (∅ : Dict String CandidateFitness).upsert (·.candidateId) pool.jointFitness
  let survivingFitness ← surviving.mapM (getItem fitnessLookup)
  let chroms ← surviving.mapM (getItem pool.jointChromosomes)
  let nextChromosomes := (∅ : Dict String χ).setAll (surviving.zip chroms)
  let front1Ids := (ranking.fronts.head?.map (·.candidateIds)).getD []
  let ratio := RankingResult.computeApdSuccessRatio pool.offspringToParent ranking
  let (newStepSize, newSmoothedRatio) ← engine.mutationConfig.adaptStepSize currentState.activeStepSize
    currentState.smoothedSuccessRatio ratio
  let report ← engine.mutationConfig.stagnation fns chroms survivingFitness currentState.stagnationCount
  let state ← GenerationalStateFields.create
    { generationIndex := currentState.generationIndex + 1
      populationSize := n
      activeStepSize := newStepSize
      smoothedSuccessRatio := newSmoothedRatio
      phenotypicDiversity := report.phenotypicDiversity
      meanResidualCorrelation := report.meanResidualCorrelation
      stagnationCount := report.stagnationCount
      isCataclysmTriggered := report.isCataclysmTriggered
      survivingCandidateIds := surviving
      front1Count := (surviving.filter (· ∈ front1Ids)).length }
  .ok (
    { nextChromosomes := nextChromosomes
      survivingFitness := survivingFitness
      ranking := ranking
      state := state },
    { engine with cachedRanking := some (surviving, survivorRanking surviving ranking) })

/-- `step_generation`. -/
def stepGeneration (engine : GenerationalLifecycleEngine) (fns : LifecycleFns χ) (currentChromosomes : Dict String χ)
    (currentFitness : List CandidateFitness) (currentState : GenerationalState)
    (evaluator : Option (Dict String χ → List CandidateFitness)) (offspringFitness : Option (List CandidateFitness)) :
    Except Exc (LifecycleStepResult χ × GenerationalLifecycleEngine) :=
  (engine.formPool fns currentChromosomes currentFitness currentState evaluator offspringFitness).bind
    (engine.selectSurvivors fns currentState currentChromosomes.items.length)

end GenerationalLifecycleEngine

/-! ## An evolution -/

/-- What a caller of the engine keeps from one call to the next. -/
structure Evolution (χ : Type) where
  engine : GenerationalLifecycleEngine
  chromosomes : Dict String χ
  fitness : List CandidateFitness
  state : GenerationalState

/-- A call of the engine with the population of an evolution. -/
inductive EvolutionCall (χ : Type) where
  | initializeState (fns : LifecycleFns χ) (initialStepSize : Option ℚ)
  | stepGeneration (fns : LifecycleFns χ) (evaluator : Option (Dict String χ → List CandidateFitness))
      (offspringFitness : Option (List CandidateFitness))

/-- The evolution after a call: initializing keeps the population and starts again at generation 0. -/
def Evolution.call {χ : Type} (s : Evolution χ) : EvolutionCall χ → Except Exc (Evolution χ)
  | .initializeState fns initialStepSize =>
    (s.engine.initializeState fns s.chromosomes s.fitness initialStepSize).map fun (state, engine) =>
      { engine := engine
        chromosomes := s.chromosomes
        fitness := s.fitness
        state := state }
  | .stepGeneration fns evaluator offspringFitness =>
    (s.engine.stepGeneration fns s.chromosomes s.fitness s.state evaluator offspringFitness).map fun (result, engine) =>
      { engine := engine
        chromosomes := result.nextChromosomes
        fitness := result.survivingFitness
        state := result.state }

end Quant
