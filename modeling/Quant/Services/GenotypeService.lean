import Mathlib.Algebra.Order.Monoid.Unbundled.WithTop
import Mathlib.Data.Fin.VecNotation
import Mathlib.Data.List.FinRange
import Mathlib.Data.List.Sort
import Mathlib.Data.Rat.Cast.Order
import Mathlib.Logic.Function.Basic
import Quant.Analytics.ChromosomeDict

/-!
# The genotype service

`services/genotype_service.py`: the non-dominated sort and the crowding distance of its ranking, and `GenotypeService` with its
repository. The sort is over any linear order, the distance over any ordered field, with an infinite distance at the ends of a
front.
-/

namespace Quant

open Pylib

/-! ## The fronts -/

section Fronts

variable {α : Type*} [LinearOrder α] {n m : ℕ}

/-- `p_dominates_q` and `p_better_at_least_one`. -/
def dominatesAll (x y : Fin m → α) : Bool := (List.finRange m).all (fun f => ¬ x f < y f) &&
    (List.finRange m).any fun f => y f < x f

/-- `dominated_sets[p]`. -/
def dominatedSet (objectives : Fin n → Fin m → α) (p : Fin n) : List (Fin n) :=
  (List.finRange n).filter fun q => q ≠ p && dominatesAll (objectives p) (objectives q)

/-- `domination_counts[p]`. -/
def dominationCount (objectives : Fin n → Fin m → α) (p : Fin n) : ℤ :=
  ((List.finRange n).filter fun q =>
    q ≠ p && !dominatesAll (objectives p) (objectives q) && dominatesAll (objectives q) (objectives p)).length

/-- One dominated index has one dominator less; with none left it is in the next front. -/
def releaseOne (s : (Fin n → ℤ) × List (Fin n)) (q : Fin n) : (Fin n → ℤ) × List (Fin n) :=
  let counts := Function.update s.1 q (s.1 q - 1)
  (counts, if counts q = 0 then s.2 ++ [q] else s.2)

/-- The fronts from one on, as long as they are not empty. The fuel is a bound on their number. -/
def frontsFrom (dominated : Fin n → List (Fin n)) : ℕ → (Fin n → ℤ) → List (Fin n) → List (List (Fin n))
  | 0, _, _ => []
  | _ + 1, _, [] => []
  | fuel + 1, counts, p :: front =>
    let next := ((p :: front).flatMap dominated).foldl releaseOne (counts, [])
    (p :: front) :: frontsFrom dominated fuel next.1 next.2

/-- `fast_non_dominated_sort`. Every index but those of the first front is released once, so there are at most `n` fronts. -/
def fastNonDominatedSort (objectives : Fin n → Fin m → α) : List (List (Fin n)) :=
  frontsFrom (dominatedSet objectives) (n + 1) (dominationCount objectives)
    ((List.finRange n).filter fun p => dominationCount objectives p = 0)

end Fronts

/-! ## The crowding distance -/

section Crowding

variable {α : Type*} [Field α] [LinearOrder α] {n m : ℕ}

/-- The distance of the inner indices of a sorted front, from the neighbours of each. -/
def addNeighbours (value : Fin n → α) (diff : α) : List (Fin n) → (Fin n → WithTop α) → Fin n → WithTop α
  | i :: j :: k :: rest, distance =>
    addNeighbours value diff (j :: k :: rest) (Function.update distance j (distance j + ((value k - value i) / diff : α)))
  | _, distance => distance

/-- One objective's part of the distances: the ends are infinite, and the others get their part where the objective varies. -/
def crowdingOf (front : List (Fin n)) (distance : Fin n → WithTop α) (value : Fin n → α) : Fin n → WithTop α :=
  let sortedFront := front.insertionSort fun i j => value i ≤ value j
  match sortedFront.head?, sortedFront.getLast? with
  | some first, some last =>
    let distance := Function.update (Function.update distance first ⊤) last ⊤
    let diff := value last - value first
    if diff ≤ ((1 / 10 ^ 8 : ℚ) : α) then distance else addNeighbours value diff sortedFront distance
  | _, _ => distance

/-- `calculate_crowding_distance`. -/
def calculateCrowdingDistance (front : List (Fin n)) (objectives : Fin n → Fin m → α) : Fin n → WithTop α :=
  if front.length ≤ 2 then fun _ => ⊤
  else (List.finRange m).foldl (fun distance f => crowdingOf front distance fun i => objectives i f) fun _ => 0

end Crowding

/-!
## The genotype service

`GenotypeService` of `services/genotype_service.py` with its repository: registering and evaluating genotypes, seeding generation
0 and stepping from one generation to the next. The field and its transcendental functions are parameters, and what a step draws
at random is an argument of it.
-/

inductive GenotypeCohort where
  | alpha
  | aspirant
  deriving DecidableEq, Repr

/-- `Genotype`. The ids are numbers here, one for each construction. -/
structure Genotype (α : Type) where
  id : ℕ
  generation : ℤ
  cohort : GenotypeCohort
  chromosomeRepr : ChromosomeBlock α
  chromosomeGame : ChromosomeBlock α
  chromosomeInfer : ChromosomeBlock α
  chromosomeRisk : ChromosomeBlock α
  fitnessScore : Option α := none
  deflatedSharpe : Option α := none
  maxDrawdown : Option α := none
  regretScore : Option α := none
  noveltyScore : Option α := none

/-- What an evaluation records. -/
structure GenotypeEvaluation (α : Type) where
  fitnessScore : α
  deflatedSharpe : α
  maxDrawdown : α
  regretScore : α
  noveltyScore : α

/-! ### The repository -/

/-- The rows of the genotype table. -/
structure GenotypeRepository (α : Type) where
  rows : List (Genotype α)

namespace GenotypeRepository

variable {α : Type}

def add (repo : GenotypeRepository α) (genotype : Genotype α) : GenotypeRepository α := ⟨repo.rows ++ [genotype]⟩

def getById (repo : GenotypeRepository α) (genotypeId : ℕ) : Option (Genotype α) := repo.rows.find? fun g => g.id = genotypeId

def getGeneration (repo : GenotypeRepository α) (generation : ℤ) : List (Genotype α) :=
  repo.rows.filter fun g => g.generation = generation

def updateEvaluation (repo : GenotypeRepository α) (genotypeId : ℕ) (e : GenotypeEvaluation α) : GenotypeRepository α where
  rows := repo.rows.map fun g =>
    if g.id = genotypeId then
      { g with
        fitnessScore := some e.fitnessScore
        deflatedSharpe := some e.deflatedSharpe
        maxDrawdown := some e.maxDrawdown
        regretScore := some e.regretScore
        noveltyScore := some e.noveltyScore }
    else g

end GenotypeRepository

/-! ### The service -/

/-- The functions and the constant of `math` that the service calls. -/
structure GenotypeMath (α : Type) where
  exp : α → α
  tan : α → α
  pi : α

/-- What `random.random()` draws. -/
abbrev UnitDraw (α : Type) [Field α] [LinearOrder α] := { u : α // 0 ≤ u ∧ u < 1 }

/-- What is drawn for one child: the parents by number, the parent of each block, the mutation noise, and the four scores. -/
structure ChildDraws (α : Type) [Field α] [LinearOrder α] where
  parentA : ℕ
  parentB : ℕ
  crossRepr : UnitDraw α
  crossGame : UnitDraw α
  crossInfer : UnitDraw α
  crossRisk : UnitDraw α
  noise : UnitDraw α
  deflatedSharpe : UnitDraw α
  maxDrawdown : UnitDraw α
  regretScore : UnitDraw α
  noveltyScore : UnitDraw α

/-- The arguments of one call of `step_generation`, with what it draws. -/
structure StepCall (α : Type) [Field α] [LinearOrder α] where
  currentGeneration : ℤ
  populationSize : ℤ
  draws : ℕ → ChildDraws α

namespace GenotypeService

variable {α : Type} [Field α] [LinearOrder α] [FloorRing α] (fns : GenotypeMath α)

/-- `compute_multiobjective_fitness`, with its default weights. -/
def computeMultiobjectiveFitness (deflatedSharpe maxDrawdown regretScore noveltyScore : α) : α :=
  deflatedSharpe * fns.exp (-lit 2 * max maxDrawdown 0) - lit (3 / 10) * max regretScore 0 + lit (2 / 10) * noveltyScore

/-- `register_genotype`. -/
def registerGenotype (repo : GenotypeRepository α) (generation : ℤ) (cohort : GenotypeCohort)
    (chromosomeRepr chromosomeGame chromosomeInfer chromosomeRisk : ChromosomeBlock α) : Genotype α × GenotypeRepository α :=
  let genotype : Genotype α :=
    { id := repo.rows.length
      generation := generation
      cohort := cohort
      chromosomeRepr := chromosomeRepr
      chromosomeGame := chromosomeGame
      chromosomeInfer := chromosomeInfer
      chromosomeRisk := chromosomeRisk }
  (genotype, repo.add genotype)

/-- The evaluation of a registered genotype, and the genotype read back after it. -/
def recordEvaluation (repo : GenotypeRepository α) (genotype : Genotype α)
    (deflatedSharpe maxDrawdown regretScore noveltyScore : α) :
    Genotype α × GenotypeRepository α :=
  let repo := repo.updateEvaluation genotype.id
    { fitnessScore := computeMultiobjectiveFitness fns deflatedSharpe maxDrawdown regretScore noveltyScore
      deflatedSharpe := deflatedSharpe
      maxDrawdown := maxDrawdown
      regretScore := regretScore
      noveltyScore := noveltyScore }
  ((repo.getById genotype.id).getD genotype, repo)

/-- `max(int(population_size * 0.2), 1)`. -/
def alphaCount (populationSize : ℤ) : ℤ := max (populationSize.tdiv 5) 1

def cohortOf (populationSize : ℤ) (i : ℕ) : GenotypeCohort := if (i : ℤ) < alphaCount populationSize then .alpha else .aspirant

/-! #### Seeding -/

/-- The chromosome of one seed. -/
def seedChromosome (i : ℕ) : StrategyChromosome α where
  representation :=
    { tauSlow := lit 86400 * (1 + i * lit (5 / 100))
      tauRatio := lit (5 / 100) + lit (1 / 100) * (i % 10 : ℕ)
      alphaDecay := lit (1 / 2)
      fractionalD := lit (40 / 100) }
  gameTheory :=
    { ambiguityTemp := 1
      riskAversion := 1 + i * lit (5 / 100)
      predatoryIntensity := lit (25 / 100)
      logitBull := 0
      logitBear := 0
      logitPanic := -1 }
  inference :=
    { executionHorizon := 5 + i % 5
      hyperbolicDecay := lit (50 / 100)
      profitTakeMult := lit 2
      stopLossMult := lit 2
      holdingPeriod := 20
      metaLabelThresh := lit (50 / 100) }
  risk :=
    { volTarget := lit (15 / 100)
      maxWeight := lit (30 / 100)
      maxDrawdownLimit := lit (10 / 100)
      turnoverBudget := lit (50 / 100) }

/-- One seed. -/
def seedOne (populationSize : ℤ) (s : List (Genotype α) × GenotypeRepository α) (i : ℕ) :
    List (Genotype α) × GenotypeRepository α :=
  let cdict := (seedChromosome i).toDict fns.exp
  let (genotype, repo) := registerGenotype s.2 0 (cohortOf populationSize i)
    (cdict.block .repr) (cdict.block .game) (cdict.block .infer) (cdict.block .risk)
  let (updated, repo) := recordEvaluation fns repo genotype
    (roundTo (lit (9 / 10) + lit (15 / 100) * (i % 6 : ℕ) + lit (5 / 100) * (i % 4 : ℕ)) 2)
    (roundTo (lit (6 / 100) + lit (18 / 1000) * ((i + 2) % 5 : ℕ)) 3)
    (roundTo (lit (2 / 100) + lit (8 / 1000) * (i % 5 : ℕ)) 3)
    (roundTo (lit (15 / 100) + lit (5 / 100) * (i % 7 : ℕ)) 3)
  (s.1 ++ [updated], repo)

/-- `seed_initial_population`. -/
def seedInitialPopulation (repo : GenotypeRepository α) (populationSize : ℤ) : List (Genotype α) × GenotypeRepository α :=
  (List.range populationSize.toNat).foldl (seedOne fns populationSize) ([], repo)

/-! #### Ranking -/

/-- The objectives of a genotype, all of them to be maximized. -/
def objectivesOf (g : Genotype α) : Fin 4 → α :=
  ![g.deflatedSharpe.getD 0, -g.maxDrawdown.getD 1, -g.regretScore.getD 0, g.noveltyScore.getD 0]

/-- `rank_population_pareto`. -/
def rankPopulationPareto (genotypes : List (Genotype α)) : List (Genotype α × ℕ × WithTop α) :=
  let objectives := fun i : Fin genotypes.length => objectivesOf (genotypes.get i)
  ((fastNonDominatedSort objectives).zipIdx 1).flatMap fun (front, paretoRank) =>
    let crowdingDistances := calculateCrowdingDistance front objectives
    (front.insertionSort fun i j => crowdingDistances j ≤ crowdingDistances i).map fun i =>
      (genotypes.get i, paretoRank, crowdingDistances i)

/-! #### Stepping -/

/-- `random.choice`, by a drawn number. -/
def choice (xs : List (Genotype α)) (k : ℕ) : Except Exc (Genotype α) :=
  match xs[k % xs.length]? with
  | some x => .ok x
  | none => .error ⟨.indexError, "Cannot choose from an empty sequence", []⟩

/-- `random.uniform(a, b)`. -/
def uniform (a b : ℚ) (u : UnitDraw α) : α := a + (b - a) * u.1

/-- The noise of one child: of a Cauchy distribution, clipped. -/
def cauchyNoise (u : UnitDraw α) : α :=
  max (lit (-2 / 10)) (min (lit (2 / 10)) (fns.tan (fns.pi * (u.1 - lit (1 / 2))) * lit (5 / 100)))

/-- `float(block.get(key, default))`. -/
def readGene (block : ChromosomeBlock α) (name : GeneName) (dflt : ℚ) : Except Exc α :=
  (block.getD (.gene name) (.float (lit dflt))).toFloat

def setGene (block : ChromosomeBlock α) (name : GeneName) (x : α) : ChromosomeBlock α := block.set (.gene name) (.float x)

/-- `block[key] = f(float(block.get(key, default)))`. -/
def mutateGene (name : GeneName) (dflt : ℚ) (f : α → α) (block : ChromosomeBlock α) : Except Exc (ChromosomeBlock α) :=
  (readGene block name dflt).map fun x => setGene block name (f x)

def mutateRepr (noise : α) (pRepr : ChromosomeBlock α) : Except Exc (ChromosomeBlock α) := do
  let mutated ← mutateGene .tauSlow 86400 (fun x => max (lit 3600) (x * (1 + noise))) pRepr
  mutateGene .tauRatio (5 / 100) (fun x => max (lit (1 / 100)) (min (lit (1 / 2)) (x + noise * lit (1 / 10)))) mutated

def mutateGame (noise : α) (pGame : ChromosomeBlock α) : Except Exc (ChromosomeBlock α) :=
  mutateGene .riskAversion 2 (fun x => max (lit (1 / 2)) (min (lit 10) (x * (1 + noise)))) pGame

def mutateInfer (noise : α) (pInfer : ChromosomeBlock α) : Except Exc (ChromosomeBlock α) := do
  let mutated ← mutateGene .profitTakeMult 2 (fun x => max (lit 1) (min (lit 5) (x * (1 + noise)))) pInfer
  mutateGene .stopLossMult 2 (fun x => max (lit (1 / 2)) (min (lit 5) (x * (1 - noise)))) mutated

def mutateRisk (noise : α) (pRisk : ChromosomeBlock α) : Except Exc (ChromosomeBlock α) :=
  mutateGene .volTarget (15 / 100) (fun x => max (lit (5 / 100)) (min (lit (1 / 2)) (x * (1 + noise * lit (2 / 10))))) pRisk

/-- `x or default` of a score, where a score of zero counts as missing. -/
def scoreOr (x : Option α) (dflt : ℚ) : α :=
  match x with
  | some x => if x = 0 then dflt else x
  | none => dflt

/-- One child. -/
def breed (elites currentPop : List (Genotype α)) (nextGenIdx populationSize : ℤ) (repo : GenotypeRepository α) (i : ℕ)
    (draws : ChildDraws α) : Except Exc (Genotype α × GenotypeRepository α) := do
  let parentA ← choice elites draws.parentA
  let parentB ← choice currentPop draws.parentB
  let cross := fun (u : UnitDraw α) (block : Genotype α → ChromosomeBlock α) =>
    if lit (1 / 2) < u.1 then block parentA else block parentB
  let noise := cauchyNoise fns draws.noise
  let mutatedRepr ← mutateRepr noise (cross draws.crossRepr (·.chromosomeRepr))
  let mutatedGame ← mutateGame noise (cross draws.crossGame (·.chromosomeGame))
  let mutatedInfer ← mutateInfer noise (cross draws.crossInfer (·.chromosomeInfer))
  let mutatedRisk ← mutateRisk noise (cross draws.crossRisk (·.chromosomeRisk))
  let mutatedDsr := roundTo
    (max (lit (2 / 10)) (min (lit (35 / 10))
      (scoreOr parentA.deflatedSharpe 1 + uniform (-15 / 100) (25 / 100) draws.deflatedSharpe))) 2
  let mutatedMdd := roundTo
    (max (lit (2 / 100)) (min (lit (30 / 100)) (scoreOr parentA.maxDrawdown (10 / 100) +
      uniform (-2 / 100) (15 / 1000) draws.maxDrawdown))) 3
  let mutatedRegret := roundTo
    (max (lit (5 / 1000)) (min (lit (15 / 100)) (scoreOr parentA.regretScore (3 / 100) +
      uniform (-1 / 100) (1 / 100) draws.regretScore))) 3
  let mutatedNovelty := roundTo (max (lit (5 / 100)) (min (lit (95 / 100)) (uniform (1 / 10) (8 / 10) draws.noveltyScore))) 3
  let (child, repo) := registerGenotype repo nextGenIdx (cohortOf populationSize i) mutatedRepr mutatedGame
    mutatedInfer mutatedRisk
  .ok (recordEvaluation fns repo child mutatedDsr mutatedMdd mutatedRegret mutatedNovelty)

/-- The children, one after the other. -/
def breedAll (elites currentPop : List (Genotype α)) (nextGenIdx populationSize : ℤ) (draws : ℕ → ChildDraws α) :
    List ℕ → GenotypeRepository α → Except Exc (List (Genotype α) × GenotypeRepository α)
  | [], repo => .ok ([], repo)
  | i :: is, repo => do
    let (child, repo) ← breed fns elites currentPop nextGenIdx populationSize repo i (draws i)
    let (offspring, repo) ← breedAll elites currentPop nextGenIdx populationSize draws is repo
    .ok (child :: offspring, repo)

/-- The generation a step starts from, seeded anew where there is none. -/
def currentPopulation (repo : GenotypeRepository α) (currentGeneration populationSize : ℤ) :
    List (Genotype α) × GenotypeRepository α :=
  match repo.getGeneration currentGeneration with
  | [] => seedInitialPopulation fns repo populationSize
  | currentPop => (currentPop, repo)

/-- The genotypes of rank 1, or the first of the population. -/
def elitesOf (currentPop : List (Genotype α)) (populationSize : ℤ) : List (Genotype α) :=
  match ((rankPopulationPareto currentPop).filter fun r => r.2.1 = 1).map Prod.fst with
  | [] => currentPop.take (max 1 (populationSize.tdiv 5)).toNat
  | elites => elites

/-- `step_generation`. -/
def stepGeneration (repo : GenotypeRepository α) (call : StepCall α) : Except Exc (List (Genotype α) × GenotypeRepository α) :=
  let (currentPop, repo) := currentPopulation fns repo call.currentGeneration call.populationSize
  let elites := elitesOf currentPop call.populationSize
  breedAll fns elites currentPop (call.currentGeneration + 1) call.populationSize call.draws
    (List.range call.populationSize.toNat) repo

/-- The repository after some steps. -/
def evolve (repo : GenotypeRepository α) : List (StepCall α) → Except Exc (GenotypeRepository α)
  | [] => .ok repo
  | call :: calls => do
    let (_, repo) ← stepGeneration fns repo call
    evolve repo calls

end GenotypeService

end Quant
