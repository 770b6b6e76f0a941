import Mathlib.Algebra.Order.Ring.Rat
import Mathlib.Data.List.FinRange
import Mathlib.Data.List.Sort
import Quant.Exceptions
import Quant.Pylib.Ndarray

/-!
# Non-dominated sorting

`CandidateFitness` and `DependentNonDominatedSorter` of `analytics/pareto_sorting.py`, with exact numbers; the square root is a
parameter. A population is a family of candidates over `Fin n`, and the objective matrix one of its rows.
-/

namespace Quant

open Pylib

/-! ## Candidates -/

/-- The arguments of a candidate's constructor. -/
structure CandidateFields where
  candidateId : String
  dsr : ℚ
  minimaxRegret : ℚ
  returnSeries : List ℚ
  residualSeries : List ℚ
  backtestLength : ℤ
  isFeasible : Bool
  deriving DecidableEq

/-- A candidate its constructor accepted. -/
structure CandidateFitness extends CandidateFields where
  lengths_eq : returnSeries.length = residualSeries.length
  length_ge : 100 ≤ returnSeries.length
  deriving DecidableEq

/-- `CandidateFitness.__post_init__`; the checks on types, dimensions and finiteness hold by the types of the fields. -/
def CandidateFields.create (f : CandidateFields) : Except Exc CandidateFitness :=
  if h1 : f.returnSeries.length ≠ f.residualSeries.length then
    .error ⟨.invalidResidual, "Length mismatch for candidate '%': returns=% vs residuals=%.",
      [.str f.candidateId, .num f.returnSeries.length, .num f.residualSeries.length]⟩
  else if h2 : f.returnSeries.length < 100 then
    .error ⟨.invalidResidual, "Series length too short for candidate '%': % bars (minimum required: 100).",
      [.str f.candidateId, .num f.returnSeries.length]⟩
  else .ok
    { f with
      lengths_eq := not_not.1 h1
      length_ge := not_lt.1 h2 }

/-- A row of the objective matrix: uniform minimization objectives. -/
structure ObjectiveRow where
  negDsr : ℚ
  regret : ℚ
  negNovelty : ℚ
  deriving DecidableEq

/-! ## Standard errors -/

/-- `xs - np.mean(xs)`. -/
def deviations (xs : List ℚ) : List ℚ := xs.map (· - xs.sum / xs.length)

/-- `np.linalg.norm`. -/
def linalgNorm (sqrt : ℚ → ℚ) (xs : List ℚ) : ℚ := sqrt (dot xs xs)

/-- `np.dot` of two vectors, which must have one length. -/
def npDot (xs ys : List ℚ) : Except Exc ℚ :=
  if xs.length = ys.length then .ok (dot xs ys)
  else .error ⟨.valueError, "shapes (%,) and (%,) not aligned: % (dim 0) != % (dim 0)",
    [.num xs.length, .num ys.length, .num xs.length, .num ys.length]⟩

/-- The end of both computations of the standard error: the correlation is clamped and the asymptotic variance is computed. -/
def asymptoticError (sqrt : ℚ → ℚ) (dsrA dsrB rho : ℚ) (tBars : ℕ) : ℚ :=
  let rho := max (-9999 / 10000) (min (9999 / 10000) rho)
  let diffTerm := 2 * (1 - rho)
  let squaredTerm := 1 / 2 * (dsrA ^ 2 + dsrB ^ 2 - 2 * rho ^ 2 * dsrA * dsrB)
  sqrt (max 0 ((diffTerm + squaredTerm) / tBars))

/-- The norm below which a series counts as constant. -/
def tinyNorm : ℚ := 1 / 10 ^ 12

/-- `compute_dependent_dsr_variance`; the product is of two vectors of `tBars` elements. -/
def computeDependentDsrVariance (sqrt : ℚ → ℚ) (dsrA dsrB : ℚ) (returnsA returnsB : List ℚ) : ℚ :=
  let tBars := min returnsA.length returnsB.length
  if tBars < 2 then 0
  else
    let devA := deviations (returnsA.take tBars)
    let devB := deviations (returnsB.take tBars)
    let normA := linalgNorm sqrt devA
    let normB := linalgNorm sqrt devB
    let rho := if normA < tinyNorm ∨ normB < tinyNorm then 0 else dot devA devB / (normA * normB)
    asymptoticError sqrt dsrA dsrB rho tBars

/-- `_compute_dependent_dsr_variance_precomputed`. -/
def computeDependentDsrVariancePrecomputed (sqrt : ℚ → ℚ) (dsrA dsrB : ℚ) (devA devB : List ℚ) (normA normB : ℚ) (tBars : ℕ) :
    Except Exc ℚ :=
  if tBars < 2 then .ok 0
  else if normA < tinyNorm ∨ normB < tinyNorm then .ok (asymptoticError sqrt dsrA dsrB 0 tBars)
  else
    match npDot devA devB with
    | .error exc => .error exc
    | .ok product => .ok (asymptoticError sqrt dsrA dsrB (product / (normA * normB)) tBars)

/-! ## The sorter -/

/-- The thresholds of a sorter. -/
structure DependentNonDominatedSorter where
  tau : ℚ := 1645 / 1000
  epsRegret : ℚ := 1 / 10 ^ 6
  epsNovelty : ℚ := 1 / 10 ^ 4
  deriving DecidableEq

/-- The slack of the weak conditions on regret and novelty. -/
def weakSlack : ℚ := 1 / 10 ^ 9

namespace DependentNonDominatedSorter

/-- The standard error in `dominates`, from what was computed before where both have it. -/
def seDiff (sqrt : ℚ → ℚ) (a b : CandidateFitness) : Option (List ℚ × ℚ) → Option (List ℚ × ℚ) → Except Exc ℚ
  | some (devA, normA), some (devB, normB) =>
    computeDependentDsrVariancePrecomputed sqrt a.dsr b.dsr devA devB normA normB (min devA.length devB.length)
  | _, _ => .ok (computeDependentDsrVariance sqrt a.dsr b.dsr a.returnSeries b.returnSeries)

/-- `dominates`. -/
def dominates (p : DependentNonDominatedSorter) (sqrt : ℚ → ℚ) (a b : CandidateFitness) (oa ob : ObjectiveRow)
    (precomputedA precomputedB : Option (List ℚ × ℚ)) : Except Exc Bool :=
  if a.isFeasible ∧ ¬ b.isFeasible then .ok true
  else if ¬ a.isFeasible ∧ b.isFeasible then .ok false
  else if ¬ a.isFeasible ∧ ¬ b.isFeasible then .ok false
  else if ob.regret + weakSlack < oa.regret then .ok false
  else if ob.negNovelty + weakSlack < oa.negNovelty then .ok false
  else
    let strictRegret := oa.regret < ob.regret - p.epsRegret
    let strictNovelty := oa.negNovelty < ob.negNovelty - p.epsNovelty
    if ¬ (strictRegret ∨ strictNovelty) ∧ ob.negDsr ≤ oa.negDsr then .ok false
    else
      (seDiff sqrt a b precomputedA precomputedB).map fun se =>
        let deltaDsrTol := p.tau * se
        if ¬ oa.negDsr ≤ ob.negDsr + deltaDsrTol then false
        else oa.negDsr < ob.negDsr - deltaDsrTol ∨ strictRegret ∨ strictNovelty

variable {n : ℕ}

/-- What `sort` computes once for each candidate. -/
def cached (sqrt : ℚ → ℚ) (c : CandidateFitness) : List ℚ × ℚ :=
  let dev := deviations c.returnSeries
  (dev, linalgNorm sqrt dev)

/-- The innermost loop of `sort`: whether a member of a front dominates the candidate. -/
def isDominated (p : DependentNonDominatedSorter) (sqrt : ℚ → ℚ) (candidates : Fin n → CandidateFitness)
    (objectiveMatrix : Fin n → ObjectiveRow) (candIdx : Fin n) : List (Fin n) → Except Exc Bool
  | [] => .ok false
  | memberIdx :: front =>
    if (objectiveMatrix memberIdx).regret ≤ (objectiveMatrix candIdx).regret + weakSlack ∧
        (objectiveMatrix memberIdx).negNovelty ≤ (objectiveMatrix candIdx).negNovelty + weakSlack then
      match p.dominates sqrt (candidates memberIdx) (candidates candIdx) (objectiveMatrix memberIdx) (objectiveMatrix candIdx)
          (some (cached sqrt (candidates memberIdx))) (some (cached sqrt (candidates candIdx))) with
      | .error exc => .error exc
      | .ok true => .ok true
      | .ok false => isDominated p sqrt candidates objectiveMatrix candIdx front
    else isDominated p sqrt candidates objectiveMatrix candIdx front

/-- The loop of `sort` over the fronts. -/
def place (p : DependentNonDominatedSorter) (sqrt : ℚ → ℚ) (candidates : Fin n → CandidateFitness)
    (objectiveMatrix : Fin n → ObjectiveRow) (candIdx : Fin n) : List (List (Fin n)) → Except Exc (List (List (Fin n)))
  | [] => .ok [[candIdx]]
  | front :: fronts =>
    match isDominated p sqrt candidates objectiveMatrix candIdx front with
    | .error exc => .error exc
    | .ok true => (place p sqrt candidates objectiveMatrix candIdx fronts).map (front :: ·)
    | .ok false => .ok ((front ++ [candIdx]) :: fronts)

/-- The loop of `sort` over the sorted candidates. -/
def assignFronts (p : DependentNonDominatedSorter) (sqrt : ℚ → ℚ) (candidates : Fin n → CandidateFitness)
    (objectiveMatrix : Fin n → ObjectiveRow) (fronts : List (List (Fin n))) : List (Fin n) → Except Exc (List (List (Fin n)))
  | [] => .ok fronts
  | candIdx :: rest =>
    match place p sqrt candidates objectiveMatrix candIdx fronts with
    | .error exc => .error exc
    | .ok fronts' => assignFronts p sqrt candidates objectiveMatrix fronts' rest

/-- The candidates that are sorted. -/
def qualifies (c : CandidateFitness) : Bool := c.isFeasible ∧ 1 / 2 ≤ c.dsr

/-- `sort`: the fronts, and the indices set apart. -/
def sort (p : DependentNonDominatedSorter) (sqrt : ℚ → ℚ) (candidates : Fin n → CandidateFitness)
    (objectiveMatrix : Fin n → ObjectiveRow) : Except Exc (List (List (Fin n)) × List (Fin n)) :=
  let feasibleIndices := (List.finRange n).filter fun i => qualifies (candidates i)
  let infeasibleIndices := (List.finRange n).filter fun i => ¬ qualifies (candidates i)
  if feasibleIndices = [] then .ok ([], infeasibleIndices)
  else
    let sortedFeasible := feasibleIndices.insertionSort fun i j => (objectiveMatrix i).negDsr ≤ (objectiveMatrix j).negDsr
    (assignFronts p sqrt candidates objectiveMatrix [] sortedFeasible).map fun fronts => (fronts, infeasibleIndices)

end DependentNonDominatedSorter

/-!
## Pareto ranking

`BoundaryAnchoredRVEARanker.rank_population` of `analytics/pareto_sorting.py` around the sort. The novelties the archive computes
and the angle-penalized distances of the lattice are parameters, by the position of the candidate; what the two report about
themselves is left out.
-/

/-- `ParetoFront`. -/
structure ParetoFront where
  rank : ℕ
  candidateIds : List String
  apdScores : List ℚ
  deriving DecidableEq

/-- `RankingResult`. -/
structure RankingResult where
  fronts : List ParetoFront
  infeasibleIds : List String
  deriving DecidableEq

/-- What the archive and the lattice compute for one ranking. -/
structure RankingScores where
  novelty : ℕ → ℚ
  apd : ℕ → ℚ

/-- The objectives of a population, all to be minimized. -/
def rawObjectives (scores : RankingScores) (candidates : List CandidateFitness) (i : Fin candidates.length) : ObjectiveRow :=
  { negDsr := -(candidates.get i).dsr
    regret := (candidates.get i).minimaxRegret
    negNovelty := -scores.novelty i }

/-- The members of a front by their angle-penalized distances. -/
def sortedFront (scores : RankingScores) {n : ℕ} (front : List (Fin n)) : List (Fin n) :=
  front.insertionSort fun i j : Fin n => scores.apd i ≤ scores.apd j

/-- A front as the ranking reports it. -/
def paretoFront (scores : RankingScores) (candidates : List CandidateFitness) (front : List (Fin candidates.length)) (rank : ℕ) :
    ParetoFront :=
  { rank := rank
    candidateIds := (sortedFront scores front).map fun i => (candidates.get i).candidateId
    apdScores := (sortedFront scores front).map fun i : Fin candidates.length => scores.apd i }

/-- `rank_population`; the residuals must be of one length, since `np.vstack` makes a matrix of them. -/
def rankPopulation (sorter : DependentNonDominatedSorter) (sqrt : ℚ → ℚ) (scores : RankingScores)
    (candidates : List CandidateFitness) :
    Except Exc RankingResult :=
  if ∃ c ∈ candidates, ∃ c' ∈ candidates, c.residualSeries.length ≠ c'.residualSeries.length then
    .error ⟨.valueError, "all the input array dimensions except for the concatenation axis must match exactly", []⟩
  else
    (sorter.sort sqrt candidates.get (rawObjectives scores candidates)).map fun (frontIndices, infeasibleIndices) =>
      { fronts := (frontIndices.zipIdx 1).map fun (front, rank) => paretoFront scores candidates front rank
        infeasibleIds := infeasibleIndices.map fun i => (candidates.get i).candidateId }

end Quant
