import Mathlib.Data.Matrix.Basic
import Quant.Analytics.MinimaxRegret

/-!
# The minimax regret solver

`LatentSoftmaxTransform` and `VectorizedNewtonSolver.solve` of `analytics/minimax_regret.py`, with the configuration of the game
they read. The potential, its gradients and its Hessian are given as functions of the allocation, and so is the linear solver of
numpy. The execution slices and the duration of the result are left out.
-/

namespace Quant

open Pylib

/-! ## Configuration -/

structure StackelbergConfigFields (α : Type) where
  executionHorizon : ℤ
  hyperbolicDecayRate : α
  riskAversion : α
  predatoryShadingIntensity : α
  riskFreeRate : α
  maxWeightPerAsset : α
  grossLeverageLimit : α

/-- A configuration of the game its constructor accepted. -/
structure StackelbergConfig (α : Type) [Field α] [LinearOrder α] extends StackelbergConfigFields α where
  executionHorizon_pos : 1 ≤ executionHorizon
  hyperbolicDecayRate_nonneg : 0 ≤ hyperbolicDecayRate
  riskAversion_pos : 0 < riskAversion
  predatoryShadingIntensity_nonneg : 0 ≤ predatoryShadingIntensity
  riskFreeRate_nonneg : 0 ≤ riskFreeRate
  maxWeightPerAsset_mem : 0 < maxWeightPerAsset ∧ maxWeightPerAsset ≤ 1
  grossLeverageLimit_mem : 0 < grossLeverageLimit ∧ grossLeverageLimit ≤ 1
  maxWeightPerAsset_le : maxWeightPerAsset ≤ grossLeverageLimit

section Config

variable {α : Type} [Field α] [LinearOrder α]

/-- `StackelbergConfig.__post_init__`. -/
def StackelbergConfigFields.create (f : StackelbergConfigFields α) : Except (StrategyExc α) (StackelbergConfig α) :=
  if h1 : f.executionHorizon < 1 then
    .error (minimaxError "ERR-GAME-STACK-001: execution_horizon must be an integer >= 1, got %" [.int f.executionHorizon])
  else if h2 : f.hyperbolicDecayRate < 0 then
    .error (minimaxError "ERR-GAME-STACK-001: hyperbolic_decay_rate must be non-negative and finite, got %"
      [.num f.hyperbolicDecayRate])
  else if h3 : f.riskAversion ≤ 0 then
    .error (minimaxError "ERR-GAME-STACK-001: risk_aversion must be strictly positive, got %" [.num f.riskAversion])
  else if h4 : f.predatoryShadingIntensity < 0 then
    .error (minimaxError "ERR-GAME-STACK-001: predatory_shading_intensity must be non-negative, got %"
      [.num f.predatoryShadingIntensity])
  else if h5 : f.riskFreeRate < 0 then
    .error (minimaxError "ERR-GAME-STACK-001: risk_free_rate must be non-negative, got %" [.num f.riskFreeRate])
  else if h6 : ¬ (0 < f.maxWeightPerAsset ∧ f.maxWeightPerAsset ≤ 1) then
    .error (minimaxError "ERR-GAME-STACK-001: max_weight_per_asset must be in (0.0, 1.0], got %" [.num f.maxWeightPerAsset])
  else if h7 : ¬ (0 < f.grossLeverageLimit ∧ f.grossLeverageLimit ≤ 1) then
    .error (minimaxError "ERR-GAME-STACK-001: gross_leverage_limit must be in (0.0, 1.0], got %" [.num f.grossLeverageLimit])
  else if h8 : f.grossLeverageLimit < f.maxWeightPerAsset then
    .error (minimaxError "ERR-GAME-STACK-001: max_weight_per_asset (%) cannot exceed gross_leverage_limit (%)"
      [.num f.maxWeightPerAsset, .num f.grossLeverageLimit])
  else .ok
    { f with
      executionHorizon_pos := not_lt.1 h1
      hyperbolicDecayRate_nonneg := not_lt.1 h2
      riskAversion_pos := not_le.1 h3
      predatoryShadingIntensity_nonneg := not_lt.1 h4
      riskFreeRate_nonneg := not_lt.1 h5
      maxWeightPerAsset_mem := not_not.1 h6
      grossLeverageLimit_mem := not_not.1 h7
      maxWeightPerAsset_le := not_lt.1 h8 }

/-- The defaults. -/
def StackelbergConfigFields.default : StackelbergConfigFields α where
  executionHorizon := 5
  hyperbolicDecayRate := lit (1 / 2)
  riskAversion := 1
  predatoryShadingIntensity := lit (1 / 4)
  riskFreeRate := 0
  maxWeightPerAsset := lit (30 / 100)
  grossLeverageLimit := 1

end Config

section Solver

variable {n : ℕ} {α : Type} [Field α] [LinearOrder α]

/-! ## The transform -/

namespace LatentSoftmax

variable (M : StrategyMath α) (maxWeight : α)

/-- `forward`: latent coordinates to weights. -/
def forward (w : Fin n → α) : Fin n → α := fun i =>
  let rawSigma := 1 / (1 + M.exp (-clip (w i) (lit (-50)) (lit 50)))
  maxWeight * clip rawSigma (lit (1 / 10 ^ 15)) (1 - lit (1 / 10 ^ 15))

/-- `inverse`. -/
def inverse (a : Fin n → α) : Fin n → α := fun i =>
  let ratio := clip (a i / maxWeight) (lit (1 / 10 ^ 7)) (1 - lit (1 / 10 ^ 7))
  M.log (ratio / (1 - ratio))

/-- `jacobian_diagonal`. -/
def jacobianDiagonal (a : Fin n → α) : Fin n → α := fun i => a i * (1 - a i / maxWeight)

/-- `hessian_diagonal_factor`. -/
def hessianDiagonalFactor (a : Fin n → α) : Fin n → α := fun i => a i * (1 - a i / maxWeight) * (1 - lit 2 * (a i / maxWeight))

end LatentSoftmax

/-! ## The solver -/

/-- What the potential evaluator computes of an allocation: the potential and the tilted distribution, which both of its functions
return, the gradient with those of the regimes, and the Hessian from the distribution and these. -/
structure DualPotential (n : ℕ) (α : Type) where
  potential : (Fin n → α) → α
  boltzmannDistribution : (Fin n → α) → List α
  gradient : (Fin n → α) → Fin n → α
  regimeGradients : (Fin n → α) → List (Fin n → α)
  hessian : (Fin n → α) → List α → List (Fin n → α) → Matrix (Fin n) (Fin n) α

/-- The attributes of a solver, with the potential of the scenarios it is given and `np.linalg.solve`, which may raise. -/
structure VectorizedNewtonSolver (n : ℕ) (α : Type) [Field α] [LinearOrder α] where
  config : MinimaxRegretConfig α
  stackelberg : StackelbergConfig α
  dual : DualPotential n α
  linalgSolve : Matrix (Fin n) (Fin n) α → (Fin n → α) → Option (Fin n → α)

/-- `np.linalg.norm`. -/
def npNorm (M : StrategyMath α) (v : Fin n → α) : α := M.sqrt (∑ i, v i ^ 2)

/-- What the loop carries: the latent point, and what was evaluated in the last round. -/
structure NewtonState (n : ℕ) (α : Type) where
  wCurr : Fin n → α
  aCurr : Fin n → α
  psiCurr : α
  qCurr : List α
  converged : Bool
  actualIterations : ℕ
  /-- `final_grad_norm` and `proj_grad_norm`, none where they are infinite. -/
  gradNorms : Option (α × α)

/-- `OptimizationResult`. -/
structure OptimizationResult (n : ℕ) (α : Type) where
  optimalWeights : Fin n → α
  cashWeight : α
  worstCaseRegret : α
  regimeWorstCaseDistribution : List α
  solverConverged : Bool
  solverIterations : ℕ
  finalGradientNorm : Option α

namespace VectorizedNewtonSolver

variable (M : StrategyMath α) (solver : VectorizedNewtonSolver n α)

/-- `w_max`. -/
def wMax : α := solver.stackelberg.maxWeightPerAsset

/-- `l_max`. -/
def lMax : α := solver.stackelberg.grossLeverageLimit

def forward (w : Fin n → α) : Fin n → α := LatentSoftmax.forward M solver.wMax w

/-- `excess_leverage`. -/
def excessLeverage (a : Fin n → α) : α := max 0 (∑ i, a i - solver.lMax)

/-- `f_curr` and `f_cand`: the potential with the penalty on the leverage. -/
def penalisedObjective (a : Fin n → α) : α :=
  solver.dual.potential a + lit (1 / 2) * solver.config.leveragePenalty * solver.excessLeverage a ^ 2

/-- `grad_a_total`. -/
def gradATotal (a : Fin n → α) : Fin n → α := fun i =>
  solver.dual.gradient a i + solver.config.leveragePenalty * solver.excessLeverage a * 1

/-- `grad_w`. -/
def gradW (a : Fin n → α) : Fin n → α := fun i => LatentSoftmax.jacobianDiagonal solver.wMax a i * solver.gradATotal a i

/-- `proj_grad`: without what presses against a bound. -/
def projGrad (a : Fin n → α) : Fin n → α := fun i =>
  let boundTol := lit (1 / 10 ^ 4) + lit (1 / 10 ^ 6)
  let lower := if a i ≤ boundTol ∧ 0 ≤ solver.gradATotal a i then 0 else solver.gradATotal a i
  if solver.wMax - boundTol ≤ a i ∧ solver.gradATotal a i ≤ 0 then 0 else lower

/-- The test of the gradient. -/
def GradientMet (a : Fin n → α) : Prop :=
  npNorm M (solver.gradW a) ≤ solver.config.gradientTolerance ∨ npNorm M (solver.projGrad a) ≤ solver.config.gradientTolerance

instance (a : Fin n → α) : Decidable (solver.GradientMet M a) := inferInstanceAs (Decidable (_ ∨ _))

/-- `hess_w`, with the damping on its diagonal. -/
def hessW (a : Fin n → α) : Matrix (Fin n) (Fin n) α := fun i k =>
  let hessA := solver.dual.hessian a (solver.dual.boltzmannDistribution a) (solver.dual.regimeGradients a) i k +
    if 0 < solver.excessLeverage a then solver.config.leveragePenalty * 1 else 0
  let jDiag := LatentSoftmax.jacobianDiagonal solver.wMax a
  jDiag i * hessA * jDiag k +
    if i = k then solver.gradATotal a i * LatentSoftmax.hessianDiagonalFactor solver.wMax a i +
      solver.config.levenbergDamping else 0

/-- `np.dot`. -/
def dot (u v : Fin n → α) : α := ∑ i, u i * v i

/-- `step_direction` and `directional_deriv`: where the Newton step does not descend, the steepest descent. -/
def descent (a : Fin n → α) : (Fin n → α) × α :=
  let gradW := solver.gradW a
  let stepDirection :=
    match solver.linalgSolve (solver.hessW a) gradW with
    | some d => fun i => -d i
    | none => fun i => -gradW i / (npNorm M gradW + lit (1 / 10 ^ 8))
  if 0 < dot gradW stepDirection then (fun i => -gradW i, -dot gradW gradW) else (stepDirection, dot gradW stepDirection)

/-- The backtracking: the first candidate that the Armijo condition accepts, if one of the tries finds it. -/
def backtrack (wCurr stepDirection : Fin n → α) (fCurr directionalDeriv : α) : ℕ → α → Option (Fin n → α)
  | 0, _ => none
  | tries + 1, stepSize =>
    let wCandidate := fun i => wCurr i + stepSize * stepDirection i
    let fCand := solver.penalisedObjective (solver.forward M wCandidate)
    if fCand ≤ fCurr + solver.config.armijoC1 * stepSize * directionalDeriv then some wCandidate
    else backtrack wCurr stepDirection fCurr directionalDeriv tries (stepSize * solver.config.lineSearchBacktrack)

/-- The line search from a latent point: eight tries from the whole step on. -/
def lineSearch (wCurr : Fin n → α) : Option (Fin n → α) :=
  let aCurr := solver.forward M wCurr
  let (stepDirection, directionalDeriv) := solver.descent M aCurr
  solver.backtrack M wCurr stepDirection (solver.penalisedObjective aCurr) directionalDeriv 8 1

/-- `w_next`: the point stays where the line search gives up. -/
def wNext (wCurr : Fin n → α) : Fin n → α := (solver.lineSearch M wCurr).getD wCurr

/-- `step_norm`. -/
def stepNorm (wCurr : Fin n → α) : α := npNorm M fun i => solver.wNext M wCurr i - wCurr i

/-- What a round evaluates. -/
def evaluated (s : NewtonState n α) : NewtonState n α :=
  let a := solver.forward M s.wCurr
  { s with
    aCurr := a
    psiCurr := solver.dual.potential a
    qCurr := solver.dual.boltzmannDistribution a
    actualIterations := s.actualIterations + 1
    gradNorms := some (npNorm M (solver.gradW a), npNorm M (solver.projGrad a)) }

/-- The loop, for some rounds. -/
def loop : ℕ → NewtonState n α → NewtonState n α
  | 0, s => s
  | rounds + 1, s =>
    let s := solver.evaluated M s
    if solver.GradientMet M s.aCurr then { s with converged := true }
    else if solver.stepNorm M s.wCurr ≤ solver.config.stepTolerance then
      { s with wCurr := solver.wNext M s.wCurr, converged := true }
    else loop rounds { s with wCurr := solver.wNext M s.wCurr }

/-- The warm start: the guess, else the weights that are held, away from the bounds, else equal weights. -/
def warmStart (initialWeights : Option (Fin n → α)) (initialGuess : Option (Fin n → α)) : Except (StrategyExc α) (Fin n → α) :=
  match initialGuess.or initialWeights with
  | some a => .ok fun i => clip (a i) (lit (1 / 10 ^ 4)) (solver.wMax - lit (1 / 10 ^ 4))
  | none =>
    if n = 0 then .error zeroDivision
    else .ok fun _ => min (solver.wMax * lit (1 / 2)) (solver.lMax / (lit 2 * n))

/-- The state before the first round. -/
def initialState (aStart : Fin n → α) : NewtonState n α where
  wCurr := LatentSoftmax.inverse M solver.wMax aStart
  aCurr := aStart
  psiCurr := 0
  qCurr := []
  converged := false
  actualIterations := 0
  gradNorms := none

/-- The state after the last round. -/
def finalState (aStart : Fin n → α) : NewtonState n α := solver.loop M solver.config.maxIterations.toNat
    (solver.initialState M aStart)

/-- The weights at the end: within the leverage, then within the bounds. -/
def extract (wCurr : Fin n → α) : Fin n → α :=
  let aOpt := solver.forward M wCurr
  let totWeight := ∑ i, aOpt i
  let scaled := if solver.lMax < totWeight then fun i => aOpt i / totWeight * solver.lMax else aOpt
  fun i => clip (scaled i) 0 solver.wMax

/-- `np.allclose(a_opt, a_curr, atol=1e-12)`. -/
def AllClose (x y : Fin n → α) : Prop := ∀ i, |x i - y i| ≤ lit (1 / 10 ^ 12) + lit (1 / 10 ^ 5) * |y i|

instance (x y : Fin n → α) : Decidable (AllClose x y) := inferInstanceAs (Decidable (∀ _, _))

/-- The result from the last state. -/
def resultOf (s : NewtonState n α) : OptimizationResult n α :=
  let aOpt := solver.extract M s.wCurr
  let same := decide (AllClose aOpt s.aCurr)
  { optimalWeights := aOpt
    cashWeight := max 0 (1 - ∑ i, aOpt i)
    worstCaseRegret := if same then s.psiCurr else solver.dual.potential aOpt
    regimeWorstCaseDistribution := if same then s.qCurr else solver.dual.boltzmannDistribution aOpt
    solverConverged := s.converged
    solverIterations := s.actualIterations
    finalGradientNorm := s.gradNorms.map fun norms => min norms.1 norms.2 }

/-- `solve`, on a problem with the weights that are held and a guess. -/
def solve (problem : RegretProblem n α) (initialWeights : Option (List α)) (initialGuess : Option (Fin n → α)) :
    Except (StrategyExc α) (OptimizationResult n α) :=
  let mRegimes := problem.regimePayoffs.length
  if problem.regimePriors.length ≠ mRegimes ∨ problem.benchmarkCeilings.length ≠ mRegimes then
    .error (MinimaxRegretConfig.dimensionMismatch mRegimes)
  else if initialWeights.any fun ws => ws.length ≠ n then
    .error (minimaxError "ERR-GAME-MINIMAX-003: initial_weights length % != %"
      [.int (initialWeights.elim 0 List.length : ℕ), .int n])
  else do
    let aStart ← solver.warmStart (initialWeights.map fun ws i => ws.getD i 0) initialGuess
    .ok (solver.resultOf M (solver.finalState M aStart))

end VectorizedNewtonSolver

end Solver

end Quant
