import Quant.Analytics.Strategies.Base

/-!
# The entropic minimax regret potential

`MinimaxRegretConfig` and `EntropicBoltzmannPotential` of `analytics/minimax_regret.py`, for `n` assets. What the payoff engine
computes of a regime, its utility and the gradient of it, is given as functions of the allocation. Numbers are exact and finite.
-/

namespace Quant

open Pylib

/-! ## Configuration -/

structure MinimaxRegretConfigFields (α : Type) where
  maxIterations : ℤ
  gradientTolerance : α
  stepTolerance : α
  lineSearchBacktrack : α
  armijoC1 : α
  levenbergDamping : α
  temperatureFloor : α
  leveragePenalty : α

/-- A configuration its constructor accepted. -/
structure MinimaxRegretConfig (α : Type) [Field α] [LinearOrder α] extends MinimaxRegretConfigFields α where
  maxIterations_pos : 1 ≤ maxIterations
  gradientTolerance_pos : 0 < gradientTolerance
  stepTolerance_pos : 0 < stepTolerance
  lineSearchBacktrack_mem : 0 < lineSearchBacktrack ∧ lineSearchBacktrack < 1
  armijoC1_mem : 0 < armijoC1 ∧ armijoC1 < 1
  levenbergDamping_pos : 0 < levenbergDamping
  temperatureFloor_pos : 0 < temperatureFloor
  leveragePenalty_nonneg : 0 ≤ leveragePenalty

section Config

variable {α : Type} [Field α] [LinearOrder α]

def minimaxError (text : String) (args : List (StrategyArg α)) : StrategyExc α := ⟨.valueError, none, text, args⟩

/-- `MinimaxRegretConfig.__post_init__`. -/
def MinimaxRegretConfigFields.create (f : MinimaxRegretConfigFields α) : Except (StrategyExc α) (MinimaxRegretConfig α) :=
  if h1 : f.maxIterations < 1 then
    .error (minimaxError "ERR-GAME-MINIMAX-001: max_iterations must be >= 1, got %" [.int f.maxIterations])
  else if h2 : f.gradientTolerance ≤ 0 then
    .error (minimaxError "ERR-GAME-MINIMAX-001: gradient_tolerance must be strictly positive, got %" [.num f.gradientTolerance])
  else if h3 : f.stepTolerance ≤ 0 then
    .error (minimaxError "ERR-GAME-MINIMAX-001: step_tolerance must be strictly positive, got %" [.num f.stepTolerance])
  else if h4 : ¬ (0 < f.lineSearchBacktrack ∧ f.lineSearchBacktrack < 1) then
    .error (minimaxError "ERR-GAME-MINIMAX-001: line_search_backtrack must be in (0.0, 1.0), got %" [.num f.lineSearchBacktrack])
  else if h5 : ¬ (0 < f.armijoC1 ∧ f.armijoC1 < 1) then
    .error (minimaxError "ERR-GAME-MINIMAX-001: armijo_c1 must be in (0.0, 1.0), got %" [.num f.armijoC1])
  else if h6 : f.levenbergDamping ≤ 0 then
    .error (minimaxError "ERR-GAME-MINIMAX-001: levenberg_damping must be strictly positive, got %" [.num f.levenbergDamping])
  else if h7 : f.temperatureFloor ≤ 0 then
    .error (minimaxError "ERR-GAME-MINIMAX-001: temperature_floor must be strictly positive, got %" [.num f.temperatureFloor])
  else if h8 : f.leveragePenalty < 0 then
    .error (minimaxError "ERR-GAME-MINIMAX-001: leverage_penalty must be non-negative, got %" [.num f.leveragePenalty])
  else .ok
    { f with
      maxIterations_pos := not_lt.1 h1
      gradientTolerance_pos := not_le.1 h2
      stepTolerance_pos := not_le.1 h3
      lineSearchBacktrack_mem := not_not.1 h4
      armijoC1_mem := not_not.1 h5
      levenbergDamping_pos := not_le.1 h6
      temperatureFloor_pos := not_le.1 h7
      leveragePenalty_nonneg := not_lt.1 h8 }

/-- The defaults. -/
def MinimaxRegretConfigFields.default : MinimaxRegretConfigFields α where
  maxIterations := 25
  gradientTolerance := lit (1 / 10 ^ 6)
  stepTolerance := lit (1 / 10 ^ 8)
  lineSearchBacktrack := lit (1 / 2)
  armijoC1 := lit (1 / 10 ^ 4)
  levenbergDamping := lit (1 / 10 ^ 4)
  temperatureFloor := lit (1 / 10 ^ 4)
  leveragePenalty := lit 100

end Config

/-! ## The potential -/

/-- What the payoff engine computes of a regime: `evaluate_utility`, and the gradient of `evaluate_utility_and_gradient`. -/
structure RegimePayoff (n : ℕ) (α : Type) where
  utility : (Fin n → α) → α
  gradient : (Fin n → α) → Fin n → α

/-- What `evaluate_potential` returns. -/
structure PotentialValue (α : Type) where
  potential : α
  boltzmannDistribution : List α
  regrets : List α

/-- What `evaluate_gradient` returns. -/
structure PotentialGradient (n : ℕ) (α : Type) where
  gradient : Fin n → α
  potential : α
  boltzmannDistribution : List α
  regimeGradients : List (Fin n → α)

/-- The gradient of a value: the gradients of the regimes, weighed with its distribution. -/
def PotentialValue.weigh {n : ℕ} {α : Type} [Field α] (regimeGrads : List (Fin n → α)) (v : PotentialValue α) :
    PotentialGradient n α :=
  ⟨fun i => npDotVec v.boltzmannDistribution (regimeGrads.map (· i)), v.potential, v.boltzmannDistribution, regimeGrads⟩

/-- What the two functions read but for the allocation. -/
structure RegretProblem (n : ℕ) (α : Type) where
  regimePayoffs : List (RegimePayoff n α)
  benchmarkCeilings : List α
  regimePriors : List α
  temperature : α

namespace MinimaxRegretConfig

variable {n : ℕ} {α : Type} [Field α] [LinearOrder α] (M : StrategyMath α) (config : MinimaxRegretConfig α)
    (problem : RegretProblem n α)

/-- `np.max` of no numbers. -/
def emptyMaximum : StrategyExc α := minimaxError "zero-size array to reduction operation maximum which has no identity" []

def dimensionMismatch (mRegimes : ℕ) : StrategyExc α :=
  minimaxError "ERR-GAME-MINIMAX-003: Dimension mismatch across % regimes" [.int mRegimes]

/-- `evaluate_potential`. -/
def evaluatePotential (allocation : Fin n → α) : Except (StrategyExc α) (PotentialValue α) :=
  let beta := max problem.temperature config.temperatureFloor
  let mRegimes := problem.regimePayoffs.length
  if problem.regimePriors.length ≠ mRegimes ∨ problem.benchmarkCeilings.length ≠ mRegimes then .error (dimensionMismatch mRegimes)
  else
    let regrets := List.zipWith (fun payoff ceiling => max 0 (ceiling - payoff.utility allocation)) problem.regimePayoffs
      problem.benchmarkCeilings
    let scaledRegret := regrets.map (· / beta)
    match scaledRegret.max? with
    | none => .error emptyMaximum
    | some mShift =>
      let expTerms := scaledRegret.map fun r => M.exp (r - mShift)
      let weightedTerms := List.zipWith (· * ·) problem.regimePriors expTerms
      let zPartition := weightedTerms.sum
      if zPartition ≤ 0 then .ok ⟨beta * mShift, List.replicate mRegimes (1 / (mRegimes : α)), regrets⟩
      else .ok ⟨beta * (mShift + M.log zPartition), weightedTerms.map (· / zPartition), regrets⟩

/-- `evaluate_gradient`, with the gradients of the regimes. -/
def evaluateGradient (allocation : Fin n → α) : Except (StrategyExc α) (PotentialGradient n α) :=
  let beta := max problem.temperature config.temperatureFloor
  let mRegimes := problem.regimePayoffs.length
  if problem.regimePriors.length ≠ mRegimes ∨ problem.benchmarkCeilings.length ≠ mRegimes then .error (dimensionMismatch mRegimes)
  else
    let regrets := List.zipWith (fun payoff ceiling => max 0 (ceiling - payoff.utility allocation)) problem.regimePayoffs
      problem.benchmarkCeilings
    let regimeGrads := problem.regimePayoffs.map fun payoff i => -payoff.gradient allocation i
    let scaledRegret := regrets.map (· / beta)
    match scaledRegret.max? with
    | none => .error emptyMaximum
    | some mShift =>
      let expTerms := scaledRegret.map fun r => M.exp (r - mShift)
      let weightedTerms := List.zipWith (· * ·) problem.regimePriors expTerms
      let zPartition := weightedTerms.sum
      let (qStar, psi) :=
        if zPartition ≤ 0 then (List.replicate mRegimes (1 / (mRegimes : α)), beta * mShift)
        else (weightedTerms.map (· / zPartition), beta * (mShift + M.log zPartition))
      .ok ⟨fun i => npDotVec qStar (regimeGrads.map (· i)), psi, qStar, regimeGrads⟩

/-- `evaluate_gradient` weighs what `evaluate_potential` returns. -/
theorem evaluateGradient_eq_weigh (allocation : Fin n → α) :
    config.evaluateGradient M problem allocation =
      (config.evaluatePotential M problem allocation).map
        (PotentialValue.weigh (problem.regimePayoffs.map fun payoff i => -payoff.gradient allocation i)) := by
  unfold evaluateGradient evaluatePotential
  dsimp only
  split
  · rfl
  · split
    · rfl
    · split <;> rfl

end MinimaxRegretConfig

end Quant
