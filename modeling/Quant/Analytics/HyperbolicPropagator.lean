import Quant.Analytics.NewtonSolver
import Quant.Pylib.Rows

/-!
# The hyperbolic propagator

`DiscreteHyperbolicPropagator` of `analytics/payoff_matrix.py`. Numbers are exact and finite, so the checks for values that are
not finite have no case here.
-/

namespace Quant

open Pylib

section Propagator

variable {α : Type} [Field α] [LinearOrder α]

/-- An entry of `raw_weights`, counted from 1. -/
def rawWeight (M : StrategyMath α) (h : ℕ) (kappa : α) (k : ℕ) : α :=
  let term1 := M.exp (-kappa * (k - 1))
  let term2 := M.exp (-kappa * (lit 2 * h - k))
  let num := (1 - M.exp (-kappa)) * (term1 + term2)
  let den := 1 - M.exp (-lit 2 * kappa * h)
  num / den

/-- `clean_weights`, before they are divided by their sum. -/
def cleanWeights (M : StrategyMath α) (h : ℕ) (kappa : α) : List α :=
  (List.range h).map fun i => max (rawWeight M h kappa (i + 1)) (lit (1 / 10 ^ 30))

/-- `DiscreteHyperbolicPropagator`, which is its configuration. -/
structure DiscreteHyperbolicPropagator (α : Type) [Field α] [LinearOrder α] where
  config : StackelbergConfig α

namespace DiscreteHyperbolicPropagator

variable (M : StrategyMath α) (propagator : DiscreteHyperbolicPropagator α)

/-- `compute_schedule_weights`. -/
def computeScheduleWeights (horizon : Option ℤ) (decayRate : Option α) : Except (StrategyExc α) (List α) :=
  let h := horizon.getD propagator.config.executionHorizon
  let kappa := decayRate.getD propagator.config.hyperbolicDecayRate
  if h < 1 then .error (minimaxError "ERR-GAME-STACK-002: Execution horizon must be >= 1, got %" [.int h])
  else if kappa < 0 then
    .error (minimaxError "ERR-GAME-STACK-002: Decay rate kappa must be non-negative and finite, got %" [.num kappa])
  else if h = 1 then .ok [1]
  else if kappa < lit (1 / 10 ^ 5) then .ok (List.replicate h.toNat (1 / (h.toNat : α)))
  else
    let clean := cleanWeights M h.toNat kappa
    .ok (clean.map (· / clean.sum))

/-- The check of the dimensions of a move. -/
def checkDimensions (currentWeights targetWeights : List α) : Except (StrategyExc α) Unit :=
  if currentWeights.length ≠ targetWeights.length then
    .error (minimaxError "ERR-GAME-STACK-003: current_weights length (%) does not match target_weights length (%)"
      [.int currentWeights.length, .int targetWeights.length])
  else .ok ()

/-- `delta_total`. -/
def deltaTotal (currentWeights targetWeights : List α) : List α := List.zipWith (fun x y => y - x) currentWeights targetWeights

/-- `compute_trajectory`. -/
def computeTrajectory (currentWeights targetWeights : List α) (horizon : Option ℤ) : Except (StrategyExc α) (List (List α)) := do
  checkDimensions currentWeights targetWeights
  let alpha ← propagator.computeScheduleWeights M horizon none
  -- the last of the running sums is forced to 1
  let cumAlpha := (npCumsum alpha).dropLast ++ [1]
  return currentWeights :: cumAlpha.map (stateAt currentWeights (deltaTotal currentWeights targetWeights))

/-- `compute_execution_slices`. -/
def computeExecutionSlices (currentWeights targetWeights : List α) (horizon : Option ℤ) :
    Except (StrategyExc α) (List (List α)) := do
  checkDimensions currentWeights targetWeights
  let alpha ← propagator.computeScheduleWeights M horizon none
  return npOuter alpha (deltaTotal currentWeights targetWeights)

end DiscreteHyperbolicPropagator

end Propagator

end Quant
