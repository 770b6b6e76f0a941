import Mathlib.Algebra.BigOperators.Fin
import Mathlib.Data.List.FinRange
import Mathlib.Data.List.Sort
import Quant.Analytics.Strategies.Base

/-!
# Execution sizing

`project_two_l1_constraints` of `analytics/execution_sizing.py`, and the spectral projected gradient of
`UnifiedConvexExecutionSizer.solve` with its objective and its projection given as functions, for `n` assets. Numbers are exact
and finite.
-/

namespace Quant

open Pylib

variable {n : ℕ} {α : Type} [Field α] [LinearOrder α]

/-! ## Thresholds -/

/-- `sorted(a, reverse=True)`. -/
def sortedDescending (a : Fin n → α) : List α := (List.ofFn a).insertionSort (· ≥ ·)

/-- The number of entries seen, their sum and the threshold. -/
structure ThresholdState (α : Type) where
  count : ℕ
  cum : α
  th : α

/-- One entry of the search: the threshold moves where the entry is above it. -/
def ThresholdState.step (b : α) (st : ThresholdState α) (x : α) : ThresholdState α :=
  let cum := st.cum + x
  let t := (cum - b) / ((st.count + 1 : ℕ) : α)
  ⟨st.count + 1, cum, if 0 < x - t then t else st.th⟩

/-- The threshold at which what is above it sums to `b`. -/
def l1Threshold (b : α) (s : List α) : α := (s.foldl (ThresholdState.step b) ⟨0, 0, 0⟩).th

/-- What is above the threshold. -/
def softL1 (b : α) (a : Fin n → α) : Fin n → α := fun i => max 0 (a i - l1Threshold b (sortedDescending a))

/-- The assets by their ratios, the largest first. -/
def ratioPairs (c a : Fin n → α) : List (α × Fin n) :=
  ((List.finRange n).map fun i => (a i / c i, i)).insertionSort fun p q => q.1 < p.1 ∨ (q.1 = p.1 ∧ q.2 ≤ p.2)

/-- The first multiplier that lies between its ratio and the next. -/
def weightedMultiplier (c a : Fin n → α) (b : α) : α → α → List (α × Fin n) → α
  | _, _, [] => 0
  | cumCy, cumC2, p :: pairs =>
    let cumCy := cumCy + c p.2 * a p.2
    let cumC2 := cumC2 + c p.2 * c p.2
    let lCand := (cumCy - b) / cumC2
    if lCand < p.1 ∧ ∀ q ∈ pairs.head?, q.1 ≤ lCand then lCand else weightedMultiplier c a b cumCy cumC2 pairs

/-- What is above the multiple of the weights. -/
def softWeighted (c : Fin n → α) (b : α) (a : Fin n → α) : Fin n → α := fun i =>
  max 0 (a i - weightedMultiplier c a b 0 0 (ratioPairs c a) * c i)

/-! ## The two active constraints -/

/-- `np.max(np.abs(v))`, of at least one number. -/
def maxAbs (v : Fin n → α) : α := (List.ofFn fun i => |v i|).foldr max 0

/-- `np.ptp`: the largest number less the smallest, of at least one. -/
def npPtp (v : Fin n → α) : α :=
  match List.ofFn v with
  | [] => 0
  | x :: xs => xs.foldr max x - xs.foldr min x

/-- How the Newton stage ends. -/
inductive NewtonOutcome (n : ℕ) (α : Type) where
  | converged (lam1New lam2New : α) (xNew : Fin n → α)
  | parallel (x : Fin n → α)
  | unsolved

/-- What is above both multiples. -/
def softBoth (c a : Fin n → α) (lam1 lam2 : α) : Fin n → α := fun i => max 0 (a i - lam1 - lam2 * c i)

/-- A sum over the active set. -/
def activeSum (x v : Fin n → α) : α := ∑ i, if 0 < x i then v i else 0

/-- The Newton rounds from two multipliers. -/
def newtonStage (a c : Fin n → α) (b1 b2 : α) : ℕ → α → α → NewtonOutcome n α
  | 0, _, _ => .unsolved
  | rounds + 1, lam1, lam2 =>
    let x := softBoth c a lam1 lam2
    let kAct := activeSum x fun _ => 1
    if kAct = 0 then .unsolved
    else
      let sa := activeSum x a
      let sc := activeSum x c
      let sca := activeSum x fun i => c i * a i
      let scc := activeSum x fun i => c i * c i
      let det := kAct * scc - sc * sc
      if det < lit (1 / 10 ^ 12) then
        if npPtp c < lit (1 / 10 ^ 12) then .parallel (softL1 (min b1 (b2 / (sc / kAct))) a) else .unsolved
      else
        let lam1New := (scc * (sa - b1) - sc * (sca - b2)) / det
        let lam2New := (kAct * (sca - b2) - sc * (sa - b1)) / det
        let xNew := softBoth c a (max 0 lam1New) (max 0 lam2New)
        if (lit (-1 / 10 ^ 12) ≤ lam1New ∧ lit (-1 / 10 ^ 12) ≤ lam2New) ∧ ∀ i, 0 < xNew i ↔ 0 < x i then
          .converged lam1New lam2New xNew
        else newtonStage a c b1 b2 rounds (max 0 lam1New) (max 0 lam2New)

/-- One half of a round of Dykstra's: a point with its correction, projected where it exceeds. -/
def dykstraHalf (exceeds : (Fin n → α) → Bool) (soft : (Fin n → α) → Fin n → α) (x corr : Fin n → α) :
    (Fin n → α) × (Fin n → α) :=
  let y := fun i => x i + corr i
  let yPos := fun i => max 0 (y i)
  let step := if exceeds yPos then soft yPos else yPos
  (step, fun i => y i - step i)

/-- The alternating projections, for some rounds. -/
def dykstra (c : Fin n → α) (b1 b2 : α) : ℕ → (Fin n → α) → (Fin n → α) → (Fin n → α) → Fin n → α
  | 0, xD, _, _ => xD
  | rounds + 1, xD, pCorr, qCorr =>
    let (yStep, pCorr) := dykstraHalf (fun v => b1 < ∑ i, v i) (softL1 b1) xD pCorr
    let (xStep, qCorr) := dykstraHalf (fun v => b2 < ∑ i, c i * v i) (softWeighted c b2) yStep qCorr
    if maxAbs (fun i => xStep i - xD i) < lit (1 / 10 ^ 7) then xStep else dykstra c b1 b2 rounds xStep pCorr qCorr

/-! ## The projection -/

/-- `np.copysign`, and zero where the sign is of zero. -/
def withSigns (x y : Fin n → α) : Fin n → α := fun i => if y i = 0 then 0 else if y i < 0 then -|x i| else |x i|

/-- `np.dot(c, np.abs(res))`. -/
def cvarOf (c v : Fin n → α) : α := ∑ i, c i * |v i|

/-- The gross leverage. -/
def l1Of (v : Fin n → α) : α := ∑ i, |v i|

/-- The signs put back, scaled down into both budgets. -/
def rescaled (y c : Fin n → α) (b1 b2 : α) (x : Fin n → α) : Fin n → α :=
  let res := withSigns x y
  let res := if b2 < cvarOf c res then fun i => res i * (b2 / cvarOf c res) else res
  if b1 < l1Of res then fun i => res i * (b1 / l1Of res) else res

/-- The body of `project_two_l1_constraints`. -/
def projectTwoL1 (forceDykstra : Bool) (y c : Fin n → α) (b1 b2 : α) : Fin n → α :=
  if b1 ≤ 0 ∨ b2 ≤ 0 then fun _ => 0
  else
    let a := fun i => |y i|
    if ∑ i, a i ≤ b1 ∧ ∑ i, c i * a i ≤ b2 then y
    else
      let x1 := softL1 b1 a
      if ∑ i, c i * x1 i ≤ b2 + lit (1 / 10 ^ 12) then rescaled y c b1 b2 x1
      else
        let x2 := softWeighted c b2 a
        if ∑ i, x2 i ≤ b1 + lit (1 / 10 ^ 12) then rescaled y c b1 b2 x2
        else
          match if forceDykstra then .unsolved else newtonStage a c b1 b2 15 0 0 with
          | .converged _ _ xOpt => rescaled y c b1 b2 xOpt
          | .parallel xOpt => rescaled y c b1 b2 xOpt
          | .unsolved => rescaled y c b1 b2 (dykstra c b1 b2 40 a (fun _ => 0) fun _ => 0)

/-- `InvalidSizingInputException`. -/
def invalidSizingInput (text : String) (args : List (StrategyArg α)) : StrategyExc α :=
  ⟨.invalidSizingInput, none, "ERR-SZ-001: Invalid hyperparameter configuration or parameter bounds: " ++ text, args⟩

/-- `project_two_l1_constraints`. -/
def projectTwoL1Constraints (y c : Fin n → α) (b1 b2 : α) (validate forceDykstra : Bool) : Except (StrategyExc α) (Fin n → α) :=
  if validate then
    if n = 0 then .error ⟨.valueError, none, "zero-size array to reduction operation minimum which has no identity", []⟩
    else if ∃ i, c i ≤ 0 then .error (invalidSizingInput "c elements must be strictly positive (> 0.0)" [])
    else if b1 < 0 then .error (invalidSizingInput "b1 must be a non-negative float, got %" [.num b1])
    else if b2 < 0 then .error (invalidSizingInput "b2 must be a non-negative float, got %" [.num b2])
    else .ok (projectTwoL1 forceDykstra y c b1 b2)
  else .ok (projectTwoL1 forceDykstra y c b1 b2)

/-! ## The spectral projected gradient -/

/-- What the loop is given: the two functions of `_eval_local`, the projection and the tolerance. -/
structure SpgProblem (n : ℕ) (α : Type) where
  objective : (Fin n → α) → α
  gradient : (Fin n → α) → Fin n → α
  project : (Fin n → α) → Fin n → α
  tolerance : α

/-- What the loop carries. -/
structure SpgState (n : ℕ) (α : Type) where
  nuCurr : Fin n → α
  lCurr : α
  gCurr : Fin n → α
  alpha : α

namespace SpgProblem

variable (problem : SpgProblem n α)

/-- `nu_trial`: the projected step. -/
def trial (s : SpgState n α) : Fin n → α := problem.project fun i => s.nuCurr i + s.alpha * s.gCurr i

/-- The halvings: the first candidate on the way to the trial that is accepted, if one is. -/
def accept (s : SpgState n α) (d : Fin n → α) (gDotD : α) : ℕ → α → Option (Fin n → α)
  | 0, _ => none
  | halvings + 1, beta =>
    let nuCandStep := fun i => s.nuCurr i + beta * d i
    if s.lCurr + lit (1 / 10 ^ 4) * beta * gDotD ≤ problem.objective nuCandStep then some nuCandStep
    else accept s d gDotD halvings (beta * lit (1 / 2))

/-- The direction of a round. -/
def direction (s : SpgState n α) : Fin n → α := fun i => problem.trial s i - s.nuCurr i

/-- The line search of a round: ten candidates from the trial back. -/
def lineSearch (s : SpgState n α) : Option (Fin n → α) :=
  problem.accept s (problem.direction s) (∑ i, s.gCurr i * problem.direction s i) 10 1

/-- A round: the state after it, and whether the loop stops. -/
def round (s : SpgState n α) : SpgState n α × Bool :=
  if maxAbs (problem.direction s) < problem.tolerance then ({ s with nuCurr := problem.trial s }, true)
  else
    let (nuNext, lNext, gNext) :=
      match problem.lineSearch s with
      | some nu => (nu, problem.objective nu, problem.gradient nu)
      -- the whole step, with the value and the gradient of the point before it
      | none => (problem.trial s, s.lCurr, s.gCurr)
    let step := fun i => nuNext i - s.nuCurr i
    let sy := ∑ i, step i * (s.gCurr i - gNext i)
    let alpha := if lit (1 / 10 ^ 12) < sy then clip ((∑ i, step i * step i) / sy) (lit (1 / 10 ^ 2)) (lit (10 ^ 4)) else lit 25
    (⟨nuNext, lNext, gNext, alpha⟩, decide (maxAbs step < problem.tolerance))

/-- The loop, for some rounds. -/
def loop : ℕ → SpgState n α → SpgState n α
  | 0, s => s
  | rounds + 1, s =>
    let (s', stop) := problem.round s
    if stop then s' else loop rounds s'

/-- The state before the loop: the projected candidate. -/
def start (nuCand : Fin n → α) : SpgState n α :=
  let nuCurr := problem.project nuCand
  ⟨nuCurr, problem.objective nuCurr, problem.gradient nuCurr, lit 25⟩

/-- The point that the loop ends with. -/
def solve (nuCand : Fin n → α) (maxIterations : ℕ) : Fin n → α := (problem.loop maxIterations (problem.start nuCand)).nuCurr

end SpgProblem

end Quant
