import Mathlib.Algebra.Order.Floor.Semiring
import Mathlib.Tactic.Linarith
import Mathlib.Tactic.Ring
import Quant.Analytics.Strategies.Base
import Quant.Pylib.Series

/-!
# Fractional differencing

`analytics/fractional_diff.py`, over any ordered field with floors. Numbers are exact.

## Weights

`compute_fractional_weights` as far as the strategies use it: without a cap on the lookback and with the zero-sum correction. The
weights fall at least as fast as `d / k`, so the expansion stops.
-/

namespace Quant

open Pylib

section FractionalWeights

variable {α : Type} [Field α] [LinearOrder α] [FloorRing α]

/-- `w_k` from the weight before. -/
def nextWeight (d : α) (w : α) (k : ℕ) : α := -w * (d - k + 1) / k

/-- The weights after `w`, from index `k` on, until one falls below the threshold. The fuel bounds their number. -/
def expandWeights (d threshold : α) : ℕ → α → ℕ → List α
  | 0, _, _ => []
  | fuel + 1, w, k =>
    let w' := nextWeight d w k
    if |w'| < threshold then [] else w' :: expandWeights d threshold fuel w' (k + 1)

/-- `compute_fractional_weights`. -/
def computeFractionalWeights (d threshold : α) : Except (StrategyExc α) (List α) :=
  if ¬ (0 ≤ d ∧ d ≤ 1) then .error ⟨.valueError, none, "Differencing degree d must be in [0.0, 1.0], got %", [.num d]⟩
  else if threshold ≤ 0 then .error ⟨.valueError, none, "Tolerance threshold must be strictly positive, got %", [.num threshold]⟩
  else if d = 0 then .ok [1]
  else if d = 1 then .ok [1, -1]
  else
    match expandWeights d threshold (⌊d / threshold⌋.toNat + 1) 1 1 with
    | [] => .ok [1]
    | rest => .ok (-rest.sum :: rest)

omit [FloorRing α] in
theorem abs_nextWeight_mul [IsStrictOrderedRing α] (d w : α) {k : ℕ} (hk : 1 ≤ k) :
    |nextWeight d w k| * k = |w| * |d - k + 1| := by
  have hpos : (0 : α) < k := Nat.cast_pos.2 hk
  rw [nextWeight, abs_div, abs_mul, abs_neg, abs_of_pos hpos, div_mul_cancel₀ _ hpos.ne']

/-- A weight is at most as large as the one before, times `(k - 1) / k`. -/
theorem abs_nextWeight_le [IsStrictOrderedRing α] {d w : α} (hd : 0 ≤ d ∧ d ≤ 1) {k : ℕ} (hk : 2 ≤ k) {c : α}
    (h : |w| * ((k : α) - 1) ≤ c) : |nextWeight d w k| * k ≤ c := by
  have hk' : (2 : α) ≤ k := by exact_mod_cast hk
  have hfactor : |d - k + 1| ≤ (k : α) - 1 := by
    rw [abs_le]
    constructor <;> linarith [hd.1, hd.2]
  rw [abs_nextWeight_mul d w (by omega)]
  exact (mul_le_mul_of_nonneg_left hfactor (abs_nonneg w)).trans h

/-- The weights stay below `d / k`. -/
theorem abs_nextWeight_succ [IsStrictOrderedRing α] {d w : α} (hd : 0 ≤ d ∧ d ≤ 1) {k : ℕ} (hk : 1 ≤ k)
    (h : |nextWeight d w k| * k ≤ d) : |nextWeight d (nextWeight d w k) (k + 1)| * ((k + 1 : ℕ) : α) ≤ d := by
  refine abs_nextWeight_le hd (by omega) ?_
  rwa [Nat.cast_succ, add_sub_cancel_right]

omit [FloorRing α] in
theorem abs_nextWeight_one [IsStrictOrderedRing α] {d : α} (hd : 0 ≤ d) : |nextWeight d 1 1| * ((1 : ℕ) : α) ≤ d := by
  rw [nextWeight, Nat.cast_one, mul_one, div_one, sub_add_cancel, neg_one_mul, abs_neg, abs_of_nonneg hd]

omit [FloorRing α] in
/-- Enough fuel is enough after a turn. -/
theorem fuel_succ {d threshold : α} {k fuel : ℕ} (h : d < threshold * (k + (fuel + 1 : ℕ))) :
    d < threshold * (((k + 1 : ℕ) : α) + fuel) := by
  rw [Nat.cast_succ] at h ⊢
  rwa [add_assoc, add_comm (1 : α) (fuel : α)]

omit [FloorRing α] in
theorem small_of_no_fuel [IsStrictOrderedRing α] {d threshold w : α} {k : ℕ} (hw : |nextWeight d w k| * k ≤ d)
    (h : d < threshold * (k + (0 : ℕ))) : |nextWeight d w k| < threshold := by
  rw [Nat.cast_zero, add_zero] at h
  exact lt_of_mul_lt_mul_right (hw.trans_lt h) (Nat.cast_nonneg k)

/-- The fuel of `compute_fractional_weights` is enough for the first turn. -/
theorem lt_fuel [IsStrictOrderedRing α] {d threshold : α} (hd : 0 ≤ d) (ht : 0 < threshold) :
    d < threshold * (((1 : ℕ) : α) + (⌊d / threshold⌋.toNat : ℕ)) := by
  have hfloor : 0 ≤ ⌊d / threshold⌋ := Int.floor_nonneg.2 (div_nonneg hd ht.le)
  have hcast : ((⌊d / threshold⌋.toNat : ℕ) : α) = (⌊d / threshold⌋ : α) := by
    rw [← Int.cast_natCast, Int.toNat_of_nonneg hfloor]
  rw [hcast, Nat.cast_one, add_comm, mul_comm, ← div_lt_iff₀ ht]
  exact Int.lt_floor_add_one _

/-- With enough fuel the expansion has stopped by itself: more of it changes nothing. -/
theorem expandWeights_fuel [IsStrictOrderedRing α] {d threshold : α} (hd : 0 ≤ d ∧ d ≤ 1) {fuel k : ℕ} {w : α} (hk : 1 ≤ k)
    (hw : |nextWeight d w k| * k ≤ d) (hfuel : d < threshold * (k + fuel)) (n : ℕ) :
    expandWeights d threshold (fuel + 1 + n) w k = expandWeights d threshold (fuel + 1) w k := by
  induction fuel generalizing w k with
  | zero =>
    have hsmall := small_of_no_fuel hw hfuel
    rw [show 0 + 1 + n = n + 1 by omega, expandWeights, expandWeights, if_pos hsmall, if_pos hsmall]
  | succ fuel ih =>
    have hnext := abs_nextWeight_succ hd hk hw
    rw [show fuel + 1 + 1 + n = fuel + 1 + n + 1 by omega, expandWeights, expandWeights]
    rw [ih (by omega) hnext (fuel_succ hfuel)]

/-- The fuel of `compute_fractional_weights` is enough. -/
theorem computeFractionalWeights_fuel [IsStrictOrderedRing α] {d threshold : α} (hd : 0 < d ∧ d < 1)
    (ht : 0 < threshold) (n : ℕ) :
    expandWeights d threshold (⌊d / threshold⌋.toNat + 1 + n) 1 1 = expandWeights d threshold (⌊d / threshold⌋.toNat + 1) 1 1 :=
  expandWeights_fuel ⟨hd.1.le, hd.2.le⟩ le_rfl (abs_nextWeight_one hd.1.le) (lt_fuel hd.1.le ht) n

end FractionalWeights

/-!
## The fractional differentiator

`compute_fractional_weights` with all its parameters, `transform` and `inverse_transform` of `FractionalDifferentiator`, and
`StreamingFracDiffBuffer`, of `analytics/fractional_diff.py`. Numbers are exact, and `fftconvolve` is the exact valid convolution.
How `fit` searches for the degree is left out: the transforms read only the weights and the lookback it stores.
-/

section FractionalDifferentiator

variable {α : Type} [Field α]

/-! ### Weights -/

section Weights

variable [LinearOrder α]

/-- The weights after `w`, from index `k` on, until one falls below the threshold or the cap on the lookback is passed. -/
def expandCapped (d threshold : α) (maxLookback : Option ℤ) : ℕ → α → ℕ → List α
  | 0, _, _ => []
  | fuel + 1, w, k =>
    let w' := nextWeight d w k
    if |w'| < threshold then []
    else if maxLookback.any (· < ((k + 1 : ℕ) : ℤ)) then [w']
    else w' :: expandCapped d threshold maxLookback fuel w' (k + 1)

variable [FloorRing α]

/-- `compute_fractional_weights`. -/
def fractionalWeights (d threshold : α) (maxLookback : Option ℤ) (zeroSumCorrection : Bool) : Except (StrategyExc α) (List α) :=
  if ¬ (0 ≤ d ∧ d ≤ 1) then .error ⟨.valueError, none, "Differencing degree d must be in [0.0, 1.0], got %", [.num d]⟩
  else if threshold ≤ 0 then .error ⟨.valueError, none, "Tolerance threshold must be strictly positive, got %", [.num threshold]⟩
  else if d = 0 then .ok [1]
  else if d = 1 then .ok [1, -1]
  else
    let rest := expandCapped d threshold maxLookback (⌊d / threshold⌋.toNat + 1) 1 1
    if zeroSumCorrection ∧ rest ≠ [] then .ok (-rest.sum :: rest) else .ok (1 :: rest)

end Weights

/-! ### The transformer -/

/-- The fitted attributes: what `fit` stores. -/
structure FractionalDifferentiator (α : Type) where
  d_ : Option α
  weights_ : Option (List α)
  lookback_ : ℕ
  weights_ne_nil : ∀ w ∈ weights_, w ≠ []
  lookback_eq : ∀ w ∈ weights_, lookback_ = w.length - 1

namespace FractionalDifferentiator

/-- Fitted with a degree and its weights. -/
def fitted (d : α) (weights : List α) (h : weights ≠ []) : FractionalDifferentiator α where
  d_ := some d
  weights_ := some weights
  lookback_ := weights.length - 1
  weights_ne_nil := fun _ hw => Option.some.inj hw ▸ h
  lookback_eq := fun _ hw => Option.some.inj hw ▸ rfl

/-- `transform`, without padding. -/
def transform (f : FractionalDifferentiator α) (y : List α) : Except (StrategyExc α) (List α) :=
  match f.weights_, f.d_ with
  | some weights, some _ =>
    if y.length ≤ f.lookback_ then
      .error ⟨.valueError, none, "Input series length (%) must be strictly greater than lookback horizon (%)",
        [.int y.length, .int f.lookback_]⟩
    else .ok (convolveValid weights y)
  | _, _ => .error ⟨.runtimeError, none, "FractionalDifferentiator must be fitted before calling transform()", []⟩

/-- `np.dot` of two vectors, which are of one length. -/
def npDotChecked (ws xs : List α) : Except (StrategyExc α) α :=
  if ws.length ≠ xs.length then
    .error ⟨.valueError, none, "shapes (%,) and (%,) not aligned: % (dim 0) != % (dim 0)",
      [.int ws.length, .int xs.length, .int ws.length, .int xs.length]⟩
  else .ok (npDotVec ws xs)

/-- One turn of the reconstruction: from what is reconstructed and the buffer. -/
def reconstruct (omega0 : α) (lagWeights : List α) (lStar : ℕ) (st : List α × List α) (diff : α) :
    Except (StrategyExc α) (List α × List α) := do
  let pastContribution ← npDotChecked lagWeights (sliceFrom st.2 (-(lStar : ℤ))).reverse
  let p := (diff - pastContribution) / omega0
  return (st.1 ++ [p], st.2 ++ [p])

/-- `inverse_transform`. -/
def inverseTransform (f : FractionalDifferentiator α) (yDiff historyAnchor : List α) : Except (StrategyExc α) (List α) :=
  match f.weights_ with
  | none => .error ⟨.runtimeError, none, "FractionalDifferentiator must be fitted before calling inverse_transform()", []⟩
  | some weights =>
    if historyAnchor.length < f.lookback_ then
      .error ⟨.valueError, none, "history_anchor length (%) must be >= lookback horizon (%)",
        [.int historyAnchor.length, .int f.lookback_]⟩
    else
      (yDiff.foldlM (reconstruct (weights.headD 0) weights.tail f.lookback_)
        ([], sliceFrom historyAnchor (-(f.lookback_ : ℤ)))).map Prod.fst

end FractionalDifferentiator

/-! ### The stream -/

/-- `StreamingFracDiffBuffer`, over weights that are not empty. -/
structure StreamingFracDiffBuffer (α : Type) where
  weights : List α
  buffer : List α := []
  isHydrated : Bool := false
  weights_ne_nil : weights ≠ []

namespace StreamingFracDiffBuffer

/-- `_lookback`. -/
def lookback (b : StreamingFracDiffBuffer α) : ℕ := b.weights.length - 1

/-- `_capacity`. -/
def capacity (b : StreamingFracDiffBuffer α) : ℕ := b.lookback + 1

/-- `hydrate`. -/
def hydrate (b : StreamingFracDiffBuffer α) (history : List α) : Except (StrategyExc α) (StreamingFracDiffBuffer α) :=
  if history.length < b.lookback then
    .error ⟨.valueError, none, "Hydration history length (%) must be >= lookback horizon (%)",
      [.int history.length, .int b.lookback]⟩
  else .ok { b with buffer := sliceFrom history (-(b.lookback : ℤ)), isHydrated := true }

/-- `update`: the value and the buffer after it. -/
def update (b : StreamingFracDiffBuffer α) (newPrice : α) : Except (StrategyExc α) (α × StreamingFracDiffBuffer α) :=
  if ¬ b.isHydrated then
    .error ⟨.runtimeError, none,
      "Cannot compute streaming fractional difference: buffer is unhydrated. Invoke hydrate() or hydrate_from_repository() first.", []⟩
  else
    let buffer := b.buffer ++ [newPrice]
    let activeWindow := sliceFrom buffer (-(b.capacity : ℤ))
    let kept := if b.capacity * 2 < buffer.length then sliceFrom buffer (-(b.capacity : ℤ)) else buffer
    .ok (npDotVec b.weights activeWindow.reverse, { b with buffer := kept })

/-- One update after the other: each value with the buffer after it. -/
def updates (b : StreamingFracDiffBuffer α) : List α → Except (StrategyExc α) (List (α × StreamingFracDiffBuffer α))
  | [] => .ok []
  | p :: prices => do
    let out ← b.update p
    let rest ← updates out.2 prices
    return out :: rest

end StreamingFracDiffBuffer

end FractionalDifferentiator

end Quant
