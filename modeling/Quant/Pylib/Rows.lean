import Quant.Pylib.Drawdown

/-!
# Moves split into rows

A move from one vector to another, split by shares that are given one after the other: the rows of the split, the states between
them, and that the rows add up to the move.
-/

namespace Pylib

variable {α : Type*}

/-- `np.cumsum`. -/
def npCumsum [AddZeroClass α] (xs : List α) : List α := accumulate (· + ·) 0 xs

/-- `np.outer`. -/
def npOuter [Mul α] (ws xs : List α) : List (List α) := ws.map fun w => xs.map (w * ·)

/-- `np.sum` of rows of a length, down each column. -/
def npSumRows [AddZeroClass α] (n : ℕ) (rows : List (List α)) : List α := rows.foldl (List.zipWith (· + ·)) (List.replicate n 0)

/-- `np.diff` of rows, down each column. -/
def npDiffRows [Sub α] (rows : List (List α)) : List (List α) := List.zipWith (List.zipWith fun x y => y - x) rows rows.tail

/-- The state a share of a move leads to. -/
def stateAt [Add α] [Mul α] (xs deltas : List α) (c : α) : List α := List.zipWith (fun x d => x + c * d) xs deltas

section Ring

variable [Ring α]

theorem getLast?_accumulate_add (acc : α) {xs : List α} (hne : xs ≠ []) :
    (accumulate (· + ·) acc xs).getLast? = some (acc + xs.sum) := by
  induction xs generalizing acc with
  | nil => exact absurd rfl hne
  | cons x xs ih =>
    cases xs with
    | nil => simp [accumulate]
    | cons y ys =>
      rw [accumulate, List.getLast?_cons_of_ne_nil (by simp [accumulate]), ih (acc + x) (List.cons_ne_nil y ys), add_assoc]
      rfl

/-- The last of the running sums is the sum. -/
theorem getLast?_npCumsum {xs : List α} (hne : xs ≠ []) : (npCumsum xs).getLast? = some xs.sum := by
  rw [npCumsum, getLast?_accumulate_add 0 hne, zero_add]

/-- Each state leads to the next one by its row. -/
theorem npDiffRows_stateAt {xs deltas : List α} (hlen : xs.length = deltas.length) (acc : α) (ws : List α) :
    npDiffRows ((acc :: accumulate (· + ·) acc ws).map (stateAt xs deltas)) = npOuter ws deltas := by
  have hstep (c w : α) : List.zipWith (fun x y => y - x) (stateAt xs deltas c) (stateAt xs deltas (c + w)) =
      deltas.map (w * ·) := by
    induction xs generalizing deltas with
    | nil =>
      rw [List.length_nil, eq_comm, List.length_eq_zero_iff] at hlen
      simp [stateAt, hlen]
    | cons x xs ih =>
      cases deltas with
      | nil => cases hlen
      | cons d deltas =>
        have hrest := ih (Nat.succ.inj hlen)
        rw [stateAt, stateAt] at hrest ⊢
        rw [List.zipWith_cons_cons, List.zipWith_cons_cons, List.zipWith_cons_cons, List.map_cons, hrest,
          add_sub_add_left_eq_sub, add_mul,
          add_sub_cancel_left]
  induction ws generalizing acc with
  | nil => rfl
  | cons w ws ih =>
    rw [accumulate, List.map_cons, List.map_cons, npDiffRows, List.tail_cons, List.zipWith_cons_cons, hstep]
    exact congrArg _ (ih (acc + w))

/-- The rows of a split add up to the sum of the shares times the move. -/
theorem npSumRows_npOuter (ws xs : List α) : npSumRows xs.length (npOuter ws xs) = xs.map (ws.sum * ·) := by
  have hstep (c w : α) : List.zipWith (· + ·) (xs.map (c * ·)) (xs.map (w * ·)) = xs.map ((c + w) * ·) := by
    simp [List.zipWith_map, List.zipWith_self, add_mul]
  have hfold (ws : List α) (c : α) : (npOuter ws xs).foldl (List.zipWith (· + ·)) (xs.map (c * ·)) =
      xs.map ((c + ws.sum) * ·) := by
    induction ws generalizing c with
    | nil => simp [npOuter]
    | cons w ws ih =>
      rw [npOuter, List.map_cons, List.foldl_cons, hstep, List.sum_cons, ← add_assoc]
      exact ih (c + w)
  have hzero : List.replicate xs.length (0 : α) = xs.map ((0 : α) * ·) := by simp
  rw [npSumRows, hzero, hfold, zero_add]

theorem stateAt_zero {xs deltas : List α} (hlen : xs.length = deltas.length) : stateAt xs deltas 0 = xs := by
  induction xs generalizing deltas with
  | nil => rfl
  | cons x xs ih =>
    cases deltas with
    | nil => cases hlen
    | cons d deltas =>
      rw [stateAt, List.zipWith_cons_cons, zero_mul, add_zero]
      exact congrArg _ (ih (Nat.succ.inj hlen))

/-- The whole move leads to its target. -/
theorem stateAt_one {xs ys : List α} (hlen : xs.length = ys.length) :
    stateAt xs (List.zipWith (fun x y => y - x) xs ys) 1 = ys := by
  induction xs generalizing ys with
  | nil =>
    rw [List.length_nil, eq_comm, List.length_eq_zero_iff] at hlen
    rw [hlen]
    rfl
  | cons x xs ih =>
    cases ys with
    | nil => cases hlen
    | cons y ys =>
      rw [stateAt, List.zipWith_cons_cons, List.zipWith_cons_cons, one_mul, add_sub_cancel]
      exact congrArg _ (ih (Nat.succ.inj hlen))

end Ring

end Pylib
