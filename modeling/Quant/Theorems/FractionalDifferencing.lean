import Mathlib.Data.List.Induction
import Mathlib.Tactic.FieldSimp
import Mathlib.Tactic.NormNum
import Quant.Analytics.FractionalDiff

namespace Quant

open Pylib

section FractionalDifferencing

variable {α : Type}

/-! ## The stream against the batch -/

namespace StreamingFracDiffBuffer

/-- The buffer ends as the series so far ends, as far as the next window reaches back. -/
structure Follows (b : StreamingFracDiffBuffer α) (series : List α) : Prop where
  hydrated : b.isHydrated = true
  window : b.buffer.rtake b.lookback = series.rtake b.lookback
  lookback_le : b.lookback ≤ series.length

theorem weights_length (b : StreamingFracDiffBuffer α) : b.weights.length = b.lookback + 1 := by
  have hpos := List.length_pos_iff.2 b.weights_ne_nil
  rw [lookback]
  omega

/-- A buffer with a history follows the last elements of it. -/
theorem hydrate_follows (b : StreamingFracDiffBuffer α) {history : List α} (h : b.lookback ≤ history.length) :
    ∃ b', b.hydrate history = .ok b' ∧ b'.weights = b.weights ∧ b'.Follows (history.rtake b.lookback) := by
  refine ⟨_, if_neg (not_lt.2 h), rfl, rfl, ?_, ?_⟩
  · -- Without a lookback the whole history is kept, and none of it is read.
    change (sliceFrom history (-(b.lookback : ℤ))).rtake b.lookback = (history.rtake b.lookback).rtake b.lookback
    rw [sliceFrom_neg]
    split
    · rename_i h0
      simp only [h0, List.rtake_zero]
    · rfl
  · change b.lookback ≤ (history.rtake b.lookback).length
    rw [length_rtake]
    exact le_min h le_rfl

variable [Field α]

/-- An update returns the value of the window that ends with the price, and the buffer follows the longer series. -/
theorem update_follows {b : StreamingFracDiffBuffer α} {series : List α} (h : b.Follows series) (p : α) :
    ∃ b', b.update p = .ok (npDotVec b.weights ((series ++ [p]).rtake b.weights.length).reverse, b') ∧ b'.weights = b.weights ∧
      b'.Follows (series ++ [p]) ∧ b'.buffer.length ≤ 2 * b.capacity := by
  have hlast : (b.buffer ++ [p]).rtake b.capacity = (series ++ [p]).rtake b.capacity := by
    rw [capacity, List.rtake_concat_succ, List.rtake_concat_succ, h.window]
  have hslice : sliceFrom (b.buffer ++ [p]) (-(b.capacity : ℤ)) = (series ++ [p]).rtake b.capacity := by
    rw [capacity, sliceFrom_neg_succ]
    exact hlast
  have hlook : b.lookback ≤ b.capacity := Nat.le_succ _
  have hlen : b.lookback ≤ (series ++ [p]).length := by
    rw [List.length_append]
    exact Nat.le_add_right_of_le h.lookback_le
  unfold update
  rw [if_neg (not_not.2 h.hydrated), show b.weights.length = b.capacity from b.weights_length]
  simp only [hslice]
  refine ⟨_, rfl, rfl, ⟨h.hydrated, ?_, hlen⟩, ?_⟩
  · -- Trimmed or not, the end of the buffer is the end of the series.
    simp only [lookback]
    split
    · exact rtake_rtake hlook
    · exact (rtake_rtake hlook).symm.trans ((congrArg (List.rtake · b.lookback) hlast).trans (rtake_rtake hlook))
  · simp only
    split
    · rw [length_rtake]
      omega
    · omega

/-- The values of the updates are the ones by which the valid convolution grows with the prices. -/
theorem updates_follow {b : StreamingFracDiffBuffer α} {series : List α} (h : b.Follows series) (prices : List α) :
    ∃ out, b.updates prices = .ok out ∧
      convolveValid b.weights (series ++ prices) = convolveValid b.weights series ++ out.map Prod.fst ∧
      ∀ x ∈ out, x.2.buffer.length ≤ 2 * b.capacity := by
  induction prices generalizing b series with
  | nil => exact ⟨[], rfl, by simp, by simp⟩
  | cons p prices ih =>
    obtain ⟨b', hup, hweights, hfollows, hbound⟩ := update_follows h p
    obtain ⟨out, hout, hvalues, hrest⟩ := ih hfollows
    have hcap : b'.capacity = b.capacity := by rw [capacity, capacity, lookback, lookback, hweights]
    have hconv := convolveValid_concat p (show b.weights.length ≤ series.length + 1 by
      rw [b.weights_length]
      exact Nat.succ_le_succ h.lookback_le)
    refine ⟨(npDotVec b.weights ((series ++ [p]).rtake b.weights.length).reverse, b') :: out, ?_, ?_,
      List.forall_mem_cons.2 ⟨hbound, hcap ▸ hrest⟩⟩
    · simp only [updates, hup, hout, bind, Except.bind, pure, Except.pure]
    · rw [hweights, hconv, List.append_assoc, List.append_assoc] at hvalues
      exact hvalues

/-- The values of a live stream are the valid convolution of the end of the history and the prices, and the buffer stays short. -/
theorem updates_eq_convolveValid (weights : List α) (hw : weights ≠ []) (history prices : List α)
    (hl : weights.length - 1 ≤ history.length) :
    ∃ b out, hydrate { weights := weights, weights_ne_nil := hw } history = .ok b ∧ b.updates prices = .ok out ∧
      out.map Prod.fst = convolveValid weights (history.rtake (weights.length - 1) ++ prices) ∧
      ∀ x ∈ out, x.2.buffer.length ≤ 2 * (weights.length - 1 + 1) := by
  obtain ⟨b, hb, hweights, hfollows⟩ := hydrate_follows { weights := weights, weights_ne_nil := hw } hl
  obtain ⟨out, hout, hvalues, hbound⟩ := updates_follow hfollows prices
  have hnone : convolveValid b.weights (history.rtake (weights.length - 1)) = [] := by
    refine convolveValid_of_length_lt ?_
    have hpos := List.length_pos_iff.2 hw
    rw [hweights, length_rtake]
    change min history.length (weights.length - 1) < weights.length
    omega
  refine ⟨b, out, hb, hout, ?_, ?_⟩
  · have hvalues' : convolveValid b.weights (history.rtake (weights.length - 1) ++ prices) =
        convolveValid b.weights (history.rtake (weights.length - 1)) ++ out.map Prod.fst := hvalues
    rw [hnone, List.nil_append, hweights] at hvalues'
    exact hvalues'.symm
  · rw [capacity, lookback, hweights] at hbound
    exact hbound

/-- Three weights, more history than they need, and enough prices for the buffer to be trimmed. -/
theorem updates_eq_convolveValid_three :
    ∃ b out, hydrate (α := ℚ) { weights := [1, -1 / 2, -1 / 8], weights_ne_nil := List.cons_ne_nil _ _ } [9, 10, 11] = .ok b ∧
      b.updates [12, 13, 15, 14, 16] = .ok out ∧
      out.map Prod.fst = convolveValid [1, -1 / 2, -1 / 8] ([10, 11] ++ [12, 13, 15, 14, 16]) ∧
      ∀ x ∈ out, x.2.buffer.length ≤ 2 * (3 - 1 + 1) :=
  updates_eq_convolveValid [1, -1 / 2, -1 / 8] (List.cons_ne_nil _ _) [9, 10, 11] [12, 13, 15, 14, 16] (by decide)

end StreamingFracDiffBuffer

/-! ## The weights -/

section Weights

variable [Field α]

/-- The first weight after the one that every expansion starts with. -/
theorem nextWeight_one (d : α) : nextWeight d 1 1 = -d := by
  rw [nextWeight, Nat.cast_one, sub_add_cancel, div_one, neg_one_mul]

variable [LinearOrder α] {d threshold : α} {cap : Option ℤ} {zeroSum : Bool} {w : List α}

/-- The cap only cuts the weights off; the first one is made under any cap. -/
theorem expandCapped_some (m : ℤ) (fuel : ℕ) (w : α) (k : ℕ) :
    expandCapped d threshold (some m) fuel w k = (expandWeights d threshold fuel w k).take (max 1 (m + 1 - k).toNat) := by
  induction fuel generalizing w k with
  | zero => simp [expandCapped, expandWeights]
  | succ fuel ih =>
    simp only [expandCapped, expandWeights, Option.any_some, decide_eq_true_eq]
    split_ifs with hsmall hcap
    · rw [List.take_nil]
    · rw [show max 1 (m + 1 - k).toNat = 1 by omega, List.take_succ_cons, List.take_zero]
    · rw [show max 1 (m + 1 - k).toNat = max 1 (m + 1 - (k + 1 : ℕ)).toNat + 1 by omega, List.take_succ_cons, ih]

theorem expandCapped_none (fuel : ℕ) (w : α) (k : ℕ) :
    expandCapped d threshold none fuel w k = expandWeights d threshold fuel w k := by
  induction fuel generalizing w k with
  | zero => rfl
  | succ fuel ih => simp only [expandCapped, expandWeights, Option.any_none, Bool.false_eq_true, if_false, ih]

section Default

variable [FloorRing α]

/-- Without a cap and with the correction the weights are those of the strategies. -/
theorem fractionalWeights_default (d threshold : α) :
    fractionalWeights d threshold none true = computeFractionalWeights d threshold := by
  unfold fractionalWeights computeFractionalWeights
  simp only [expandCapped_none, true_and]
  rcases hrest : expandWeights d threshold (⌊d / threshold⌋.toNat + 1) 1 1 with _ | ⟨x, rest⟩ <;> simp

end Default

variable [IsStrictOrderedRing α]

/-- All weights but the first are negative. -/
theorem expandCapped_neg (threshold : α) (cap : Option ℤ) (fuel : ℕ) (hd : 0 < d ∧ d < 1) {k : ℕ} {w : α}
    (hk : 1 ≤ k) (hw : nextWeight d w k < 0) :
    ∀ x ∈ expandCapped d threshold cap fuel w k, x < 0 := by
  induction fuel generalizing w k with
  | zero => simp [expandCapped]
  | succ fuel ih =>
    have hnext : nextWeight d (nextWeight d w k) (k + 1) < 0 := by
      have hk' : (1 : α) ≤ k := by exact_mod_cast hk
      rw [nextWeight, Nat.cast_succ]
      refine div_neg_of_neg_of_pos (mul_neg_of_pos_of_neg (neg_pos.2 hw) ?_) ?_ <;> linarith [hd.2]
    simp only [expandCapped]
    split_ifs
    · simp
    · simpa using hw
    · exact List.forall_mem_cons.2 ⟨hw, ih (by omega) hnext⟩

theorem expandCapped_eq_nil_iff (hd : 0 < d) (fuel : ℕ) : expandCapped d threshold cap (fuel + 1) 1 1 = [] ↔ d < threshold := by
  simp only [expandCapped, nextWeight_one, abs_neg, abs_of_pos hd]
  split_ifs with h1 h2 <;> simp [h1]

variable [FloorRing α]

/-- Under any cap the expansion has stopped by itself before the fuel ran out. -/
theorem expandCapped_fuel (hd : 0 < d ∧ d < 1) (ht : 0 < threshold) (cap : Option ℤ) (n : ℕ) :
    expandCapped d threshold cap (⌊d / threshold⌋.toNat + 1 + n) 1 1 =
    expandCapped d threshold cap (⌊d / threshold⌋.toNat + 1) 1 1 := by
  cases cap with
  | none => rw [expandCapped_none, expandCapped_none, computeFractionalWeights_fuel hd ht]
  | some m => rw [expandCapped_some, expandCapped_some, computeFractionalWeights_fuel hd ht]

/-- What the weights are: a positive one first, and further ones exactly where the degree is not below the threshold. -/
theorem fractionalWeights_spec (h : fractionalWeights d threshold cap zeroSum = .ok w) :
    ∃ w0 lag, w = w0 :: lag ∧ 0 < w0 ∧ (lag ≠ [] ↔ 0 < d ∧ (d = 1 ∨ threshold ≤ d)) := by
  unfold fractionalWeights at h
  dsimp only at h
  split_ifs at h with h1 h2 h3 h4 h5
  · cases h
    exact ⟨1, [], rfl, one_pos, by simp [h3]⟩
  · cases h
    exact ⟨1, [-1], rfl, one_pos, by simp [h4]⟩
  all_goals
    have hpos : 0 < d := lt_of_le_of_ne h1.1 (Ne.symm h3)
    have hlt : d < 1 := lt_of_le_of_ne h1.2 h4
    have hiff : expandCapped d threshold cap (⌊d / threshold⌋.toNat + 1) 1 1 ≠ [] ↔ 0 < d ∧ (d = 1 ∨ threshold ≤ d) := by
      rw [Ne, expandCapped_eq_nil_iff hpos, not_lt]
      simp [hpos, hlt.ne]
    cases h
  · have hneg := expandCapped_neg threshold cap (⌊d / threshold⌋.toNat + 1) ⟨hpos, hlt⟩ le_rfl
      (by rw [nextWeight_one]; exact neg_neg_of_pos hpos)
    have hsum := List.sum_lt_sum_of_ne_nil h5.2 id (fun _ => 0) hneg
    exact ⟨_, _, rfl, by simpa using hsum, hiff⟩
  · exact ⟨1, _, rfl, one_pos, hiff⟩

end Weights

/-! ## The inverse -/

namespace FractionalDifferentiator

variable [Field α] {w0 : α} {lag : List α}

/-- One turn of the reconstruction gives the element back of which the value was computed. -/
theorem reconstruct_window (hw0 : w0 ≠ 0) (hlag : lag ≠ []) {done buffer : List α} (hlen : lag.length ≤ buffer.length) (x : α) :
    reconstruct w0 lag lag.length (done, buffer) (npDotVec (w0 :: lag) ((buffer ++ [x]).rtake (lag.length + 1)).reverse) =
      .ok (done ++ [x], buffer ++ [x]) := by
  have hwindow : lag.length = (buffer.rtake lag.length).reverse.length := by
    rw [List.length_reverse, length_rtake]
    omega
  have hslice : sliceFrom buffer (-(lag.length : ℤ)) = buffer.rtake lag.length := by
    rw [sliceFrom_neg, if_neg fun h => hlag (List.length_eq_zero_iff.1 h)]
  have hvalue : (npDotVec (w0 :: lag) ((buffer ++ [x]).rtake (lag.length + 1)).reverse -
      npDotVec lag (buffer.rtake lag.length).reverse) / w0 = x := by
    rw [List.rtake_concat_succ, List.reverse_append, List.reverse_singleton, List.singleton_append, npDotVec_cons,
      add_sub_cancel_right,
      mul_div_cancel_left₀ x hw0]
  simp only [reconstruct, npDotChecked, hslice, if_neg (not_not.2 hwindow), bind, Except.bind, pure, Except.pure, hvalue]

/-- The reconstruction from the values of a series gives back what follows the elements the buffer starts with. -/
theorem foldlM_reconstruct (hw0 : w0 ≠ 0) (hlag : lag ≠ []) {base : List α} (hbase : base.length = lag.length) (rest : List α) :
    (convolveValid (w0 :: lag) (base ++ rest)).foldlM (reconstruct w0 lag lag.length) ([], base) = .ok (rest, base ++ rest) := by
  induction rest using List.reverseRecOn with
  | nil =>
    rw [List.append_nil, convolveValid_of_length_lt (by rw [hbase, List.length_cons]; exact Nat.lt_succ_self _)]
    rfl
  | append_singleton rest x ih =>
    have hlen : lag.length ≤ (base ++ rest).length := by
      rw [List.length_append, hbase]
      exact Nat.le_add_right _ _
    have hshort : (w0 :: lag).length ≤ (base ++ rest).length + 1 := Nat.succ_le_succ hlen
    rw [← List.append_assoc, convolveValid_concat x hshort, List.foldlM_append, ih]
    change [npDotVec (w0 :: lag) _].foldlM (reconstruct w0 lag lag.length) (rest, base ++ rest) = _
    rw [List.foldlM_cons, List.length_cons, reconstruct_window hw0 hlag hlen]
    rfl

section Fitted

variable {f : FractionalDifferentiator α} {w : List α} {d : α}

theorem transform_eq (hw : f.weights_ = some w) (hd : f.d_ = some d) {y : List α} (hy : f.lookback_ < y.length) :
    f.transform y = .ok (convolveValid w y) := by
  simp only [transform, hw, hd, if_neg (not_le.2 hy)]

theorem inverseTransform_eq (hw : f.weights_ = some (w0 :: lag)) {yDiff anchor : List α} (h : f.lookback_ ≤ anchor.length) :
    f.inverseTransform yDiff anchor =
      (yDiff.foldlM (reconstruct w0 lag f.lookback_) ([], sliceFrom anchor (-(f.lookback_ : ℤ)))).map Prod.fst := by
  simp only [inverseTransform, hw, if_neg (not_lt.2 h), List.headD_cons, List.tail_cons]

/-- With a single weight the slices that should be empty are the whole buffer: only an empty one is accepted. -/
theorem reconstruct_single (done buffer : List α) (v : α) :
    reconstruct w0 [] 0 (done, buffer) v =
      if buffer = [] then .ok (done ++ [v / w0], [v / w0])
      else .error ⟨.valueError, none, "shapes (%,) and (%,) not aligned: % (dim 0) != % (dim 0)",
        [.int 0, .int buffer.length, .int 0, .int buffer.length]⟩ := by
  have hslice : sliceFrom buffer 0 = buffer := sliceFrom_neg buffer 0
  rcases buffer with _ | ⟨x, buffer⟩
  · simp [reconstruct, npDotChecked, hslice, npDotVec, bind, Except.bind, pure, Except.pure]
  · simp [reconstruct, npDotChecked, hslice, bind, Except.bind]

/-- With a single weight only one value is reconstructed, and only without an anchor. -/
theorem foldlM_reconstruct_single (hw0 : w0 ≠ 0) {y : List α} (hy : y ≠ []) (buffer : List α) :
    ((convolveValid [w0] y).foldlM (reconstruct w0 [] 0) ([], buffer)).map Prod.fst = .ok y ↔ y.length = 1 ∧ buffer = [] := by
  have hvalues : convolveValid [w0] y = y.map (w0 * ·) := by
    refine List.ext_getElem ?_ fun i hi _ => ?_
    · rw [length_convolveValid, List.length_map]
      rfl
    · simp only [length_convolveValid, List.length_singleton, Nat.add_sub_cancel] at hi
      simp [convolveValid, List.take_one, List.head?_drop, hi, npDotVec]
  rw [hvalues]
  rcases y with _ | ⟨x, _ | ⟨x', y⟩⟩
  · exact absurd rfl hy
  · by_cases hb : buffer = []
    · simp [reconstruct_single, hb, Except.map, hw0, bind, Except.bind, pure, Except.pure]
    · simp [reconstruct_single, hb, Except.map, bind, Except.bind]
  · by_cases hb : buffer = []
    · simp [reconstruct_single, hb, Except.map, bind, Except.bind]
    · simp [reconstruct_single, hb, Except.map, bind, Except.bind]

variable [LinearOrder α] [FloorRing α] [IsStrictOrderedRing α] {threshold : α} {cap : Option ℤ} {zeroSum : Bool}

/-- The inverse gives the series back exactly where the filter has more than one weight, or where there is one value to
reconstruct and nothing before it. -/
theorem inverseTransform_transform_iff (hw : fractionalWeights d threshold cap zeroSum = .ok w) (hfw : f.weights_ = some w)
    (hfd : f.d_ = some d) {y : List α} (hy : f.lookback_ < y.length) (pre : List α) :
    (∃ out, f.transform y = .ok out ∧ f.inverseTransform out (pre ++ y.take f.lookback_) = .ok (y.drop f.lookback_)) ↔
      (0 < d ∧ (d = 1 ∨ threshold ≤ d)) ∨ y.length = 1 ∧ pre = [] := by
  obtain ⟨w0, lag, rfl, hpos, hlag⟩ := fractionalWeights_spec hw
  have hlook : f.lookback_ = lag.length := f.lookback_eq _ hfw
  have htake : (y.take f.lookback_).length = lag.length := by
    rw [List.length_take, ← hlook]
    omega
  have hanchor : f.lookback_ ≤ (pre ++ y.take f.lookback_).length := by
    rw [List.length_append, htake, hlook]
    exact Nat.le_add_left _ _
  rw [← hlag]
  simp only [transform_eq hfw hfd hy, Except.ok.injEq, exists_eq_left', inverseTransform_eq hfw hanchor]
  by_cases hnil : lag = []
  · subst hnil
    have hy0 : y ≠ [] := fun h => by simp [h] at hy
    rw [hlook, List.length_nil, List.take_zero, List.append_nil, List.drop_zero, sliceFrom_neg, if_pos rfl,
      foldlM_reconstruct_single hpos.ne' hy0]
    simp
  · have hslice : sliceFrom (pre ++ y.take f.lookback_) (-(f.lookback_ : ℤ)) = y.take f.lookback_ := by
      rw [sliceFrom_neg, if_neg (by rw [hlook]; exact fun h => hnil (List.length_eq_zero_iff.1 h)), List.rtake,
        List.length_append, htake,
        hlook, Nat.add_sub_cancel, List.drop_left]
    have hrun := foldlM_reconstruct hpos.ne' hnil htake (y.drop f.lookback_)
    rw [List.take_append_drop] at hrun
    rw [hslice]
    simp only [hlook] at hrun ⊢
    rw [hrun]
    simp [Except.map, hnil]

end Fitted

/-! ### Runs -/

/-- The differentiator of the degree 0, whose only weight is 1. -/
def identityFilter : FractionalDifferentiator ℚ := fitted 0 [1] (List.cons_ne_nil _ _)

/-- The differentiator of the degree 1: the first difference. -/
def differenceFilter : FractionalDifferentiator ℚ := fitted 1 [1, -1] (List.cons_ne_nil _ _)

/-- The first difference is undone, also behind values that came before the series. -/
theorem inverseTransform_transform_difference :
    ∃ out, differenceFilter.transform [3, 5, 4] = .ok out ∧ differenceFilter.inverseTransform out ([7, 8] ++ [3]) =
      .ok [5, 4] := by
  have hweights : fractionalWeights (1 : ℚ) (1 / 100) none true = .ok [1, -1] := by norm_num [fractionalWeights]
  exact (inverseTransform_transform_iff hweights (f := differenceFilter) rfl rfl (y := [3, 5, 4]) (by decide) [7, 8]).2
    (.inl ⟨one_pos, .inl rfl⟩)

/-- Two values of the degree 0 are not given back: the second one raises. -/
theorem inverseTransform_identity_raises : fractionalWeights (0 : ℚ) (1 / 10000) none true = .ok [1] ∧
    identityFilter.transform [3, 5] = .ok [3, 5] ∧
    identityFilter.inverseTransform [3, 5] [] =
      .error ⟨.valueError, none, "shapes (%,) and (%,) not aligned: % (dim 0) != % (dim 0)",
      [.int 0, .int 1, .int 0, .int 1]⟩ := by
  refine ⟨by norm_num [fractionalWeights], ?_, ?_⟩
  · simp [identityFilter, fitted, transform, convolveValid, List.range_succ, npDotVec]
  · simp [identityFilter, fitted, inverseTransform, sliceFrom, reconstruct_single, bind, Except.bind, Except.map]

end FractionalDifferentiator

end FractionalDifferencing

/-!
## The expansion loop

The `while` of `compute_fractional_weights` as a relation without fuel, and what the weights are that it leaves behind.
-/

section FractionalWeights

variable {α : Type} [Field α] [LinearOrder α]

/-- A run of the loop from the last weight and the index: the weights it appends and its number of iterations. -/
inductive ExpandLoop (d threshold : α) (maxLookback : Option ℤ) : α → ℕ → List α → ℕ → Prop
  | stop {w : α} {k : ℕ} (hsmall : |nextWeight d w k| < threshold) : ExpandLoop d threshold maxLookback w k [] 1
  | cap {w : α} {k : ℕ} (hbig : threshold ≤ |nextWeight d w k|) (hcap : maxLookback.any (· < ((k + 1 : ℕ) : ℤ)) = true) :
      ExpandLoop d threshold maxLookback w k [nextWeight d w k] 1
  | next {w : α} {k n : ℕ} {rest : List α} (hbig : threshold ≤ |nextWeight d w k|)
      (hcap : maxLookback.any (· < ((k + 1 : ℕ) : ℤ)) = false)
      (hrest : ExpandLoop d threshold maxLookback (nextWeight d w k) (k + 1) rest n) :
      ExpandLoop d threshold maxLookback w k (nextWeight d w k :: rest) (n + 1)

namespace ExpandLoop

variable {d threshold w : α} {cap : Option ℤ} {k n : ℕ} {rest : List α}

/-- The loop runs in one way. -/
theorem unique (h : ExpandLoop d threshold cap w k rest n) {rest' : List α} {n' : ℕ}
    (h' : ExpandLoop d threshold cap w k rest' n') :
    rest = rest' ∧ n = n' := by
  induction h generalizing rest' n' with
  | stop hsmall =>
    cases h' with
    | stop => exact ⟨rfl, rfl⟩
    | cap hbig => exact absurd hsmall hbig.not_gt
    | next hbig => exact absurd hsmall hbig.not_gt
  | cap hbig hcap =>
    cases h' with
    | stop hsmall => exact absurd hsmall hbig.not_gt
    | cap => exact ⟨rfl, rfl⟩
    | next _ hcap' => exact absurd hcap (by rw [hcap']; exact Bool.false_ne_true)
  | next hbig hcap hrest ih =>
    cases h' with
    | stop hsmall => exact absurd hsmall hbig.not_gt
    | cap _ hcap' => exact absurd hcap' (by rw [hcap]; exact Bool.false_ne_true)
    | next _ _ hrest' =>
      obtain ⟨hr, hn⟩ := ih hrest'
      exact ⟨by rw [hr], by rw [hn]⟩

variable [IsStrictOrderedRing α]

omit [IsStrictOrderedRing α] in
/-- A weight that is kept is not below the threshold. -/
theorem threshold_le (h : ExpandLoop d threshold cap w k rest n) : ∀ x ∈ rest, threshold ≤ |x| := by
  induction h with
  | stop => simp
  | cap hbig => simpa using hbig
  | next hbig _ _ ih => exact List.forall_mem_cons.2 ⟨hbig, ih⟩

/-- A negative weight is followed by a negative one. -/
theorem nextWeight_neg (hd : d < 1) (hk : 1 ≤ k) (hw : w < 0) : nextWeight d w (k + 1) < 0 := by
  have hk' : (1 : α) ≤ k := by exact_mod_cast hk
  rw [nextWeight, Nat.cast_succ]
  refine div_neg_of_neg_of_pos (mul_neg_of_pos_of_neg (neg_pos.2 hw) ?_) ?_ <;> linarith

theorem neg (h : ExpandLoop d threshold cap w k rest n) (hd : d < 1) (hk : 1 ≤ k) (hw : nextWeight d w k < 0) :
    ∀ x ∈ rest, x < 0 := by
  induction h with
  | stop => simp
  | cap => simpa using hw
  | next _ _ _ ih => exact List.forall_mem_cons.2 ⟨hw, ih (by omega) (nextWeight_neg hd hk hw)⟩

/-- No weight is larger than the one before. -/
theorem abs_nextWeight_le_abs (hd : 0 ≤ d ∧ d ≤ 1) (hk : 1 ≤ k) (w : α) : |nextWeight d w k| ≤ |w| := by
  have hk' : (1 : α) ≤ k := by exact_mod_cast hk
  have hpos : (0 : α) < k := by linarith
  have hfactor : |d - k + 1| ≤ k := by
    rw [abs_le]
    constructor <;> linarith [hd.1, hd.2]
  refine le_of_mul_le_mul_right ?_ hpos
  rw [abs_nextWeight_mul d w hk]
  exact mul_le_mul_of_nonneg_left hfactor (abs_nonneg w)

theorem pairwise (h : ExpandLoop d threshold cap w k rest n) (hd : 0 ≤ d ∧ d ≤ 1) (hk : 1 ≤ k) :
    (w :: rest).Pairwise fun x y => |y| ≤ |x| := by
  induction h with
  | stop => simp
  | cap => simpa using abs_nextWeight_le_abs hd hk _
  | @next w k n rest hbig hcap hrest ih =>
    have hle := abs_nextWeight_le_abs hd hk w
    have hrec := ih (by omega)
    refine List.pairwise_cons.2 ⟨List.forall_mem_cons.2 ⟨hle, ?_⟩, hrec⟩
    intro x hx
    exact ((List.pairwise_cons.1 hrec).1 x hx).trans hle

/-- The sum `s` of the weights so far stays positive: it is the next weight times `-k / d`. -/
theorem sum_pos (h : ExpandLoop d threshold cap w k rest n) (hd : 0 < d ∧ d < 1) (hk : 1 ≤ k) (hw : nextWeight d w k < 0) {s : α}
    (hs : d * s = -k * nextWeight d w k) : 0 < s + rest.sum := by
  have hafter {w : α} {k : ℕ} {s : α} (hk : 1 ≤ k) (hs : d * s = -k * nextWeight d w k) :
      d * (s + nextWeight d w k) = -((k + 1 : ℕ) : α) * nextWeight d (nextWeight d w k) (k + 1) := by
    have hne : ((k + 1 : ℕ) : α) ≠ 0 := Nat.cast_ne_zero.2 (Nat.succ_ne_zero k)
    rw [mul_add, hs]
    conv_rhs => rw [nextWeight, neg_mul, mul_div_cancel₀ _ hne]
    push_cast
    ring
  have hpos {w : α} {k : ℕ} {s : α} (hk : 1 ≤ k) (hw : nextWeight d w k < 0) (hs : d * s = -k * nextWeight d w k) : 0 < s := by
    have hk' : (0 : α) < k := Nat.cast_pos.2 hk
    refine pos_of_mul_pos_right ?_ hd.1.le
    rw [hs, neg_mul]
    exact neg_pos.2 (mul_neg_of_pos_of_neg hk' hw)
  induction h generalizing s with
  | stop => simpa using hpos hk hw hs
  | cap =>
    rw [List.sum_singleton]
    exact hpos (by omega) (nextWeight_neg hd.2 hk hw) (hafter hk hs)
  | next _ _ _ ih =>
    rw [List.sum_cons, ← add_assoc]
    exact ih (by omega) (nextWeight_neg hd.2 hk hw) (hafter hk hs)

variable [FloorRing α]

/-- The expansion with enough fuel is a run of the loop. -/
theorem of_fuel (hd : 0 ≤ d ∧ d ≤ 1) (cap : Option ℤ) {fuel : ℕ} (hk : 1 ≤ k) (hw : |nextWeight d w k| * k ≤ d)
    (hfuel : d < threshold * (k + fuel)) : ∃ n, ExpandLoop d threshold cap w k
    (expandCapped d threshold cap (fuel + 1) w k) n := by
  induction fuel generalizing w k with
  | zero =>
    have hsmall := small_of_no_fuel hw hfuel
    rw [expandCapped, if_pos hsmall]
    exact ⟨1, .stop hsmall⟩
  | succ fuel ih =>
    obtain ⟨n, hn⟩ := ih (by omega) (abs_nextWeight_succ hd hk hw) (fuel_succ hfuel)
    rw [expandCapped]
    split_ifs with hsmall hcap
    · exact ⟨1, .stop hsmall⟩
    · exact ⟨1, .cap (not_lt.1 hsmall) hcap⟩
    · exact ⟨n + 1, .next (not_lt.1 hsmall) (by simpa using hcap) hn⟩

/-- Each iteration but the last leaves a weight of at least the threshold, and the weights fall like `d / k`. -/
theorem iterations_le (h : ExpandLoop d threshold cap w k rest n) (hd : 0 ≤ d ∧ d ≤ 1) (hk : 1 ≤ k)
    (hw : |nextWeight d w k| * k ≤ d)
    (hpast : threshold * ((k : α) - 1) ≤ d) : threshold * ((k : α) + n - 2) ≤ d := by
  induction h with
  | stop => simpa [add_sub_assoc, show (1 : α) - 2 = -1 by norm_num, ← sub_eq_add_neg] using hpast
  | cap => simpa [add_sub_assoc, show (1 : α) - 2 = -1 by norm_num, ← sub_eq_add_neg] using hpast
  | @next w k n rest hbig hcap hrest ih =>
    have hpos : (0 : α) ≤ k := Nat.cast_nonneg k
    have hpast' : threshold * (((k + 1 : ℕ) : α) - 1) ≤ d := by
      rw [Nat.cast_succ, add_sub_cancel_right]
      exact (mul_le_mul_of_nonneg_right hbig hpos).trans hw
    have hle := ih (by omega) (abs_nextWeight_succ hd hk hw) hpast'
    rw [Nat.cast_succ] at hle ⊢
    rwa [add_comm (n : α) 1, ← add_assoc]

end ExpandLoop

/-! ### The weights -/

variable [IsStrictOrderedRing α] [FloorRing α] {d threshold : α}

/-- What `compute_fractional_weights` expands is a run of the loop. -/
theorem expandLoop_fractionalWeights (hd : 0 < d ∧ d < 1) (ht : 0 < threshold) (cap : Option ℤ) :
    ∃ n, ExpandLoop d threshold cap 1 1 (expandCapped d threshold cap (⌊d / threshold⌋.toNat + 1) 1 1) n :=
  ExpandLoop.of_fuel ⟨hd.1.le, hd.2.le⟩ cap le_rfl (abs_nextWeight_one hd.1.le) (lt_fuel hd.1.le ht)

/-- Without a cap the loop ends, and the weights are negative after the first, fall in size, and sum to zero once corrected. -/
theorem fractionalWeights_wellFormed (hd : 0 < d ∧ d < 1) (ht : 0 < threshold) (zeroSum : Bool) :
    ∃ w0 lag, fractionalWeights d threshold none zeroSum = .ok (w0 :: lag) ∧
      (∃ n, ExpandLoop d threshold none 1 1 lag n ∧ (n : α) ≤ d / threshold + 1) ∧
      (∀ x ∈ lag, x < 0 ∧ threshold ≤ |x|) ∧ lag.Pairwise (fun x y => |y| ≤ |x|) ∧
      (zeroSum = true → lag ≠ [] → (w0 :: lag).sum = 0 ∧ 0 < w0 ∧ w0 < 1) := by
  obtain ⟨n, hloop⟩ := expandLoop_fractionalWeights hd ht none
  have hok : fractionalWeights d threshold none zeroSum =
      .ok ((if zeroSum ∧ expandCapped d threshold none (⌊d / threshold⌋.toNat + 1) 1 1 ≠ [] then
        -(expandCapped d threshold none (⌊d / threshold⌋.toNat + 1) 1 1).sum else 1) ::
        expandCapped d threshold none (⌊d / threshold⌋.toNat + 1) 1 1) := by
    rw [fractionalWeights, if_neg (not_not.2 ⟨hd.1.le, hd.2.le⟩), if_neg ht.not_ge, if_neg hd.1.ne', if_neg hd.2.ne]
    dsimp only
    split_ifs <;> rfl
  generalize expandCapped d threshold none (⌊d / threshold⌋.toNat + 1) 1 1 = lag at hloop hok
  have hfirst : nextWeight d 1 1 < 0 := by
    rw [nextWeight_one]
    exact neg_neg_of_pos hd.1
  have hneg := hloop.neg hd.2 le_rfl hfirst
  refine ⟨_, lag, hok, ⟨n, hloop, ?_⟩, fun x hx => ⟨hneg x hx, hloop.threshold_le x hx⟩, ?_, ?_⟩
  · have hle := hloop.iterations_le ⟨hd.1.le, hd.2.le⟩ le_rfl (abs_nextWeight_one hd.1.le) (by simpa using hd.1.le)
    rw [← sub_le_iff_le_add, le_div_iff₀ ht, mul_comm]
    rw [Nat.cast_one] at hle
    linarith
  · exact (List.pairwise_cons.1 (hloop.pairwise ⟨hd.1.le, hd.2.le⟩ le_rfl)).2
  · intro hz hne
    rw [if_pos ⟨hz, hne⟩]
    have hsum : 0 < 1 + lag.sum := hloop.sum_pos hd le_rfl hfirst (by rw [nextWeight_one, Nat.cast_one]; ring)
    have hlag : 0 < -lag.sum := by
      rw [if_pos ⟨hz, hne⟩] at hok
      obtain ⟨w0, lag', heq, hw0, -⟩ := fractionalWeights_spec hok
      exact (List.cons.inj heq).1 ▸ hw0
    refine ⟨?_, hlag, by linarith⟩
    rw [List.sum_cons, neg_add_cancel]

theorem fractionalWeights_wellFormed_half :
    (0 < (1 / 2 : ℚ) ∧ (1 / 2 : ℚ) < 1) ∧ (0 : ℚ) < 1 / 10 ∧
      ∃ w0 lag, fractionalWeights (1 / 2 : ℚ) (1 / 10) none true = .ok (w0 :: lag) ∧
        (∃ n : ℕ, ExpandLoop (1 / 2 : ℚ) (1 / 10) none 1 1 lag n ∧ (n : ℚ) ≤ (1 / 2) / (1 / 10) + 1) ∧
        (∀ x ∈ lag, x < 0 ∧ 1 / 10 ≤ |x|) ∧ lag.Pairwise (fun x y => |y| ≤ |x|) ∧
        ((true : Bool) = true → lag ≠ [] → (w0 :: lag).sum = 0 ∧ 0 < w0 ∧ w0 < 1) :=
  ⟨by norm_num, by norm_num, fractionalWeights_wellFormed (by norm_num) (by norm_num) true⟩

end FractionalWeights

end Quant
