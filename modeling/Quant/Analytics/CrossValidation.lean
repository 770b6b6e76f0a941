import Mathlib.Data.List.GetD
import Mathlib.Data.List.Range
import Mathlib.Data.Nat.Choose.Basic
import Quant.Exceptions
import Quant.Pylib.Decimal

/-!
# Combinatorial purged cross-validation

`CPCVConfig`, the `split` generator and `reconstruct_paths` of `CombinatorialPurgedCV`, from `analytics/cross_validation.py`.
Times are exact numbers, with the one fact about the array's dtype that the embargo asks for beside them. A generator that raises
has yielded its earlier splits: `split` returns these and the exception, if there was one. A prediction that is `none` is a NaN.
-/

namespace Quant

open Pylib

/-! ## The configuration -/

/-- The fields of a configuration, with their defaults. -/
structure CPCVFields where
  nSplits : ℤ := 6
  nTestSplits : ℤ := 2
  embargoPct : ℚ := 1 / 100
  embargoBars : Option ℤ := none
  maxSplits : Option ℤ := some 50
  minTrainRatio : ℚ := 1 / 5
  forwardChaining : Bool := false
  deriving DecidableEq

/-- A configuration its constructor accepted. -/
structure CPCVConfig extends CPCVFields where
  nSplits_ge : 2 ≤ nSplits
  nTestSplits_pos : 1 ≤ nTestSplits
  nTestSplits_lt : nTestSplits < nSplits
  embargoPct_nonneg : 0 ≤ embargoPct
  embargoPct_lt : embargoPct < 1
  embargoBars_nonneg : ∀ b ∈ embargoBars, 0 ≤ b
  maxSplits_pos : ∀ m ∈ maxSplits, 1 ≤ m
  minTrainRatio_pos : 0 < minTrainRatio
  minTrainRatio_lt : minTrainRatio < 1

/-- `CPCVConfig.__post_init__`. -/
def CPCVFields.create (f : CPCVFields) : Except Exc CPCVConfig :=
  if h1 : f.nSplits < 2 then .error ⟨.valueError, "n_splits must be at least 2, got %", [.num f.nSplits]⟩
  else if h2 : f.nTestSplits < 1 ∨ f.nSplits ≤ f.nTestSplits then
    .error ⟨.valueError, "n_test_splits must be in [1, %], got %", [.num (f.nSplits - 1), .num f.nTestSplits]⟩
  else if h3 : f.embargoPct < 0 ∨ 1 ≤ f.embargoPct then
    .error ⟨.valueError, "embargo_pct must be in [0.0, 1.0), got %", [.num f.embargoPct]⟩
  else if h4 : ∃ b ∈ f.embargoBars, b < 0 then
    .error ⟨.valueError, "embargo_bars cannot be negative, got %", [.num (f.embargoBars.getD 0)]⟩
  else if h5 : ∃ m ∈ f.maxSplits, m < 1 then
    .error ⟨.valueError, "max_splits must be at least 1, got %", [.num (f.maxSplits.getD 0)]⟩
  else if h6 : f.minTrainRatio ≤ 0 ∨ 1 ≤ f.minTrainRatio then
    .error ⟨.valueError, "min_train_ratio must be in (0.0, 1.0), got %", [.num f.minTrainRatio]⟩
  else .ok
    { f with
      nSplits_ge := not_lt.1 h1
      nTestSplits_pos := not_lt.1 (not_or.1 h2).1
      nTestSplits_lt := not_le.1 (not_or.1 h2).2
      embargoPct_nonneg := not_lt.1 (not_or.1 h3).1
      embargoPct_lt := not_le.1 (not_or.1 h3).2
      embargoBars_nonneg := fun b hb => not_lt.1 fun hlt => h4 ⟨b, hb, hlt⟩
      maxSplits_pos := fun m hm => not_lt.1 fun hlt => h5 ⟨m, hm, hlt⟩
      minTrainRatio_pos := not_le.1 (not_or.1 h6).1
      minTrainRatio_lt := not_le.1 (not_or.1 h6).2 }

/-! ## The sample times -/

/-- The times of a label, the part of `BarrierLabel` that is read here. -/
structure BarrierTimes where
  entryTimestamp : ℤ
  exitTimestamp : ℤ

/-- What is passed for the times: numbers, of an integer dtype or not, or labels. -/
inductive TimeSeq where
  | numbers (values : List ℚ) (integer : Bool)
  | labels (ls : List BarrierTimes)

/-- The array the prediction times become, and whether its dtype is an integer one: an empty list becomes an array of floats. -/
def TimeSeq.starts : TimeSeq → List ℚ × Bool
  | .numbers values integer => (values, integer)
  | .labels ls => (ls.map (fun l => (l.entryTimestamp : ℚ)), !ls.isEmpty)

/-- The array the evaluation times become. -/
def TimeSeq.ends : TimeSeq → List ℚ
  | .numbers values _ => values
  | .labels ls => ls.map (fun l => (l.exitTimestamp : ℚ))

/-- The intervals of the samples: no interval ends before it starts. -/
structure SampleTimes (n : ℕ) where
  starts : List ℚ
  ends : List ℚ
  integer : Bool
  starts_length : starts.length = n
  ends_length : ends.length = n
  start_le_stop : ∀ i, starts.getD i 0 ≤ ends.getD i 0

namespace SampleTimes

variable {n : ℕ}

/-- Where the interval of a sample starts. -/
def start (T : SampleTimes n) (i : ℕ) : ℚ := T.starts.getD i 0

/-- Where it ends. -/
def stop (T : SampleTimes n) (i : ℕ) : ℚ := T.ends.getD i 0

theorem getD_le_of_zip {starts ends : List ℚ} (hlen : starts.length = ends.length)
    (h : ¬ (starts.zip ends).any (fun p => p.2 < p.1) = true) (i : ℕ) : starts.getD i 0 ≤ ends.getD i 0 := by
  by_cases hi : i < starts.length
  · rw [List.getD_eq_getElem _ _ hi, List.getD_eq_getElem _ _ (hlen ▸ hi)]
    by_contra hlt
    refine h (List.any_eq_true.2 ⟨(starts[i], ends[i]), ?_, by simpa using hlt⟩)
    have hz : i < (starts.zip ends).length := by
      rw [List.length_zip]
      omega
    rw [← List.getElem_zip (h := hz)]
    exact List.getElem_mem hz
  · rw [List.getD_eq_default _ _ (not_lt.1 hi), List.getD_eq_default _ _ (hlen ▸ not_lt.1 hi)]

/-- `_coerce_time_arrays`. -/
def coerce (n : ℕ) (predTimes evalTimes : Option TimeSeq) : Except Exc (SampleTimes n) :=
  match predTimes, evalTimes with
  | none, none =>
    .ok
      { starts := (List.range n).map (fun (i : ℕ) => (i : ℚ))
        ends := (List.range n).map (fun (i : ℕ) => (i : ℚ))
        integer := true
        starts_length := by rw [List.length_map, List.length_range]
        ends_length := by rw [List.length_map, List.length_range]
        start_le_stop := fun _ => le_refl _ }
  | none, some _ => .error ⟨.valueError, "pred_times must be provided if eval_times is provided", []⟩
  | some _, none => .error ⟨.valueError, "eval_times must be provided if pred_times is provided", []⟩
  | some p, some e =>
    if hlen : p.starts.1.length ≠ n ∨ e.ends.length ≠ n then
      .error ⟨.valueError, "Dimension mismatch: pred_times (%) and eval_times (%) must match n_samples (%)",
        [.num p.starts.1.length, .num e.ends.length, .num n]⟩
    else if hle : (p.starts.1.zip e.ends).any (fun p => p.2 < p.1) = true then
      .error ⟨.valueError, "Temporal causality violated: pred_times cannot exceed eval_times", []⟩
    else
      have hn := not_or.1 hlen
      .ok
        { starts := p.starts.1
          ends := e.ends
          integer := p.starts.2
          starts_length := not_not.1 hn.1
          ends_length := not_not.1 hn.2
          start_le_stop := getD_le_of_zip ((not_not.1 hn.1).trans (not_not.1 hn.2).symm) hle }

end SampleTimes

/-! ## The blocks and the folds -/

/-- Blocks of the given sizes, one behind the other from a cursor on. -/
def blocksFrom (cursor : ℕ) : List ℕ → List (List ℕ)
  | [] => []
  | size :: sizes => List.range' cursor size :: blocksFrom (cursor + size) sizes

/-- `_partition_groups`: the first blocks take one of the samples that are left over each. -/
def partitionGroups (nSamples nSplits : ℕ) : List (List ℕ) :=
  blocksFrom 0 ((List.range nSplits).map (fun i => nSamples / nSplits + if i < nSamples % nSplits then 1 else 0))

/-- `itertools.combinations`, in its order. -/
def combinations : List ℕ → ℕ → List (List ℕ)
  | _, 0 => [[]]
  | [], _ + 1 => []
  | x :: xs, k + 1 => (combinations xs k).map (x :: ·) ++ combinations xs (k + 1)

/-- `np.round(np.linspace(0, last, count)).astype(int)`. -/
def strideIndices (last count : ℕ) : List ℕ :=
  (List.range count).map (fun (i : ℕ) => (roundHalfEven ((last : ℚ) * i / (count - 1 : ℕ))).toNat)

namespace CPCVConfig

variable (cfg : CPCVConfig)

/-- The folds before the cap on their number. -/
def allCombos : List (List ℕ) :=
  let n := cfg.nSplits.toNat
  let k := cfg.nTestSplits.toNat
  if cfg.forwardChaining then (List.range' 1 (n - k)).map (fun startTest => List.range' startTest k)
  else combinations (List.range n) k

/-- `_generate_test_combinations`: the test groups of every fold. -/
def generateTestCombinations : List (List ℕ) :=
  let all := cfg.allCombos
  match cfg.maxSplits with
  | some m => if m < all.length then (strideIndices (all.length - 1) m.toNat).map (fun i => all.getD i []) else all
  | none => all

end CPCVConfig

/-! ## One fold -/

/-- `PurgedSplit`. -/
structure PurgedSplit where
  splitIdx : ℕ
  trainIndices : List ℕ
  testIndices : List ℕ
  purgedIndices : List ℕ
  embargoedIndices : List ℕ
  testGroups : List ℕ
  trainGroups : List ℕ

section Fold

variable (cfg : CPCVConfig) {n : ℕ} (T : SampleTimes n)

/-- How long the embargo lasts. The source also notes whether that is in bars or in time, and then treats the two alike. -/
def embargoDuration : ℚ :=
  match cfg.embargoBars with
  | some bars => bars
  | none =>
    if T.integer ∧ T.start (n - 1) ≠ (n : ℚ) - 1 then (T.stop (n - 1) - T.start 0) * cfg.embargoPct
    else max 1 (roundHalfEven (n * cfg.embargoPct))

/-- The samples of a group. -/
def groupBlock (g : ℕ) : List ℕ := (partitionGroups n cfg.nSplits.toNat).getD g []

/-- The interval a test group stands for: from the start of its first sample to the end of its last one. -/
def testInterval (g : ℕ) : ℚ × ℚ :=
  let block := groupBlock cfg (n := n) g
  (T.start (block.headD 0), T.stop (block.getLastD 0))

/-- Whether a sample is dropped for its overlap with a test interval. -/
def overlapsInterval (i : ℕ) (interval : ℚ × ℚ) : Bool := T.start i ≤ interval.2 ∧ interval.1 ≤ T.stop i

/-- Whether a sample is dropped for starting within the embargo after a test interval. -/
def inEmbargo (i : ℕ) (interval : ℚ × ℚ) : Bool :=
  interval.2 < T.start i ∧ T.start i ≤ interval.2 + embargoDuration cfg T

/-- The groups to train on. -/
def trainGroups (testGroups : List ℕ) : List ℕ :=
  if cfg.forwardChaining then List.range (testGroups.min?.getD 0)
  else (List.range cfg.nSplits.toNat).filter (fun g => g ∉ testGroups)

/-- The samples of some groups, group by group. -/
def samplesOf (groups : List ℕ) : List ℕ := groups.flatMap (groupBlock cfg (n := n))

/-- The body of the loop over the folds. -/
def foldSplit (splitIdx : ℕ) (testGroups : List ℕ) : Except Exc PurgedSplit :=
  let intervals := testGroups.map (testInterval cfg T)
  let groups := trainGroups cfg testGroups
  if groups = [] then
    .error ⟨.valueError, "Split %: No training groups available before test groups in forward_chaining mode", [.num splitIdx]⟩
  else
    let candidates := samplesOf cfg (n := n) groups
    let purged := candidates.filter (fun i => intervals.any (overlapsInterval T i))
    let remaining := candidates.filter (fun i => !intervals.any (overlapsInterval T i))
    let embargoed := remaining.filter (fun i => intervals.any (inEmbargo cfg T i))
    let train := remaining.filter (fun i => !intervals.any (inEmbargo cfg T i))
    if (train.length : ℚ) / n < cfg.minTrainRatio then
      .error ⟨.valueError,
        "CPCV split % violated min_train_ratio: retained % (%/%) < threshold %. Reduce embargo_pct, increase n_splits, or lower min_train_ratio.",
        [.num splitIdx, .num ((train.length : ℚ) / n), .num train.length, .num n, .num cfg.minTrainRatio]⟩
    else .ok
      { splitIdx := splitIdx
        trainIndices := train
        testIndices := samplesOf cfg (n := n) testGroups
        purgedIndices := purged
        embargoedIndices := embargoed
        testGroups := testGroups
        trainGroups := groups }

/-- The loop over the folds: the splits yielded, and the exception that ended it. -/
def foldSplits : ℕ → List (List ℕ) → List PurgedSplit × Option Exc
  | _, [] => ([], none)
  | idx, combo :: combos =>
    match foldSplit cfg T idx combo with
    | .error exc => ([], some exc)
    | .ok s => (s :: (foldSplits (idx + 1) combos).1, (foldSplits (idx + 1) combos).2)

end Fold

/-- `split`: everything the generator yields, and the exception that ended it. -/
def split (cfg : CPCVConfig) (nSamples : ℕ) (predTimes evalTimes : Option TimeSeq) : List PurgedSplit × Option Exc :=
  if (nSamples : ℤ) < cfg.nSplits then
    ([], some ⟨.valueError, "n_samples (%) cannot be smaller than n_splits (%)", [.num nSamples, .num cfg.nSplits]⟩)
  else
    match SampleTimes.coerce nSamples predTimes evalTimes with
    | .error exc => ([], some exc)
    | .ok T => foldSplits cfg T 0 cfg.generateTestCombinations

/-! ## The paths -/

section Paths

variable {α : Type} (cfg : CPCVConfig) (nSamples : ℕ)

/-- The first fold whose predictions are not as many as its test samples. -/
def foldLengthFault : ℕ → List (List ℕ) → List (List (Option α)) → Option Exc
  | fIdx, combo :: combos, preds :: foldPredictions =>
    let expectedLen := (combo.map (fun g => (groupBlock cfg (n := nSamples) g).length)).sum
    if preds.length ≠ expectedLen then
      some ⟨.valueError, "Fold %: prediction length (%) does not match expected test length (%)",
        [.num fIdx, .num preds.length, .num expectedLen]⟩
    else foldLengthFault (fIdx + 1) combos foldPredictions
  | _, _, _ => none

/-- The groups of a fold, each with its slice of the predictions from a cursor on. -/
def foldSlices (preds : List (Option α)) : ℕ → List ℕ → List (ℕ × List (Option α))
  | _, [] => []
  | cursor, g :: combo =>
    let gLen := (groupBlock cfg (n := nSamples) g).length
    (g, (preds.drop cursor).take gLen) :: foldSlices preds (cursor + gLen) combo

/-- `group_to_fold_slices`: for every group the slices for it, fold by fold. -/
def groupToFoldSlices (folds : List (List ℕ × List (Option α))) : List (List (List (Option α))) :=
  folds.foldl (fun table fold =>
    (foldSlices cfg nSamples fold.2 0 fold.1).foldl (fun table p => table.modify p.1 (· ++ [p.2])) table)
    (List.replicate cfg.nSplits.toNat [])

/-- `paths[path_idx, block] = slice`, of one path. -/
def assignSlice (path : List (Option α)) (block : List ℕ) (slice : List (Option α)) : List (Option α) :=
  (block.zip slice).foldl (fun path p => path.set p.1 p.2) path

/-- `reconstruct_paths`. -/
def reconstructPaths (foldPredictions : List (List (Option α))) : Except Exc (List (List (Option α))) :=
  if cfg.forwardChaining then
    .error ⟨.notImplementedError, "Path reconstruction is defined for full combinatorial CPCV, not forward-chaining.", []⟩
  else
    let n := cfg.nSplits.toNat
    let k := cfg.nTestSplits.toNat
    let allCombos := cfg.generateTestCombinations
    if foldPredictions.length ≠ allCombos.length then
      .error ⟨.valueError, "Fold count mismatch: expected % folds, got %", [.num allCombos.length, .num foldPredictions.length]⟩
    else
      match foldLengthFault cfg nSamples 0 allCombos foldPredictions with
      | some exc => .error exc
      | none =>
        let slices := groupToFoldSlices cfg nSamples (allCombos.zip foldPredictions)
        let minPaths := (slices.map List.length).min?.getD 0
        if minPaths = 0 then
          .error ⟨.valueError, "CPCV configuration resulted in unrepresented groups; cannot reconstruct paths.", []⟩
        else
          let nPaths := if cfg.maxSplits.isSome then minPaths else (n - 1).choose (k - 1)
          let paths := (List.range n).foldl (fun paths g =>
            (List.range nPaths).foldl (fun paths pathIdx => paths.modify pathIdx (fun path =>
              assignSlice path (groupBlock cfg (n := nSamples) g) ((slices.getD g []).getD pathIdx []))) paths)
            (List.replicate nPaths (List.replicate nSamples none))
          if paths.any (fun path => path.any Option.isNone) then
            .error ⟨.runtimeError, "Path reconstruction invariant violated: NaN detected in reconstructed paths", []⟩
          else .ok paths

end Paths

end Quant
