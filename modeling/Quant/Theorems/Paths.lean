import Mathlib.Data.List.Nodup
import Mathlib.Tactic.NormNum
import Quant.Analytics.CrossValidation
import Quant.Pylib.Lists

/-!
# The paths of a full cross-validation

Every group is a test group of as many folds, and the reconstruction puts the slice of its `p`-th fold into path `p`. So the folds
and the paths are two ways to list the same slices, and each path takes one slice of every group.
-/

namespace Quant

open Pylib

/-! ## Combinations -/

@[simp]
theorem combinations_zero (xs : List ℕ) : combinations xs 0 = [[]] := by cases xs <;> rfl

theorem combinations_cons_succ (x : ℕ) (xs : List ℕ) (k : ℕ) :
    combinations (x :: xs) (k + 1) = (combinations xs k).map (x :: ·) ++ combinations xs (k + 1) := rfl

theorem length_combinations (xs : List ℕ) (k : ℕ) : (combinations xs k).length = xs.length.choose k := by
  induction xs generalizing k with
  | nil =>
    cases k with
    | zero => rfl
    | succ k => rfl
  | cons x xs ih =>
    cases k with
    | zero => rw [combinations_zero, Nat.choose_zero_right, List.length_singleton]
    | succ k =>
      rw [combinations_cons_succ, List.length_append, List.length_map, ih, ih, List.length_cons, Nat.choose_succ_succ]

theorem sublist_of_mem_combinations {xs c : List ℕ} {k : ℕ} (h : c ∈ combinations xs k) : c.Sublist xs := by
  induction xs generalizing k c with
  | nil =>
    cases k with
    | zero =>
      obtain rfl := List.mem_singleton.1 h
      exact List.nil_sublist _
    | succ k => cases h
  | cons x xs ih =>
    cases k with
    | zero =>
      rw [combinations_zero] at h
      obtain rfl := List.mem_singleton.1 h
      exact List.nil_sublist _
    | succ k =>
      rw [combinations_cons_succ] at h
      rcases List.mem_append.1 h with h | h
      · obtain ⟨c', hc', rfl⟩ := List.mem_map.1 h
        exact (ih hc').cons_cons x
      · exact (ih h).cons x

/-- An element is in as many combinations as there are ways to choose the others. -/
theorem countP_combinations {xs : List ℕ} (h : xs.Nodup) (g k : ℕ) :
    (combinations xs (k + 1)).countP (fun c => g ∈ c) = if g ∈ xs then (xs.length - 1).choose k else 0 := by
  induction xs generalizing k with
  | nil => rfl
  | cons x xs ih =>
    obtain ⟨hx, hxs⟩ := List.nodup_cons.1 h
    rw [combinations_cons_succ, List.countP_append, List.countP_map, ih hxs k, List.length_cons, Nat.add_sub_cancel]
    by_cases hg : g = x
    · subst hg
      have hall : (combinations xs k).countP ((fun c => decide (g ∈ c)) ∘ (g :: ·)) = (combinations xs k).length := by
        rw [List.countP_eq_length]
        intro c _
        simp
      rw [hall, length_combinations, if_neg hx, if_pos List.mem_cons_self, Nat.add_zero]
    · have hskip : ((fun c => decide (g ∈ c)) ∘ (x :: ·)) = fun c => decide (g ∈ c) := by
        funext c
        simp [hg]
      rw [hskip]
      by_cases hmem : g ∈ xs
      · obtain ⟨m, hm⟩ := Nat.exists_eq_succ_of_ne_zero (List.length_pos_of_mem hmem).ne'
        rw [if_pos hmem, if_pos (List.mem_cons_of_mem x hmem), hm, Nat.succ_sub_one]
        cases k with
        | zero =>
          cases xs with
          | nil => cases hmem
          | cons y ys => simp
        | succ k => rw [ih hxs k, if_pos hmem, hm, Nat.succ_sub_one, Nat.choose_succ_succ]
      · have hnone : (combinations xs k).countP (fun c => decide (g ∈ c)) = 0 := by
          rw [List.countP_eq_zero]
          intro c hc hgc
          exact hmem ((sublist_of_mem_combinations hc).subset (of_decide_eq_true hgc))
        rw [if_neg hmem, if_neg (by simp [hg, hmem]), hnone]

/-! ## Blocks -/

theorem blocksFrom_flatten (cursor : ℕ) (sizes : List ℕ) : (blocksFrom cursor sizes).flatten = List.range' cursor sizes.sum := by
  induction sizes generalizing cursor with
  | nil => rfl
  | cons size sizes ih => rw [blocksFrom, List.flatten_cons, ih, List.sum_cons, List.range'_append_1]

theorem blocksFrom_lengths (cursor : ℕ) (sizes : List ℕ) : (blocksFrom cursor sizes).map List.length = sizes := by
  induction sizes generalizing cursor with
  | nil => rfl
  | cons size sizes ih => rw [blocksFrom, List.map_cons, ih, List.length_range']

theorem partitionGroups_length (nSamples nSplits : ℕ) : (partitionGroups nSamples nSplits).length = nSplits := by
  have h := congrArg List.length (blocksFrom_lengths 0
    ((List.range nSplits).map (fun i => nSamples / nSplits + if i < nSamples % nSplits then 1 else 0)))
  rw [List.length_map, List.length_map, List.length_range] at h
  exact h

/-- The sizes of the first blocks. -/
theorem sum_sizes (q r m : ℕ) : ((List.range m).map (fun i => q + if i < r then 1 else 0)).sum = m * q + min m r := by
  induction m with
  | zero => simp
  | succ m ih =>
    rw [List.range_succ, List.map_append, List.sum_append, ih, List.map_singleton, List.sum_singleton, Nat.succ_mul]
    split <;> omega

/-- The blocks are the samples, in order. -/
theorem partitionGroups_flatten {nSamples nSplits : ℕ} (h : 0 < nSplits) :
    (partitionGroups nSamples nSplits).flatten = List.range nSamples := by
  rw [partitionGroups, blocksFrom_flatten, sum_sizes, min_eq_right (Nat.mod_lt nSamples h).le, Nat.div_add_mod,
    List.range_eq_range']

section Folds

variable {α : Type} {cfg : CPCVConfig} {nSamples : ℕ}

theorem nSplits_toNat_pos : 0 < cfg.nSplits.toNat := by
  have := cfg.nSplits_ge
  omega

/-- All blocks, as the groups they belong to. -/
theorem map_groupBlock_range :
    (List.range cfg.nSplits.toNat).map (groupBlock cfg (n := nSamples)) = partitionGroups nSamples cfg.nSplits.toNat := by
  refine List.ext_getElem (by simp [partitionGroups_length]) fun g hg _ => ?_
  have hlt : g < (partitionGroups nSamples cfg.nSplits.toNat).length := by simpa [partitionGroups_length] using hg
  simp [groupBlock, hlt]

/-- The groups together are all samples, in order, so no sample is in two groups or in none. -/
theorem samplesOf_range : samplesOf cfg (n := nSamples) (List.range cfg.nSplits.toNat) = List.range nSamples := by
  rw [samplesOf, List.flatMap_def, map_groupBlock_range, partitionGroups_flatten nSplits_toNat_pos]

/-! ## The slices of a fold -/

theorem foldSlices_groups (preds : List (Option α)) (cursor : ℕ) (combo : List ℕ) :
    (foldSlices cfg nSamples preds cursor combo).map Prod.fst = combo := by
  induction combo generalizing cursor with
  | nil => rfl
  | cons g combo ih => rw [foldSlices, List.map_cons, ih]

/-- Every slice is as long as its block, and pairs the samples of the block with the fold's predictions for them. -/
theorem foldSlices_spec {preds : List (Option α)} {cursor : ℕ} {combo : List ℕ}
    (hlen : preds.length = cursor + (samplesOf cfg (n := nSamples) combo).length) {g : ℕ} {slice : List (Option α)}
    (h : (g, slice) ∈ foldSlices cfg nSamples preds cursor combo) :
    slice.length = (groupBlock cfg (n := nSamples) g).length ∧
      ∀ p ∈ (groupBlock cfg (n := nSamples) g).zip slice, p ∈ (samplesOf cfg (n := nSamples) combo).zip (preds.drop cursor) := by
  induction combo generalizing cursor with
  | nil => cases h
  | cons g' combo ih =>
    rw [samplesOf, List.flatMap_cons, ← samplesOf, List.length_append] at hlen
    have hsplit : (samplesOf cfg (n := nSamples) (g' :: combo)).zip (preds.drop cursor) =
        (groupBlock cfg (n := nSamples) g').zip ((preds.drop cursor).take (groupBlock cfg (n := nSamples) g').length) ++
          (samplesOf cfg (n := nSamples) combo).zip (preds.drop (cursor + (groupBlock cfg (n := nSamples) g').length)) := by
      rw [samplesOf, List.flatMap_cons, ← samplesOf, ← List.drop_drop, ← List.zip_append, List.take_append_drop]
      rw [List.length_take, List.length_drop]
      omega
    rw [hsplit]
    rw [foldSlices] at h
    rcases List.mem_cons.1 h with h | h
    · obtain ⟨rfl, rfl⟩ := Prod.mk.inj h
      refine ⟨?_, fun p hp => List.mem_append_left _ hp⟩
      rw [List.length_take, List.length_drop]
      omega
    · obtain ⟨hl, hsub⟩ := ih (by omega) h
      exact ⟨hl, fun p hp => List.mem_append_right _ (hsub p hp)⟩

/-! ## The slices of a group -/

/-- The slice of a fold for one of its groups. -/
def sliceOf (cfg : CPCVConfig) (nSamples g : ℕ) (fold : List ℕ × List (Option α)) : List (Option α) :=
  (((foldSlices cfg nSamples fold.2 0 fold.1).filter (fun p => p.1 = g)).map Prod.snd).headD []

theorem filter_foldSlices {fold : List ℕ × List (Option α)} (hnodup : fold.1.Nodup) {g : ℕ} (hg : g ∈ fold.1) :
    (g, sliceOf cfg nSamples g fold) ∈ foldSlices cfg nSamples fold.2 0 fold.1 ∧
      (foldSlices cfg nSamples fold.2 0 fold.1).filter (fun p => p.1 = g) = [(g, sliceOf cfg nSamples g fold)] := by
  rw [← @foldSlices_groups α cfg nSamples fold.2 0 fold.1] at hnodup hg
  obtain ⟨⟨g', slice⟩, hmem, rfl⟩ := List.mem_map.1 hg
  have hfilter := filter_key_eq hnodup hmem
  have hslice : sliceOf cfg nSamples g' fold = slice := by
    rw [sliceOf, hfilter]
    rfl
  rw [hslice]
  exact ⟨hmem, hfilter⟩

/-- What the reconstruction collects for a group: the slices of the folds that test on it, in the order of the folds. -/
theorem groupToFoldSlices_eq {folds : List (List ℕ × List (Option α))} (hnodup : ∀ fold ∈ folds, fold.1.Nodup) {g : ℕ}
    (hg : g < cfg.nSplits.toNat) :
    (groupToFoldSlices cfg nSamples folds).getD g [] = (folds.filter (fun fold => g ∈ fold.1)).map (sliceOf cfg nSamples g) := by
  rw [groupToFoldSlices, ← List.foldl_flatMap, List.getD_eq_getElem?_getD, getElem?_foldl_group,
    List.getElem?_replicate, if_pos hg,
    Option.map_some, Option.getD_some, List.nil_append, List.filter_flatMap, List.map_flatMap, ← flatMap_if_singleton]
  refine List.flatMap_congr fun fold hfold => ?_
  by_cases hmem : g ∈ fold.1
  · rw [(filter_foldSlices (hnodup fold hfold) hmem).2, decide_eq_true hmem, if_pos rfl, List.map_singleton]
  · have hnone : (foldSlices cfg nSamples fold.2 0 fold.1).filter (fun p => p.1 = g) = [] := by
      rw [List.filter_eq_nil_iff]
      intro p hp hpg
      rw [← @foldSlices_groups α cfg nSamples fold.2 0 fold.1] at hmem
      exact hmem (List.mem_map.2 ⟨p, hp, of_decide_eq_true hpg⟩)
    rw [hnone, decide_eq_false hmem, if_neg (by simp), List.map_nil]

theorem length_groupToFoldSlices (folds : List (List ℕ × List (Option α))) :
    (groupToFoldSlices cfg nSamples folds).length = cfg.nSplits.toNat := by
  rw [groupToFoldSlices, ← List.foldl_flatMap]
  generalize folds.flatMap (fun fold => foldSlices cfg nSamples fold.2 0 fold.1) = entries
  induction entries using List.reverseRecOn with
  | nil => exact List.length_replicate
  | append_singleton entries p ih => rw [List.foldl_append, List.foldl_cons, List.foldl_nil, List.length_modify, ih]

/-! ## Writing a path -/

theorem assignSlice_append {pre mid post slice : List (Option α)} (h : slice.length = mid.length) :
    assignSlice (pre ++ mid ++ post) (List.range' pre.length mid.length) slice = pre ++ slice ++ post := by
  induction mid generalizing pre slice with
  | nil =>
    obtain rfl := List.length_eq_zero_iff.1 h
    rfl
  | cons x mid ih =>
    cases slice with
    | nil => cases h
    | cons v slice =>
      have hset : (pre ++ (x :: mid) ++ post).set pre.length v = (pre ++ [v]) ++ mid ++ post := by
        simp
      have hih := @ih (pre ++ [v]) slice (Nat.succ.inj h)
      rw [List.length_append, List.length_singleton] at hih
      rw [assignSlice, List.length_cons, List.range'_succ, List.zip_cons_cons, List.foldl_cons, hset, ← assignSlice, hih]
      simp

/-- Slices written block by block over a path are the slices one behind the other. -/
theorem foldl_assignSlice (x : Option α) (sizes : List ℕ) (slices : List (List (Option α))) (h : slices.map List.length = sizes)
    (pre : List (Option α)) :
    ((blocksFrom pre.length sizes).zip slices).foldl (fun path p => assignSlice path p.1 p.2)
      (pre ++ List.replicate sizes.sum x) =
      pre ++ slices.flatten := by
  induction slices generalizing sizes pre with
  | nil =>
    subst h
    rfl
  | cons slice slices ih =>
    subst h
    have hwrite : assignSlice (pre ++ List.replicate (slice.length + (slices.map List.length).sum) x)
        (List.range' pre.length slice.length) slice = (pre ++ slice) ++ List.replicate (slices.map List.length).sum x := by
      have hone := @assignSlice_append α pre (List.replicate slice.length x) (List.replicate (slices.map List.length).sum x) slice
        List.length_replicate.symm
      rwa [List.length_replicate, List.append_assoc, List.replicate_append_replicate] at hone
    have hih := ih _ rfl (pre ++ slice)
    rw [List.length_append] at hih
    rw [List.map_cons, List.sum_cons, blocksFrom, List.zip_cons_cons, List.foldl_cons, hwrite, hih, List.flatten_cons,
      List.append_assoc]

/-! ## The folds of a group -/

theorem foldSlices_subset {preds : List (Option α)} {cursor : ℕ} {combo : List ℕ} {g : ℕ} {slice : List (Option α)}
    (h : (g, slice) ∈ foldSlices cfg nSamples preds cursor combo) : ∀ v ∈ slice, v ∈ preds := by
  induction combo generalizing cursor with
  | nil => cases h
  | cons g' combo ih =>
    rw [foldSlices] at h
    rcases List.mem_cons.1 h with h | h
    · obtain ⟨-, rfl⟩ := Prod.mk.inj h
      exact fun v hv => List.mem_of_mem_drop (List.mem_of_mem_take hv)
    · exact ih h

/-- The folds that test on a group, in their order. -/
def foldsWith (cfg : CPCVConfig) (g : ℕ) : List ℕ :=
  (List.range cfg.generateTestCombinations.length).filter (fun f => g ∈ cfg.generateTestCombinations.getD f [])

/-- The fold a path takes its slice of a group from. -/
def sourceFold (cfg : CPCVConfig) (pathIdx g : ℕ) : Option ℕ := (foldsWith cfg g)[pathIdx]?

theorem mem_foldsWith {g f : ℕ} : f ∈ foldsWith cfg g ↔ ∃ combo, cfg.generateTestCombinations[f]? = some combo ∧ g ∈ combo := by
  rw [foldsWith, List.mem_filter, List.mem_range, decide_eq_true_eq]
  constructor
  · rintro ⟨hlt, hg⟩
    rw [List.getD_eq_getElem _ _ hlt] at hg
    exact ⟨_, List.getElem?_eq_getElem hlt, hg⟩
  · rintro ⟨combo, hcombo, hg⟩
    obtain ⟨hlt, rfl⟩ := List.getElem?_eq_some_iff.1 hcombo
    exact ⟨hlt, by rwa [List.getD_eq_getElem _ _ hlt]⟩

/-- A full cross-validation has a fold for every choice of test groups. -/
theorem generateTestCombinations_eq (hfc : cfg.forwardChaining = false) (hmax : cfg.maxSplits = none) :
    cfg.generateTestCombinations = combinations (List.range cfg.nSplits.toNat) cfg.nTestSplits.toNat := by
  unfold CPCVConfig.generateTestCombinations CPCVConfig.allCombos
  rw [hmax, hfc]
  rfl

theorem nodup_of_mem_combinations {n k : ℕ} {combo : List ℕ} (h : combo ∈ combinations (List.range n) k) : combo.Nodup :=
  List.nodup_range.sublist (sublist_of_mem_combinations h)

/-- Every group is tested on by the same number of folds. -/
theorem length_foldsWith (hfc : cfg.forwardChaining = false) (hmax : cfg.maxSplits = none) {g : ℕ} (hg : g < cfg.nSplits.toNat) :
    (foldsWith cfg g).length = (cfg.nSplits.toNat - 1).choose (cfg.nTestSplits.toNat - 1) := by
  obtain ⟨k, hk⟩ : ∃ k, cfg.nTestSplits.toNat = k + 1 := ⟨cfg.nTestSplits.toNat - 1, by have := cfg.nTestSplits_pos; omega⟩
  have hcount := @countP_combinations (List.range cfg.nSplits.toNat) List.nodup_range g k
  rw [if_pos (List.mem_range.2 hg), List.length_range, ← hk, ← generateTestCombinations_eq hfc hmax, List.countP_eq_length_filter,
    filter_eq_map_range _ _ [], List.length_map] at hcount
  rw [foldsWith, hcount, hk, Nat.add_sub_cancel]

/-- The slices collected for a group are those of its folds. -/
theorem slices_eq_map_foldsWith {foldPredictions : List (List (Option α))}
    (hcount : foldPredictions.length = cfg.generateTestCombinations.length)
    (hnodup : ∀ combo ∈ cfg.generateTestCombinations, combo.Nodup) {g : ℕ} (hg : g < cfg.nSplits.toNat) :
    (groupToFoldSlices cfg nSamples (cfg.generateTestCombinations.zip foldPredictions)).getD g [] =
      (foldsWith cfg g).map (fun f =>
        sliceOf cfg nSamples g ((cfg.generateTestCombinations.zip foldPredictions).getD f ([], []))) := by
  rw [groupToFoldSlices_eq (fun fold hfold => hnodup _ (List.of_mem_zip hfold).1) hg,
    filter_eq_map_range _ _ ([], []), List.map_map,
    foldsWith, List.length_zip, hcount, min_self]
  have hsame : ∀ f ∈ List.range cfg.generateTestCombinations.length,
      decide (g ∈ ((cfg.generateTestCombinations.zip foldPredictions).getD f ([], [])).1) =
        decide (g ∈ cfg.generateTestCombinations.getD f []) := by
    intro f hf
    have hlt := List.mem_range.1 hf
    have hz : f < (cfg.generateTestCombinations.zip foldPredictions).length := by
      rw [List.length_zip]
      omega
    rw [List.getD_eq_getElem _ _ hlt, List.getD_eq_getElem _ _ hz, List.getElem_zip]
  rw [List.filter_congr hsame]
  rfl

/-- The folds whose predictions are as many as their test samples. -/
theorem foldLengthFault_eq_none {fIdx : ℕ} {combos : List (List ℕ)} {foldPredictions : List (List (Option α))}
    (h : List.Forall₂ (fun combo preds => preds.length = (samplesOf cfg (n := nSamples) combo).length) combos foldPredictions) :
    foldLengthFault cfg nSamples fIdx combos foldPredictions = none := by
  induction h generalizing fIdx with
  | nil => rfl
  | cons hlen _ ih =>
    rw [samplesOf, List.length_flatMap] at hlen
    rw [foldLengthFault, if_neg (not_not.2 hlen), ih]

/-! ## The reconstruction -/

/-- The loops over the groups and the paths write every path as its slices, one behind the other. -/
theorem paths_written {nPaths : ℕ} {slice : ℕ → ℕ → List (Option α)}
    (hlen : ∀ g < cfg.nSplits.toNat, ∀ p < nPaths, (slice g p).length = (groupBlock cfg (n := nSamples) g).length) :
    (List.range cfg.nSplits.toNat).foldl (fun paths g => (List.range nPaths).foldl (fun paths pathIdx =>
        paths.modify pathIdx (fun path => assignSlice path (groupBlock cfg (n := nSamples) g) (slice g pathIdx))) paths)
        (List.replicate nPaths (List.replicate nSamples none)) =
      (List.range nPaths).map (fun p => (List.range cfg.nSplits.toNat).flatMap (fun g => slice g p)) := by
  refine List.ext_getElem? fun p => ?_
  rw [getElem?_foldl_foldl_modify]
  by_cases hp : p < nPaths
  · have hsizes : ((List.range cfg.nSplits.toNat).map (fun g => slice g p)).map List.length =
        (partitionGroups nSamples cfg.nSplits.toNat).map List.length := by
      rw [← map_groupBlock_range, List.map_map, List.map_map]
      exact List.map_congr_left fun g hg => hlen g (List.mem_range.1 hg) p hp
    rw [partitionGroups, blocksFrom_lengths] at hsizes
    have hwrite := foldl_assignSlice none _ _ hsizes []
    rw [List.length_nil, List.nil_append, List.nil_append, ← partitionGroups, ← map_groupBlock_range,
      List.zip_map', List.foldl_map,
      sum_sizes, min_eq_right (Nat.mod_lt _ nSplits_toNat_pos).le, Nat.div_add_mod] at hwrite
    rw [if_pos hp, List.getElem?_replicate, if_pos hp, Option.map_some, hwrite, List.getElem?_map, List.getElem?_range hp,
      Option.map_some, List.flatMap_def]
  · rw [if_neg hp, List.getElem?_replicate, if_neg hp, List.getElem?_eq_none (by simpa using not_lt.1 hp)]

/-- The slice a path takes of a group. -/
def pathSlice (cfg : CPCVConfig) (nSamples : ℕ) (foldPredictions : List (List (Option α))) (g p : ℕ) : List (Option α) :=
  ((groupToFoldSlices cfg nSamples (cfg.generateTestCombinations.zip foldPredictions)).getD g []).getD p []

/-- A slice of a path has the predictions of its fold for the samples of its group. -/
theorem pathSlice_spec {foldPredictions : List (List (Option α))}
    (hfit : List.Forall₂ (fun combo preds => preds.length = (samplesOf cfg (n := nSamples) combo).length)
      cfg.generateTestCombinations foldPredictions)
    (hnodup : ∀ combo ∈ cfg.generateTestCombinations, combo.Nodup) {g p f : ℕ} (hg : g < cfg.nSplits.toNat)
    (hsource : sourceFold cfg p g = some f) :
    ∃ combo preds, cfg.generateTestCombinations[f]? = some combo ∧ g ∈ combo ∧ foldPredictions[f]? = some preds ∧
      (pathSlice cfg nSamples foldPredictions g p).length = (groupBlock cfg (n := nSamples) g).length ∧
      (∀ v ∈ pathSlice cfg nSamples foldPredictions g p, v ∈ preds) ∧
      ∀ q ∈ (groupBlock cfg (n := nSamples) g).zip (pathSlice cfg nSamples foldPredictions g p),
        q ∈ (samplesOf cfg (n := nSamples) combo).zip preds := by
  obtain ⟨combo, hcombo, hmem⟩ := mem_foldsWith.1 (List.mem_of_getElem? hsource)
  obtain ⟨hlt, rfl⟩ := List.getElem?_eq_some_iff.1 hcombo
  have hlt' : f < foldPredictions.length := hfit.length_eq ▸ hlt
  have hlen := hfit.get hlt hlt'
  have hz : f < (cfg.generateTestCombinations.zip foldPredictions).length := by
    rw [List.length_zip]
    omega
  have hslice : pathSlice cfg nSamples foldPredictions g p =
      sliceOf cfg nSamples g (cfg.generateTestCombinations[f], foldPredictions[f]) := by
    rw [pathSlice, slices_eq_map_foldsWith hfit.length_eq.symm hnodup hg, List.getD_eq_getElem?_getD, List.getElem?_map]
    rw [sourceFold] at hsource
    rw [hsource, Option.map_some, Option.getD_some, List.getD_eq_getElem _ _ hz, List.getElem_zip]
  obtain ⟨hin, -⟩ := @filter_foldSlices α cfg nSamples (cfg.generateTestCombinations[f], foldPredictions[f])
    (hnodup _ (List.getElem_mem hlt)) g hmem
  obtain ⟨hl, hsub⟩ := foldSlices_spec (by simpa using hlen) hin
  rw [hslice]
  exact ⟨_, _, hcombo, hmem, List.getElem?_eq_getElem hlt', hl, foldSlices_subset hin, hsub⟩

/-- A fold gives its slice of a group to exactly one path. -/
theorem existsUnique_sourceFold {f g : ℕ} {combo : List ℕ} (hcombo : cfg.generateTestCombinations[f]? = some combo)
    (hg : g ∈ combo) :
    ∃! p, p < (foldsWith cfg g).length ∧ sourceFold cfg p g = some f := by
  obtain ⟨p, hp, hpf⟩ := List.getElem_of_mem (mem_foldsWith.2 ⟨combo, hcombo, hg⟩)
  have hnodup : (foldsWith cfg g).Nodup := List.nodup_range.filter _
  refine ⟨p, ⟨hp, by rw [sourceFold, List.getElem?_eq_getElem hp, hpf]⟩, fun q ⟨hq, hqf⟩ => ?_⟩
  rw [sourceFold, List.getElem?_eq_getElem hq, ← hpf] at hqf
  exact (hnodup.getElem_inj_iff).1 (Option.some.inj hqf)

/-- Every sample of a group is at its place in a path with the slice's value for it. -/
theorem getElem?_path {slice : ℕ → List (Option α)}
    (hlen : ∀ g < cfg.nSplits.toNat, (slice g).length = (groupBlock cfg (n := nSamples) g).length) {g i : ℕ}
    (hg : g < cfg.nSplits.toNat) (hi : i ∈ groupBlock cfg (n := nSamples) g) :
    ∃ v, ((List.range cfg.nSplits.toNat).flatMap slice)[i]? = some v ∧
      (i, v) ∈ (groupBlock cfg (n := nSamples) g).zip (slice g) := by
  obtain ⟨v, hv⟩ := exists_mem_zip (hlen g hg).symm hi
  refine ⟨v, ?_, hv⟩
  have hzip : ((List.range cfg.nSplits.toNat).flatMap (groupBlock cfg (n := nSamples))).zip
      ((List.range cfg.nSplits.toNat).flatMap slice) =
        (List.range cfg.nSplits.toNat).flatMap (fun g => (groupBlock cfg (n := nSamples) g).zip (slice g)) :=
    zip_flatMap fun g hg => (hlen g (List.mem_range.1 hg)).symm
  rw [← samplesOf, samplesOf_range] at hzip
  have hmem : (i, v) ∈ (List.range nSamples).zip ((List.range cfg.nSplits.toNat).flatMap slice) := by
    rw [hzip]
    exact List.mem_flatMap.2 ⟨g, List.mem_range.2 hg, hv⟩
  obtain ⟨j, hj⟩ := List.mem_iff_getElem?.1 hmem
  obtain ⟨hj1, hj2⟩ := List.getElem?_zip_eq_some.1 hj
  obtain ⟨hlt, hji⟩ := List.getElem?_eq_some_iff.1 hj1
  rw [List.getElem_range] at hji
  subst hji
  exact hj2

theorem length_path {slice : ℕ → List (Option α)}
    (hlen : ∀ g < cfg.nSplits.toNat, (slice g).length = (groupBlock cfg (n := nSamples) g).length) :
    ((List.range cfg.nSplits.toNat).flatMap slice).length = nSamples := by
  have hsum := congrArg List.length (@samplesOf_range cfg nSamples)
  rw [samplesOf, List.length_flatMap, List.length_range] at hsum
  rw [List.length_flatMap, List.map_congr_left fun g hg => hlen g (List.mem_range.1 hg), hsum]

/-- The number of paths is not 0: every group is tested on. -/
theorem minPaths_ne_zero {foldPredictions : List (List (Option α))} (hfc : cfg.forwardChaining = false)
    (hmax : cfg.maxSplits = none)
    (hcount : foldPredictions.length = cfg.generateTestCombinations.length)
    (hnodup : ∀ combo ∈ cfg.generateTestCombinations, combo.Nodup) :
    ((groupToFoldSlices cfg nSamples (cfg.generateTestCombinations.zip foldPredictions)).map List.length).min?.getD 0 ≠ 0 := by
  have hlen := @length_groupToFoldSlices α cfg nSamples (cfg.generateTestCombinations.zip foldPredictions)
  have hrow : ∀ m ∈ (groupToFoldSlices cfg nSamples
      (cfg.generateTestCombinations.zip foldPredictions)).map List.length, m ≠ 0 := by
    intro m hm
    obtain ⟨row, hrow, rfl⟩ := List.mem_map.1 hm
    obtain ⟨g, hg, rfl⟩ := List.getElem_of_mem hrow
    have hg' : g < cfg.nSplits.toNat := hlen ▸ hg
    rw [← List.getD_eq_getElem _ [] hg, slices_eq_map_foldsWith hcount hnodup hg', List.length_map, length_foldsWith hfc hmax hg']
    refine (Nat.choose_pos ?_).ne'
    have := cfg.nTestSplits_lt
    omega
  cases hmin : ((groupToFoldSlices cfg nSamples (cfg.generateTestCombinations.zip foldPredictions)).map List.length).min? with
  | none =>
    have hpos : 0 < cfg.nSplits.toNat := nSplits_toNat_pos
    rw [List.min?_eq_none_iff, List.map_eq_nil_iff] at hmin
    rw [hmin] at hlen
    exact absurd hlen hpos.ne
  | some m => exact hrow m (List.min?_mem hmin)

theorem exists_sourceFold (hfc : cfg.forwardChaining = false) (hmax : cfg.maxSplits = none) {g p : ℕ} (hg : g < cfg.nSplits.toNat)
    (hp : p < (cfg.nSplits.toNat - 1).choose (cfg.nTestSplits.toNat - 1)) : ∃ f, sourceFold cfg p g = some f := by
  rw [← length_foldsWith hfc hmax hg] at hp
  exact ⟨_, List.getElem?_eq_getElem hp⟩

/-- In a full cross-validation, predictions that are numbers and as many as the test samples make the paths their slices make. -/
theorem reconstructPaths_eq {foldPredictions : List (List (Option α))} (hfc : cfg.forwardChaining = false)
    (hmax : cfg.maxSplits = none)
    (hfit : List.Forall₂ (fun combo preds => preds.length = (samplesOf cfg (n := nSamples) combo).length)
      cfg.generateTestCombinations foldPredictions)
    (hnum : ∀ preds ∈ foldPredictions, none ∉ preds) (hnodup : ∀ combo ∈ cfg.generateTestCombinations, combo.Nodup)
    (hlen : ∀ g < cfg.nSplits.toNat, ∀ p < (cfg.nSplits.toNat - 1).choose (cfg.nTestSplits.toNat - 1),
      (pathSlice cfg nSamples foldPredictions g p).length = (groupBlock cfg (n := nSamples) g).length) :
    reconstructPaths cfg nSamples foldPredictions =
      .ok ((List.range ((cfg.nSplits.toNat - 1).choose (cfg.nTestSplits.toNat - 1))).map fun p =>
        (List.range cfg.nSplits.toNat).flatMap fun g => pathSlice cfg nSamples foldPredictions g p) := by
  rw [reconstructPaths, if_neg (by rw [hfc]; exact Bool.false_ne_true)]
  dsimp only
  rw [if_neg (not_not.2 hfit.length_eq.symm), foldLengthFault_eq_none hfit]
  dsimp only
  have hwritten := @paths_written α cfg nSamples _ (pathSlice cfg nSamples foldPredictions) hlen
  simp only [pathSlice] at hwritten
  rw [if_neg (minPaths_ne_zero hfc hmax hfit.length_eq.symm hnodup), hmax]
  simp only [Option.isSome_none, Bool.false_eq_true, if_false, hwritten]
  refine if_neg ?_
  rw [Bool.not_eq_true, List.any_eq_false]
  intro path hpath hnan
  obtain ⟨p, hp, rfl⟩ := List.mem_map.1 hpath
  obtain ⟨v, hv, hnone⟩ := List.any_eq_true.1 hnan
  obtain rfl := Option.isNone_iff_eq_none.1 hnone
  obtain ⟨g, hg, hv⟩ := List.mem_flatMap.1 hv
  obtain ⟨f, hf⟩ := exists_sourceFold hfc hmax (List.mem_range.1 hg) (List.mem_range.1 hp)
  obtain ⟨_, preds, -, -, hpreds, -, hsub, -⟩ := pathSlice_spec hfit hnodup (List.mem_range.1 hg) hf
  exact hnum preds (List.mem_of_getElem? hpreds) (hsub none hv)

/-- In a full cross-validation, predictions that are numbers and as many as the test samples are put together to one path for
every fold a group is in. Path `p` has in each group the predictions of one fold that tests on it, and a fold gives its slice of a
group to exactly one path. -/
theorem reconstructPaths_full {foldPredictions : List (List (Option α))} (hfc : cfg.forwardChaining = false)
    (hmax : cfg.maxSplits = none)
    (hfit : List.Forall₂ (fun combo preds => preds.length = (samplesOf cfg (n := nSamples) combo).length)
      cfg.generateTestCombinations foldPredictions)
    (hnum : ∀ preds ∈ foldPredictions, none ∉ preds) :
    ∃ paths, reconstructPaths cfg nSamples foldPredictions = .ok paths ∧
      paths.length = (cfg.nSplits.toNat - 1).choose (cfg.nTestSplits.toNat - 1) ∧
      samplesOf cfg (n := nSamples) (List.range cfg.nSplits.toNat) = List.range nSamples ∧
      (∀ p path, paths[p]? = some path → path.length = nSamples ∧ ∀ g < cfg.nSplits.toNat, ∃ f combo preds,
        sourceFold cfg p g = some f ∧ cfg.generateTestCombinations[f]? = some combo ∧ g ∈ combo ∧
          foldPredictions[f]? = some preds ∧
          ∀ i ∈ groupBlock cfg (n := nSamples) g, ∃ v, path[i]? = some (some v) ∧
            (i, some v) ∈ (samplesOf cfg (n := nSamples) combo).zip preds) ∧
      ∀ f combo, cfg.generateTestCombinations[f]? = some combo → ∀ g ∈ combo,
        ∃! p, p < paths.length ∧ sourceFold cfg p g = some f := by
  have hcombos := generateTestCombinations_eq hfc hmax
  have hnodup : ∀ combo ∈ cfg.generateTestCombinations, combo.Nodup := fun combo hc => nodup_of_mem_combinations (hcombos ▸ hc)
  have hlen : ∀ g < cfg.nSplits.toNat, ∀ p < (cfg.nSplits.toNat - 1).choose (cfg.nTestSplits.toNat - 1),
      (pathSlice cfg nSamples foldPredictions g p).length = (groupBlock cfg (n := nSamples) g).length := by
    intro g hg p hp
    obtain ⟨f, hf⟩ := exists_sourceFold hfc hmax hg hp
    obtain ⟨_, _, -, -, -, hl, -⟩ := pathSlice_spec hfit hnodup hg hf
    exact hl
  refine ⟨_, reconstructPaths_eq hfc hmax hfit hnum hnodup hlen, ?_, samplesOf_range, ?_, ?_⟩
  · rw [List.length_map, List.length_range]
  · intro p path hpath
    rw [List.getElem?_map] at hpath
    obtain ⟨p', hp', rfl⟩ := Option.map_eq_some_iff.1 hpath
    obtain ⟨hp, hpp⟩ := List.getElem?_eq_some_iff.1 hp'
    rw [List.getElem_range] at hpp
    subst hpp
    rw [List.length_range] at hp
    refine ⟨length_path fun g hg => hlen g hg p hp, fun g hg => ?_⟩
    obtain ⟨f, hf⟩ := exists_sourceFold hfc hmax hg hp
    obtain ⟨combo, preds, hcombo, hmem, hpreds, -, hsub, hzip⟩ := pathSlice_spec hfit hnodup hg hf
    refine ⟨f, combo, preds, hf, hcombo, hmem, hpreds, fun i hi => ?_⟩
    obtain ⟨v, hv, hiv⟩ := getElem?_path (fun g hg => hlen g hg p hp) hg hi
    cases v with
    | none => exact absurd (hsub none (List.of_mem_zip hiv).2) (hnum preds (List.mem_of_getElem? hpreds))
    | some v => exact ⟨v, hv, hzip _ hiv⟩
  · intro f combo hcombo g hg
    have hg' : g < cfg.nSplits.toNat :=
      List.mem_range.1 ((sublist_of_mem_combinations (hcombos ▸ List.mem_of_getElem? hcombo)).subset hg)
    rw [List.length_map, List.length_range, ← length_foldsWith hfc hmax hg']
    exact existsUnique_sourceFold hcombo hg

end Folds

/-! ## Four groups in pairs -/

/-! The facts its fields rest on, by name. -/

theorem fourGroups_nTestSplits_pos : (1 : ℤ) ≤ 2 := by decide

theorem fourGroups_embargoPct_nonneg : (0 : ℚ) ≤ 1 / 100 := by norm_num

theorem fourGroups_embargoPct_lt : (1 / 100 : ℚ) < 1 := by norm_num

theorem fourGroups_embargoBars_nonneg : ∀ b ∈ (none : Option ℤ), 0 ≤ b := by simp

theorem fourGroups_minTrainRatio_pos : (0 : ℚ) < 1 / 5 := by norm_num

theorem fourGroups_minTrainRatio_lt : (1 / 5 : ℚ) < 1 := by norm_num

/-- Four groups, two of them to test on, and no cap on the folds. -/
def fourGroups : CPCVConfig :=
  { nSplits := 4
    nTestSplits := 2
    maxSplits := none
    nSplits_ge := by decide
    nTestSplits_pos := fourGroups_nTestSplits_pos
    nTestSplits_lt := by decide
    embargoPct_nonneg := fourGroups_embargoPct_nonneg
    embargoPct_lt := fourGroups_embargoPct_lt
    embargoBars_nonneg := fourGroups_embargoBars_nonneg
    maxSplits_pos := by decide
    minTrainRatio_pos := fourGroups_minTrainRatio_pos
    minTrainRatio_lt := fourGroups_minTrainRatio_lt }

/-- The predictions of its six folds over five samples: the fold, and the place in it. -/
def fourGroupsPredictions : List (List (Option ℕ)) :=
  [[some 0, some 1, some 2], [some 10, some 11, some 12], [some 20, some 21, some 22], [some 30, some 31], [some 40, some 41],
    [some 50, some 51]]

theorem reconstructPaths_fourGroups :
    ∃ paths, reconstructPaths fourGroups 5 fourGroupsPredictions = .ok paths ∧ paths.length = 3 := by
  obtain ⟨paths, hok, hlen, -⟩ := @reconstructPaths_full ℕ fourGroups 5 fourGroupsPredictions rfl rfl
    (by decide) (by decide)
  exact ⟨paths, hok, hlen⟩

end Quant
