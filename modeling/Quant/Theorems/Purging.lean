import Mathlib.Data.List.MinMax
import Quant.Analytics.CrossValidation

/-!
# Purging against the test blocks

A training sample may share no time with a test sample. The fold compares it with one interval for each test block, from the start
of the block's first sample to the end of its last one, so a test sample that ends after the last one, or starts before the first,
can be missed.
-/

namespace Quant

open Pylib

variable {cfg : CPCVConfig} {n : ℕ} {T : SampleTimes n}

/-! ## Meeting intervals -/

/-- The intervals of two samples intersect. -/
def SampleTimes.Meets (T : SampleTimes n) (i j : ℕ) : Prop := T.start i ≤ T.stop j ∧ T.start j ≤ T.stop i

instance (i j : ℕ) : Decidable (T.Meets i j) := inferInstanceAs (Decidable (_ ∧ _))

/-- No training sample meets a test sample. -/
def PurgedSplit.Leakless (T : SampleTimes n) (s : PurgedSplit) : Prop :=
  ∀ i ∈ s.trainIndices, ∀ j ∈ s.testIndices, ¬ T.Meets i j

/-- Every sample of the training groups that meets a test sample also meets the interval of a test block, or starts within the
embargo after one. -/
def Caught (cfg : CPCVConfig) (T : SampleTimes n) (testGroups : List ℕ) : Prop :=
  ∀ i ∈ samplesOf cfg (n := n) (trainGroups cfg testGroups), ∀ j ∈ samplesOf cfg (n := n) testGroups, T.Meets i j →
    ∃ g ∈ testGroups, overlapsInterval T i (testInterval cfg T g) = true ∨ inEmbargo cfg T i (testInterval cfg T g) = true

/-- The first sample of a block starts first, and the last one ends last. -/
def OrderedWithin (cfg : CPCVConfig) (T : SampleTimes n) (g : ℕ) : Prop :=
  ∀ j ∈ groupBlock cfg (n := n) g, (testInterval cfg T g).1 ≤ T.start j ∧ T.stop j ≤ (testInterval cfg T g).2

instance (g : ℕ) : Decidable (OrderedWithin cfg T g) := inferInstanceAs (Decidable (∀ j ∈ _, _))

/-- In a block whose first sample starts first and whose last one ends last, meeting a sample is meeting the interval of the
block. -/
theorem overlapsInterval_of_meets {i j g : ℕ} (h : OrderedWithin cfg T g) (hj : j ∈ groupBlock cfg (n := n) g)
    (hm : T.Meets i j) :
    overlapsInterval T i (testInterval cfg T g) = true := by
  obtain ⟨hstart, hstop⟩ := h j hj
  have h1 : T.start i ≤ (testInterval cfg T g).2 := hm.1.trans hstop
  have h2 : (testInterval cfg T g).1 ≤ T.stop i := hstart.trans hm.2
  unfold overlapsInterval
  exact decide_eq_true ⟨h1, h2⟩

/-- Ordered test blocks catch everything. -/
theorem caught_of_orderedWithin {testGroups : List ℕ} (h : ∀ g ∈ testGroups, OrderedWithin cfg T g) :
    Caught cfg T testGroups := by
  intro i _ j hj hm
  obtain ⟨g, hg, hjg⟩ := List.mem_flatMap.1 hj
  exact ⟨g, hg, .inl (overlapsInterval_of_meets (h g hg) hjg hm)⟩

/-! ## What a fold keeps -/

/-- The training samples of a fold are those of its training groups that no test interval drops. -/
theorem foldSplit_spec {idx : ℕ} {testGroups : List ℕ} {s : PurgedSplit} (h : foldSplit cfg T idx testGroups = .ok s) :
    s.testGroups = testGroups ∧ s.testIndices = samplesOf cfg (n := n) testGroups ∧
      ∀ i, i ∈ s.trainIndices ↔ i ∈ samplesOf cfg (n := n) (trainGroups cfg testGroups) ∧
        ∀ g ∈ testGroups, overlapsInterval T i (testInterval cfg T g) = false ∧
          inEmbargo cfg T i (testInterval cfg T g) = false := by
  simp only [foldSplit] at h
  split at h
  · cases h
  · split at h
    · cases h
    · obtain rfl := Except.ok.inj h
      refine ⟨rfl, rfl, fun i => ?_⟩
      simp only [List.mem_filter, Bool.not_eq_true', List.any_eq_false, List.forall_mem_map, Bool.not_eq_true, and_assoc]
      refine and_congr_right fun _ => ?_
      constructor
      · rintro ⟨hover, hemb⟩ g hg
        exact ⟨hover g hg, hemb g hg⟩
      · intro hall
        exact ⟨fun g hg => (hall g hg).1, fun g hg => (hall g hg).2⟩

theorem mem_foldSplits {idx : ℕ} {combos : List (List ℕ)} {s : PurgedSplit} (h : s ∈ (foldSplits cfg T idx combos).1) :
    ∃ idx', ∃ combo ∈ combos, foldSplit cfg T idx' combo = .ok s := by
  induction combos generalizing idx with
  | nil => cases h
  | cons combo combos ih =>
    rw [foldSplits] at h
    cases hf : foldSplit cfg T idx combo with
    | error exc =>
      rw [hf] at h
      cases h
    | ok s' =>
      rw [hf] at h
      rcases List.mem_cons.1 h with rfl | h
      · exact ⟨idx, combo, List.mem_cons_self, hf⟩
      · obtain ⟨idx', combo', hc, hs⟩ := ih h
        exact ⟨idx', combo', List.mem_cons_of_mem combo hc, hs⟩

/-- A split that is produced comes from a fold of the configuration. -/
theorem mem_split {predTimes evalTimes : Option TimeSeq} {s : PurgedSplit} (hT : SampleTimes.coerce n predTimes evalTimes = .ok T)
    (h : s ∈ (split cfg n predTimes evalTimes).1) :
    ∃ idx, ∃ combo ∈ cfg.generateTestCombinations, foldSplit cfg T idx combo = .ok s := by
  unfold split at h
  split at h
  · cases h
  · rw [hT] at h
    exact mem_foldSplits h

/-- A split that is produced leaks nothing exactly when the test intervals and the embargo after them catch every training sample
that meets a test sample. -/
theorem leakless_iff {predTimes evalTimes : Option TimeSeq} {s : PurgedSplit}
    (hT : SampleTimes.coerce n predTimes evalTimes = .ok T) (hs : s ∈ (split cfg n predTimes evalTimes).1) :
    s.Leakless T ↔ Caught cfg T s.testGroups := by
  obtain ⟨idx, combo, -, hfold⟩ := mem_split hT hs
  obtain ⟨hgroups, htest, htrain⟩ := foldSplit_spec hfold
  rw [hgroups]
  unfold PurgedSplit.Leakless
  rw [htest]
  constructor
  · intro hleak i hi j hj hm
    by_contra hfree
    have hkept : i ∈ s.trainIndices := by
      refine (htrain i).2 ⟨hi, fun g hg => ⟨?_, ?_⟩⟩
      · exact Bool.eq_false_of_not_eq_true fun hover => hfree ⟨g, hg, .inl hover⟩
      · exact Bool.eq_false_of_not_eq_true fun hemb => hfree ⟨g, hg, .inr hemb⟩
    exact hleak i hkept j hj hm
  · intro hcaught i hi j hj hm
    obtain ⟨hcand, hfree⟩ := (htrain i).1 hi
    obtain ⟨g, hg, hover | hemb⟩ := hcaught i hcand j hj hm
    · rw [(hfree g hg).1] at hover
      cases hover
    · rw [(hfree g hg).2] at hemb
      cases hemb

/-! ## A label that outlives its block -/

/-- Two groups, one of them to test on. -/
def twoGroups : CPCVConfig :=
  { nSplits := 2
    nTestSplits := 1
    nSplits_ge := le_refl _
    nTestSplits_pos := le_refl _
    nTestSplits_lt := by decide
    embargoPct_nonneg := by decide +kernel
    embargoPct_lt := by decide +kernel
    embargoBars_nonneg := by decide
    maxSplits_pos := by decide
    minTrainRatio_pos := by decide +kernel
    minTrainRatio_lt := by decide +kernel }

/-- The first of four labels stays open beyond the third. -/
def longLabel : TimeSeq := .labels [⟨0, 10⟩, ⟨1, 1⟩, ⟨5, 6⟩, ⟨20, 21⟩]

/-- The third label is trained on although the first one, a test sample, is open at the same time. -/
theorem not_leakless_longLabel :
    ¬ ∀ (cfg : CPCVConfig) (n : ℕ) (predTimes evalTimes : Option TimeSeq) (T : SampleTimes n),
      SampleTimes.coerce n predTimes evalTimes = .ok T → ∀ s ∈ (split cfg n predTimes evalTimes).1, s.Leakless T := by
  intro h
  have hleak : ∃ s ∈ (split twoGroups 4 (some longLabel) (some longLabel)).1, 2 ∈ s.trainIndices ∧ 0 ∈ s.testIndices := by
    decide +kernel
  obtain ⟨s, hs, htrain, htest⟩ := hleak
  have hmeets : (SampleTimes.coerce 4 (some longLabel) (some longLabel)).toOption.any (fun T => decide (T.Meets 2 0)) = true := by
    decide
  cases hT : SampleTimes.coerce 4 (some longLabel) (some longLabel) with
  | error exc =>
    rw [hT] at hmeets
    cases hmeets
  | ok T =>
    rw [hT] at hmeets
    exact h twoGroups 4 _ _ T hT s hs 2 htrain 0 htest (of_decide_eq_true hmeets)

/-- Four labels that are closed in the order they are opened in. -/
def queuedLabels : TimeSeq := .labels [⟨0, 2⟩, ⟨1, 3⟩, ⟨3, 5⟩, ⟨9, 10⟩]

/-- Labels that are closed in order: both folds are produced and neither leaks. -/
theorem leakless_queuedLabels :
    (split twoGroups 4 (some queuedLabels) (some queuedLabels)).1.length = 2 ∧
      ∀ s ∈ (split twoGroups 4 (some queuedLabels) (some queuedLabels)).1,
        ∀ T, SampleTimes.coerce 4 (some queuedLabels) (some queuedLabels) = .ok T → s.Leakless T := by
  refine ⟨by decide +kernel, fun s hs T hT => (leakless_iff hT hs).2 (caught_of_orderedWithin ?_)⟩
  have hordered : (SampleTimes.coerce 4 (some queuedLabels) (some queuedLabels)).toOption.all (fun T =>
      decide (∀ s ∈ (split twoGroups 4 (some queuedLabels) (some queuedLabels)).1, ∀ g ∈ s.testGroups,
        OrderedWithin twoGroups T g)) = true := by
    decide +kernel
  rw [hT] at hordered
  exact of_decide_eq_true hordered s hs

/-!
## The embargo after the test blocks

An embargo in bars is added to the time a test block ends at: a training sample is dropped when it starts at most so many units of
time after the block. These are bars only where the samples are one unit of time apart.
-/

/-! ### An embargo in bars -/

/-- How many bars the embargo lasts, where it is noted to be in bars. -/
def barEmbargo (cfg : CPCVConfig) (T : SampleTimes n) : Option ℤ :=
  match cfg.embargoBars with
  | some bars => some bars
  | none =>
    if T.integer ∧ T.start (n - 1) ≠ (n : ℚ) - 1 then none
    else some (max 1 (roundHalfEven (n * cfg.embargoPct)))

theorem embargoDuration_eq {h : ℤ} (hb : barEmbargo cfg T = some h) : embargoDuration cfg T = h := by
  unfold barEmbargo at hb
  unfold embargoDuration
  cases hbars : cfg.embargoBars with
  | some bars =>
    rw [hbars] at hb
    obtain rfl := Option.some.inj hb
    rfl
  | none =>
    rw [hbars] at hb
    dsimp only at hb ⊢
    split at hb
    · cases hb
    · rename_i hindex
      obtain rfl := Option.some.inj hb
      rw [if_neg hindex]
      push_cast
      rfl

theorem barEmbargo_nonneg {h : ℤ} (hb : barEmbargo cfg T = some h) : 0 ≤ h := by
  unfold barEmbargo at hb
  cases hbars : cfg.embargoBars with
  | some bars =>
    rw [hbars] at hb
    obtain rfl := Option.some.inj hb
    exact cfg.embargoBars_nonneg bars hbars
  | none =>
    rw [hbars] at hb
    dsimp only at hb
    split at hb
    · cases hb
    · obtain rfl := Option.some.inj hb
      exact (zero_le_one).trans (le_max_left _ _)

/-- The last sample of a group. -/
def lastSample (cfg : CPCVConfig) (n g : ℕ) : ℕ := (groupBlock cfg (n := n) g).getLastD 0

/-- Sample `i` is among the first `h` behind the block of a group. -/
def Follows (cfg : CPCVConfig) (n : ℕ) (h : ℤ) (g i : ℕ) : Prop :=
  lastSample cfg n g < i ∧ (i : ℤ) ≤ lastSample cfg n g + h

instance (h : ℤ) (g i : ℕ) : Decidable (Follows cfg n h g i) := inferInstanceAs (Decidable (_ ∧ _))

/-- None of the first `h` samples behind a test block is trained on. -/
def PurgedSplit.Embargoed (cfg : CPCVConfig) (n : ℕ) (h : ℤ) (s : PurgedSplit) : Prop :=
  ∀ g ∈ s.testGroups, ∀ i, Follows cfg n h g i → i ∉ s.trainIndices

/-- A sample starts at most `h` units of time after the end of a test block, and starts after that end or ends no earlier than the
block begins. -/
def StartsWithin (cfg : CPCVConfig) (T : SampleTimes n) (h : ℤ) (g i : ℕ) : Prop :=
  T.start i ≤ (testInterval cfg T g).2 + h ∧ ((testInterval cfg T g).2 < T.start i ∨ (testInterval cfg T g).1 ≤ T.stop i)

instance (h : ℤ) (g i : ℕ) : Decidable (StartsWithin cfg T h g i) := inferInstanceAs (Decidable (_ ∧ _))

/-- Every sample of the training groups among the first `h` behind a test block starts within `h` units of time of one. -/
def BarsInTime (cfg : CPCVConfig) (T : SampleTimes n) (h : ℤ) (testGroups : List ℕ) : Prop :=
  ∀ g ∈ testGroups, ∀ i ∈ samplesOf cfg (n := n) (trainGroups cfg testGroups), Follows cfg n h g i →
    ∃ g' ∈ testGroups, StartsWithin cfg T h g' i

/-- A test interval drops a sample exactly when the sample starts within the embargo of it. -/
theorem startsWithin_iff {h : ℤ} {g i : ℕ} (hb : barEmbargo cfg T = some h) :
    StartsWithin cfg T h g i ↔ overlapsInterval T i (testInterval cfg T g) = true ∨
    inEmbargo cfg T i (testInterval cfg T g) = true := by
  have hh : (0 : ℚ) ≤ h := by exact_mod_cast barEmbargo_nonneg hb
  simp only [StartsWithin, overlapsInterval, inEmbargo, embargoDuration_eq hb, decide_eq_true_eq]
  constructor
  · rintro ⟨hle, hafter | hends⟩
    · exact .inr ⟨hafter, hle⟩
    · rcases le_or_gt (T.start i) (testInterval cfg T g).2 with hover | hafter
      · exact .inl ⟨hover, hends⟩
      · exact .inr ⟨hafter, hle⟩
  · rintro (⟨hover, hends⟩ | ⟨hafter, hle⟩)
    · exact ⟨hover.trans (le_add_of_nonneg_right hh), .inr hends⟩
    · exact ⟨hle, .inl hafter⟩

/-- An embargo in bars keeps that many samples behind the test blocks out of the training set exactly when each of them starts
within as many units of time of a test block. -/
theorem embargoed_iff {predTimes evalTimes : Option TimeSeq} {h : ℤ} {s : PurgedSplit}
    (hT : SampleTimes.coerce n predTimes evalTimes = .ok T) (hb : barEmbargo cfg T = some h)
    (hs : s ∈ (split cfg n predTimes evalTimes).1) :
    s.Embargoed cfg n h ↔ BarsInTime cfg T h s.testGroups := by
  obtain ⟨idx, combo, -, hfold⟩ := mem_split hT hs
  obtain ⟨hgroups, -, htrain⟩ := foldSplit_spec hfold
  unfold PurgedSplit.Embargoed BarsInTime
  rw [hgroups]
  constructor
  · intro hemb g hg i hi hfollows
    by_contra hfree
    refine hemb g hg i hfollows ((htrain i).2 ⟨hi, fun g' hg' => ?_⟩)
    have hnot : ¬ StartsWithin cfg T h g' i := fun hwithin => hfree ⟨g', hg', hwithin⟩
    rw [startsWithin_iff hb, not_or, Bool.not_eq_true, Bool.not_eq_true] at hnot
    exact hnot
  · intro hin g hg i hfollows hkept
    obtain ⟨hi, hfree⟩ := (htrain i).1 hkept
    obtain ⟨g', hg', hwithin⟩ := hin g hg i hi hfollows
    rw [startsWithin_iff hb, (hfree g' hg').1, (hfree g' hg').2] at hwithin
    rcases hwithin with h1 | h1 <;> cases h1

/-! ### Bars that are more than a unit of time apart -/

/-- Two groups, one of them to test on, and an embargo of one bar. -/
def oneBarEmbargo : CPCVConfig :=
  { twoGroups with
    embargoBars := some 1
    embargoBars_nonneg := by decide }

/-- Four samples with ten units of time between them. -/
def spacedTimes : TimeSeq := .numbers [0, 10, 20, 30] true

/-- The sample right behind a test block is trained on under an embargo of one bar. -/
theorem not_embargoed_spacedTimes :
    ¬ ∀ (cfg : CPCVConfig) (n : ℕ) (predTimes evalTimes : Option TimeSeq) (T : SampleTimes n) (h : ℤ),
      cfg.forwardChaining = false → cfg.embargoBars = some h → SampleTimes.coerce n predTimes evalTimes = .ok T →
        ∀ s ∈ (split cfg n predTimes evalTimes).1, s.Embargoed cfg n h := by
  intro h
  have hkept : ∃ s ∈ (split oneBarEmbargo 4 (some spacedTimes) (some spacedTimes)).1,
      0 ∈ s.testGroups ∧ Follows oneBarEmbargo 4 1 0 2 ∧ 2 ∈ s.trainIndices := by
    decide +kernel
  obtain ⟨s, hs, htest, hfollows, htrain⟩ := hkept
  cases hT : SampleTimes.coerce 4 (some spacedTimes) (some spacedTimes) with
  | error exc =>
    have hok : (SampleTimes.coerce 4 (some spacedTimes) (some spacedTimes)).toOption.isSome = true := by decide
    rw [hT] at hok
    cases hok
  | ok T => exact h oneBarEmbargo 4 _ _ T 1 rfl rfl hT s hs 0 htest 2 hfollows htrain

/-- Four samples that are numbered: both folds are produced, and the embargo of one bar is one bar. -/
theorem embargoed_numbered :
    (split oneBarEmbargo 4 none none).1.length = 2 ∧
      ∀ s ∈ (split oneBarEmbargo 4 none none).1, s.Embargoed oneBarEmbargo 4 1 := by
  refine ⟨by decide +kernel, fun s hs => ?_⟩
  obtain ⟨T, hT⟩ : ∃ T, SampleTimes.coerce 4 none none = .ok T := ⟨_, rfl⟩
  refine (embargoed_iff hT rfl hs).2 ?_
  have hin : (SampleTimes.coerce 4 none none).toOption.all (fun T =>
      decide (∀ s ∈ (split oneBarEmbargo 4 none none).1, ∀ g ∈ s.testGroups,
        ∀ i ∈ samplesOf oneBarEmbargo (n := 4) (trainGroups oneBarEmbargo s.testGroups), Follows oneBarEmbargo 4 1 g i →
          ∃ g' ∈ s.testGroups, StartsWithin oneBarEmbargo T 1 g' i)) = true := by
    decide +kernel
  rw [hT] at hin
  exact of_decide_eq_true hin s hs

end Quant
