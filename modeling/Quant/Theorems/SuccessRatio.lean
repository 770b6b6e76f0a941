import Quant.Theorems.Lineage

/-!
# The success ratio of a generation

`offspring_to_parent` keeps the ids of the children beside the ids the evaluator gave them, so each new id is one more offspring
in the ratio and no more success.
-/

namespace Quant

open Pylib

namespace GenerationalLifecycleEngine

variable {χ : Type}

/-! ## The ids in the table -/

/-- The mutation writes a parent down for children only. -/
theorem contains_of_mutateOffspring {fns : LifecycleFns χ} {sigma : ℚ} {t : ℕ} {repro : OffspringResult χ}
    {currentChromosomes : Dict String χ} {k : String} :
    (mutateOffspring fns sigma t repro currentChromosomes).2.contains k = true →
      (mutateOffspring fns sigma t repro currentChromosomes).1.contains k = true := by
  unfold mutateOffspring
  refine List.foldlRecOn (motive := fun maps : Dict String χ × Dict String String =>
    maps.2.contains k = true → maps.1.contains k = true) _ _ id ?_
  intro maps ih x _ hk
  unfold mutateChild at hk ⊢
  rw [Dict.contains_set]
  split at hk
  · rw [Dict.contains_set] at hk
    exact hk.imp_right ih
  · exact .inr (ih hk)

/-- The ids of the evaluator are taken over where they are new. -/
theorem contains_of_adoptIds {mutated : Dict String χ} {start joint : Dict String χ × Dict String String}
    {records : List CandidateFitness}
    (h : records.zipIdx.foldlM (adoptId mutated) start = .ok joint) :
    (∀ k, start.1.contains k = true → joint.1.contains k = true) ∧
      ∀ k, joint.2.contains k = true →
        start.2.contains k = true ∨ (∃ f ∈ records, f.candidateId = k) ∧ start.1.contains k = false := by
  induction records using List.reverseRecOn generalizing joint with
  | nil =>
    cases h
    exact ⟨fun _ hk => hk, fun _ hk => .inl hk⟩
  | append_singleton records f ih =>
    obtain ⟨mid, hmid, hlast⟩ := adoptIds_concat h
    obtain ⟨hgrows, hids⟩ := ih hmid
    have hold : ∀ k, mid.2.contains k = true →
        start.2.contains k = true ∨ (∃ g ∈ records ++ [f], g.candidateId = k) ∧ start.1.contains k = false := by
      intro k hk
      refine (hids k hk).imp_right ?_
      rintro ⟨⟨g, hg, hid⟩, hout⟩
      exact ⟨⟨g, List.mem_append_left _ hg, hid⟩, hout⟩
    obtain ⟨-, rfl⟩ | ⟨hnew, oldId, chrom, -, -, hchroms, hparents⟩ := adoptId_ok hlast
    · exact ⟨hgrows, hold⟩
    · refine ⟨fun k hk => ?_, fun k hk => ?_⟩
      · rw [hchroms, Dict.contains_set]
        exact .inr (hgrows k hk)
      · rw [hparents] at hk
        cases hparent : mid.2.get? oldId with
        | none =>
          rw [hparent] at hk
          exact hold k hk
        | some parentId =>
          rw [hparent, Option.map_some, Option.getD_some, Dict.contains_set] at hk
          obtain rfl | hk := hk
          · refine .inr ⟨⟨f, by simp, rfl⟩, Bool.eq_false_iff.2 fun hin => ?_⟩
            rw [hgrows _ hin] at hnew
            cases hnew
          · exact hold k hk

section Pool

variable {engine : GenerationalLifecycleEngine} {fns : LifecycleFns χ} {currentChromosomes : Dict String χ}
  {currentFitness : List CandidateFitness} {currentState : GenerationalState}
  {evaluator : Option (Dict String χ → List CandidateFitness)} {offspringFitness : Option (List CandidateFitness)}
  {pool : JointPool χ}

theorem keys_mutatedOffspringMap
    (h : engine.formPool fns currentChromosomes currentFitness currentState evaluator offspringFitness = .ok pool) :
    pool.mutatedOffspringMap.keys = (List.range currentChromosomes.items.length).map
    (childId (currentState.generationIndex + 1)) := by
  obtain ⟨hlen, -, lineage, hspec, -⟩ := spec_of_formPool h
  rw [hspec.keys, hlen]

/-- The table holds the children, and of the records of the evaluator those with an id that is not of the population. -/
theorem contains_offspringToParent
    (h : engine.formPool fns currentChromosomes currentFitness currentState evaluator offspringFitness = .ok pool) (k : String) :
    pool.offspringToParent.contains k = true ↔ pool.mutatedOffspringMap.contains k = true ∨
      k ∈ pool.evaluatedOffspring.map (·.candidateId) ∧ currentChromosomes.contains k = false := by
  obtain ⟨hchildren, hrenamed⟩ := offspringToParent_of_formPool h
  obtain ⟨hlen, hpairs, -⟩ := spec_of_formPool h
  obtain ⟨-, -, ranking, -, hrepro, hevaluated, -, maps, hmaps, hmutated, hadopt⟩ := formPool_ok h
  obtain ⟨-, -, -, -, -, -, helite, -⟩ := HypergamicConfig.reproduce_ok hrepro
  have hle := HypergamicConfig.length_eliteIds_le engine.hypergamicConfig ranking currentChromosomes.items.length
  rw [← helite] at hle
  have hchild : ∀ i < currentChromosomes.items.length,
      pool.offspringToParent.contains (childId (currentState.generationIndex + 1) i) = true := by
    intro i hi
    rw [Dict.contains, hchildren i hi, List.getElem?_eq_getElem (by rw [List.length_append, List.length_map]; omega)]
    rfl
  by_cases hmap : pool.mutatedOffspringMap.contains k = true
  · refine iff_of_true ?_ (.inl hmap)
    rw [← Dict.mem_keys_iff, keys_mutatedOffspringMap h] at hmap
    obtain ⟨i, hi, rfl⟩ := List.mem_map.1 hmap
    exact hchild i (List.mem_range.1 hi)
  · rw [or_iff_right hmap]
    rw [Bool.not_eq_true] at hmap
    constructor
    · intro hk
      obtain hk | ⟨⟨f, hf, hid⟩, hout⟩ := (contains_of_adoptIds hadopt).2 k hk
      · have hin := contains_of_mutateOffspring (hmaps ▸ hk)
        rw [← hmaps, ← hmutated, hmap] at hin
        cases hin
      · refine ⟨List.mem_map.2 ⟨f, hf, hid⟩, ?_⟩
        rw [Dict.contains_eq_false_iff, Dict.get?_update, Option.or_eq_none_iff] at hout
        exact (Dict.contains_eq_false_iff _ _).2 hout.2
    · rintro ⟨hk, hcurrent⟩
      rw [← (nodup_keys_firsts _ _).2] at hk
      obtain ⟨⟨f, i⟩, hf, rfl⟩ := List.mem_map.1 hk
      obtain ⟨hf, hfirst⟩ := List.mem_filter.1 hf
      have hget := List.mem_zipIdx_iff_getElem?.1 hf
      have hi : i < currentChromosomes.items.length :=
        length_of_evaluateOffspring hevaluated ▸ (List.getElem?_eq_some_iff.1 hget).1
      rw [Dict.contains, hrenamed i f hget hcurrent hmap ((firstOf_eq_true_iff _).1 hfirst)]
      exact hchild i hi

/-! ## Each offspring once -/

/-- The parent of the offspring a record is of: of the child its id names, or else of the child at its place. -/
def recordParent (nextGenIdx : ℕ) (pool : JointPool χ) (record : CandidateFitness × ℕ) : Option String :=
  if pool.mutatedOffspringMap.contains record.1.candidateId then pool.offspringToParent.get? record.1.candidateId
  else pool.offspringToParent.get? (childId nextGenIdx record.2)

/-- Whether the offspring a record is of improved on its parent. -/
def improves (nextGenIdx : ℕ) (pool : JointPool χ) (ranking : RankingResult) (record : CandidateFitness × ℕ) : Bool :=
  (recordParent nextGenIdx pool record).any (ranking.isSuccess record.1.candidateId)

/-- The number of offspring that improved on their parent. -/
def improvedCount (nextGenIdx : ℕ) (pool : JointPool χ) (ranking : RankingResult) : ℕ :=
  pool.evaluatedOffspring.zipIdx.countP (improves nextGenIdx pool ranking)

/-- Whether a record is the first with its id. -/
def isFirst (pool : JointPool χ) (record : CandidateFitness × ℕ) : Bool := firstOf (·.candidateId) pool.evaluatedOffspring record

/-- Whether an id is of an individual of the population and of no child. -/
def isOfPopulation (currentChromosomes : Dict String χ) (pool : JointPool χ) (cid : String) : Bool :=
  currentChromosomes.contains cid && !pool.mutatedOffspringMap.contains cid

/-- Whether an id is the evaluator's own. -/
def isNew (currentChromosomes : Dict String χ) (pool : JointPool χ) (cid : String) : Bool :=
  !currentChromosomes.contains cid && !pool.mutatedOffspringMap.contains cid

/-- The number of ids that are the evaluator's own. -/
def newIdCount (currentChromosomes : Dict String χ) (pool : JointPool χ) : ℕ :=
  pool.evaluatedOffspring.zipIdx.countP fun record => isFirst pool record && isNew currentChromosomes pool record.1.candidateId

/-- The number of offspring that improved under the id of an earlier record or of an individual of the population. -/
def sharedIdCount (nextGenIdx : ℕ) (currentChromosomes : Dict String χ) (pool : JointPool χ) (ranking : RankingResult) : ℕ :=
  pool.evaluatedOffspring.zipIdx.countP fun record =>
    improves nextGenIdx pool ranking record &&
      !(isFirst pool record && !isOfPopulation currentChromosomes pool record.1.candidateId)

/-- Whether what an id is ranked at counts as a success against the parent in the table. -/
def succeeds (pool : JointPool χ) (ranking : RankingResult) (cid : String) : Bool :=
  (pool.offspringToParent.get? cid).any (ranking.isSuccess cid)

/-- The number of children whose id no record has and that count as a success. -/
def staleCount (pool : JointPool χ) (ranking : RankingResult) : ℕ :=
  pool.mutatedOffspringMap.keys.countP fun cid => succeeds pool ranking cid && cid ∉ pool.evaluatedOffspring.map (·.candidateId)

/-- The ids of the records, each once. -/
def recordIds (pool : JointPool χ) : List String := (pool.evaluatedOffspring.zipIdx.filter (isFirst pool)).map (·.1.candidateId)

theorem nodup_recordIds (pool : JointPool χ) : (recordIds pool).Nodup :=
  (nodup_keys_firsts (fun f : CandidateFitness => f.candidateId) _).1

theorem mem_recordIds (pool : JointPool χ) (cid : String) :
    cid ∈ recordIds pool ↔ cid ∈ pool.evaluatedOffspring.map (·.candidateId) :=
  (nodup_keys_firsts (fun f : CandidateFitness => f.candidateId) _).2 cid

/-- Counting the ids of the records is counting the records that are the first with their id. -/
theorem countP_recordIds (pool : JointPool χ) (p : String → Bool) :
    (recordIds pool).countP p = pool.evaluatedOffspring.zipIdx.countP fun record => isFirst pool record &&
    p record.1.candidateId := by
  rw [recordIds, List.countP_map, List.countP_filter]
  exact List.countP_congr fun record _ => by simp [and_comm]

theorem contains_of_succeeds {ranking : RankingResult} {cid : String} (h : succeeds pool ranking cid = true) :
    pool.offspringToParent.contains cid = true := by
  unfold succeeds at h
  cases hparent : pool.offspringToParent.get? cid with
  | none =>
    rw [hparent] at h
    cases h
  | some parentId => rw [Dict.contains, hparent, Option.isSome_some]

/-- Two shares of different totals, where the counts differ by what the balance says. -/
theorem share_eq_iff {n r s e k d : ℕ} (hsum : s + d = e + k) (he : e ≤ n) (hr : r ≤ n) :
    (s : ℚ) / ((n + r : ℕ) : ℚ) = (e : ℚ) / n ↔ n * k = r * e + n * d := by
  obtain rfl | hn := Nat.eq_zero_or_pos n
  · obtain rfl := Nat.le_zero.1 he
    obtain rfl := Nat.le_zero.1 hr
    simp
  · have hn' : (n : ℚ) ≠ 0 := Nat.cast_ne_zero.2 hn.ne'
    have hr' : ((n + r : ℕ) : ℚ) ≠ 0 := Nat.cast_ne_zero.2 (Nat.add_pos_left hn r).ne'
    rw [div_eq_div_iff hr' hn', ← Nat.cast_mul, ← Nat.cast_mul, Nat.cast_inj]
    have hprod : s * n + d * n = e * n + k * n := by rw [← Nat.add_mul, hsum, Nat.add_mul]
    rw [Nat.mul_add, Nat.mul_comm n k, Nat.mul_comm n d, Nat.mul_comm r e]
    omega

theorem balanced_iff {n r e d : ℕ} (he : e ≤ n) (hd : d ≤ e) : n * 0 = r * e + n * d ↔ e = 0 ∨ r = 0 ∧ d = 0 := by
  rw [Nat.mul_zero, eq_comm, Nat.add_eq_zero_iff, Nat.mul_eq_zero, Nat.mul_eq_zero]
  omega

/-- A condition splits a count. -/
theorem countP_split {α : Type} (l : List α) (p q : α → Bool) :
    l.countP p = (l.countP fun x => p x && q x) + l.countP fun x => p x && !q x := by
  rw [List.countP_eq_length_filter, List.length_eq_countP_add_countP q, List.countP_filter, List.countP_filter]
  refine congrArg₂ (· + ·) (List.countP_congr fun x _ => ?_) (List.countP_congr fun x _ => ?_) <;> simp [and_comm]

/-- Counting the keys of a dictionary is counting a list that has the same ones. -/
theorem countP_keys {ν : Type} (d : Dict String ν) {l : List String} (hl : l.Nodup) {p : String → Bool}
    (h : ∀ cid, p cid = true → (d.contains cid = true ↔ cid ∈ l)) : d.keys.countP p = l.countP p :=
  countP_eq_of_mem_iff d.nodup_keys hl fun cid hcid => (Dict.mem_keys_iff d cid).trans (h cid hcid)

/-- The successes the ratio counts are those in the table. -/
theorem successes_eq (ranking : RankingResult) :
    (pool.offspringToParent.items.filter fun p => ranking.isSuccess p.1 p.2).length =
      pool.offspringToParent.keys.countP (succeeds pool ranking) := by
  rw [← List.countP_eq_length_filter, Dict.keys, List.countP_map]
  refine List.countP_congr fun p hp => ?_
  rw [Function.comp_apply, succeeds, (Dict.mem_items_iff _ p.1 p.2).1 hp, Option.any_some]

theorem computeApdSuccessRatio_eq (ranking : RankingResult) :
    ranking.computeApdSuccessRatio pool.offspringToParent =
      (pool.offspringToParent.keys.countP (succeeds pool ranking) : ℚ) / pool.offspringToParent.items.length := by
  rw [RankingResult.computeApdSuccessRatio, successes_eq]
  split_ifs with hempty
  · rw [hempty, List.length_nil, Nat.cast_zero, div_zero]
  · rfl

/-- The success ratio is the share of the offspring evaluated that improved on their parent. -/
def CountsEachOnce (nextGenIdx : ℕ) (pool : JointPool χ) (ranking : RankingResult) : Prop :=
  ranking.computeApdSuccessRatio pool.offspringToParent =
    (improvedCount nextGenIdx pool ranking : ℚ) / pool.evaluatedOffspring.length

theorem sharedIdCount_le (nextGenIdx : ℕ) (ranking : RankingResult) :
    sharedIdCount nextGenIdx currentChromosomes pool ranking ≤ improvedCount nextGenIdx pool ranking := by
  refine List.countP_mono_left fun record _ hshared => ?_
  rw [Bool.and_eq_true] at hshared
  exact hshared.1

variable (h : engine.formPool fns currentChromosomes currentFitness currentState evaluator offspringFitness = .ok pool)
include h

/-- The table has an item for each child and one for each new id. -/
theorem length_offspringToParent :
    pool.offspringToParent.items.length = pool.evaluatedOffspring.length + newIdCount currentChromosomes pool := by
  obtain ⟨-, -, ranking, -, -, hevaluated, -⟩ := formPool_ok h
  have hmem := contains_offspringToParent h
  have hsplit := List.length_eq_countP_add_countP pool.mutatedOffspringMap.contains (l := pool.offspringToParent.keys)
  have hchildren : pool.offspringToParent.keys.countP pool.mutatedOffspringMap.contains = pool.evaluatedOffspring.length := by
    have hall : pool.mutatedOffspringMap.keys.countP pool.mutatedOffspringMap.contains = pool.mutatedOffspringMap.keys.length :=
      List.countP_eq_length.2 fun cid hcid => (Dict.mem_keys_iff _ cid).1 hcid
    rw [countP_keys pool.offspringToParent pool.mutatedOffspringMap.nodup_keys, hall, keys_mutatedOffspringMap h, List.length_map,
      List.length_range, length_of_evaluateOffspring hevaluated]
    intro cid hcid
    exact iff_of_true ((hmem cid).2 (.inl hcid)) ((Dict.mem_keys_iff _ cid).2 hcid)
  have hnew : (pool.offspringToParent.keys.countP fun cid => ¬ pool.mutatedOffspringMap.contains cid = true) =
      newIdCount currentChromosomes pool := by
    rw [newIdCount, ← countP_recordIds, ← countP_keys pool.offspringToParent (nodup_recordIds pool)]
    · refine List.countP_congr fun cid hcid => ?_
      have hin := (hmem cid).1 ((Dict.mem_keys_iff _ cid).1 hcid)
      rw [decide_eq_true_iff, isNew, Bool.and_eq_true, Bool.not_eq_true', Bool.not_eq_true']
      constructor
      · intro hchild
        exact ⟨(hin.resolve_left hchild).2, Bool.eq_false_iff.2 hchild⟩
      · rintro ⟨-, hchild⟩
        exact Bool.eq_false_iff.1 hchild
    · intro cid hcid
      rw [isNew, Bool.and_eq_true, Bool.not_eq_true', Bool.not_eq_true'] at hcid
      rw [hmem, mem_recordIds, hcid.1, hcid.2]
      simp
  rw [← hchildren, ← hnew, ← hsplit, Dict.keys, List.length_map]

/-- The first record with an id improved exactly where the id succeeds, unless it is of the population. -/
theorem succeeds_of_first (ranking : RankingResult) {record : CandidateFitness × ℕ}
    (hrecord : record ∈ pool.evaluatedOffspring.zipIdx)
    (hfirst : isFirst pool record = true) :
    succeeds pool ranking record.1.candidateId =
      (improves (currentState.generationIndex + 1) pool ranking record &&
        !isOfPopulation currentChromosomes pool record.1.candidateId) := by
  obtain ⟨-, hrenamed⟩ := offspringToParent_of_formPool h
  unfold improves recordParent isOfPopulation
  cases hchild : pool.mutatedOffspringMap.contains record.1.candidateId with
  | true => simp [succeeds]
  | false =>
    cases hcurrent : currentChromosomes.contains record.1.candidateId with
    | true =>
      have hout : pool.offspringToParent.contains record.1.candidateId = false := by
        rw [Bool.eq_false_iff, Ne, contains_offspringToParent h, hchild, hcurrent]
        simp
      rw [Dict.contains_eq_false_iff] at hout
      simp [succeeds, hout]
    | false =>
      rw [if_neg (by simp), succeeds, hrenamed record.2 record.1 (List.mem_zipIdx_iff_getElem?.1 hrecord) hcurrent hchild
        ((firstOf_eq_true_iff _).1 hfirst)]
      simp

/-- The ratio counts the offspring that improved, less those that share an id and more those whose id has gone stale. -/
theorem successes_add_sharedIdCount (ranking : RankingResult) :
    pool.offspringToParent.keys.countP (succeeds pool ranking) +
        sharedIdCount (currentState.generationIndex + 1) currentChromosomes pool ranking =
      improvedCount (currentState.generationIndex + 1) pool ranking + staleCount pool ranking := by
  have hmem := contains_offspringToParent h
  have hstale : (pool.offspringToParent.keys.countP fun cid =>
      succeeds pool ranking cid && !decide (cid ∈ pool.evaluatedOffspring.map (·.candidateId))) = staleCount pool ranking := by
    have hiff : ∀ cid, (succeeds pool ranking cid && !decide (cid ∈ pool.evaluatedOffspring.map (·.candidateId))) = true →
        (pool.offspringToParent.contains cid = true ↔ cid ∈ pool.mutatedOffspringMap.keys) := by
      intro cid hcid
      rw [Bool.and_eq_true, Bool.not_eq_true', decide_eq_false_iff_not] at hcid
      rw [hmem, Dict.mem_keys_iff, or_iff_left fun hnew => hcid.2 hnew.1]
    rw [countP_keys pool.offspringToParent pool.mutatedOffspringMap.nodup_keys hiff, staleCount]
    simp only [decide_not]
  have hcounted : (pool.offspringToParent.keys.countP fun cid =>
      succeeds pool ranking cid && decide (cid ∈ pool.evaluatedOffspring.map (·.candidateId))) =
      pool.evaluatedOffspring.zipIdx.countP fun record => improves (currentState.generationIndex + 1) pool ranking record &&
        (isFirst pool record && !isOfPopulation currentChromosomes pool record.1.candidateId) := by
    rw [countP_keys pool.offspringToParent (nodup_recordIds pool), countP_recordIds]
    · refine List.countP_congr fun record hrecord => ?_
      have hid : record.1.candidateId ∈ pool.evaluatedOffspring.map (·.candidateId) :=
        List.mem_map_of_mem (List.fst_mem_of_mem_zipIdx hrecord)
      rw [decide_eq_true hid, Bool.and_true, Bool.and_left_comm]
      cases hfirst : isFirst pool record with
      | false => simp
      | true => rw [Bool.true_and, Bool.true_and, succeeds_of_first h ranking hrecord hfirst]
    · intro cid hcid
      rw [Bool.and_eq_true, decide_eq_true_iff] at hcid
      exact iff_of_true (contains_of_succeeds hcid.1) ((mem_recordIds pool cid).2 hcid.2)
  rw [countP_split _ _ fun cid => decide (cid ∈ pool.evaluatedOffspring.map (·.candidateId)), hstale, hcounted, improvedCount,
    sharedIdCount, countP_split _ (improves _ _ _) fun record =>
      isFirst pool record && !isOfPopulation currentChromosomes pool record.1.candidateId]
  omega

/-- Each offspring counts once exactly where the stale successes make up for the new ids and the shared ones. Where there are no
stale successes, that is where no offspring improved or no id is new and no offspring that improved shares one. -/
theorem countsEachOnce_iff (ranking : RankingResult) :
    (CountsEachOnce (currentState.generationIndex + 1) pool ranking ↔
      pool.evaluatedOffspring.length * staleCount pool ranking =
        newIdCount currentChromosomes pool * improvedCount (currentState.generationIndex + 1) pool ranking +
          pool.evaluatedOffspring.length * sharedIdCount (currentState.generationIndex + 1) currentChromosomes pool ranking) ∧
    (staleCount pool ranking = 0 → (CountsEachOnce (currentState.generationIndex + 1) pool ranking ↔
      improvedCount (currentState.generationIndex + 1) pool ranking = 0 ∨
        newIdCount currentChromosomes pool = 0 ∧
          sharedIdCount (currentState.generationIndex + 1) currentChromosomes pool ranking = 0)) := by
  have hsum := successes_add_sharedIdCount h ranking
  have hlen := length_offspringToParent h
  have hshared := @sharedIdCount_le χ currentChromosomes pool (currentState.generationIndex + 1) ranking
  have hle : improvedCount (currentState.generationIndex + 1) pool ranking ≤ pool.evaluatedOffspring.length :=
    List.countP_le_length.trans List.length_zipIdx.le
  have hle' : newIdCount currentChromosomes pool ≤ pool.evaluatedOffspring.length :=
    List.countP_le_length.trans List.length_zipIdx.le
  rw [CountsEachOnce, computeApdSuccessRatio_eq, hlen, share_eq_iff hsum hle hle']
  refine ⟨Iff.rfl, fun hstale => ?_⟩
  rw [hstale]
  exact balanced_iff hle hshared

end Pool

/-! ### A generation whose offspring all improve -/

/-- A candidate that an idle one dominates. -/
def weakCandidate (cid : String) : CandidateFitness := { idleCandidate true cid with dsr := 6 / 10, minimaxRegret := 1 }

/-- The first generation of two weak individuals up to the ranking of its pool, with an evaluator that finds every child better
than them and gives it a name of its own. -/
def strongGeneration (rename : String → String) :
    Except Exc (GenerationalState × GenerationalLifecycleEngine × JointPool (StrategyChromosome ℚ) × RankingResult) :=
  (initializeState {} idleFns (defaultPopulation ["a", "b"]) (["a", "b"].map weakCandidate) none).bind fun (state, engine) =>
    (engine.formPool idleFns (defaultPopulation ["a", "b"]) (["a", "b"].map weakCandidate) state
      (some fun mutated => idleFitness (mutated.keys.map rename)) none).bind fun pool =>
        (rankPopulation engine.sorter idleFns.reproduction.sqrt idleFns.jointScores pool.jointFitness).map fun ranking =>
          (state, engine, pool, ranking)

theorem strongGeneration_ok {rename : String → String} {β : Type}
    {f : GenerationalState × GenerationalLifecycleEngine × JointPool (StrategyChromosome ℚ) × RankingResult → β} {y : β}
    (h : (strongGeneration rename).map f = .ok y) :
    ∃ state engine pool ranking,
      initializeState {} idleFns (defaultPopulation ["a", "b"]) (["a", "b"].map weakCandidate) none = .ok (state, engine) ∧
      engine.formPool idleFns (defaultPopulation ["a", "b"]) (["a", "b"].map weakCandidate) state
        (some fun mutated => idleFitness (mutated.keys.map rename)) none = .ok pool ∧
      rankPopulation engine.sorter idleFns.reproduction.sqrt idleFns.jointScores pool.jointFitness = .ok ranking ∧
      f (state, engine, pool, ranking) = y := by
  obtain ⟨r, hr, hy⟩ := exists_of_map_ok h
  obtain ⟨⟨state, engine⟩, hinit, hr⟩ := exists_of_bind_ok hr
  obtain ⟨pool, hpool, hr⟩ := exists_of_bind_ok hr
  obtain ⟨ranking, hranking, rfl⟩ := exists_of_map_ok hr
  exact ⟨state, engine, pool, ranking, hinit, hpool, hranking, hy⟩

theorem ratio_renamed :
    (strongGeneration ("new_" ++ ·)).map (fun (state, _, pool, ranking) =>
      (ranking.computeApdSuccessRatio pool.offspringToParent, improvedCount (state.generationIndex + 1) pool ranking,
        pool.evaluatedOffspring.length)) = .ok (1 / 2, 2, 2) := by
  decide +kernel

/-- Both offspring improved, and under the names the evaluator gave them half of the table did. -/
theorem not_countsEachOnce_renamed :
    ∃ state engine pool ranking,
      initializeState {} idleFns (defaultPopulation ["a", "b"]) (["a", "b"].map weakCandidate) none = .ok (state, engine) ∧
      engine.formPool idleFns (defaultPopulation ["a", "b"]) (["a", "b"].map weakCandidate) state
        (some fun mutated => idleFitness (mutated.keys.map ("new_" ++ ·))) none = .ok pool ∧
      rankPopulation engine.sorter idleFns.reproduction.sqrt idleFns.jointScores pool.jointFitness = .ok ranking ∧
      ¬ CountsEachOnce (state.generationIndex + 1) pool ranking := by
  obtain ⟨state, engine, pool, ranking, hinit, hpool, hranking, hvalues⟩ := strongGeneration_ok ratio_renamed
  refine ⟨state, engine, pool, ranking, hinit, hpool, hranking, fun h => ?_⟩
  simp only [Prod.mk.injEq] at hvalues
  obtain ⟨hratio, himproved, hlen⟩ := hvalues
  rw [CountsEachOnce, hratio, himproved, hlen] at h
  revert h
  decide +kernel

theorem counts_unchanged :
    (strongGeneration id).map (fun (state, _, pool, ranking) =>
      (staleCount pool ranking, newIdCount (defaultPopulation ["a", "b"]) pool,
        sharedIdCount (state.generationIndex + 1) (defaultPopulation ["a", "b"]) pool ranking)) = .ok (0, 0, 0) := by
  decide +kernel

/-- Where the evaluator keeps the ids of the children, each counts once. -/
theorem countsEachOnce_unchanged :
    ∃ state engine pool ranking,
      initializeState {} idleFns (defaultPopulation ["a", "b"]) (["a", "b"].map weakCandidate) none = .ok (state, engine) ∧
      engine.formPool idleFns (defaultPopulation ["a", "b"]) (["a", "b"].map weakCandidate) state
        (some fun mutated => idleFitness (mutated.keys.map id)) none = .ok pool ∧
      rankPopulation engine.sorter idleFns.reproduction.sqrt idleFns.jointScores pool.jointFitness = .ok ranking ∧
      CountsEachOnce (state.generationIndex + 1) pool ranking := by
  obtain ⟨state, engine, pool, ranking, hinit, hpool, hranking, hvalues⟩ := strongGeneration_ok counts_unchanged
  simp only [Prod.mk.injEq] at hvalues
  obtain ⟨hstale, hnew, hshared⟩ := hvalues
  exact ⟨state, engine, pool, ranking, hinit, hpool, hranking,
    ((countsEachOnce_iff hpool ranking).2 hstale).2 (.inr ⟨hnew, hshared⟩)⟩

end GenerationalLifecycleEngine

end Quant
