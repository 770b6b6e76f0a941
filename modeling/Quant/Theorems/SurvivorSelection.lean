import Quant.Pylib.Runs
import Quant.Theorems.Lineage

/-!
# Survivor selection

The survivors are the first of one order of the pool: its fronts one after the other, each by its scores, and then the infeasible
candidates. Where the ids of a pool are different, an id names one individual throughout; a generation whose children take the ids
of parents breaks this, which happens after a population was initialized again.
-/

namespace Quant

open Pylib

/-! ## What the sort keeps -/

namespace DependentNonDominatedSorter

variable {p : DependentNonDominatedSorter} {sqrt : ℚ → ℚ} {n : ℕ} {candidates : Fin n → CandidateFitness}
  {objectiveMatrix : Fin n → ObjectiveRow}

theorem place_perm {i : Fin n} {fronts fronts' : List (List (Fin n))}
    (h : p.place sqrt candidates objectiveMatrix i fronts = .ok fronts') :
    fronts'.flatten.Perm (i :: fronts.flatten) := by
  induction fronts generalizing fronts' with
  | nil =>
    cases h
    exact .refl _
  | cons front fronts ih =>
    rw [place] at h
    split at h
    · cases h
    · cases hrest : p.place sqrt candidates objectiveMatrix i fronts with
      | error exc =>
        rw [hrest] at h
        cases h
      | ok rest =>
        rw [hrest] at h
        cases h
        exact ((ih hrest).append_left front).trans List.perm_middle
    · cases h
      rw [List.flatten_cons, List.flatten_cons, List.append_assoc]
      exact List.perm_middle

theorem assignFronts_perm {order : List (Fin n)} {fronts fronts' : List (List (Fin n))}
    (h : p.assignFronts sqrt candidates objectiveMatrix fronts order = .ok fronts') : fronts'.flatten.Perm
    (fronts.flatten ++ order) := by
  induction order generalizing fronts with
  | nil =>
    cases h
    rw [List.append_nil]
  | cons i order ih =>
    rw [assignFronts] at h
    split at h
    · cases h
    · rename_i next hnext
      refine (ih h).trans (((place_perm hnext).append_right order).trans ?_)
      exact List.perm_middle.symm

/-- The fronts hold the candidates that qualify, and the others are set apart. -/
theorem sort_perm {fronts : List (List (Fin n))} {infeasible : List (Fin n)}
    (h : p.sort sqrt candidates objectiveMatrix = .ok (fronts, infeasible)) :
    fronts.flatten.Perm ((List.finRange n).filter fun i => qualifies (candidates i)) ∧
      infeasible = (List.finRange n).filter fun i => ¬ qualifies (candidates i) := by
  unfold sort at h
  dsimp only at h
  split at h
  · rename_i hnone
    cases h
    rw [hnone]
    exact ⟨.refl _, rfl⟩
  · cases hfronts : p.assignFronts sqrt candidates objectiveMatrix []
        (((List.finRange n).filter fun i => qualifies (candidates i)).insertionSort
          fun i j => (objectiveMatrix i).negDsr ≤ (objectiveMatrix j).negDsr) with
    | error exc =>
      rw [hfronts] at h
      cases h
    | ok assigned =>
      rw [hfronts] at h
      cases h
      exact ⟨(assignFronts_perm hfronts).trans (List.perm_insertionSort _ _), rfl⟩

end DependentNonDominatedSorter

/-! ## The order of a ranking -/

namespace RankingResult

/-- The ranked ids with their rank and score, in order. -/
def entries (ranking : RankingResult) : List (String × (ℕ × ℚ)) :=
  ranking.fronts.flatMap fun front => (front.candidateIds.zip front.apdScores).map fun p => (p.1, (front.rank, p.2))

theorem candidateMeta_eq (ranking : RankingResult) :
    ranking.candidateMeta = (∅ : Dict String (ℕ × ℚ)).setAll ranking.entries := by
  have hfold : ∀ (fronts : List ParetoFront) (d : Dict String (ℕ × ℚ)),
      fronts.foldl (fun d front => (front.candidateIds.zip front.apdScores).foldl (fun d p => d.set p.1 (front.rank, p.2)) d) d =
        d.setAll (fronts.flatMap fun front => (front.candidateIds.zip front.apdScores).map fun p => (p.1,
        (front.rank, p.2))) := by
    intro fronts
    induction fronts with
    | nil => exact fun d => rfl
    | cons front fronts ih =>
      intro d
      rw [List.foldl_cons, ih, List.flatMap_cons, Dict.setAll, Dict.setAll, List.foldl_append, List.foldl_map]
  exact hfold ranking.fronts ∅

/-- One id is ranked worse than another: the other is in an earlier front, or in the same one with a smaller score, or this one is
in none. -/
def RankedWorse (ranking : RankingResult) (x y : String) : Prop :=
  match ranking.candidateMeta.get? y, ranking.candidateMeta.get? x with
  | none, _ => False
  | some _, none => True
  | some (rankY, apdY), some (rankX, apdX) => rankY < rankX ∨ rankY = rankX ∧ apdY < apdX

end RankingResult

section Ranking

variable (scores : RankingScores) (candidates : List CandidateFitness)

/-- The indices of fronts in the order of the ranking, each with its rank. -/
def rankedIndices {n : ℕ} (fronts : List (List (Fin n))) (k : ℕ) : List (Fin n × ℕ) :=
  (fronts.zipIdx k).flatMap fun front => (sortedFront scores front.1).map fun i => (i, front.2)

theorem rankedIndices_perm {n : ℕ} (fronts : List (List (Fin n))) (k : ℕ) :
    ((rankedIndices scores fronts k).map Prod.fst).Perm fronts.flatten := by
  induction fronts generalizing k with
  | nil => exact .refl _
  | cons front fronts ih =>
    rw [rankedIndices, List.zipIdx_cons, List.flatMap_cons, List.map_append, List.map_map, List.flatten_cons]
    refine List.Perm.append ?_ (ih (k + 1))
    rw [show (Prod.fst ∘ fun i => (i, k)) = (id : Fin n → Fin n) from rfl, List.map_id]
    exact List.perm_insertionSort _ _

theorem rank_ge_of_mem {n : ℕ} {fronts : List (List (Fin n))} {k : ℕ} {q : Fin n × ℕ} (h : q ∈ rankedIndices scores fronts k) :
    k ≤ q.2 := by
  obtain ⟨front, hfront, hq⟩ := List.mem_flatMap.1 h
  obtain ⟨i, -, rfl⟩ := List.mem_map.1 hq
  exact (List.mem_zipIdx hfront).1

/-- Along the order of a ranking the ranks rise, and the scores within a rank. -/
theorem rankedIndices_pairwise {n : ℕ} (fronts : List (List (Fin n))) (k : ℕ) :
    (rankedIndices scores fronts k).Pairwise fun q q' => q.2 < q'.2 ∨ q.2 = q'.2 ∧ scores.apd q.1 ≤ scores.apd q'.1 := by
  induction fronts generalizing k with
  | nil => exact .nil
  | cons front fronts ih =>
    rw [rankedIndices, List.zipIdx_cons, List.flatMap_cons]
    refine List.pairwise_append.2 ⟨?_, ih (k + 1), ?_⟩
    · rw [List.pairwise_map]
      have hsorted : (sortedFront scores front).Pairwise fun i j : Fin n => scores.apd i ≤ scores.apd j := by
        have : Std.Total fun i j : Fin n => scores.apd i ≤ scores.apd j := ⟨fun i j => le_total _ _⟩
        have : IsTrans (Fin n) fun i j : Fin n => scores.apd i ≤ scores.apd j := ⟨fun i j l => le_trans⟩
        exact List.pairwise_insertionSort _ front
      exact hsorted.imp fun h => .inr ⟨rfl, h⟩
    · intro q hq q' hq'
      obtain ⟨i, -, rfl⟩ := List.mem_map.1 hq
      exact .inl (Nat.lt_of_succ_le (rank_ge_of_mem scores hq'))

variable {scores candidates} {sorter : DependentNonDominatedSorter} {sqrt : ℚ → ℚ} {ranking : RankingResult}

/-- What a ranking is made of. -/
theorem rankPopulation_ok (h : rankPopulation sorter sqrt scores candidates = .ok ranking) :
    ∃ fronts infeasible, sorter.sort sqrt candidates.get (rawObjectives scores candidates) = .ok (fronts, infeasible) ∧
      ranking.fronts = (fronts.zipIdx 1).map (fun front => paretoFront scores candidates front.1 front.2) ∧
      ranking.infeasibleIds = infeasible.map fun i => (candidates.get i).candidateId := by
  unfold rankPopulation at h
  split at h
  · cases h
  · cases hsort : sorter.sort sqrt candidates.get (rawObjectives scores candidates) with
    | error exc =>
      rw [hsort] at h
      cases h
    | ok r =>
      rw [hsort] at h
      cases h
      exact ⟨r.1, r.2, rfl, rfl, rfl⟩

theorem entries_eq {fronts : List (List (Fin candidates.length))} {k : ℕ}
    (h : ranking.fronts = (fronts.zipIdx k).map fun front => paretoFront scores candidates front.1 front.2) :
    ranking.entries = (rankedIndices scores fronts k).map fun q => ((candidates.get q.1).candidateId, (q.2, scores.apd q.1)) := by
  rw [RankingResult.entries, h, List.flatMap_map, rankedIndices, List.map_flatMap]
  refine List.flatMap_congr fun front _ => ?_
  simp only [paretoFront, List.zip_map', List.map_map, Function.comp_def]

theorem candidateIds_eq {fronts : List (List (Fin candidates.length))} {k : ℕ}
    (h : ranking.fronts = (fronts.zipIdx k).map fun front => paretoFront scores candidates front.1 front.2) :
    ranking.fronts.flatMap (·.candidateIds) = (rankedIndices scores fronts k).map fun q => (candidates.get q.1).candidateId := by
  rw [h, List.flatMap_map, rankedIndices, List.map_flatMap]
  refine List.flatMap_congr fun front _ => ?_
  simp only [paretoFront, List.map_map, Function.comp_def]

/-- The order in which a ranking lets its candidates survive. -/
def survivalOrder (ranking : RankingResult) : List String := ranking.fronts.flatMap (·.candidateIds) ++ ranking.infeasibleIds

/-- The order is of the whole pool, the candidates that qualify before the others. -/
theorem survivalOrder_spec (h : rankPopulation sorter sqrt scores candidates = .ok ranking) :
    ∃ feasible infeasible : List (Fin candidates.length),
      survivalOrder ranking = (feasible ++ infeasible).map (fun i => (candidates.get i).candidateId) ∧
      ranking.infeasibleIds = infeasible.map (fun i => (candidates.get i).candidateId) ∧
      (feasible ++ infeasible).Perm (List.finRange candidates.length) ∧
      (∀ i ∈ feasible, DependentNonDominatedSorter.qualifies (candidates.get i) = true) ∧
      ∀ i ∈ infeasible, DependentNonDominatedSorter.qualifies (candidates.get i) = false := by
  obtain ⟨fronts, infeasible, hsort, hfronts, hinfeasible⟩ := rankPopulation_ok h
  obtain ⟨hperm, hapart⟩ := DependentNonDominatedSorter.sort_perm hsort
  have hfeasible : ((rankedIndices scores fronts 1).map Prod.fst).Perm
      ((List.finRange candidates.length).filter fun i => DependentNonDominatedSorter.qualifies (candidates.get i)) :=
    (rankedIndices_perm scores fronts 1).trans hperm
  refine ⟨(rankedIndices scores fronts 1).map Prod.fst, infeasible, ?_, hinfeasible, ?_, fun i hi => ?_, fun i hi => ?_⟩
  · rw [survivalOrder, candidateIds_eq hfronts, hinfeasible, List.map_append, List.map_map]
    rfl
  · rw [hapart]
    refine (hfeasible.append_right _).trans ?_
    simpa using List.filter_append_perm (fun i => DependentNonDominatedSorter.qualifies (candidates.get i))
      (List.finRange candidates.length)
  · exact (List.mem_filter.1 (hfeasible.mem_iff.1 hi)).2
  · rw [hapart] at hi
    simpa using (List.mem_filter.1 hi).2

theorem survivalOrder_perm (h : rankPopulation sorter sqrt scores candidates = .ok ranking) :
    (survivalOrder ranking).Perm (candidates.map (·.candidateId)) := by
  obtain ⟨feasible, infeasible, horder, -, hperm, -⟩ := survivalOrder_spec h
  rw [horder]
  refine (hperm.map _).trans (.of_eq ?_)
  conv_rhs => rw [← List.map_get_finRange candidates, List.map_map]
  rfl

/-- Where ids are different, none in the order is ranked worse than a later one. -/
theorem survivalOrder_pairwise (h : rankPopulation sorter sqrt scores candidates = .ok ranking)
    (hn : (candidates.map (·.candidateId)).Nodup) : (survivalOrder ranking).Pairwise fun x y => ¬ ranking.RankedWorse x y := by
  obtain ⟨fronts, infeasible, hsort, hfronts, hinfeasible⟩ := rankPopulation_ok h
  have hnodup := (survivalOrder_perm h).nodup_iff.2 hn
  rw [survivalOrder, candidateIds_eq hfronts] at hnodup ⊢
  obtain ⟨hranked, -, hapart⟩ := List.nodup_append.1 hnodup
  have hkeys : (ranking.entries.map Prod.fst).Nodup := by
    rw [entries_eq hfronts, List.map_map]
    exact hranked
  have hmeta : ∀ cid, ranking.candidateMeta.get? cid = ranking.entries.lookup cid := by
    intro cid
    rw [RankingResult.candidateMeta_eq, Dict.get?_setAll _ hkeys]
    exact Option.or_none
  have hentry : ∀ q ∈ rankedIndices scores fronts 1,
      ranking.candidateMeta.get? (candidates.get q.1).candidateId = some (q.2, scores.apd q.1) := by
    intro q hq
    rw [hmeta]
    refine (Dict.mem_items_iff ⟨ranking.entries, hkeys⟩ _ _).1 ?_
    change _ ∈ ranking.entries
    rw [entries_eq hfronts]
    exact List.mem_map_of_mem hq
  have hnone : ∀ cid ∈ ranking.infeasibleIds, ranking.candidateMeta.get? cid = none := by
    intro cid hcid
    rw [hmeta]
    refine (Dict.get?_eq_none_iff_not_mem ⟨ranking.entries, hkeys⟩).2 fun hmem => ?_
    change cid ∈ ranking.entries.map Prod.fst at hmem
    rw [entries_eq hfronts, List.map_map] at hmem
    exact hapart _ hmem _ hcid rfl
  have hworse : ∀ x, ∀ y ∈ ranking.infeasibleIds, ¬ ranking.RankedWorse x y := by
    intro x y hy hxy
    rw [RankingResult.RankedWorse, hnone y hy] at hxy
    exact hxy
  refine List.pairwise_append.2 ⟨?_,
    List.pairwise_of_forall_mem_list fun x _ y hy => hworse x y hy, fun x _ y hy => hworse x y hy⟩
  rw [List.pairwise_map]
  refine (rankedIndices_pairwise scores fronts 1).imp_of_mem fun {q q'} hq hq' hle hxy => ?_
  rw [RankingResult.RankedWorse, hentry q hq, hentry q' hq'] at hxy
  rcases hle with hlt | ⟨heq, hle⟩
  · rcases hxy with hlt' | ⟨heq', -⟩
    · exact absurd hlt hlt'.not_gt
    · exact absurd heq' hlt.ne'
  · rcases hxy with hlt' | ⟨-, hlt'⟩
    · exact absurd heq hlt'.ne'
    · exact absurd hle hlt'.not_ge

/-- Where ids are different, an infeasible candidate is among the first of the order only behind all feasible ones. -/
theorem feasible_first (h : rankPopulation sorter sqrt scores candidates = .ok ranking)
    (hn : (candidates.map (·.candidateId)).Nodup)
    {n : ℕ} {f g : CandidateFitness} (hf : f ∈ candidates) (hg : g ∈ candidates)
    (hinf : DependentNonDominatedSorter.qualifies f = false) (hfeas : DependentNonDominatedSorter.qualifies g = true)
    (hin : f.candidateId ∈ (survivalOrder ranking).take n) : g.candidateId ∈ (survivalOrder ranking).take n := by
  obtain ⟨feasible, infeasible, horder, -, hperm, hqual, hapart⟩ := survivalOrder_spec h
  rw [horder, List.map_append] at hin ⊢
  have hout : f.candidateId ∉ feasible.map fun i => (candidates.get i).candidateId := by
    intro hmem
    obtain ⟨i, hi, hid⟩ := List.mem_map.1 hmem
    have heq := List.inj_on_of_nodup_map hn (List.get_mem candidates i) hf hid
    have := hqual i hi
    rw [heq, hinf] at this
    cases this
  have hlt : feasible.length < n := by
    by_contra hle
    rw [List.take_append_of_le_length (by rw [List.length_map]; exact not_lt.1 hle)] at hin
    exact hout (List.mem_of_mem_take hin)
  obtain ⟨i, rfl⟩ := List.mem_iff_get.1 hg
  rw [List.take_append, List.take_of_length_le (by rw [List.length_map]; exact hlt.le)]
  refine List.mem_append_left _ (List.mem_map.2 ⟨i, ?_, rfl⟩)
  refine (List.mem_append.1 (hperm.mem_iff.2 (List.mem_finRange i))).resolve_right fun hi => ?_
  have := hapart i hi
  rw [hfeas] at this
  cases this

end Ranking

namespace GenerationalLifecycleEngine

/-! ## The first of an order -/

theorem takeUpTo_eq {n : ℕ} {surviving : List String} (h : surviving.length < n) (cids : List String) :
    takeUpTo n surviving cids = surviving ++ cids.take (n - surviving.length) := by
  induction cids generalizing surviving with
  | nil => rw [takeUpTo, List.take_nil, List.append_nil]
  | cons cid cids ih =>
    rw [takeUpTo]
    have hlen : (surviving ++ [cid]).length = surviving.length + 1 := by rw [List.length_append, List.length_singleton]
    obtain ⟨k, hk⟩ := Nat.exists_eq_add_of_lt h
    have hsub : n - surviving.length = k + 1 := by omega
    rw [hsub, List.take_succ_cons]
    split
    · rename_i heq
      rw [show k = 0 by omega, List.take_zero]
    · rename_i hne
      rw [ih (by omega), List.append_assoc, hlen, show n - (surviving.length + 1) = k by omega]
      rfl

theorem takeFronts_eq {n : ℕ} {surviving : List String} (h : surviving.length < n) (fronts : List ParetoFront) :
    takeFronts n surviving fronts = surviving ++ (fronts.flatMap (·.candidateIds)).take (n - surviving.length) := by
  induction fronts generalizing surviving with
  | nil => rw [takeFronts, List.flatMap_nil, List.take_nil, List.append_nil]
  | cons front fronts ih =>
    rw [takeFronts, List.flatMap_cons, takeUpTo_eq h, List.take_append]
    have hlen : (surviving ++ front.candidateIds.take (n - surviving.length)).length =
        surviving.length + min (n - surviving.length) front.candidateIds.length := by
      rw [List.length_append, List.length_take]
    split
    · rename_i hfull
      rw [show n - surviving.length - front.candidateIds.length = 0 by omega, List.take_zero, List.append_nil]
    · rename_i hopen
      rw [ih (by omega), List.append_assoc, hlen,
        show n - (surviving.length + min (n - surviving.length) front.candidateIds.length) =
          n - surviving.length - front.candidateIds.length by omega]

/-- The survivors are the first of the order. -/
theorem survivingIds_eq {n : ℕ} (hn : 0 < n) (ranking : RankingResult) :
    survivingIds n ranking = (survivalOrder ranking).take n := by
  have hfronts : takeFronts n [] ranking.fronts = (ranking.fronts.flatMap (·.candidateIds)).take n := by
    rw [takeFronts_eq hn]
    rfl
  rw [survivingIds, survivalOrder, List.take_append, hfronts, List.length_take]
  split
  · rename_i hopen
    rw [takeUpTo_eq (by rw [List.length_take]; exact hopen), List.length_take,
      show n - min n (ranking.fronts.flatMap (·.candidateIds)).length =
        n - (ranking.fronts.flatMap (·.candidateIds)).length by omega]
  · rename_i hfull
    rw [show n - (ranking.fronts.flatMap (·.candidateIds)).length = 0 by omega, List.take_zero, List.append_nil]

/-! ## One generation -/

section Generation

variable {χ : Type} {engine : GenerationalLifecycleEngine} {fns : LifecycleFns χ}

theorem of_getItem_ok {ν : Type} {d : Dict String ν} {cid : String} {v : ν} (h : getItem d cid = .ok v) :
    d.get? cid = some v := by
  unfold getItem at h
  split at h
  · cases h
  · rename_i w hw
    cases h
    exact hw

theorem fields_of_create {f : GenerationalStateFields} {state : GenerationalState} (h : f.create = .ok state) :
    state.toGenerationalStateFields = f := by
  unfold GenerationalStateFields.create at h
  iterate 6
    obtain ⟨_, h⟩ := of_check_ok h
  cases h
  rfl

/-- What the selection of the survivors is made of. -/
theorem selectSurvivors_ok {currentState : GenerationalState} {n : ℕ} {pool : JointPool χ}
    {r : LifecycleStepResult χ × GenerationalLifecycleEngine} (h : engine.selectSurvivors fns currentState n pool = .ok r) :
    ∃ ranking chroms, rankPopulation engine.sorter fns.reproduction.sqrt fns.jointScores pool.jointFitness = .ok ranking ∧
      List.Forall₂ (fun cid f => ((∅ : Dict String CandidateFitness).upsert (·.candidateId) pool.jointFitness).get? cid = some f)
        (survivingIds n ranking) r.1.survivingFitness ∧
      List.Forall₂ (fun cid c => pool.jointChromosomes.get? cid = some c) (survivingIds n ranking) chroms ∧
      r.1.nextChromosomes = (∅ : Dict String χ).setAll ((survivingIds n ranking).zip chroms) ∧ r.1.state.populationSize = n := by
  unfold selectSurvivors at h
  obtain ⟨ranking, hranking, h⟩ := exists_of_bind_ok h
  obtain ⟨fitness, hfitness, h⟩ := exists_of_bind_ok h
  obtain ⟨chroms, hchroms, h⟩ := exists_of_bind_ok h
  obtain ⟨steps, -, h⟩ := exists_of_bind_ok h
  obtain ⟨report, -, h⟩ := exists_of_bind_ok h
  obtain ⟨state, hstate, h⟩ := exists_of_bind_ok h
  cases h
  exact ⟨ranking, chroms, hranking, (forall₂_of_mapM_ok hfitness).imp fun _ _ => of_getItem_ok,
    (forall₂_of_mapM_ok hchroms).imp fun _ _ => of_getItem_ok, rfl, congrArg GenerationalStateFields.populationSize
    (fields_of_create hstate)⟩

theorem initializeState_ok {chromosomes : Dict String χ} {fitness : List CandidateFitness} {initialStepSize : Option ℚ}
    {r : GenerationalState × GenerationalLifecycleEngine}
    (h : engine.initializeState fns chromosomes fitness initialStepSize = .ok r) :
    fitness.length = chromosomes.items.length ∧ (∀ f ∈ fitness, chromosomes.contains f.candidateId = true) ∧
      r.1.populationSize = chromosomes.items.length := by
  unfold initializeState at h
  dsimp only at h
  split at h
  · cases h
  · rename_i hlen
    split at h
    · cases h
    · rename_i hnone
      obtain ⟨ranking, -, h⟩ := exists_of_bind_ok h
      obtain ⟨report, -, h⟩ := exists_of_bind_ok h
      obtain ⟨state, hstate, h⟩ := exists_of_bind_ok h
      cases h
      refine ⟨not_not.1 hlen, fun f hf => ?_, congrArg GenerationalStateFields.populationSize (fields_of_create hstate)⟩
      simpa using List.find?_eq_none.1 hnone f hf

end Generation

end GenerationalLifecycleEngine

namespace Evolution

open GenerationalLifecycleEngine

variable {χ : Type}

/-! ## Populations -/

/-- A population: as many individuals as its state says, with different ids, each with a chromosome and a fitness record. -/
structure Population (s : Evolution χ) : Prop where
  fitness_length : s.fitness.length = s.state.populationSize
  chromosomes_length : s.chromosomes.items.length = s.state.populationSize
  distinct : (s.fitness.map (·.candidateId)).Nodup
  paired : ∀ f ∈ s.fitness, s.chromosomes.contains f.candidateId = true

/-- The id under which the child of a record is in the mutation's map: the record's own, or that of the child at its position. -/
def childOf (nextGenIdx : ℕ) (pool : JointPool χ) (i : ℕ) (f : CandidateFitness) : String :=
  if pool.mutatedOffspringMap.contains f.candidateId then f.candidateId else childId nextGenIdx i

/-- A generation selects soundly: the survivors are as many different individuals of the pool as before, each with its own
chromosome and fitness; none is ranked worse than one that does not survive; and an infeasible one survives only if all feasible
ones do. -/
structure SoundSelection (s s' : Evolution χ) (pool : JointPool χ) (ranking : RankingResult) : Prop where
  population : Population s'
  size : s'.state.populationSize = s.state.populationSize
  own : ∀ f ∈ s'.fitness, ∃ c, s'.chromosomes.get? f.candidateId = some c ∧
    (f ∈ s.fitness ∧ s.chromosomes.get? f.candidateId = some c ∨
      ∃ i, pool.evaluatedOffspring[i]? = some f ∧
        pool.mutatedOffspringMap.get? (childOf (s.state.generationIndex + 1) pool i f) = some c)
  ranked : ∀ f ∈ s'.fitness, ∀ g ∈ pool.jointFitness, g ∉ s'.fitness → ¬ ranking.RankedWorse f.candidateId g.candidateId
  feasible : ∀ f ∈ s'.fitness, DependentNonDominatedSorter.qualifies f = false →
    ∀ g ∈ pool.jointFitness, DependentNonDominatedSorter.qualifies g = true → g ∈ s'.fitness

/-- The children of a generation take no id of its parents, and the records of their evaluation have different ids, none of a
parent. -/
def FreshChildren (s : Evolution χ) : EvolutionCall χ → Prop
  | .initializeState _ _ => True
  | .stepGeneration _ evaluator offspringFitness =>
    (∀ i < s.state.populationSize, s.chromosomes.contains (childId (s.state.generationIndex + 1) i) = false) ∧
      ∀ mutated records, mutated.keys = (List.range s.state.populationSize).map (childId (s.state.generationIndex + 1)) →
        evaluateOffspring evaluator offspringFitness s.state.populationSize mutated = .ok records →
        (records.map (·.candidateId)).Nodup ∧ ∀ f ∈ records, s.chromosomes.contains f.candidateId = false

section Step

variable {s s' : Evolution χ} {fns : LifecycleFns χ} {evaluator : Option (Dict String χ → List CandidateFitness)}
  {offspringFitness : Option (List CandidateFitness)} {pool : JointPool χ}

/-- In the pool of fresh children every id names one individual, with the chromosome it came with. -/
theorem pool_individuals (hs : Population s) (hfresh : FreshChildren s (.stepGeneration fns evaluator offspringFitness))
    (hpool : s.engine.formPool fns s.chromosomes s.fitness s.state evaluator offspringFitness = .ok pool) :
    (pool.jointFitness.map (·.candidateId)).Nodup ∧ s.state.populationSize ≤ pool.jointFitness.length ∧
      (∀ f ∈ s.fitness, pool.jointChromosomes.get? f.candidateId = s.chromosomes.get? f.candidateId) ∧
      ∀ i f, pool.evaluatedOffspring[i]? = some f →
        pool.jointChromosomes.get? f.candidateId =
          pool.mutatedOffspringMap.get? (childOf (s.state.generationIndex + 1) pool i f) := by
  obtain ⟨-, hsize, -, -, -, hevaluated, hjoint, -⟩ := formPool_ok hpool
  obtain ⟨hlen, -, lineage, hspec, -, hadopted⟩ := spec_of_formPool hpool
  rw [← hsize] at hevaluated hlen
  obtain ⟨hchildren, hrecords⟩ := hfresh
  have hkeys : pool.mutatedOffspringMap.keys = (List.range s.state.populationSize).map (childId (s.state.generationIndex + 1)) :=
    hlen ▸ hspec.keys
  obtain ⟨hdistinct, hout⟩ := hrecords _ _ hkeys hevaluated
  have hparent : ∀ f ∈ s.fitness, pool.mutatedOffspringMap.get? f.candidateId = none := by
    intro f hf
    rw [Dict.get?_eq_none_iff_not_mem, hkeys, List.mem_map]
    rintro ⟨i, hi, hid⟩
    have := hchildren i (List.mem_range.1 hi)
    rw [hid, hs.paired f hf] at this
    cases this
  refine ⟨?_, ?_, fun f hf => ?_, fun i f hf => ?_⟩
  · rw [hjoint, List.map_append]
    refine List.nodup_append.2 ⟨hs.distinct, hdistinct, fun cid hcid cid' hcid' heq => ?_⟩
    obtain ⟨f, hf, rfl⟩ := List.mem_map.1 hcid
    obtain ⟨g, hg, rfl⟩ := List.mem_map.1 hcid'
    have := hout g hg
    rw [← heq, hs.paired f hf] at this
    cases this
  · rw [hjoint, List.length_append, hs.fitness_length]
    exact Nat.le_add_right _ _
  · have hin : (s.chromosomes.update pool.mutatedOffspringMap).contains f.candidateId = true := by
      have := hs.paired f hf
      rw [Dict.contains] at this ⊢
      rw [Dict.get?_update, hparent f hf]
      exact this
    rw [(hadopted.kept _ hin).1, Dict.get?_update, hparent f hf]
    rfl
  · rw [childOf]
    by_cases hmap : pool.mutatedOffspringMap.contains f.candidateId = true
    · rw [if_pos hmap]
      obtain ⟨c, hc⟩ := Option.isSome_iff_exists.1 hmap
      have hin : (s.chromosomes.update pool.mutatedOffspringMap).contains f.candidateId = true := by
        rw [Dict.contains, Dict.get?_update, hc]
        rfl
      rw [(hadopted.kept _ hin).1, Dict.get?_update, hc]
      rfl
    · rw [if_neg hmap]
      have hnone := (Dict.contains_eq_false_iff _ _).1 (Bool.not_eq_true _ ▸ hmap)
      have hstart : (s.chromosomes.update pool.mutatedOffspringMap).contains f.candidateId = false := by
        rw [Dict.contains_eq_false_iff, Dict.get?_update, hnone]
        exact (Dict.contains_eq_false_iff _ _).1 (hout f (List.mem_of_getElem? hf))
      refine (hadopted.renamed i f hf hstart fun j hj g hg heq => hj.ne ?_).1
      refine (List.getElem?_inj (by rw [List.length_map]; exact (List.getElem?_eq_some_iff.1 hg).1) hdistinct).1 ?_
      rw [List.getElem?_map, List.getElem?_map, hg, hf, Option.map_some, Option.map_some, heq]

theorem step_ok (h : s.call (.stepGeneration fns evaluator offspringFitness) = .ok s') :
    ∃ pool r, s.engine.formPool fns s.chromosomes s.fitness s.state evaluator offspringFitness = .ok pool ∧
      s.engine.selectSurvivors fns s.state s.chromosomes.items.length pool = .ok r ∧
      s' = ⟨r.2, r.1.nextChromosomes, r.1.survivingFitness, r.1.state⟩ := by
  rw [call] at h
  cases hgen : s.engine.stepGeneration fns s.chromosomes s.fitness s.state evaluator offspringFitness with
  | error exc =>
    rw [hgen] at h
    cases h
  | ok r =>
    obtain ⟨pool, hpool, hselect⟩ := exists_of_bind_ok hgen
    rw [hgen] at h
    cases h
    exact ⟨pool, r, hpool, hselect, rfl⟩

/-- The chromosomes of the survivors are those of the pool. -/
theorem get?_nextChromosomes {joint : Dict String χ} {surviving : List String} {chroms : List χ} (hn : surviving.Nodup)
    (h : List.Forall₂ (fun cid c => joint.get? cid = some c) surviving chroms) {cid : String} (hcid : cid ∈ surviving) :
    ∃ c, joint.get? cid = some c ∧ ((∅ : Dict String χ).setAll (surviving.zip chroms)).get? cid = some c := by
  obtain ⟨i, hi⟩ := List.mem_iff_getElem?.1 hcid
  obtain ⟨c, hc, hget⟩ := getElem?_of_forall₂ h hi
  refine ⟨c, hget, ?_⟩
  rw [← Dict.mem_items_iff, Dict.items_setAll_zip hn h.length_eq]
  exact List.mem_iff_getElem?.2 ⟨i, List.getElem?_zip_eq_some.2 ⟨hi, hc⟩⟩

/-- The records looked up by id are those of the pool with these ids, in the order of the ids. -/
theorem survivingFitness_of_lookup {joint found : List CandidateFitness} {surviving : List String}
    (hdistinct : (joint.map (·.candidateId)).Nodup)
    (h : List.Forall₂ (fun cid f => ((∅ : Dict String CandidateFitness).upsert (·.candidateId) joint).get? cid = some f)
      surviving found) :
    found.map (·.candidateId) = surviving ∧ ∀ f, f ∈ found ↔ f ∈ joint ∧ f.candidateId ∈ surviving := by
  have hkeys : List.Forall₂ (fun cid f => cid = f.candidateId) surviving found :=
    h.imp fun _ _ hlookup => (Dict.mem_of_get?_upsert_empty hlookup).2.symm
  rw [← List.forall₂_map_right_iff (R := (· = ·)), List.forall₂_eq_eq_eq] at hkeys
  refine ⟨hkeys.symm, fun f => ⟨fun hf => ?_, fun ⟨hf, hid⟩ => ?_⟩⟩
  · obtain ⟨cid, -, hlookup⟩ := exists_of_forall₂_right h hf
    exact ⟨(Dict.mem_of_get?_upsert_empty hlookup).1, hkeys ▸ List.mem_map_of_mem hf⟩
  · obtain ⟨i, hi⟩ := List.mem_iff_getElem?.1 hid
    obtain ⟨g, hg, hlookup⟩ := getElem?_of_forall₂ h hi
    rw [Dict.get?_upsert_of_mem ∅ hdistinct hf] at hlookup
    cases hlookup
    exact List.mem_of_getElem? hg

/-- A generation with fresh children selects soundly. -/
theorem soundSelection_of_step (hs : Population s) (hfresh : FreshChildren s (.stepGeneration fns evaluator offspringFitness))
    (hstep : s.call (.stepGeneration fns evaluator offspringFitness) = .ok s') :
    ∃ pool ranking, s.engine.formPool fns s.chromosomes s.fitness s.state evaluator offspringFitness = .ok pool ∧
      rankPopulation s.engine.sorter fns.reproduction.sqrt fns.jointScores pool.jointFitness = .ok ranking ∧
      SoundSelection s s' pool ranking := by
  obtain ⟨pool, r, hpool, hselect, rfl⟩ := step_ok hstep
  obtain ⟨ranking, chroms, hranking, hfitness, hchroms, hnext, hsize⟩ := selectSurvivors_ok hselect
  obtain ⟨hdistinct, hle, hparents, hoffspring⟩ := pool_individuals hs hfresh hpool
  rw [hs.chromosomes_length] at hfitness hchroms hnext hsize
  refine ⟨pool, ranking, hpool, hranking, ?_⟩
  -- The survivors are the first of the order, which is of the whole pool.
  have hperm := survivalOrder_perm hranking
  have hnodup : (survivalOrder ranking).Nodup := hperm.nodup_iff.2 hdistinct
  have hfirst := survivingIds_eq s.state.populationSize_pos ranking
  have hlen : (survivingIds s.state.populationSize ranking).length = s.state.populationSize := by
    rw [hfirst, List.length_take, hperm.length_eq, List.length_map]
    exact Nat.min_eq_left hle
  generalize survivingIds s.state.populationSize ranking = surviving at *
  have hsurvivors : surviving.Nodup := hfirst ▸ hnodup.sublist (List.take_sublist _ _)
  obtain ⟨hmap, hmem⟩ := survivingFitness_of_lookup hdistinct hfitness
  have hitems := Dict.items_setAll_zip hsurvivors hchroms.length_eq
  have hchrom : ∀ cid ∈ surviving, ∃ c, pool.jointChromosomes.get? cid = some c ∧ r.1.nextChromosomes.get? cid = some c :=
    fun _ hcid => hnext ▸ get?_nextChromosomes hsurvivors hchroms hcid
  constructor
  · refine ⟨?_, ?_, ?_, fun f hf => ?_⟩
    · rw [hsize, ← hlen, ← hmap, List.length_map]
    · rw [hsize, hnext, hitems, List.length_zip, ← hchroms.length_eq, Nat.min_self, hlen]
    · rw [hmap]
      exact hsurvivors
    · obtain ⟨c, -, hc⟩ := hchrom _ ((hmem f).1 hf).2
      rw [Dict.contains, hc]
      rfl
  · exact hsize
  · intro f hf
    obtain ⟨hpoolmem, hid⟩ := (hmem f).1 hf
    obtain ⟨c, hc, hnextc⟩ := hchrom _ hid
    refine ⟨c, hnextc, ?_⟩
    obtain ⟨-, -, -, -, -, -, happend, -⟩ := formPool_ok hpool
    rw [happend] at hpoolmem
    rcases List.mem_append.1 hpoolmem with hparent | hchild
    · exact .inl ⟨hparent, (hparents f hparent).symm.trans hc⟩
    · obtain ⟨i, hi⟩ := List.mem_iff_getElem?.1 hchild
      exact .inr ⟨i, hi, (hoffspring i f hi).symm.trans hc⟩
  · intro f hf g hg hout
    have hgid : g.candidateId ∈ (survivalOrder ranking).drop s.state.populationSize := by
      have hin : g.candidateId ∈ survivalOrder ranking := hperm.mem_iff.2 (List.mem_map_of_mem hg)
      rw [← List.take_append_drop s.state.populationSize (survivalOrder ranking), ← hfirst] at hin
      exact (List.mem_append.1 hin).resolve_left fun h => hout ((hmem g).2 ⟨hg, h⟩)
    have hpairwise := survivalOrder_pairwise hranking hdistinct
    rw [← List.take_append_drop s.state.populationSize (survivalOrder ranking), ← hfirst] at hpairwise
    exact (List.pairwise_append.1 hpairwise).2.2 _ ((hmem f).1 hf).2 _ hgid
  · intro f hf hinf g hg hfeas
    obtain ⟨hpoolmem, hid⟩ := (hmem f).1 hf
    refine (hmem g).2 ⟨hg, ?_⟩
    rw [hfirst] at hid ⊢
    exact feasible_first hranking hdistinct hpoolmem hg hinf hfeas hid

end Step

/-! ## Whole evolutions -/

theorem population_of_initializeState {engine : GenerationalLifecycleEngine} {fns : LifecycleFns χ} {chromosomes : Dict String χ}
    {fitness : List CandidateFitness} {initialStepSize : Option ℚ} {r : GenerationalState × GenerationalLifecycleEngine}
    (hdistinct : (fitness.map (·.candidateId)).Nodup)
    (h : engine.initializeState fns chromosomes fitness initialStepSize = .ok r) :
    Population ⟨r.2, chromosomes, fitness, r.1⟩ := by
  obtain ⟨hlen, hpaired, hsize⟩ := initializeState_ok h
  exact ⟨hlen.trans hsize.symm, hsize.symm, hdistinct, hpaired⟩

/-- Every call with fresh children keeps a population. -/
theorem population_of_call {s s' : Evolution χ} {c : EvolutionCall χ} (hs : Population s) (hfresh : FreshChildren s c)
    (h : s.call c = .ok s') : Population s' := by
  cases c with
  | initializeState fns initialStepSize =>
    rw [call] at h
    cases hinit : s.engine.initializeState fns s.chromosomes s.fitness initialStepSize with
    | error exc =>
      rw [hinit] at h
      cases h
    | ok r =>
      rw [hinit] at h
      cases h
      exact population_of_initializeState hs.distinct hinit
  | stepGeneration fns evaluator offspringFitness =>
    obtain ⟨_, _, -, -, hsound⟩ := soundSelection_of_step hs hfresh h
    exact hsound.population

/-- In a run of any number of generations and initializations, started with different ids and with fresh children in every
generation, each generation selects soundly. -/
theorem soundSelection_of_run {engine engine₀ : GenerationalLifecycleEngine} {fns₀ fns : LifecycleFns χ}
    {chromosomes : Dict String χ}
    {fitness : List CandidateFitness} {initialStepSize : Option ℚ} {state : GenerationalState} {s s' : Evolution χ}
    {evaluator : Option (Dict String χ → List CandidateFitness)} {offspringFitness : Option (List CandidateFitness)}
    (hdistinct : (fitness.map (·.candidateId)).Nodup)
    (hstart : engine₀.initializeState fns₀ chromosomes fitness initialStepSize = .ok (state, engine))
    (hrun : Run (fun s c s' => s.call c = .ok s') FreshChildren ⟨engine, chromosomes, fitness, state⟩ s)
    (hfresh : FreshChildren s (.stepGeneration fns evaluator offspringFitness))
    (hstep : s.call (.stepGeneration fns evaluator offspringFitness) = .ok s') :
    ∃ pool ranking, s.engine.formPool fns s.chromosomes s.fitness s.state evaluator offspringFitness = .ok pool ∧
      rankPopulation s.engine.sorter fns.reproduction.sqrt fns.jointScores pool.jointFitness = .ok ranking ∧
      SoundSelection s s' pool ranking :=
  soundSelection_of_step
    (hrun.invariant (fun _ _ _ => population_of_call) (population_of_initializeState hdistinct hstart)) hfresh hstep

/-! ### A population that starts again -/

/-- Later candidates score better. -/
def lateFns : LifecycleFns (StrategyChromosome ℚ) := { idleFns with jointScores := ⟨fun _ => 1, fun i => -i⟩ }

/-- A generation whose offspring was evaluated before. -/
def lateStep (records : List CandidateFitness) : EvolutionCall (StrategyChromosome ℚ) :=
  .stepGeneration lateFns none (some records)

/-- The evolution of some candidates that is initialized, steps, is initialized again and steps again: the engine and the state it
starts with, and what each call leaves. -/
def startAgain (ids : List String) (first second : List CandidateFitness) :
    Except Exc ((GenerationalState × GenerationalLifecycleEngine) × Evolution (StrategyChromosome ℚ) ×
      Evolution (StrategyChromosome ℚ) × Evolution (StrategyChromosome ℚ)) := do
  let (state, engine) ← initializeState {} lateFns (defaultPopulation ids) (idleFitness ids) none
  let s₁ ← call ⟨engine, defaultPopulation ids, idleFitness ids, state⟩ (lateStep first)
  let s₂ ← s₁.call (.initializeState lateFns none)
  let s₃ ← s₂.call (lateStep second)
  .ok ((state, engine), s₁, s₂, s₃)

theorem startAgain_ok {ids : List String} {first second : List CandidateFitness} {β : Type}
    {f : (GenerationalState × GenerationalLifecycleEngine) × Evolution (StrategyChromosome ℚ) × Evolution (StrategyChromosome ℚ) ×
      Evolution (StrategyChromosome ℚ) → β} {y : β} (h : (startAgain ids first second).map f = .ok y) :
    ∃ state engine s₁ s₂ s₃, initializeState {} lateFns (defaultPopulation ids) (idleFitness ids) none = .ok (state, engine) ∧
      call ⟨engine, defaultPopulation ids, idleFitness ids, state⟩ (lateStep first) = .ok s₁ ∧
      s₁.call (.initializeState lateFns none) = .ok s₂ ∧ s₂.call (lateStep second) = .ok s₃ ∧
      f ((state, engine), s₁, s₂, s₃) = y := by
  cases hrun : startAgain ids first second with
  | error exc =>
    rw [hrun] at h
    cases h
  | ok r =>
    obtain ⟨⟨state, engine⟩, hinit, hrest⟩ := exists_of_bind_ok hrun
    obtain ⟨s₁, h₁, hrest⟩ := exists_of_bind_ok hrest
    obtain ⟨s₂, h₂, hrest⟩ := exists_of_bind_ok hrest
    obtain ⟨s₃, h₃, hrest⟩ := exists_of_bind_ok hrest
    cases hrest
    rw [hrun] at h
    exact ⟨state, engine, s₁, s₂, s₃, hinit, h₁, h₂, h₃, Except.ok.inj h⟩

theorem fitness_startAgain :
    (startAgain ["a"] [idleCandidate true "gen_1_ind_0"] [idleCandidate false "gen_1_ind_0"]).map
        (fun r => (r.2.2.1.fitness, r.2.2.2.fitness)) =
      .ok ([idleCandidate true "gen_1_ind_0"], [idleCandidate false "gen_1_ind_0"]) := by
  decide +kernel

/-- After a child has survived and the evolution was initialized again, the next child takes its id: an infeasible one replaces
it. -/
theorem soundSelection_counterexample :
    ∃ state engine s s', initializeState {} lateFns (defaultPopulation ["a"]) (idleFitness ["a"]) none = .ok (state, engine) ∧
      Run (fun s c s' => s.call c = .ok s') (fun _ _ => True)
        (⟨engine, defaultPopulation ["a"], idleFitness ["a"], state⟩ : Evolution (StrategyChromosome ℚ)) s ∧
      s.call (lateStep [idleCandidate false "gen_1_ind_0"]) = .ok s' ∧
      ¬ ∃ pool ranking,
        s.engine.formPool lateFns s.chromosomes s.fitness s.state none (some [idleCandidate false "gen_1_ind_0"]) = .ok pool ∧
        rankPopulation s.engine.sorter lateFns.reproduction.sqrt lateFns.jointScores pool.jointFitness = .ok ranking ∧
        SoundSelection s s' pool ranking := by
  obtain ⟨state, engine, s₁, s₂, s₃, hinit, h₁, h₂, h₃, hvalues⟩ := startAgain_ok fitness_startAgain
  refine ⟨state, engine, s₂, s₃, hinit, (Run.refl.tail trivial h₁).tail trivial h₂, h₃, ?_⟩
  rintro ⟨pool, ranking, hpool, -, hsound⟩
  obtain ⟨hbefore, hafter⟩ := Prod.mk.inj hvalues
  obtain ⟨-, -, -, -, -, -, hjoint, -⟩ := formPool_ok hpool
  have hsurvives := hsound.feasible (idleCandidate false "gen_1_ind_0") (hafter ▸ List.mem_singleton_self _) (by decide)
    (idleCandidate true "gen_1_ind_0") (hjoint ▸ List.mem_append_left _ (hbefore ▸ List.mem_singleton_self _)) (by decide +kernel)
  rw [show s₃.fitness = _ from hafter] at hsurvives
  revert hsurvives
  decide

/-- The names that a generation adds are its own: those of the children, and those of the records. -/
def NewNames (chromosomes : Dict String (StrategyChromosome ℚ)) (state : GenerationalState)
    (records : List CandidateFitness) : Prop :=
  (∀ i < state.populationSize, chromosomes.contains (childId (state.generationIndex + 1) i) = false) ∧
    (records.map (·.candidateId)).Nodup ∧ ∀ f ∈ records, chromosomes.contains f.candidateId = false

instance (chromosomes : Dict String (StrategyChromosome ℚ)) (state : GenerationalState) (records : List CandidateFitness) :
    Decidable (NewNames chromosomes state records) := inferInstanceAs (Decidable (_ ∧ _ ∧ _))

theorem freshChildren_of_newNames {s : Evolution (StrategyChromosome ℚ)} {records : List CandidateFitness}
    (h : NewNames s.chromosomes s.state records) : FreshChildren s (lateStep records) := by
  obtain ⟨hchildren, hdistinct, hout⟩ := h
  refine ⟨hchildren, fun mutated returned _ h => ?_⟩
  unfold evaluateOffspring at h
  split at h
  · rename_i given _ heq
    cases heq
    split at h
    · cases h
    · cases h
      exact ⟨hdistinct, hout⟩
  · contradiction
  · contradiction

/-- Two candidates start; of the children of each step the second is infeasible. -/
theorem newNames_startAgain :
    (startAgain ["a", "b"] [idleCandidate true "w", idleCandidate false "x"] [idleCandidate true "y",
      idleCandidate false "z"]).map
        (fun r => (decide (NewNames (defaultPopulation ["a", "b"]) r.1.1 [idleCandidate true "w", idleCandidate false "x"]),
          decide (NewNames r.2.2.1.chromosomes r.2.2.1.state [idleCandidate true "y", idleCandidate false "z"]),
          r.2.2.2.fitness.map (·.candidateId))) =
      .ok (true, true, ["y", "b"]) := by
  decide +kernel

/-- Where the records of the children have names of their own, the population that starts again selects soundly. -/
theorem soundSelection_ownNames :
    ∃ s s' : Evolution (StrategyChromosome ℚ), s.call (lateStep [idleCandidate true "y", idleCandidate false "z"]) = .ok s' ∧
      s'.fitness.map (·.candidateId) = ["y", "b"] ∧
      ∃ pool ranking,
        s.engine.formPool lateFns s.chromosomes s.fitness s.state none (some [idleCandidate true "y", idleCandidate false "z"]) =
        .ok pool ∧
        rankPopulation s.engine.sorter lateFns.reproduction.sqrt lateFns.jointScores pool.jointFitness = .ok ranking ∧
        SoundSelection s s' pool ranking := by
  obtain ⟨state, engine, s₁, s₂, s₃, hinit, h₁, h₂, h₃, hvalues⟩ := startAgain_ok newNames_startAgain
  obtain ⟨hfirst, hvalues⟩ := Prod.mk.inj hvalues
  obtain ⟨hlast, hsurvivors⟩ := Prod.mk.inj hvalues
  have hstep : FreshChildren ⟨engine, defaultPopulation ["a", "b"], idleFitness ["a", "b"], state⟩
      (lateStep [idleCandidate true "w", idleCandidate false "x"]) := freshChildren_of_newNames (of_decide_eq_true hfirst)
  have hagain : FreshChildren s₁ (.initializeState lateFns none) := trivial
  exact ⟨s₂, s₃, h₃, hsurvivors, soundSelection_of_run (by decide) hinit ((Run.refl.tail hstep h₁).tail hagain h₂)
    (freshChildren_of_newNames (of_decide_eq_true hlast)) h₃⟩

end Evolution

end Quant
