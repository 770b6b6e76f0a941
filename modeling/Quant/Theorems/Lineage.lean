import Quant.Analytics.Chromosomes
import Quant.Analytics.EvolutionaryLifecycle
import Quant.Pylib.Lists
import Quant.Pylib.Steps

/-!
# The lineage of a generation

The offspring are the elites and then the children of the pairs; `offspring_to_parent` takes the pairs first and then the elites.
The two orders agree exactly where the elites and the alphas in turn are words that commute.
-/

namespace Quant

open Pylib

/-- Children of one generation have different ids. -/
theorem childId_injective {nextGenIdx i j : ℕ} (h : childId nextGenIdx i = childId nextGenIdx j) : i = j := by
  have htail : (toString i).toList = (toString j).toList := by
    simpa [childId, String.toList_append] using congrArg String.toList h
  have hdigits : Nat.toDigits 10 i = Nat.toDigits 10 j := by
    simpa only [Nat.toString_eq_repr, Nat.toList_repr] using htail
  simpa using congrArg (fun digits => Nat.ofDigitChars 10 digits 0) hdigits

namespace HypergamicConfig

variable {χ : Type} {config : HypergamicConfig} {fns : ReproductionFns χ}

/-! ## What a reproduction returns -/

theorem alphaId_of_court {alpha : CandidateFitness} {aspirants : List CandidateFitness} {pairIdx left attempts : ℕ}
    {pair : MatingPair}
    (h : court config fns alpha aspirants pairIdx left attempts = .ok (some pair)) : pair.alphaId = alpha.candidateId := by
  induction left generalizing attempts with
  | zero => cases h
  | succ left ih =>
    rw [court] at h
    split at h
    · cases h
    · obtain ⟨⟨isAccepted, rho⟩, -, h⟩ := exists_of_bind_ok h
      cases isAccepted with
      | true =>
        cases h
        rfl
      | false => exact ih h

/-- The alpha of a pair is the next one in turn. -/
theorem alphaId_of_matchPair {chromosomeMap : Dict String χ} {alphas aspirants : List CandidateFitness} {pairIdx : ℕ}
    {pair : MatingPair}
    (h : matchPair config fns chromosomeMap alphas aspirants pairIdx = .ok pair) :
    (alphas.map (·.candidateId))[pairIdx % alphas.length]? = some pair.alphaId := by
  unfold matchPair at h
  split at h
  · rename_i alpha first rest halpha
    rw [List.getElem?_map, halpha]
    cases hcourt : court config fns alpha (first :: rest) pairIdx (exhaustionLimit config) 0 with
    | error exc =>
      rw [hcourt] at h
      cases h
    | ok bestPair =>
      rw [hcourt] at h
      cases bestPair with
      | none =>
        cases h
        rfl
      | some best =>
        cases h
        exact congrArg some (alphaId_of_court hcourt).symm
  · cases h

theorem alphaId_of_matchNeeded {chromosomeMap : Dict String χ} {alphas aspirants : List CandidateFitness} {count : ℕ}
    {pairs : List MatingPair} (h : matchNeeded config fns alphas aspirants count chromosomeMap = .ok pairs) :
    pairs.length = count ∧ ∀ j < count, (pairs.map (·.alphaId))[j]? = (alphas.map (·.candidateId))[j % alphas.length]? := by
  unfold matchNeeded matchPairs at h
  split_ifs at h with hpos
  · have hall := forall₂_of_mapM_ok h
    refine ⟨by rw [← hall.length_eq, List.length_range], fun j hj => ?_⟩
    obtain ⟨pair, hpair, hmatch⟩ := getElem?_of_forall₂ hall (List.getElem?_range hj)
    rw [List.getElem?_map, hpair, alphaId_of_matchPair hmatch]
    rfl
  · cases h
    rw [Nat.eq_zero_of_not_pos hpos]
    exact ⟨rfl, fun j hj => absurd hj (Nat.not_lt_zero j)⟩

variable {candidates : List CandidateFitness} {ranking : RankingResult} {chromosomeMap : Dict String χ} {n : ℕ}

theorem length_eliteIds_le (config : HypergamicConfig) (ranking : RankingResult) (n : ℕ) :
    (eliteIds config ranking n).length ≤ n := by
  unfold eliteIds
  rw [List.length_take]
  omega

/-- What a reproduction is made of: the cohorts, the elites, a pair for each other place with the alphas in turn, and the
chromosomes. -/
theorem reproduce_ok {r : OffspringResult χ} (h : config.reproduce fns candidates ranking chromosomeMap n = .ok r) :
    ∃ alphas aspirants elites children, config.stratify candidates ranking = .ok (alphas, aspirants) ∧
      r.alphaIds = alphas.map (·.candidateId) ∧ r.eliteIds = config.eliteIds ranking n ∧
      r.matingPairs.length = n - r.eliteIds.length ∧
      (∀ j < r.matingPairs.length, (r.matingPairs.map (·.alphaId))[j]? = (alphas.map (·.candidateId))[j % alphas.length]?) ∧
      r.offspringChromosomes = elites ++ children ∧
      List.Forall₂ (fun eid chrom => eliteChromosome chromosomeMap eid = .ok chrom) r.eliteIds elites ∧
      List.Forall₂ (fun p chrom => crossPair fns chromosomeMap p.1 p.2 = .ok chrom) r.matingPairs.zipIdx children := by
  unfold reproduce at h
  split at h
  · cases h
  · obtain ⟨⟨alphas, aspirants⟩, hcohorts, h⟩ := exists_of_bind_ok h
    obtain ⟨elites, helites, h⟩ := exists_of_bind_ok h
    obtain ⟨pairs, hpairs, h⟩ := exists_of_bind_ok h
    obtain ⟨children, hchildren, h⟩ := exists_of_bind_ok h
    cases h
    obtain ⟨hlen, hturn⟩ := alphaId_of_matchNeeded hpairs
    exact ⟨alphas, aspirants, elites, children, hcohorts, rfl, rfl, hlen, fun j hj => hturn j (hlen ▸ hj), rfl,
      forall₂_of_mapM_ok helites, forall₂_of_mapM_ok hchildren⟩

end HypergamicConfig

namespace GenerationalLifecycleEngine

variable {χ : Type}

/-! ## Mutation -/

section Mutation

variable (fns : LifecycleFns χ) (sigma : ℚ) (t : ℕ) (repro : OffspringResult χ) (currentChromosomes : Dict String χ)

/-- The maps after the loop over some raw children. -/
def mapsAfter (rawChildren : List χ) : Dict String χ × Dict String String :=
  rawChildren.zipIdx.foldl (mutateChild fns sigma t repro currentChromosomes) (∅, ∅)

theorem mapsAfter_concat (rawChildren : List χ) (c : χ) :
    mapsAfter fns sigma t repro currentChromosomes (rawChildren ++ [c]) =
      mutateChild fns sigma t repro currentChromosomes (mapsAfter fns sigma t repro currentChromosomes rawChildren)
        (c, rawChildren.length) := by
  rw [mapsAfter, List.zipIdx_append, List.foldl_append, List.zipIdx_singleton, Nat.zero_add]
  rfl

/-- What the maps hold after some raw children: the children in turn, each with its parent as written down. -/
structure MapsSpec (rawChildren : List χ) (maps : Dict String χ × Dict String String) : Prop where
  keys : maps.1.keys = (List.range rawChildren.length).map (childId t)
  mutated : ∀ i c, rawChildren[i]? = some c → maps.1.get? (childId t i) = some (fns.mutate i sigma c)
  lineage : ∀ i < rawChildren.length, maps.2.get? (childId t i) = recordedParent repro currentChromosomes i
  fresh : ∀ i, rawChildren.length ≤ i → maps.1.get? (childId t i) = none ∧ maps.2.get? (childId t i) = none

theorem mapsSpec_mapsAfter (rawChildren : List χ) :
    MapsSpec fns sigma t repro currentChromosomes rawChildren (mapsAfter fns sigma t repro currentChromosomes rawChildren) := by
  induction rawChildren using List.reverseRecOn with
  | nil => exact ⟨rfl, nofun, fun i hi => absurd hi (Nat.not_lt_zero i), fun i _ => ⟨rfl, rfl⟩⟩
  | append_singleton rawChildren c ih =>
    rw [mapsAfter_concat]
    generalize mapsAfter fns sigma t repro currentChromosomes rawChildren = maps at ih
    have hne : ∀ i, i ≠ rawChildren.length → childId t i ≠ childId t rawChildren.length := fun i hi h => hi (childId_injective h)
    -- An entry for the new child is made where a parent is written down, and there was none before.
    have hlineage : ∀ k, (mutateChild fns sigma t repro currentChromosomes maps (c, rawChildren.length)).2.get? k =
        if k = childId t rawChildren.length then recordedParent repro currentChromosomes rawChildren.length
          else maps.2.get? k := by
      intro k
      cases hrec : recordedParent repro currentChromosomes rawChildren.length with
      | none =>
        simp only [mutateChild, hrec]
        by_cases hk : k = childId t rawChildren.length
        · rw [if_pos hk, hk]
          exact (ih.fresh _ le_rfl).2
        · rw [if_neg hk]
      | some parentId =>
        simp only [mutateChild, hrec]
        exact Dict.get?_set maps.2 _ k parentId
    refine ⟨?_, fun i c' hc' => ?_, fun i hi => ?_, fun i hi => ?_⟩
    · rw [List.length_append, List.length_singleton, List.range_succ, List.map_append, ← ih.keys]
      exact Dict.keys_set_of_get?_none _ (ih.fresh _ le_rfl).1
    · obtain hold | ⟨rfl, rfl⟩ := concat_cases hc'
      · have hlt := (List.getElem?_eq_some_iff.1 hold).1
        exact (Dict.get?_set_of_ne maps.1 _ (hne i hlt.ne)).trans (ih.mutated i c' hold)
      · exact Dict.get?_set_self maps.1 _ _
    · rw [hlineage]
      by_cases heq : i = rawChildren.length
      · rw [heq, if_pos rfl]
      · rw [if_neg (hne i heq)]
        rw [List.length_append, List.length_singleton] at hi
        exact ih.lineage i (by omega)
    · rw [List.length_append, List.length_singleton] at hi
      obtain ⟨hmutated, hrecorded⟩ := ih.fresh i (by omega)
      rw [hlineage, if_neg (hne i (by omega))]
      exact ⟨(Dict.get?_set_of_ne maps.1 _ (hne i (by omega))).trans hmutated, hrecorded⟩

end Mutation

/-! ## The ids of the evaluator -/

/-- What the loop over the evaluator's records does to the pool: it keeps what is there, and a new id stands for the child at its
position. -/
structure AdoptSpec (t : ℕ) (mutated : Dict String χ) (start : Dict String χ × Dict String String)
    (records : List CandidateFitness)
    (joint : Dict String χ × Dict String String) : Prop where
  kept : ∀ k, start.1.contains k = true → joint.1.get? k = start.1.get? k ∧ joint.2.get? k = start.2.get? k
  mem : ∀ k, joint.1.contains k = true ↔ start.1.contains k = true ∨ ∃ f ∈ records, f.candidateId = k
  renamed : ∀ i f, records[i]? = some f → start.1.contains f.candidateId = false →
    (∀ j < i, ∀ f', records[j]? = some f' → f'.candidateId ≠ f.candidateId) →
    joint.1.get? f.candidateId = mutated.get? (childId t i) ∧ joint.2.get? f.candidateId = start.2.get? (childId t i)

theorem adoptId_ok {mutated : Dict String χ} {joint joint' : Dict String χ × Dict String String} {record : CandidateFitness × ℕ}
    (h : adoptId mutated joint record = .ok joint') :
    joint.1.contains record.1.candidateId = true ∧ joint' = joint ∨
      joint.1.contains record.1.candidateId = false ∧ ∃ oldId chrom, mutated.keys[record.2]? = some oldId ∧
        mutated.get? oldId = some chrom ∧ joint'.1 = joint.1.set record.1.candidateId chrom ∧
        joint'.2 = ((joint.2.get? oldId).map fun parentId => joint.2.set record.1.candidateId parentId).getD joint.2 := by
  unfold adoptId at h
  cases hin : joint.1.contains record.1.candidateId with
  | true =>
    rw [if_pos hin] at h
    exact .inl ⟨rfl, (Except.ok.inj h).symm⟩
  | false =>
    rw [if_neg (by simp [hin])] at h
    cases hold : mutated.keys[record.2]? with
    | none =>
      rw [hold] at h
      cases h
    | some oldId =>
      rw [hold] at h
      cases hchrom : mutated.get? oldId with
      | none =>
        simp only [hchrom] at h
        cases h
      | some chrom =>
        simp only [hchrom] at h
        refine .inr ⟨rfl, oldId, chrom, rfl, hchrom, ?_⟩
        cases hparent : joint.2.get? oldId with
        | none =>
          rw [hparent] at h
          cases h
          exact ⟨rfl, rfl⟩
        | some parentId =>
          rw [hparent] at h
          cases h
          exact ⟨rfl, rfl⟩

theorem earlier_of_concat {records : List CandidateFitness} {f : CandidateFitness} {i : ℕ} {cid : String}
    (hi : i ≤ records.length)
    (h : ∀ j < i, ∀ f', (records ++ [f])[j]? = some f' → f'.candidateId ≠ cid) :
    ∀ j < i, ∀ f', records[j]? = some f' → f'.candidateId ≠ cid := by
  intro j hj f' hf'
  exact h j hj f' (by rw [List.getElem?_append_left (hj.trans_le hi), hf'])

/-- A record whose id is in the pool, which is one of the start or of an earlier record, changes nothing. -/
theorem AdoptSpec.known {t : ℕ} {mutated : Dict String χ} {start joint : Dict String χ × Dict String String}
    {records : List CandidateFitness} {f : CandidateFitness} (h : AdoptSpec t mutated start records joint)
    (hold : joint.1.contains f.candidateId = true) : AdoptSpec t mutated start (records ++ [f]) joint := by
  refine ⟨h.kept, fun k => ?_, fun i g hg hout hfirst => ?_⟩
  · rw [h.mem]
    simp only [List.mem_append, List.mem_singleton, or_and_right, exists_or, exists_eq_left]
    constructor
    · rintro (hk | hk)
      · exact .inl hk
      · exact .inr (.inl hk)
    · rintro (hk | hk | rfl)
      · exact .inl hk
      · exact .inr hk
      · exact (h.mem _).1 hold
  · obtain hg | ⟨rfl, rfl⟩ := concat_cases hg
    · exact h.renamed i g hg hout (earlier_of_concat (List.getElem?_eq_some_iff.1 hg).1.le hfirst)
    · have hearlier := earlier_of_concat le_rfl hfirst
      obtain hstart | ⟨g', hmem, hid⟩ := (h.mem _).1 hold
      · rw [hout] at hstart
        cases hstart
      · obtain ⟨j, hj⟩ := List.mem_iff_getElem?.1 hmem
        exact absurd hid (hearlier j (List.getElem?_eq_some_iff.1 hj).1 g' hj)

/-- A record whose id is new gets the chromosome and the parent of the child at its position. -/
theorem AdoptSpec.adopt {t : ℕ} {mutated : Dict String χ} {start joint : Dict String χ × Dict String String}
    {records : List CandidateFitness} {f : CandidateFitness} {chrom : χ} {parentId : String}
    (h : AdoptSpec t mutated start records joint)
    (hnew : joint.1.contains f.candidateId = false) (hchrom : mutated.get? (childId t records.length) = some chrom)
    (hparent : start.2.get? (childId t records.length) = some parentId) :
    AdoptSpec t mutated start (records ++ [f]) (joint.1.set f.candidateId chrom, joint.2.set f.candidateId parentId) := by
  have hne : ∀ k, joint.1.contains k = true → k ≠ f.candidateId := by
    rintro k hk rfl
    rw [hnew] at hk
    cases hk
  refine ⟨fun k hk => ?_, fun k => ?_, fun i g hg hout hfirst => ?_⟩
  · obtain ⟨h1, h2⟩ := h.kept k hk
    have hk' := hne k ((h.mem k).2 (.inl hk))
    exact ⟨(Dict.get?_set_of_ne _ _ hk').trans h1, (Dict.get?_set_of_ne _ _ hk').trans h2⟩
  · rw [Dict.contains_set, h.mem]
    simp only [List.mem_append, List.mem_singleton, or_and_right, exists_or, exists_eq_left]
    rw [or_comm, or_assoc, @eq_comm _ k]
  · obtain hg | ⟨rfl, rfl⟩ := concat_cases hg
    · have hg' := hne _ ((h.mem g.candidateId).2 (.inr ⟨g, List.mem_of_getElem? hg, rfl⟩))
      obtain ⟨h1, h2⟩ := h.renamed i g hg hout (earlier_of_concat (List.getElem?_eq_some_iff.1 hg).1.le hfirst)
      exact ⟨(Dict.get?_set_of_ne _ _ hg').trans h1, (Dict.get?_set_of_ne _ _ hg').trans h2⟩
    · exact ⟨(Dict.get?_set_self _ _ _).trans hchrom.symm, (Dict.get?_set_self _ _ _).trans hparent.symm⟩

/-- The last record is adopted after the others. -/
theorem adoptIds_concat {mutated : Dict String χ} {start joint : Dict String χ × Dict String String}
    {records : List CandidateFitness}
    {f : CandidateFitness} (h : (records ++ [f]).zipIdx.foldlM (adoptId mutated) start = .ok joint) :
    ∃ mid, records.zipIdx.foldlM (adoptId mutated) start = .ok mid ∧ adoptId mutated mid (f, records.length) = .ok joint := by
  rw [List.zipIdx_append, List.foldlM_append, List.zipIdx_singleton, Nat.zero_add] at h
  obtain ⟨mid, hmid, hlast⟩ := exists_of_bind_ok h
  obtain ⟨last, hlast, hjoint⟩ := exists_of_bind_ok hlast
  cases hjoint
  exact ⟨mid, hmid, hlast⟩

theorem adoptSpec_of_ok {t : ℕ} {mutated : Dict String χ} {start joint : Dict String χ × Dict String String}
    {records : List CandidateFitness} (hkeys : ∀ i < records.length, mutated.keys[i]? = some (childId t i))
    (hin : ∀ i < records.length, start.1.contains (childId t i) = true)
    (hlineage : ∀ i < records.length, ∃ parentId, start.2.get? (childId t i) = some parentId)
    (h : records.zipIdx.foldlM (adoptId mutated) start = .ok joint) : AdoptSpec t mutated start records joint := by
  induction records using List.reverseRecOn generalizing joint with
  | nil =>
    cases h
    exact ⟨fun k _ => ⟨rfl, rfl⟩, fun k => by simp, nofun⟩
  | append_singleton records f ih =>
    obtain ⟨mid, hmid, hlast⟩ := adoptIds_concat h
    rw [List.length_append, List.length_singleton] at hkeys hin hlineage
    have hspec := ih (fun i hi => hkeys i (by omega)) (fun i hi => hin i (by omega)) (fun i hi => hlineage i (by omega)) hmid
    have hlt := Nat.lt_succ_self records.length
    obtain ⟨hold, rfl⟩ | ⟨hnew, oldId, chrom, holdId, hchrom, hchroms, hparents⟩ := adoptId_ok hlast
    · exact hspec.known hold
    · obtain rfl : childId t records.length = oldId := Option.some.inj ((hkeys records.length hlt).symm.trans holdId)
      obtain ⟨parentId, hparent⟩ := hlineage records.length hlt
      rw [(hspec.kept _ (hin records.length hlt)).2, hparent] at hparents
      obtain rfl : joint = (_, _) := Prod.ext hchroms hparents
      exact hspec.adopt hnew hchrom hparent

/-! ## The pool -/

section Pool

variable {engine : GenerationalLifecycleEngine} {fns : LifecycleFns χ} {currentChromosomes : Dict String χ}
  {currentFitness : List CandidateFitness} {currentState : GenerationalState}
  {evaluator : Option (Dict String χ → List CandidateFitness)} {offspringFitness : Option (List CandidateFitness)}
  {pool : JointPool χ}

theorem length_of_evaluateOffspring {n : ℕ} {mutated : Dict String χ} {evaluated : List CandidateFitness}
    (h : evaluateOffspring evaluator offspringFitness n mutated = .ok evaluated) : evaluated.length = n := by
  unfold evaluateOffspring at h
  split at h
  · split_ifs at h with hlen
    cases h
    exact not_not.1 hlen
  · split_ifs at h with hlen
    cases h
    exact not_not.1 hlen
  · cases h

/-- What a pool is made of. -/
theorem formPool_ok
    (h : engine.formPool fns currentChromosomes currentFitness currentState evaluator offspringFitness = .ok pool) :
    currentFitness.length = currentChromosomes.items.length ∧ currentState.populationSize = currentChromosomes.items.length ∧
      ∃ ranking, engine.parentRanking fns currentFitness = .ok ranking ∧
        engine.hypergamicConfig.reproduce fns.reproduction
          currentFitness ranking currentChromosomes currentChromosomes.items.length =
          .ok pool.reproResult ∧
        evaluateOffspring evaluator offspringFitness currentChromosomes.items.length pool.mutatedOffspringMap =
        .ok pool.evaluatedOffspring ∧
        pool.jointFitness = currentFitness ++ pool.evaluatedOffspring ∧
        ∃ maps, maps = mutateOffspring fns (engine.mutationConfig.effectiveSigma currentState) (currentState.generationIndex + 1)
            pool.reproResult currentChromosomes ∧
          pool.mutatedOffspringMap = maps.1 ∧
          pool.evaluatedOffspring.zipIdx.foldlM (adoptId maps.1) (currentChromosomes.update maps.1, maps.2) =
            .ok (pool.jointChromosomes, pool.offspringToParent) := by
  unfold formPool at h
  dsimp only at h
  split_ifs at h with hfit hsize
  obtain ⟨ranking, hranking, h⟩ := exists_of_bind_ok h
  obtain ⟨repro, hrepro, h⟩ := exists_of_bind_ok h
  obtain ⟨evaluated, hevaluated, h⟩ := exists_of_bind_ok h
  obtain ⟨joint, hjoint, h⟩ := exists_of_bind_ok h
  cases h
  exact ⟨not_not.1 hfit, not_not.1 hsize, ranking, hranking, hrepro, hevaluated, rfl, _, rfl, rfl, hjoint⟩

/-! ## Truthful lineage -/

/-- The parent a raw child was made from: itself for an elite, the alpha of its pair for another child. -/
def actualParent (repro : OffspringResult χ) (i : ℕ) : Option String :=
  if i < repro.eliteIds.length then repro.eliteIds[i]? else (repro.matingPairs[i - repro.eliteIds.length]?).map (·.alphaId)

theorem actualParent_eq (repro : OffspringResult χ) (i : ℕ) :
    actualParent repro i = (repro.eliteIds ++ repro.matingPairs.map (·.alphaId))[i]? := by
  rw [actualParent, List.getElem?_append, List.getElem?_map]

theorem recordedParent_eq (repro : OffspringResult χ) (currentChromosomes : Dict String χ) {i : ℕ}
    (hi : i < repro.matingPairs.length + repro.eliteIds.length) :
    recordedParent repro currentChromosomes i = (repro.matingPairs.map (·.alphaId) ++ repro.eliteIds)[i]? := by
  rw [recordedParent, List.getElem?_append, List.length_map, List.getElem?_map]
  by_cases hlt : i < repro.matingPairs.length
  · rw [if_pos hlt, List.getElem?_eq_getElem hlt]
    rfl
  · rw [if_neg hlt, List.getElem?_eq_none (not_lt.1 hlt)]
    have hlt' : i - repro.matingPairs.length < repro.eliteIds.length := by omega
    rw [List.getElem?_eq_getElem hlt']

/-- The chromosome of a raw child is that of its actual parent, or the child of a pair with that alpha. -/
theorem offspring_of_actualParent {config : HypergamicConfig} {rfns : ReproductionFns χ} {candidates : List CandidateFitness}
    {ranking : RankingResult} {chromosomeMap : Dict String χ} {n i : ℕ} {repro : OffspringResult χ}
    (h : config.reproduce rfns candidates ranking chromosomeMap n = .ok repro) (hi : i < n) :
    ∃ parentId c, actualParent repro i = some parentId ∧ repro.offspringChromosomes[i]? = some c ∧
      (i < repro.eliteIds.length ∧ chromosomeMap.get? parentId = some c ∨
        ∃ pair a b, repro.matingPairs[i - repro.eliteIds.length]? = some pair ∧ pair.alphaId = parentId ∧
          chromosomeMap.get? pair.alphaId = some a ∧ chromosomeMap.get? pair.aspirantId = some b ∧
          c = rfns.cross (i - repro.eliteIds.length) (rfns.encode a) (rfns.encode b)) := by
  obtain ⟨alphas, aspirants, elites, children, -, -, helite, hpairs, -, hoff, helites, hchildren⟩ :=
    HypergamicConfig.reproduce_ok h
  rw [actualParent, hoff, List.getElem?_append, ← helites.length_eq]
  by_cases hlt : i < repro.eliteIds.length
  · rw [if_pos hlt, if_pos hlt, List.getElem?_eq_getElem hlt]
    obtain ⟨c, hc, hget⟩ := getElem?_of_forall₂ helites (List.getElem?_eq_getElem hlt)
    refine ⟨_, c, rfl, hc, .inl ⟨hlt, ?_⟩⟩
    unfold HypergamicConfig.eliteChromosome at hget
    split at hget
    · cases hget
    · rename_i hchrom
      cases hget
      exact hchrom
  · rw [if_neg hlt, if_neg hlt]
    have hlt' : i - repro.eliteIds.length < repro.matingPairs.length := by omega
    have hzip : repro.matingPairs.zipIdx[i - repro.eliteIds.length]? =
        some (repro.matingPairs[i - repro.eliteIds.length], i - repro.eliteIds.length) := by
      rw [List.getElem?_zipIdx, List.getElem?_eq_getElem hlt', Nat.zero_add]
      rfl
    obtain ⟨c, hc, hcross⟩ := getElem?_of_forall₂ hchildren hzip
    rw [List.getElem?_eq_getElem hlt']
    unfold HypergamicConfig.crossPair at hcross
    split at hcross
    · cases hcross
    · cases hcross
    · rename_i a b ha hb
      cases hcross
      exact ⟨_, _, rfl, hc, .inr ⟨_, a, b, rfl, rfl, ha, hb, rfl⟩⟩

/-- Lineage is truthful: each child is mapped to its actual parent, under its own id and under the id its evaluation gave it. -/
structure TruthfulLineage (nextGenIdx : ℕ) (currentChromosomes : Dict String χ) (pool : JointPool χ) : Prop where
  children : ∀ i < pool.reproResult.offspringChromosomes.length,
    pool.offspringToParent.get? (childId nextGenIdx i) = actualParent pool.reproResult i
  renamed : ∀ i f, pool.evaluatedOffspring[i]? = some f → currentChromosomes.contains f.candidateId = false →
    pool.mutatedOffspringMap.contains f.candidateId = false →
    (∀ j < i, ∀ f', pool.evaluatedOffspring[j]? = some f' → f'.candidateId ≠ f.candidateId) →
    pool.offspringToParent.get? f.candidateId = actualParent pool.reproResult i

/-- The alphas in turn are the elites over and over, and after so many pairs the elites have come round. -/
def AlphasRepeatElites (alphaIds eliteIds : List String) (pairs : ℕ) : Prop :=
  (∀ j < pairs, alphaIds[j % alphaIds.length]? = eliteIds[j % eliteIds.length]?) ∧
    ∀ i < eliteIds.length, eliteIds[(i + pairs) % eliteIds.length]? = eliteIds[i]?

/-- Where a generation copies elites, its alphas repeat them. -/
def ElitesInTurn (engine : GenerationalLifecycleEngine) (fns : LifecycleFns χ) (currentFitness : List CandidateFitness)
    (n : ℕ) : Prop :=
  ∀ ranking alphas aspirants, engine.parentRanking fns currentFitness = .ok ranking →
    engine.hypergamicConfig.stratify currentFitness ranking = .ok (alphas, aspirants) →
    engine.hypergamicConfig.eliteIds ranking n ≠ [] →
    AlphasRepeatElites (alphas.map (·.candidateId)) (engine.hypergamicConfig.eliteIds ranking n)
      (n - (engine.hypergamicConfig.eliteIds ranking n).length)

/-- How a pool comes about: the mutation's maps, the pairs' alphas written down before the elites, and then the ids of the
evaluation. -/
theorem spec_of_formPool
    (h : engine.formPool fns currentChromosomes currentFitness currentState evaluator offspringFitness = .ok pool) :
    pool.reproResult.offspringChromosomes.length = currentChromosomes.items.length ∧
      pool.reproResult.matingPairs.length = currentChromosomes.items.length - pool.reproResult.eliteIds.length ∧
      ∃ lineage, MapsSpec fns (engine.mutationConfig.effectiveSigma currentState)
        (currentState.generationIndex + 1) pool.reproResult
          currentChromosomes pool.reproResult.offspringChromosomes (pool.mutatedOffspringMap, lineage) ∧
        (∀ i < currentChromosomes.items.length, lineage.get? (childId (currentState.generationIndex + 1) i) =
          (pool.reproResult.matingPairs.map (·.alphaId) ++ pool.reproResult.eliteIds)[i]?) ∧
        AdoptSpec (currentState.generationIndex + 1) pool.mutatedOffspringMap
        (currentChromosomes.update pool.mutatedOffspringMap, lineage)
          pool.evaluatedOffspring (pool.jointChromosomes, pool.offspringToParent) := by
  obtain ⟨-, -, ranking, -, hrepro, hevaluated, -, maps, hmaps, hmutated, hadopt⟩ := formPool_ok h
  have heval := length_of_evaluateOffspring hevaluated
  obtain ⟨alphas, aspirants, elites, children, -, -, helite, hpairs, -, hoff, helites, hchildren⟩ :=
    HypergamicConfig.reproduce_ok hrepro
  have hle := HypergamicConfig.length_eliteIds_le engine.hypergamicConfig ranking currentChromosomes.items.length
  rw [← helite] at hle
  have hlen : pool.reproResult.offspringChromosomes.length = currentChromosomes.items.length := by
    rw [hoff, List.length_append, ← helites.length_eq, ← hchildren.length_eq, List.length_zipIdx]
    omega
  have hspec := mapsSpec_mapsAfter fns (engine.mutationConfig.effectiveSigma currentState) (currentState.generationIndex + 1)
    pool.reproResult currentChromosomes pool.reproResult.offspringChromosomes
  rw [show mapsAfter fns (engine.mutationConfig.effectiveSigma currentState) (currentState.generationIndex + 1) pool.reproResult
    currentChromosomes pool.reproResult.offspringChromosomes = (pool.mutatedOffspringMap, maps.2) by
      rw [hmutated, hmaps]; rfl] at hspec
  rw [← hmutated] at hadopt
  have hrecorded : ∀ i < currentChromosomes.items.length, maps.2.get? (childId (currentState.generationIndex + 1) i) =
      (pool.reproResult.matingPairs.map (·.alphaId) ++ pool.reproResult.eliteIds)[i]? := by
    intro i hi
    rw [hspec.lineage i (hlen ▸ hi), recordedParent_eq _ _ (by omega)]
  refine ⟨hlen, hpairs, maps.2, hspec, hrecorded, adoptSpec_of_ok (fun i hi => ?_) (fun i hi => ?_) (fun i hi => ?_) hadopt⟩
  · rw [hspec.keys, List.getElem?_map, List.getElem?_range (by omega)]
    rfl
  · rw [Dict.contains, Dict.get?_update, hspec.mutated i _ (List.getElem?_eq_getElem (by omega))]
    rfl
  · rw [hrecorded i (heval ▸ hi)]
    exact ⟨_, List.getElem?_eq_getElem (by rw [List.length_append, List.length_map]; omega)⟩

/-- What `offspring_to_parent` holds in the end: the pairs' alphas first and then the elites, by the number of the child, and for
a new id what it holds for the child at its position. -/
theorem offspringToParent_of_formPool
    (h : engine.formPool fns currentChromosomes currentFitness currentState evaluator offspringFitness = .ok pool) :
    (∀ i < currentChromosomes.items.length, pool.offspringToParent.get? (childId (currentState.generationIndex + 1) i) =
      (pool.reproResult.matingPairs.map (·.alphaId) ++ pool.reproResult.eliteIds)[i]?) ∧
    ∀ i f, pool.evaluatedOffspring[i]? = some f → currentChromosomes.contains f.candidateId = false →
      pool.mutatedOffspringMap.contains f.candidateId = false →
      (∀ j < i, ∀ f', pool.evaluatedOffspring[j]? = some f' → f'.candidateId ≠ f.candidateId) →
      pool.offspringToParent.get? f.candidateId = pool.offspringToParent.get? (childId (currentState.generationIndex + 1) i) := by
  obtain ⟨-, -, -, -, -, hevaluated, -⟩ := formPool_ok h
  have heval := length_of_evaluateOffspring hevaluated
  obtain ⟨hlen, -, lineage, hspec, hrecorded, hadopted⟩ := spec_of_formPool h
  have hkept : ∀ i < currentChromosomes.items.length, pool.offspringToParent.get? (childId (currentState.generationIndex + 1) i) =
      lineage.get? (childId (currentState.generationIndex + 1) i) := by
    intro i hi
    refine (hadopted.kept _ ?_).2
    rw [Dict.contains, Dict.get?_update, hspec.mutated i _ (List.getElem?_eq_getElem (by omega))]
    rfl
  refine ⟨fun i hi => (hkept i hi).trans (hrecorded i hi), fun i f hf hcurrent hmap hfirst => ?_⟩
  have hout : (currentChromosomes.update pool.mutatedOffspringMap).contains f.candidateId = false := by
    rw [Dict.contains_eq_false_iff] at hcurrent hmap ⊢
    rw [Dict.get?_update, hmap, hcurrent]
    rfl
  rw [(hadopted.renamed i f hf hout hfirst).2, hkept i (heval ▸ (List.getElem?_eq_some_iff.1 hf).1)]

/-- Lineage is truthful exactly where no elites are copied or the alphas in turn repeat the elites. -/
theorem truthfulLineage_iff
    (h : engine.formPool fns currentChromosomes currentFitness currentState evaluator offspringFitness = .ok pool) :
    TruthfulLineage (currentState.generationIndex + 1) currentChromosomes pool ↔
      ElitesInTurn engine fns currentFitness currentChromosomes.items.length := by
  obtain ⟨hlen, hpairs, -⟩ := spec_of_formPool h
  obtain ⟨hchildren, hrenamed⟩ := offspringToParent_of_formPool h
  obtain ⟨-, -, ranking, hranking, hrepro, -⟩ := formPool_ok h
  obtain ⟨alphas, aspirants, -, -, hcohorts, -, helite, -, hturn, -⟩ := HypergamicConfig.reproduce_ok hrepro
  -- Truthful lineage is one list read in two orders.
  have hwords : TruthfulLineage (currentState.generationIndex + 1) currentChromosomes pool ↔
      pool.reproResult.eliteIds ++ pool.reproResult.matingPairs.map (·.alphaId) =
        pool.reproResult.matingPairs.map (·.alphaId) ++ pool.reproResult.eliteIds := by
    constructor
    · intro htruth
      refine List.ext_getElem? fun i => ?_
      by_cases hi : i < currentChromosomes.items.length
      · rw [← hchildren i hi, htruth.children i (hlen ▸ hi), actualParent_eq]
      · have hle := HypergamicConfig.length_eliteIds_le engine.hypergamicConfig ranking currentChromosomes.items.length
        rw [← helite] at hle
        rw [List.getElem?_eq_none (by rw [List.length_append, List.length_map]; omega),
          List.getElem?_eq_none (by rw [List.length_append, List.length_map]; omega)]
    · intro hcomm
      constructor
      · intro i hi
        rw [hchildren i (hlen ▸ hi), actualParent_eq, hcomm]
      · intro i f hf hcurrent hmap hfirst
        have hi : i < currentChromosomes.items.length := by
          obtain ⟨-, -, -, -, -, hevaluated, -⟩ := formPool_ok h
          exact length_of_evaluateOffspring hevaluated ▸ (List.getElem?_eq_some_iff.1 hf).1
        rw [hrenamed i f hf hcurrent hmap hfirst, hchildren i hi, actualParent_eq, hcomm]
  rw [hwords]
  have hcycle : ∀ {elites : List String}, (∀ j < pool.reproResult.matingPairs.length,
      (pool.reproResult.matingPairs.map (·.alphaId))[j]? = elites[j % elites.length]?) ↔
      ∀ j < pool.reproResult.matingPairs.length,
        (alphas.map (·.candidateId))[j % (alphas.map (·.candidateId)).length]? = elites[j % elites.length]? := by
    intro elites
    refine forall₂_congr fun j hj => ?_
    rw [hturn j hj, List.length_map]
  constructor
  · intro hcomm ranking' alphas' aspirants' hranking' hcohorts' hne
    rw [hranking] at hranking'
    cases hranking'
    rw [hcohorts] at hcohorts'
    cases hcohorts'
    rw [← helite] at hne ⊢
    rw [append_comm_iff hne, List.length_map] at hcomm
    rw [← hpairs]
    exact ⟨hcycle.1 hcomm.1, hcomm.2⟩
  · intro hcond
    by_cases hne : pool.reproResult.eliteIds = []
    · rw [hne, List.nil_append, List.append_nil]
    · have hrepeat := hcond ranking alphas aspirants hranking hcohorts (helite ▸ hne)
      rw [← helite, ← hpairs] at hrepeat
      rw [append_comm_iff hne, List.length_map]
      exact ⟨hcycle.2 hrepeat.1, hrepeat.2⟩

end Pool

/-! ### A population of strategies that stay idle -/

theorem idleSeries_length_eq : (List.replicate 100 (0 : ℚ)).length = (List.replicate 100 (0 : ℚ)).length := rfl

theorem idleSeries_length_ge : 100 ≤ (List.replicate 100 (0 : ℚ)).length := List.length_replicate.ge

/-- A candidate without returns. -/
def idleCandidate (isFeasible : Bool) (candidateId : String) : CandidateFitness where
  candidateId := candidateId
  dsr := 1
  minimaxRegret := 0
  returnSeries := List.replicate 100 0
  residualSeries := List.replicate 100 0
  backtestLength := 100
  isFeasible := isFeasible
  lengths_eq := idleSeries_length_eq
  length_ge := idleSeries_length_ge

/-- Default chromosomes under some ids. -/
def defaultPopulation (ids : List String) : Dict String (StrategyChromosome ℚ) :=
  (∅ : Dict String (StrategyChromosome ℚ)).setAll (ids.map fun cid => (cid, defaultChromosome))

/-- A generation in which nothing is drawn: scores by position, the first candidate in every tournament, children and mutants by
default. -/
def idleFns : LifecycleFns (StrategyChromosome ℚ) where
  parentScores := ⟨fun _ => 1, fun i => i⟩
  jointScores := ⟨fun _ => 1, fun i => i⟩
  reproduction :=
    { sqrt := id
      encode := fun _ => List.replicate 20 0
      draw := fun _ _ _ => 0
      cross := fun _ _ _ => defaultChromosome }
  mutate := fun _ _ c => c
  dispersion := fun _ => 1
  correlation := fun _ => 0

/-- The fitness of candidates that are all feasible. -/
def idleFitness (ids : List String) : List CandidateFitness := ids.map (idleCandidate true)

/-- Initialize a population and form the pool of its first generation, with an evaluator that finds every child feasible. -/
def firstGeneration (elitismCount : ℕ) (ids : List String) :
    Except Exc (GenerationalState × GenerationalLifecycleEngine × JointPool (StrategyChromosome ℚ)) :=
  (initializeState { hypergamicConfig := .withElitism elitismCount } idleFns (defaultPopulation ids) (idleFitness ids) none).bind
    fun (state, engine) =>
      (engine.formPool idleFns (defaultPopulation ids) (idleFitness ids) state
        (some fun mutated => idleFitness mutated.keys) none).map
        fun pool => (state, engine, pool)

theorem firstGeneration_ok {elitismCount : ℕ} {ids : List String} {β : Type}
    {f : GenerationalState × GenerationalLifecycleEngine × JointPool (StrategyChromosome ℚ) → β} {y : β}
    (h : (firstGeneration elitismCount ids).map f = .ok y) :
    ∃ state engine pool,
      initializeState { hypergamicConfig := .withElitism elitismCount } idleFns (defaultPopulation ids) (idleFitness ids) none =
        .ok (state, engine) ∧
      engine.formPool idleFns (defaultPopulation ids) (idleFitness ids) state
        (some fun mutated => idleFitness mutated.keys) none =
        .ok pool ∧ f (state, engine, pool) = y := by
  unfold firstGeneration at h
  cases hinit : initializeState { hypergamicConfig := .withElitism elitismCount } idleFns (defaultPopulation ids)
    (idleFitness ids)
      none with
  | error exc =>
    rw [hinit] at h
    cases h
  | ok r =>
    obtain ⟨state, engine⟩ := r
    rw [hinit] at h
    simp only [Except.bind] at h
    cases hpool : engine.formPool idleFns (defaultPopulation ids) (idleFitness ids) state
        (some fun mutated => idleFitness mutated.keys) none with
    | error exc =>
      rw [hpool] at h
      cases h
    | ok pool =>
      rw [hpool] at h
      exact ⟨state, engine, pool, rfl, hpool, Except.ok.inj h⟩

/-- Of two elites and one child, an elite is mapped to the other one and the child to an elite. -/
theorem lineage_twoElites :
    (firstGeneration 2 ["a", "b", "c"]).map (fun (state, _, pool) =>
      (state.generationIndex, pool.reproResult.eliteIds, pool.offspringToParent.items)) =
        .ok (0, ["a", "b"], [("gen_1_ind_0", "a"), ("gen_1_ind_1", "a"), ("gen_1_ind_2", "b")]) := by
  decide +kernel

/-- Two of three offspring are elites, and the second elite is mapped to the first. -/
theorem truthfulLineage_counterexample :
    ∃ state engine pool,
      initializeState { hypergamicConfig := .withElitism 2 } idleFns (defaultPopulation ["a", "b", "c"])
      (idleFitness ["a", "b", "c"])
        none = .ok (state, engine) ∧
      engine.formPool idleFns (defaultPopulation ["a", "b", "c"]) (idleFitness ["a", "b", "c"]) state
        (some fun mutated => idleFitness mutated.keys) none = .ok pool ∧
      ¬ TruthfulLineage (state.generationIndex + 1) (defaultPopulation ["a", "b", "c"]) pool := by
  obtain ⟨state, engine, pool, hinit, hpool, hvalues⟩ := firstGeneration_ok lineage_twoElites
  refine ⟨state, engine, pool, hinit, hpool, fun h => ?_⟩
  simp only [Prod.mk.injEq] at hvalues
  obtain ⟨hindex, helites, hitems⟩ := hvalues
  have hlen := (spec_of_formPool hpool).1
  have hsecond := h.children 1 (by rw [hlen]; decide)
  rw [actualParent, helites, if_pos (by decide), Dict.get?, hitems, hindex] at hsecond
  revert hsecond
  decide

/-- The ids of the alphas and of the elites of a generation. -/
def cohortIds (engine : GenerationalLifecycleEngine) (ids : List String) : Except Exc (List String × List String) :=
  (engine.parentRanking idleFns (idleFitness ids)).bind fun ranking =>
    (engine.hypergamicConfig.stratify (idleFitness ids) ranking).map fun cohorts =>
      (cohorts.1.map (·.candidateId), engine.hypergamicConfig.eliteIds ranking ids.length)

theorem cohorts_oneElite :
    (firstGeneration 1 ["a", "b"]).map (fun (_, engine, _) => cohortIds engine ["a", "b"]) = .ok (.ok (["a", "b"], ["a"])) := by
  decide +kernel

/-- Of one elite and one child, both come from the elite. -/
theorem truthfulLineage_oneElite :
    ∃ state engine pool,
      initializeState { hypergamicConfig := .withElitism 1 } idleFns (defaultPopulation ["a", "b"])
        (idleFitness ["a", "b"]) none =
        .ok (state, engine) ∧
      engine.formPool idleFns (defaultPopulation ["a", "b"]) (idleFitness ["a", "b"]) state
        (some fun mutated => idleFitness mutated.keys) none = .ok pool ∧
      TruthfulLineage (state.generationIndex + 1) (defaultPopulation ["a", "b"]) pool := by
  obtain ⟨state, engine, pool, hinit, hpool, hvalues⟩ := firstGeneration_ok cohorts_oneElite
  refine ⟨state, engine, pool, hinit, hpool, (truthfulLineage_iff hpool).2 ?_⟩
  intro ranking alphas aspirants hranking hcohorts _
  simp only [cohortIds, hranking, Except.bind, hcohorts, Except.map, Except.ok.injEq, Prod.mk.injEq] at hvalues
  obtain ⟨halphas, helites⟩ := hvalues
  have hsize : (defaultPopulation ["a", "b"]).items.length = 2 := by decide
  rw [hsize, halphas]
  rw [show engine.hypergamicConfig.eliteIds ranking 2 = ["a"] from helites]
  unfold AlphasRepeatElites
  decide

end GenerationalLifecycleEngine

end Quant
