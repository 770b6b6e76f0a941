import Quant.Analytics.HypergamicSelection
import Quant.Pylib.Fronts

/-!
# The cohorts of a stratification

Alphas and aspirants are together the viable individuals. The alphas are the viable members of the first front, and where these
are too few the best of the second one by their scores; whoever is left is an aspirant.
-/

namespace Quant

open Pylib

namespace HypergamicConfig

/-! ## Viability -/

/-- A viable individual: the last feasible record with its id, not set apart by the ranking, with a score of one half at least. -/
def IsViable (candidates : List CandidateFitness) (ranking : RankingResult) (c : CandidateFitness) : Prop :=
  (∃ i : ℕ, (candidates.filter (·.isFeasible))[i]? = some c ∧
    ∀ (j : ℕ) c', i < j → (candidates.filter (·.isFeasible))[j]? = some c' → c'.candidateId ≠ c.candidateId) ∧
  c.candidateId ∉ ranking.infeasibleIds ∧ 1 / 2 ≤ c.dsr

/-- Where ids are different, the viable individuals are the feasible ones the ranking does not set apart, with a score of one
half. -/
theorem isViable_iff_of_nodup {candidates : List CandidateFitness} (hn : (candidates.map (·.candidateId)).Nodup)
    (ranking : RankingResult)
    (c : CandidateFitness) :
    IsViable candidates ranking c ↔
      c ∈ candidates ∧ c.isFeasible = true ∧ c.candidateId ∉ ranking.infeasibleIds ∧ 1 / 2 ≤ c.dsr := by
  have hn' : ((candidates.filter (·.isFeasible)).map (·.candidateId)).Nodup := hn.sublist (List.filter_sublist.map _)
  have hmem : c ∈ candidates.filter (·.isFeasible) ↔ c ∈ candidates ∧ c.isFeasible = true := List.mem_filter
  rw [← and_assoc, ← hmem, IsViable]
  refine and_congr_left fun _ => ⟨?_, fun hc => ?_⟩
  · rintro ⟨i, hi, -⟩
    exact List.mem_of_getElem? hi
  · obtain ⟨i, hi⟩ := List.mem_iff_getElem?.1 hc
    refine ⟨i, hi, fun j c' hij hj hid => ?_⟩
    refine List.nodup_iff_getElem?_ne_getElem?.1 hn' i j hij ?_ ?_
    · rw [List.length_map]
      exact (List.getElem?_eq_some_iff.1 hj).1
    · rw [List.getElem?_map, List.getElem?_map, hi, hj, Option.map_some, Option.map_some, hid]

variable {candidates : List CandidateFitness} {ranking : RankingResult}

/-- The dictionary of viable candidates holds the viable individuals under their ids. -/
theorem get?_viableCandidates {cid : String} {c : CandidateFitness} :
    (viableCandidates candidates ranking).get? cid = some c ↔ c.candidateId = cid ∧ IsViable candidates ranking c := by
  unfold viableCandidates
  dsimp only
  generalize hcand : (∅ : Dict String CandidateFitness).upsert (·.candidateId) (candidates.filter (·.isFeasible)) = candById
  have hkey : ∀ k c', candById.get? k = some c' → c'.candidateId = k := by
    intro k c' hget
    rw [← hcand] at hget
    exact (Dict.mem_of_get?_upsert_empty hget).2
  have hrows : ∀ c', c' ∈ candById.values.filter (fun cand => cand.candidateId ∉ ranking.infeasibleIds ∧ 1 / 2 ≤ cand.dsr) ↔
      IsViable candidates ranking c' := by
    intro c'
    rw [List.mem_filter, Dict.mem_values_iff, decide_eq_true_iff, IsViable]
    refine and_congr_left fun _ => ⟨?_, ?_⟩
    · rintro ⟨k, hget⟩
      rw [← hcand, Dict.get?_upsert_empty_iff] at hget
      obtain ⟨i, hi, rfl, hlast⟩ := hget
      exact ⟨i, hi, hlast⟩
    · rintro ⟨i, hi, hlast⟩
      exact ⟨c'.candidateId, hcand ▸ Dict.get?_upsert_empty_iff.2 ⟨i, hi, rfl, hlast⟩⟩
  have hnodup : ((candById.values.filter fun cand => cand.candidateId ∉ ranking.infeasibleIds ∧ 1 / 2 ≤ cand.dsr).map
      (·.candidateId)).Nodup := by
    refine List.Nodup.sublist (List.filter_sublist.map _) ?_
    rw [Dict.map_values _ hkey]
    exact candById.nodup_keys
  constructor
  · intro h
    obtain ⟨hmem, hid⟩ := Dict.mem_of_get?_upsert_empty h
    exact ⟨hid, (hrows c).1 hmem⟩
  · rintro ⟨rfl, hviable⟩
    exact Dict.get?_upsert_of_mem _ hnodup ((hrows c).2 hviable)

theorem get?_of_isViable {c : CandidateFitness} (h : IsViable candidates ranking c) :
    (viableCandidates candidates ranking).get? c.candidateId = some c :=
  get?_viableCandidates.2 ⟨rfl, h⟩

theorem contains_viableCandidates {cid : String} :
    (viableCandidates candidates ranking).contains cid = true ↔ ∃ c, IsViable candidates ranking c ∧ c.candidateId = cid := by
  rw [Dict.contains, Option.isSome_iff_exists]
  exact exists_congr fun c => get?_viableCandidates.trans and_comm

theorem mem_values_viableCandidates {c : CandidateFitness} :
    c ∈ (viableCandidates candidates ranking).values ↔ IsViable candidates ranking c := by
  rw [Dict.mem_values_iff]
  constructor
  · rintro ⟨k, hget⟩
    exact (get?_viableCandidates.1 hget).2
  · intro h
    exact ⟨c.candidateId, get?_of_isViable h⟩

/-- The candidates of some ids. -/
theorem mem_filterMap_viableCandidates {ids : List String} {c : CandidateFitness} :
    c ∈ ids.filterMap (viableCandidates candidates ranking).get? ↔ c.candidateId ∈ ids ∧ IsViable candidates ranking c := by
  simp only [List.mem_filterMap, get?_viableCandidates]
  constructor
  · rintro ⟨cid, hcid, rfl, hc⟩
    exact ⟨hcid, hc⟩
  · rintro ⟨hcid, hc⟩
    exact ⟨c.candidateId, hcid, rfl, hc⟩

theorem map_filterMap_viableCandidates {ids : List String}
    (h : ∀ cid ∈ ids, (viableCandidates candidates ranking).contains cid = true) :
    (ids.filterMap (viableCandidates candidates ranking).get?).map (·.candidateId) = ids := by
  induction ids with
  | nil => rfl
  | cons cid ids ih =>
    obtain ⟨c, hc, rfl⟩ := contains_viableCandidates.1 (h cid List.mem_cons_self)
    rw [List.filterMap_cons_some (get?_of_isViable hc), List.map_cons, ih fun cid' hcid' => h cid' (List.mem_cons_of_mem _ hcid')]

/-! ## The specification -/

/-- How many alphas a stratification aims at. -/
def alphaQuota (config : HypergamicConfig) (candidates : List CandidateFitness) (ranking : RankingResult) : ℕ :=
  max 1 ⌈config.alphaRatio * (viableCandidates candidates ranking).items.length⌉₊

/-- The ids of the viable members of a front. -/
def viableIds (candidates : List CandidateFitness) (ranking : RankingResult) (front : ParetoFront) : List String :=
  front.candidateIds.filter fun cid => (viableCandidates candidates ranking).contains cid

/-- The viable members of the second front that are not in the first one, with their scores. -/
def secondFront (candidates : List CandidateFitness) (ranking : RankingResult) : List (String × ℚ) :=
  match ranking.fronts with
  | f1 :: f2 :: _ => (f2.candidateIds.zip f2.apdScores).filter fun p =>
      (viableCandidates candidates ranking).contains p.1 ∧ p.1 ∉ viableIds candidates ranking f1
  | _ => []

/-- What a stratification returns. Together the cohorts are the viable individuals; no one is in both unless there are alphas
only, who then are the aspirants too; the viable members of the first front are alphas; and where they are short of the quota, the
best of the second front by their scores follow them. -/
structure IsStratified (config : HypergamicConfig) (candidates : List CandidateFitness) (ranking : RankingResult)
    (alphas aspirants : List CandidateFitness) : Prop where
  together : ∀ c, c ∈ alphas ∨ c ∈ aspirants ↔ IsViable candidates ranking c
  disjoint : (∀ c ∈ alphas, c ∉ aspirants) ∨ aspirants = alphas ∧ ∀ c, IsViable candidates ranking c → c ∈ alphas
  nodup : (∀ front ∈ ranking.fronts, front.candidateIds.Nodup) → alphas.Nodup ∧ aspirants.Nodup
  first : ∀ front, ranking.fronts.head? = some front → ∀ c, IsViable candidates ranking c →
    c.candidateId ∈ front.candidateIds → c ∈ alphas
  filled : ∀ front, ranking.fronts.head? = some front → ∃ chosen left : List (String × ℚ),
    (chosen ++ left).Perm (secondFront candidates ranking) ∧ (chosen ++ left).Pairwise (fun p q => p.2 ≤ q.2) ∧
    chosen.length = min (alphaQuota config candidates ranking - (viableIds candidates ranking front).length)
      (secondFront candidates ranking).length ∧
    alphas.map (·.candidateId) = viableIds candidates ranking front ++ chosen.map Prod.fst

/-! ## The alphas -/

/-- The best of the second front, as many as the first front is short of. -/
def chosenFromSecond (config : HypergamicConfig) (candidates : List CandidateFitness) (ranking : RankingResult)
    (front : ParetoFront) :
    List (String × ℚ) :=
  ((secondFront candidates ranking).insertionSort fun p q => p.2 ≤ q.2).take
    (alphaQuota config candidates ranking - (viableIds candidates ranking front).length)

theorem alphaCohort_eq (config : HypergamicConfig) {front : ParetoFront} {rest : List ParetoFront}
    (h : ranking.fronts = front :: rest) :
    alphaCohort (viableCandidates candidates ranking) (alphaQuota config candidates ranking) front rest =
      viableIds candidates ranking front ++ (chosenFromSecond config candidates ranking front).map Prod.fst := by
  unfold alphaCohort
  dsimp only
  split_ifs with hle
  · simp [chosenFromSecond, viableIds, Nat.sub_eq_zero_of_le hle]
  · cases rest with
    | nil => simp [chosenFromSecond, secondFront, h, viableIds]
    | cons f2 rest => simp [chosenFromSecond, secondFront, h, viableIds]

/-- Who is chosen from the second front is a viable member of it and not in the first one. -/
theorem mem_secondFront {front : ParetoFront} (hfront : ranking.fronts.head? = some front) {p : String × ℚ}
    (hp : p ∈ secondFront candidates ranking) :
    (viableCandidates candidates ranking).contains p.1 = true ∧ p.1 ∉ viableIds candidates ranking front := by
  unfold secondFront at hp
  split at hp
  · rename_i f1 f2 rest hfronts
    rw [hfronts] at hfront
    obtain rfl := Option.some.inj hfront
    simpa using (List.mem_filter.1 hp).2
  · cases hp

theorem mem_chosenFromSecond {config : HypergamicConfig} {front : ParetoFront} {p : String × ℚ}
    (hp : p ∈ chosenFromSecond config candidates ranking front) : p ∈ secondFront candidates ranking :=
  (List.mem_insertionSort _).1 (List.mem_of_mem_take hp)

theorem nodup_secondFront (h : ∀ front ∈ ranking.fronts, front.candidateIds.Nodup) :
    ((secondFront candidates ranking).map Prod.fst).Nodup := by
  unfold secondFront
  split
  · rename_i f1 f2 rest hfronts
    refine List.Nodup.sublist (List.filter_sublist.map Prod.fst) (List.Nodup.sublist ?_ (h f2 (by simp [hfronts])))
    exact (map_fst_zip_isPrefix _ _).sublist
  · exact List.nodup_nil

/-- What the stratification takes from the second front, and what it leaves. -/
theorem chosenFromSecond_spec (config : HypergamicConfig) (candidates : List CandidateFitness) (ranking : RankingResult)
    (front : ParetoFront) : ∃ left,
    (chosenFromSecond config candidates ranking front ++ left).Perm (secondFront candidates ranking) ∧
    (chosenFromSecond config candidates ranking front ++ left).Pairwise (fun p q => p.2 ≤ q.2) ∧
    (chosenFromSecond config candidates ranking front).length =
      min (alphaQuota config candidates ranking - (viableIds candidates ranking front).length)
      (secondFront candidates ranking).length := by
  refine ⟨((secondFront candidates ranking).insertionSort fun p q => p.2 ≤ q.2).drop
    (alphaQuota config candidates ranking - (viableIds candidates ranking front).length), ?_, ?_, ?_⟩
  · rw [chosenFromSecond, List.take_append_drop]
    exact List.perm_insertionSort _ _
  · rw [chosenFromSecond, List.take_append_drop]
    refine (pairwise_insertionSort_key (fun p : String × ℚ => p.2) (r := fun _ _ => True)
      (List.pairwise_of_forall fun _ _ => trivial)).imp ?_
    rintro p q (hlt | ⟨heq, -⟩)
    · exact hlt.le
    · exact heq.le
  · rw [chosenFromSecond, List.length_take, List.length_insertionSort]

theorem contains_of_mem_alphas {config : HypergamicConfig} {front : ParetoFront}
    (hfront : ranking.fronts.head? = some front) {cid : String}
    (h : cid ∈ viableIds candidates ranking front ++ (chosenFromSecond config candidates ranking front).map Prod.fst) :
    (viableCandidates candidates ranking).contains cid = true := by
  rcases List.mem_append.1 h with hcid | hcid
  · exact (List.mem_filter.1 hcid).2
  · obtain ⟨p, hp, rfl⟩ := List.mem_map.1 hcid
    exact (mem_secondFront hfront (mem_chosenFromSecond hp)).1

/-- Fronts that name no one twice make alphas that are different. -/
theorem nodup_alphas {config : HypergamicConfig} {front : ParetoFront} (hfront : ranking.fronts.head? = some front)
    (hall : ∀ f ∈ ranking.fronts, f.candidateIds.Nodup) :
    (viableIds candidates ranking front ++ (chosenFromSecond config candidates ranking front).map Prod.fst).Nodup := by
  refine List.nodup_append.2 ⟨(hall front (List.mem_of_head? hfront)).filter _, ?_, ?_⟩
  · have hsorted : ((secondFront candidates ranking).insertionSort fun p q => p.2 ≤ q.2).map Prod.fst |>.Nodup :=
      ((List.perm_insertionSort _ _).map _).nodup_iff.2 (nodup_secondFront hall)
    exact hsorted.sublist ((List.take_sublist _ _).map _)
  · rintro cid hcid cid' hcid' rfl
    obtain ⟨p, hp, rfl⟩ := List.mem_map.1 hcid'
    exact (mem_secondFront hfront (mem_chosenFromSecond hp)).2 hcid

/-- Different ids of viable individuals make a cohort of different ones. -/
theorem nodup_cohort {ids : List String} (h : ∀ cid ∈ ids, (viableCandidates candidates ranking).contains cid = true)
    (hids : ids.Nodup) :
    (ids.filterMap (viableCandidates candidates ranking).get?).Nodup := by
  refine List.Nodup.of_map (·.candidateId) ?_
  rw [map_filterMap_viableCandidates h]
  exact hids

/-! ## The cohorts -/

section Cohorts

variable (config : HypergamicConfig) (candidates : List CandidateFitness) (ranking : RankingResult)

theorem nodup_values_viableCandidates : (viableCandidates candidates ranking).values.Nodup :=
  Dict.values_nodup (·.candidateId) fun _ _ hget => (get?_viableCandidates.1 hget).1

/-- Without fronts the best individuals by their scores are the alphas. -/
theorem isStratified_of_no_fronts (hfronts : ranking.fronts = []) {sorted : List CandidateFitness}
    (hsorted : sorted.Perm (viableCandidates candidates ranking).values) (n : ℕ) :
    IsStratified config candidates ranking (sorted.take n) (if sorted.drop n = [] then sorted.take n else sorted.drop n) := by
  have hmem : ∀ c, c ∈ sorted.take n ∨ c ∈ sorted.drop n ↔ IsViable candidates ranking c := by
    intro c
    rw [← List.mem_append, List.take_append_drop, hsorted.mem_iff, mem_values_viableCandidates]
  have hnodup : (sorted.take n ++ sorted.drop n).Nodup := by
    rw [List.take_append_drop, hsorted.nodup_iff]
    exact nodup_values_viableCandidates candidates ranking
  obtain ⟨htake, hdrop, hdisjoint⟩ := List.nodup_append.1 hnodup
  have hfirst : ∀ front, ranking.fronts.head? ≠ some front := by
    intro front
    rw [hfronts]
    simp
  by_cases hempty : sorted.drop n = []
  · rw [if_pos hempty]
    rw [hempty] at hmem
    simp only [List.not_mem_nil, or_false] at hmem
    exact
      { together := fun c => (or_self_iff).trans (hmem c)
        disjoint := .inr ⟨rfl, fun c => (hmem c).2⟩
        nodup := fun _ => ⟨htake, htake⟩
        first := fun front hfront => absurd hfront (hfirst front)
        filled := fun front hfront => absurd hfront (hfirst front) }
  · rw [if_neg hempty]
    exact
      { together := hmem
        disjoint := .inl fun c hc hc' => hdisjoint c hc c hc' rfl
        nodup := fun _ => ⟨htake, hdrop⟩
        first := fun front hfront => absurd hfront (hfirst front)
        filled := fun front hfront => absurd hfront (hfirst front) }

/-- With fronts the alphas are those of the first front and those chosen from the second one. -/
theorem isStratified_of_fronts {front : ParetoFront} {rest : List ParetoFront} (hfronts : ranking.fronts = front :: rest)
    {alphaIds others : List String}
    (halphas : alphaIds = viableIds candidates ranking front ++ (chosenFromSecond config candidates ranking front).map Prod.fst)
    (hothers : others = (viableCandidates candidates ranking).keys.filter fun cid => cid ∉ alphaIds) :
    IsStratified config candidates ranking (alphaIds.filterMap (viableCandidates candidates ranking).get?)
      ((if others = [] then alphaIds else others).filterMap (viableCandidates candidates ranking).get?) := by
  have hhead : ranking.fronts.head? = some front := by rw [hfronts, List.head?_cons]
  have hviable : ∀ cid ∈ alphaIds, (viableCandidates candidates ranking).contains cid = true := fun cid hcid =>
    contains_of_mem_alphas hhead (halphas ▸ hcid)
  have hothers_iff : ∀ c, IsViable candidates ranking c → (c.candidateId ∈ others ↔ c.candidateId ∉ alphaIds) := by
    intro c hc
    rw [hothers, List.mem_filter, Dict.mem_keys_iff, decide_eq_true_iff]
    exact and_iff_right (contains_viableCandidates.2 ⟨c, hc, rfl⟩)
  have hfirst : ∀ f, ranking.fronts.head? = some f → ∀ c, IsViable candidates ranking c → c.candidateId ∈ f.candidateIds →
      c ∈ alphaIds.filterMap (viableCandidates candidates ranking).get? := by
    intro f hf c hc hmem
    obtain rfl := Option.some.inj (hhead.symm.trans hf)
    refine mem_filterMap_viableCandidates.2 ⟨?_, hc⟩
    rw [halphas]
    exact List.mem_append_left _ (List.mem_filter.2 ⟨hmem, contains_viableCandidates.2 ⟨c, hc, rfl⟩⟩)
  have hfilled : ∀ f, ranking.fronts.head? = some f → ∃ chosen left : List (String × ℚ),
      (chosen ++ left).Perm (secondFront candidates ranking) ∧ (chosen ++ left).Pairwise (fun p q => p.2 ≤ q.2) ∧
      chosen.length = min (alphaQuota config candidates ranking - (viableIds candidates ranking f).length)
        (secondFront candidates ranking).length ∧
      (alphaIds.filterMap (viableCandidates candidates ranking).get?).map (·.candidateId) =
        viableIds candidates ranking f ++ chosen.map Prod.fst := by
    intro f hf
    obtain rfl := Option.some.inj (hhead.symm.trans hf)
    obtain ⟨left, hperm, hpairwise, hlen⟩ := chosenFromSecond_spec config candidates ranking front
    exact ⟨_, left, hperm, hpairwise, hlen, by rw [map_filterMap_viableCandidates hviable, halphas]⟩
  have hnodup : (∀ f ∈ ranking.fronts, f.candidateIds.Nodup) →
      (alphaIds.filterMap (viableCandidates candidates ranking).get?).Nodup := fun hall =>
    nodup_cohort hviable (halphas ▸ nodup_alphas hhead hall)
  by_cases hempty : others = []
  · rw [if_pos hempty]
    have hall : ∀ c, IsViable candidates ranking c → c ∈ alphaIds.filterMap (viableCandidates candidates ranking).get? := by
      intro c hc
      refine mem_filterMap_viableCandidates.2 ⟨?_, hc⟩
      by_contra hout
      have hin := (hothers_iff c hc).2 hout
      rw [hempty] at hin
      cases hin
    exact
      { together := fun c => or_self_iff.trans ⟨fun hc => (mem_filterMap_viableCandidates.1 hc).2, hall c⟩
        disjoint := .inr ⟨rfl, hall⟩
        nodup := fun h => ⟨hnodup h, hnodup h⟩
        first := hfirst
        filled := hfilled }
  · rw [if_neg hempty]
    exact
      { together := fun c => by
          rw [mem_filterMap_viableCandidates, mem_filterMap_viableCandidates, ← or_and_right, and_iff_right_iff_imp]
          intro hc
          rw [hothers_iff c hc]
          exact Classical.em _
        disjoint := .inl fun c hc hc' => by
          rw [mem_filterMap_viableCandidates] at hc hc'
          exact (hothers_iff c hc.2).1 hc'.1 hc.1
        nodup := fun h => by
          refine ⟨hnodup h, nodup_cohort (fun cid hcid => ?_) (hothers ▸ (Dict.nodup_keys _).filter _)⟩
          rw [hothers, List.mem_filter, Dict.mem_keys_iff] at hcid
          exact hcid.1
        first := hfirst
        filled := hfilled }

/-- A stratification fails where no individual is viable, and returns the two cohorts else. -/
theorem stratify_spec :
    match config.stratify candidates ranking with
    | .error exc => exc.cls = .invalidCohort ∧ ∀ c, ¬ IsViable candidates ranking c
    | .ok (alphas, aspirants) => IsStratified config candidates ranking alphas aspirants := by
  unfold stratify
  dsimp only
  by_cases hempty : (viableCandidates candidates ranking).items = []
  · rw [if_pos hempty]
    refine ⟨rfl, fun c hc => ?_⟩
    have hmem := mem_values_viableCandidates.2 hc
    rw [Dict.values, hempty] at hmem
    cases hmem
  · rw [if_neg hempty]
    cases hfronts : ranking.fronts with
    | nil => exact isStratified_of_no_fronts config candidates ranking hfronts (List.perm_insertionSort _ _) _
    | cons front rest => exact isStratified_of_fronts config candidates ranking hfronts (alphaCohort_eq config hfronts) rfl

end Cohorts

end HypergamicConfig

end Quant
