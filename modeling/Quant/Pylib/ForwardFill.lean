import Mathlib.Algebra.BigOperators.Group.List.Basic
import Mathlib.Algebra.Field.Basic
import Mathlib.Data.Finset.Max
import Mathlib.Data.List.Sort

/-!
# Forward fill

A series of readings, some of them missing, in which a missing one takes the last one before it. At increasing times that cover
all readings, what the filled series has at a time is the last reading at or before it.
-/

namespace Pylib

variable {α T : Type*}

/-- The series with each missing reading filled from the past; before the series the last one was `last`. -/
def forwardFill (last : Option α) : List (Option α) → List (Option α)
  | [] => []
  | some x :: l => some x :: forwardFill (some x) l
  | none :: l => last :: forwardFill last l

@[simp]
theorem length_forwardFill (last : Option α) (l : List (Option α)) : (forwardFill last l).length = l.length := by
  induction l generalizing last with
  | nil => rfl
  | cons o l ih =>
    cases o with
    | none => simp [forwardFill, ih]
    | some x => simp [forwardFill, ih]

theorem getElem?_forwardFill_zero (last : Option α) (l : List (Option α)) :
    (forwardFill last l)[0]? = l[0]?.map fun o => o.or last := by
  cases l with
  | nil => rfl
  | cons o l =>
    cases o with
    | none => rfl
    | some x => rfl

/-- A place of the filled series has its own reading, or what the place before it has. -/
theorem getElem?_forwardFill_succ (last : Option α) (l : List (Option α)) (k : ℕ) :
    (forwardFill last l)[k + 1]? = l[k + 1]?.map fun o => o.or (forwardFill last l)[k]?.join := by
  induction l generalizing last k with
  | nil => rfl
  | cons o l ih =>
    cases k with
    | zero =>
      cases o with
      | none => simp [forwardFill, getElem?_forwardFill_zero]
      | some x => simp [forwardFill, getElem?_forwardFill_zero]
    | succ k =>
      cases o with
      | none => simp [forwardFill, ih]
      | some x => simp [forwardFill, ih]

/-! ## The last reading -/

section Last

variable [LinearOrder T] {obs : T → Option α} {u v : T} {x y : α}

/-- The last reading at or before a time. -/
def IsLast (obs : T → Option α) (u : T) (x : α) : Prop := ∃ t ≤ u, obs t = some x ∧ ∀ t', t < t' → t' ≤ u → obs t' = none

theorem isLast_of_some (h : obs u = some y) : IsLast obs u x ↔ some y = some x := by
  constructor
  · rintro ⟨t, htu, hx, hlast⟩
    rcases htu.eq_or_lt with rfl | hlt
    · rw [← h, hx]
    · rw [hlast u hlt le_rfl] at h
      cases h
  · rintro hyx
    exact ⟨u, le_rfl, h.trans hyx, fun t' hlt hle => absurd hlt hle.not_gt⟩

/-- Where nothing is read after a time, the last reading is the one of that time. -/
theorem isLast_of_none (hvu : v ≤ u) (h : ∀ t, v < t → t ≤ u → obs t = none) : IsLast obs u x ↔ IsLast obs v x := by
  constructor
  · rintro ⟨t, htu, hx, hlast⟩
    rcases le_or_gt t v with htv | hvt
    · exact ⟨t, htv, hx, fun t' hlt hle => hlast t' hlt (hle.trans hvu)⟩
    · rw [h t hvt htu] at hx
      cases hx
  · rintro ⟨t, htv, hx, hlast⟩
    refine ⟨t, htv.trans hvu, hx, fun t' hlt hle => ?_⟩
    rcases le_or_gt t' v with ht'v | hvt'
    · exact hlast t' hlt ht'v
    · exact h t' hvt' hle

theorem IsLast.unique (hx : IsLast obs u x) (hy : IsLast obs u y) : x = y := by
  obtain ⟨t, htu, hx, hlast⟩ := hx
  obtain ⟨t', ht'u, hy, hlast'⟩ := hy
  rcases lt_trichotomy t t' with hlt | rfl | hlt
  · rw [hlast t' hlt ht'u] at hy
    cases hy
  · exact Option.some.inj (hx.symm.trans hy)
  · rw [hlast' t hlt htu] at hx
    cases hx

/-- The last reading depends on the readings up to the time only. -/
theorem isLast_congr {obs' : T → Option α} (h : ∀ t ≤ u, obs t = obs' t) : IsLast obs u x ↔ IsLast obs' u x := by
  refine exists_congr fun t => and_congr_right fun htu => ?_
  rw [h t htu]
  refine and_congr_right fun _ => forall_congr' fun t' => forall_congr' fun _ => ?_
  exact forall_congr' fun hle => by rw [h t' hle]

/-- Of finitely many readings there is a last one at or before a time, where there is one. -/
theorem exists_isLast {times : List T} (hcover : ∀ t, obs t ≠ none → t ∈ times) (hvu : v ≤ u) (hv : obs v ≠ none) :
    ∃ x, IsLast obs u x := by
  have hmem : v ∈ times.toFinset.filter fun t => t ≤ u ∧ (obs t).isSome = true :=
    Finset.mem_filter.2 ⟨List.mem_toFinset.2 (hcover v hv), hvu, Option.isSome_iff_ne_none.2 hv⟩
  obtain ⟨t, ht, hmax⟩ := Finset.exists_max_image _ id ⟨v, hmem⟩
  obtain ⟨-, htu, hsome⟩ := Finset.mem_filter.1 ht
  obtain ⟨x, hx⟩ := Option.isSome_iff_exists.1 hsome
  refine ⟨x, t, htu, hx, fun t' hlt hle => by_contra fun hne => ?_⟩
  exact (hmax t' (Finset.mem_filter.2 ⟨List.mem_toFinset.2 (hcover t' hne), hle, Option.isSome_iff_ne_none.2 hne⟩)).not_gt hlt

/-- In an increasing list nothing lies between two neighbours. -/
theorem not_mem_between {times : List T} (hsorted : times.Pairwise (· < ·)) {k : ℕ} (hv : times[k]? = some v)
    (hu : times[k + 1]? = some u) {t : T} (hvt : v < t) (htu : t < u) : t ∉ times := by
  intro ht
  obtain ⟨i, hi, rfl⟩ := List.getElem_of_mem ht
  obtain ⟨hk, rfl⟩ := List.getElem?_eq_some_iff.1 hv
  obtain ⟨hk', rfl⟩ := List.getElem?_eq_some_iff.1 hu
  have hsorted' := List.pairwise_iff_getElem.1 hsorted
  rcases Nat.lt_trichotomy i k with hlt | rfl | hgt
  · exact absurd (hsorted' i k hi hk hlt) hvt.not_gt
  · exact lt_irrefl _ hvt
  · rcases Nat.lt_or_ge (k + 1) i with hlt | hge
    · exact absurd (hsorted' (k + 1) i hk' hi hlt) htu.not_gt
    · obtain rfl : i = k + 1 := by omega
      exact lt_irrefl _ htu

/-- What the filled series has at a time is the last reading at or before it. -/
theorem join_forwardFill_eq_some {times : List T} (hsorted : times.Pairwise (· < ·))
    (hcover : ∀ t, obs t ≠ none → t ∈ times) {k : ℕ}
    (hk : times[k]? = some u) : (forwardFill none (times.map obs))[k]?.join = some x ↔ IsLast obs u x := by
  have hoff : ∀ t, t ∉ times → obs t = none := fun t ht => by_contra fun hobs => ht (hcover t hobs)
  induction k generalizing u with
  | zero =>
    rw [getElem?_forwardFill_zero, List.getElem?_map, hk, Option.map_some, Option.map_some, Option.or_none, Option.join_some]
    cases hobs : obs u with
    | some y => exact (isLast_of_some hobs).symm
    | none =>
      refine iff_of_false nofun ?_
      rintro ⟨t, htu, hx, -⟩
      have ht := hcover t (by rw [hx]; nofun)
      cases times with
      | nil => cases ht
      | cons u' times =>
        obtain rfl := Option.some.inj hk
        rcases List.mem_cons.1 ht with rfl | ht
        · rw [hobs] at hx
          cases hx
        · exact absurd ((List.pairwise_cons.1 hsorted).1 t ht) htu.not_gt
  | succ k ih =>
    have hlt := (List.getElem?_eq_some_iff.1 hk).1
    have hk' : k < times.length := by omega
    have hv : times[k]? = some times[k] := List.getElem?_eq_getElem hk'
    rw [getElem?_forwardFill_succ, List.getElem?_map, hk, Option.map_some, Option.map_some, Option.join_some]
    cases hobs : obs u with
    | some y => exact (isLast_of_some hobs).symm
    | none =>
      have hvu := List.pairwise_iff_getElem.1 hsorted k (k + 1) hk' hlt (Nat.lt_succ_self k)
      rw [(List.getElem?_eq_some_iff.1 hk).2] at hvu
      rw [Option.none_or]
      refine (ih hv).trans (isLast_of_none hvu.le fun t hvt htu => ?_).symm
      rcases htu.eq_or_lt with rfl | htu
      · exact hobs
      · exact hoff t (not_mem_between hsorted hv hk hvt htu)

end Last

/-! ## Ratios -/

/-- The product of the ratios of neighbours. -/
theorem prod_ratios {K : Type*} [Field K] (f : ℕ → K) (i n : ℕ) (h : ∀ k, i ≤ k → k ≤ i + n → f k ≠ 0) :
    ((List.range' i n).map fun k => f (k + 1) / f k).prod = f (i + n) / f i := by
  induction n with
  | zero => simp [div_self (h i le_rfl le_rfl)]
  | succ n ih =>
    rw [List.range'_concat, List.map_append, List.prod_append, ih fun k hik hkn => h k hik (by omega)]
    simp only [List.map_cons, List.map_nil, List.prod_singleton, Nat.one_mul]
    rw [div_mul_div_comm, mul_comm (f i), ← Nat.add_assoc]
    exact mul_div_mul_left _ _ (h (i + n) (by omega) (by omega))

end Pylib
