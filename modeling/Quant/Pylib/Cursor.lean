import Mathlib.Data.Finset.Card
import Mathlib.Data.Fintype.Card
import Mathlib.Data.Option.Basic
import Mathlib.Data.Set.Finite.Basic
import Mathlib.Logic.Relation

/-!
# Cursors

A collection that is handed out in pages, each of which may name the next one. Following them ends over a finite set of pages
exactly where no page that is reached leads back to itself, and then it has come to every page that is reached, once.
-/

namespace Pylib

variable {κ : Type*} (next : κ → Option κ)

/-- A page is reached from another over the pages each of them names. -/
def Reaches : κ → κ → Prop := Relation.ReflTransGen fun x y => next x = some y

/-- No page that is reached from a page leads back to itself. -/
def NoReturn (k : κ) : Prop := ∀ x y, Reaches next k x → next x = some y → ¬ Reaches next y x

/-- The pages from one on, in the order they are followed; `none` where the fuel does not do. -/
def trail : ℕ → κ → Option (List κ)
  | 0, _ => none
  | fuel + 1, k =>
    match next k with
    | none => some [k]
    | some k' => (trail fuel k').map (k :: ·)

variable {next}

theorem reaches_iff {k x : κ} : Reaches next k x ↔ x = k ∨ ∃ k', next k = some k' ∧ Reaches next k' x := by
  rw [Reaches, Relation.ReflTransGen.cases_head_iff, eq_comm]

theorem trail_of_none {k : κ} (h : next k = none) (fuel : ℕ) : trail next (fuel + 1) k = some [k] := by
  rw [trail, h]

theorem trail_of_some {k k' : κ} (h : next k = some k') (fuel : ℕ) :
    trail next (fuel + 1) k = (trail next fuel k').map (k :: ·) := by
  rw [trail, h]

/-- The last page names none; before it each page comes before the pages the next one leads to. -/
theorem trail_cases {fuel : ℕ} {k : κ} {l : List κ} (h : trail next fuel k = some l) :
    (next k = none ∧ l = [k]) ∨ ∃ k' l' fuel', fuel = fuel' + 1 ∧ next k = some k' ∧ trail next fuel' k' = some l' ∧
    l = k :: l' := by
  cases fuel with
  | zero => cases h
  | succ fuel =>
    cases hnext : next k with
    | none =>
      rw [trail_of_none hnext] at h
      exact .inl ⟨rfl, (Option.some_inj.1 h).symm⟩
    | some k' =>
      rw [trail_of_some hnext] at h
      obtain ⟨l', hl', rfl⟩ := Option.map_eq_some_iff.1 h
      exact .inr ⟨k', l', fuel, rfl, rfl, hl', rfl⟩

/-- The pages that are followed are those that are reached. -/
theorem mem_trail {fuel : ℕ} {k : κ} {l : List κ} (h : trail next fuel k = some l) (x : κ) : x ∈ l ↔ Reaches next k x := by
  induction fuel generalizing k l with
  | zero => cases h
  | succ fuel ih =>
    rw [reaches_iff]
    rcases trail_cases h with ⟨hnext, rfl⟩ | ⟨k', l', fuel', hfuel, hnext, hl', rfl⟩
    · simp [hnext]
    · obtain rfl : fuel = fuel' := by omega
      simp [hnext, ih hl']

/-- More fuel changes nothing. -/
theorem trail_unique {fuel fuel' : ℕ} {k : κ} {l l' : List κ} (h : trail next fuel k = some l)
    (h' : trail next fuel' k = some l') :
    l = l' := by
  induction fuel generalizing fuel' k l l' with
  | zero => cases h
  | succ fuel ih =>
    rcases trail_cases h with ⟨hnext, rfl⟩ | ⟨k₁, l₁, f₁, hf₁, hnext, hl₁, rfl⟩
    · rcases trail_cases h' with ⟨-, rfl⟩ | ⟨k₂, l₂, f₂, -, hnext', -, -⟩
      · rfl
      · rw [hnext] at hnext'
        cases hnext'
    · rcases trail_cases h' with ⟨hnext', -⟩ | ⟨k₂, l₂, f₂, -, hnext', hl₂, rfl⟩
      · rw [hnext] at hnext'
        cases hnext'
      · rw [hnext, Option.some_inj] at hnext'
        obtain rfl : fuel = f₁ := by omega
        obtain rfl := hnext'
        rw [ih hl₁ hl₂]

theorem trail_mono {fuel fuel' : ℕ} {k : κ} {l : List κ} (h : trail next fuel k = some l) (hle : fuel ≤ fuel') :
    trail next fuel' k = some l := by
  induction fuel generalizing fuel' k l with
  | zero => cases h
  | succ fuel ih =>
    obtain ⟨f, rfl⟩ : ∃ f, fuel' = f + 1 := ⟨fuel' - 1, by omega⟩
    rcases trail_cases h with ⟨hnext, rfl⟩ | ⟨k', l', f', hf', hnext, hl', rfl⟩
    · exact trail_of_none hnext f
    · obtain rfl : fuel = f' := by omega
      rw [trail_of_some hnext, ih hl' (by omega)]
      rfl

/-- From a page that is reached there is no more to follow. -/
theorem exists_trail_of_reaches {fuel : ℕ} {k x : κ} {l : List κ} (h : trail next fuel k = some l) (hx : Reaches next k x) :
    ∃ fuel' l', trail next fuel' x = some l' ∧ l'.length ≤ l.length := by
  induction fuel generalizing k l with
  | zero => cases h
  | succ fuel ih =>
    rcases reaches_iff.1 hx with rfl | ⟨k', hnext, hreaches⟩
    · exact ⟨fuel + 1, l, h, le_rfl⟩
    · rcases trail_cases h with ⟨hnone, -⟩ | ⟨k₁, l₁, f₁, hf₁, hnext₁, hl₁, rfl⟩
      · rw [hnext] at hnone
        cases hnone
      · rw [hnext, Option.some_inj] at hnext₁
        obtain rfl : fuel = f₁ := by omega
        obtain rfl := hnext₁
        obtain ⟨f, l', hl', hlen⟩ := ih hl₁ hreaches
        exact ⟨f, l', hl', hlen.trans (Nat.le_succ _)⟩

/-- A page whose next one leads back to it would have to be followed by more pages than follow it. -/
theorem not_reaches_of_trail {fuel : ℕ} {k k' : κ} {l : List κ} (h : trail next fuel k = some l) (hnext : next k = some k') :
    ¬ Reaches next k' k := by
  intro hback
  rcases trail_cases h with ⟨hnone, -⟩ | ⟨k₁, l₁, f₁, -, hnext₁, hl₁, rfl⟩
  · rw [hnext] at hnone
    cases hnone
  · rw [hnext, Option.some_inj] at hnext₁
    obtain rfl := hnext₁
    obtain ⟨f, l', hl', hlen⟩ := exists_trail_of_reaches hl₁ hback
    rw [trail_unique hl' h, List.length_cons] at hlen
    omega

/-- Every page is followed once. -/
theorem nodup_trail {fuel : ℕ} {k : κ} {l : List κ} (h : trail next fuel k = some l) : l.Nodup := by
  induction fuel generalizing k l with
  | zero => cases h
  | succ fuel ih =>
    rcases trail_cases h with ⟨-, rfl⟩ | ⟨k', l', f', hf', hnext, hl', rfl⟩
    · exact List.nodup_singleton k
    · obtain rfl : fuel = f' := by omega
      exact List.nodup_cons.2 ⟨fun hk => not_reaches_of_trail h hnext ((mem_trail hl' k).1 hk), ih hl'⟩

/-- Where the pages can be followed to an end, none leads back to itself. -/
theorem noReturn_of_trail {fuel : ℕ} {k : κ} {l : List κ} (h : trail next fuel k = some l) : NoReturn next k := by
  intro x y hx hnext
  obtain ⟨fuel', l', hl', -⟩ := exists_trail_of_reaches h hx
  exact not_reaches_of_trail hl' hnext

/-- A page that leads back to itself keeps the pages before it from an end. -/
theorem trail_eq_none {k : κ} (h : ¬ NoReturn next k) (fuel : ℕ) : trail next fuel k = none := by
  rw [Option.eq_none_iff_forall_ne_some]
  intro l hl
  exact h (noReturn_of_trail hl)

/-- Over a finite set of pages that name no page outside it, pages of which none leads back to itself can be followed to an
end. -/
theorem exists_trail {k : κ} (pages : Finset κ) (hk : k ∈ pages) (hclosed : ∀ x ∈ pages, ∀ y, next x = some y → y ∈ pages)
    (h : NoReturn next k) : ∃ fuel l, trail next fuel k = some l := by
  have hmem : ∀ x, Reaches next k x → x ∈ pages := by
    intro x hx
    induction hx with
    | refl => exact hk
    | tail _ hnext ih => exact hclosed _ ih _ hnext
  -- On the pages that are reached, "is named by" has no cycle, so it is well-founded.
  let Reached := {x // Reaches next k x}
  let names : Reached → Reached → Prop := fun y x => next x.1 = some y.1
  have hfinite : Finite Reached := (pages.finite_toSet.subset hmem).to_subtype
  have hirrefl : ∀ c, ¬ Relation.TransGen names c c := by
    intro c hc
    have hcycle : Relation.TransGen (fun x y => next x = some y) c.1 c.1 :=
      Relation.transGen_swap.1 (Relation.TransGen.lift Subtype.val (fun _ _ hxy => hxy) c c hc)
    obtain ⟨y, hnext, hback⟩ := Relation.TransGen.head'_iff.1 hcycle
    exact h c.1 y c.2 hnext hback
  have hwf : WellFounded (Relation.TransGen names) := by
    have : IsTrans Reached (Relation.TransGen names) := ⟨fun _ _ _ => Relation.TransGen.trans⟩
    have : Std.Irrefl (Relation.TransGen names) := ⟨hirrefl⟩
    exact Finite.wellFounded_of_trans_of_irrefl _
  have hall : ∀ x : Reached, ∃ fuel l, trail next fuel x.1 = some l := by
    intro x
    induction x using hwf.induction with
    | _ x ih =>
      cases hnext : next x.1 with
      | none => exact ⟨1, [x.1], trail_of_none hnext 0⟩
      | some y =>
        have hy : Reaches next k y := x.2.tail hnext
        obtain ⟨fuel, l, hl⟩ := ih ⟨y, hy⟩ (Relation.TransGen.single hnext)
        exact ⟨fuel + 1, x.1 :: l, by rw [trail_of_some hnext, hl]; rfl⟩
  exact hall ⟨k, Relation.ReflTransGen.refl⟩

/-! ## Pages that name themselves -/

section Itself

variable [DecidableEq κ]

/-- The next page, where it is another one. -/
def nextOther (next : κ → Option κ) (k : κ) : Option κ := (next k).filter (· ≠ k)

theorem nextOther_eq_some_iff {k k' : κ} : nextOther next k = some k' ↔ next k = some k' ∧ k' ≠ k := by
  simp [nextOther, Option.filter_eq_some_iff]

/-- A page that names itself leads nowhere else. -/
theorem reaches_nextOther_iff {k x : κ} : Reaches (nextOther next) k x ↔ Reaches next k x := by
  constructor
  · exact Relation.ReflTransGen.mono (fun x y h => (nextOther_eq_some_iff.1 h).1) k x
  · intro h
    induction h with
    | refl => exact Relation.ReflTransGen.refl
    | @tail b c _ hnext ih =>
      by_cases hc : c = b
      · rwa [hc]
      · exact ih.tail (nextOther_eq_some_iff.2 ⟨hnext, hc⟩)

end Itself

end Pylib
