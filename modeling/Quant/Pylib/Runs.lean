import Mathlib.Data.List.Basic
import Mathlib.Data.List.Induction

/-!
# Runs under a condition

A system as a labelled step relation, and its runs in which every step meets a condition on the state it is taken in. The one
rule here is the induction every safety result over runs goes through: what holds at the start and is kept by each step that
meets the condition holds in every state such a run reaches.
-/

namespace Pylib

universe u v

variable {σ : Type u} {ι : Type v}

/-- The runs of a step relation from one state to another, with every step taken where its condition holds. -/
inductive Run (step : σ → ι → σ → Prop) (cond : σ → ι → Prop) (s : σ) : σ → Prop
  | refl : Run step cond s s
  | tail {t u : σ} {i : ι} (h : Run step cond s t) (hc : cond t i) (hs : step t i u) : Run step cond s u

namespace Run

variable {step : σ → ι → σ → Prop} {cond : σ → ι → Prop} {s t : σ}

/-- What the steps keep, a run keeps. -/
theorem invariant {I : σ → Prop} (hstep : ∀ t i u, I t → cond t i → step t i u → I u) (h : Run step cond s t)
    (hs : I s) : I t := by
  induction h with
  | refl => exact hs
  | tail _ hc hs' ih => exact hstep _ _ _ ih hc hs'

/-- A sequence of steps that can all be taken is a run. -/
theorem of_foldlM {f : σ → ι → Option σ} (ops : List ι) (h : ops.foldlM f s = some t) :
    Run (fun s i t => f s i = some t) (fun _ _ => True) s t := by
  induction ops using List.reverseRecOn generalizing t with
  | nil =>
    cases h
    exact .refl
  | append_singleton ops op ih =>
    rw [List.foldlM_append] at h
    obtain ⟨u, hu, hlast⟩ := Option.bind_eq_some_iff.1 h
    have hop : f u op = some t := by simpa using hlast
    exact (ih hu).tail trivial hop

/-- A sequence of steps that can all be taken where their condition holds is a run under it, to where the steps lead. -/
theorem of_guarded {f : σ → ι → Option σ} [∀ s i, Decidable (cond s i)] (ops : List ι)
    (h : (ops.foldlM (fun s i => if cond s i then f s i else none) s).isSome = true) :
    Run (fun s i t => f s i = some t) cond s ((ops.foldlM f s).getD s) := by
  obtain ⟨t, ht⟩ := Option.isSome_iff_exists.1 h
  have hboth : ops.foldlM f s = some t ∧ Run (fun s i t => f s i = some t) cond s t := by
    clear h
    induction ops using List.reverseRecOn generalizing t with
    | nil =>
      cases ht
      exact ⟨rfl, .refl⟩
    | append_singleton ops op ih =>
      rw [List.foldlM_append] at ht ⊢
      obtain ⟨u, hu, hlast⟩ := Option.bind_eq_some_iff.1 ht
      obtain ⟨hops, hrun⟩ := ih u hu
      have hop : (if cond u op then f u op else none) = some t := by simpa using hlast
      obtain ⟨hcond, hstep⟩ := Option.ite_none_right_eq_some.1 hop
      refine ⟨?_, hrun.tail hcond hstep⟩
      rw [hops]
      simpa using hstep
  rw [hboth.1]
  exact hboth.2

end Run

/-- Steps that can fail and do not where the invariant holds: all of them are taken, and the invariant knows which. -/
theorem foldlM_ok {ε : Type*} {f : σ → ι → Except ε σ} {I : List ι → σ → Prop} {s : σ} (hs : I [] s) {ops : List ι}
    (hstep : ∀ done t, I done t → ∀ i ∈ ops, ∃ u, f t i = .ok u ∧ I (done ++ [i]) u) : ∃ t, ops.foldlM f s = .ok t ∧ I ops t := by
  induction ops using List.reverseRecOn with
  | nil => exact ⟨s, rfl, hs⟩
  | append_singleton ops op ih =>
    obtain ⟨t, ht, hinv⟩ := ih fun done t h i hi => hstep done t h i (List.mem_append_left _ hi)
    obtain ⟨u, hu, hnext⟩ := hstep ops t hinv op (by simp)
    refine ⟨u, ?_, hnext⟩
    rw [List.foldlM_append, ht]
    change (f t op).bind _ = _
    rw [hu]
    rfl

/-- The step relation of a deterministic system. -/
def stepOf (f : σ → ι → σ) (s : σ) (i : ι) (t : σ) : Prop := t = f s i

/-- A sequence of steps of a deterministic system is a run under a condition that holds before each of them. -/
theorem Run.of_foldl {f : σ → ι → σ} {cond : σ → ι → Prop} {s : σ} (ops : List ι)
    (h : ∀ n (hn : n < ops.length), cond ((ops.take n).foldl f s) ops[n]) : Run (stepOf f) cond s (ops.foldl f s) := by
  have htake : ∀ n ≤ ops.length, Run (stepOf f) cond s ((ops.take n).foldl f s) := by
    intro n
    induction n with
    | zero => exact fun _ => .refl
    | succ n ih =>
      intro hn
      refine (ih (Nat.le_of_succ_le hn)).tail (h n hn) ?_
      rw [stepOf, List.take_succ_eq_append_getElem hn, List.foldl_append]
      rfl
  have hall := htake ops.length (Nat.le_refl _)
  rwa [List.take_length] at hall

end Pylib
