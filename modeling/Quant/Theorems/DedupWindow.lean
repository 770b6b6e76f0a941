import Mathlib.Data.List.Basic
import Quant.Execution.Idempotency

/-!
# The dedup window

The idempotency router under any sequence of registrations, deregistrations and lookups: an identifier that was registered is
refused until it has been deregistered and a ring's worth of others has been deregistered after it.
-/

namespace Quant

open Pylib

namespace IdempotencyRouter

/-! ## What one call does -/

@[simp]
theorem historyCapacity_evict (rt : IdempotencyRouter) : rt.evict.historyCapacity = rt.historyCapacity := by
  unfold evict
  split <;> rfl

/-- A call registers an identifier, retires one, or leaves the router as it is. -/
theorem afterCall_cases (rt : IdempotencyRouter) (c : RouterCall) :
    (rt.afterCall c = rt ∧ rt.retired c = []) ∨
    (∃ id r, ∃ hid : id ∉ rt.historySet, rt.afterCall c = rt.activate id r hid ∧ rt.retired c = []) ∨
    ∃ id, ∃ hact : rt.activeOrders.contains id = true, rt.afterCall c = rt.retire id hact ∧ rt.retired c = [id] := by
  cases c with
  | getActiveOrder id => exact Or.inl ⟨rfl, rfl⟩
  | isDuplicate id => exact Or.inl ⟨rfl, rfl⟩
  | registerOrder id r =>
    cases h : rt.registerOrder id r with
    | error exc => exact Or.inl ⟨by simp [afterCall, h], rfl⟩
    | ok rt' =>
      obtain ⟨-, hid, heq⟩ := registerOrder_eq_ok h
      exact Or.inr (Or.inl ⟨id, r, hid, by simp [afterCall, h, heq], rfl⟩)
  | deregisterOrder id =>
    by_cases hblank : strip id = ""
    · exact Or.inl (by simp [afterCall, retired, deregisterOrder, hblank])
    by_cases hact : rt.activeOrders.contains id = true
    · obtain ⟨r, hr⟩ := Option.isSome_iff_exists.1 hact
      exact Or.inr (Or.inr ⟨id, hact, by simp [afterCall, retired, deregisterOrder, drop, hblank, hact, hr]⟩)
    · have hn : rt.activeOrders.get? id = none := (Dict.contains_eq_false_iff _ _).1 (by simpa using hact)
      exact Or.inl (by simp [afterCall, retired, deregisterOrder, drop, hblank, hact, hn])

theorem historyCapacity_afterCall (rt : IdempotencyRouter) (c : RouterCall) :
    (rt.afterCall c).historyCapacity = rt.historyCapacity := by
  rcases rt.afterCall_cases c with ⟨heq, -⟩ | ⟨id, r, hid, heq, -⟩ | ⟨id, hact, heq, -⟩
  · rw [heq]
  · rw [heq]
    rfl
  · rw [heq]
    exact rt.historyCapacity_evict

theorem historyCapacity_afterCalls (rt : IdempotencyRouter) (calls : List RouterCall) :
    (rt.afterCalls calls).historyCapacity = rt.historyCapacity := by
  induction calls generalizing rt with
  | nil => rfl
  | cons c calls ih => exact (ih (rt.afterCall c)).trans (rt.historyCapacity_afterCall c)

/-! ## The window -/

/-- Retiring an identifier pushes it behind what the ring ends in, as long as that leaves room. -/
theorem suffix_retire {rt : IdempotencyRouter} {id : String} {l : List String} (hact : rt.activeOrders.contains id = true)
    (h : l <:+ rt.historyRing) (hl : l.length < rt.historyCapacity) : l ++ [id] <:+ (rt.retire id hact).historyRing := by
  have hevict : l <:+ rt.evict.historyRing := by
    unfold evict
    split
    · rename_i hfull
      -- the ring is longer than `l`, so what is dropped is in front of `l`
      obtain ⟨pre, hpre⟩ := h
      cases pre with
      | nil =>
        rw [List.nil_append] at hpre
        rw [hpre] at hl
        omega
      | cons x pre =>
        refine ⟨pre, ?_⟩
        change pre ++ l = rt.historyRing.tail
        rw [← hpre]
        rfl
    · exact h
  obtain ⟨pre, hpre⟩ := hevict
  refine ⟨pre, ?_⟩
  change pre ++ (l ++ [id]) = rt.evict.historyRing ++ [id]
  rw [← hpre, List.append_assoc]

/-- An identifier the router still knows, with what was deregistered since it was registered: it is in flight, or the ring ends
in it and all that followed it, or a ring's worth followed it. -/
def Known (rt : IdempotencyRouter) (id : String) (gone : List String) : Prop :=
  rt.activeOrders.contains id = true ∨
    ∃ before later, gone = before ++ id :: later ∧ (id :: later <:+ rt.historyRing ∨ rt.historyCapacity ≤ later.length)

theorem known_afterCall {rt : IdempotencyRouter} {id : String} {gone : List String} (h : rt.Known id gone) (c : RouterCall) :
    (rt.afterCall c).Known id (gone ++ rt.retired c) := by
  rcases rt.afterCall_cases c with ⟨heq, hret⟩ | ⟨id', r, hid, heq, hret⟩ | ⟨id', hact, heq, hret⟩
  · rw [heq, hret, List.append_nil]
    exact h
  · rw [heq, hret, List.append_nil]
    rcases h with hact | hgone
    · left
      rw [activeOrders_activate, Dict.contains_set]
      exact Or.inr hact
    · exact Or.inr hgone
  · rw [heq, hret]
    rcases h with hact' | ⟨before, later, hgone, hlater⟩
    · by_cases hii : id' = id
      · subst hii
        exact Or.inr ⟨gone, [], rfl, Or.inl (List.suffix_append _ _)⟩
      · left
        change (rt.evict.activeOrders.erase id').contains id = true
        rw [activeOrders_evict, Dict.contains_erase]
        exact ⟨Ne.symm hii, hact'⟩
    · refine Or.inr ⟨before, later ++ [id'], by rw [hgone]; simp, ?_⟩
      have hcap : (rt.retire id' hact).historyCapacity = rt.historyCapacity := rt.historyCapacity_evict
      rw [hcap, List.length_append, List.length_singleton]
      rcases hlater with hsuffix | hfull
      · by_cases hroom : rt.historyCapacity ≤ later.length + 1
        · exact Or.inr hroom
        · exact Or.inl (suffix_retire hact hsuffix (by rw [List.length_cons]; omega))
      · right
        omega

theorem known_afterCalls {rt : IdempotencyRouter} {id : String} {gone : List String} (h : rt.Known id gone)
    (calls : List RouterCall) : (rt.afterCalls calls).Known id (gone ++ rt.retirements calls) := by
  induction calls generalizing rt gone with
  | nil =>
    change rt.Known id (gone ++ [])
    rw [List.append_nil]
    exact h
  | cons c calls ih =>
    have := ih (known_afterCall h c)
    rw [List.append_assoc] at this
    exact this

/-- An identifier in flight or retired is refused. -/
theorem registerOrder_duplicate {rt : IdempotencyRouter} {id : String} (r : Ref)
    (h : rt.activeOrders.contains id = true ∨ id ∈ rt.historyRing) :
    ∃ exc, rt.registerOrder id r = .error exc ∧ exc.cls = .duplicateOrder := by
  rw [← rt.mem_historySet_iff] at h
  exact ⟨_, dif_pos h, rfl⟩

/-! ## Every sequence of calls -/

/-- What the router promises after a sequence of calls: the set mirrors the ring, the ring is bounded and without repetition, and
nothing is both in flight and retired. -/
structure Mirrored (rt : IdempotencyRouter) (historyCapacity : ℤ) : Prop where
  historySet : ∀ id, id ∈ rt.historySet ↔ id ∈ rt.historyRing
  nodup : rt.historyRing.Nodup
  bounded : (rt.historyRing.length : ℤ) ≤ historyCapacity
  disjoint : ∀ id ∈ rt.historySet, rt.activeOrders.contains id = false

/-- The identifier was deregistered, and at least a number of others after it. -/
def ForgottenAfter (id : String) (historyCapacity : ℤ) (gone : List String) : Prop :=
  ∃ before later, gone = before ++ id :: later ∧ historyCapacity ≤ later.length

theorem historyCapacity_create {historyCapacity : ℤ} {rt : IdempotencyRouter} (h : create historyCapacity = .ok rt) :
    (rt.historyCapacity : ℤ) = historyCapacity := by
  unfold create at h
  split at h
  · cases h
  · cases h
    change (historyCapacity.toNat : ℤ) = historyCapacity
    omega

theorem mirrored_afterCalls {historyCapacity : ℤ} {rt : IdempotencyRouter} (h : create historyCapacity = .ok rt)
    (calls : List RouterCall) : (rt.afterCalls calls).Mirrored historyCapacity where
  historySet := mem_historySet_iff _
  nodup := (rt.afterCalls calls).historyRing_nodup
  bounded := by
    have hlen := (rt.afterCalls calls).historyRing_length
    rw [historyCapacity_afterCalls] at hlen
    rw [← historyCapacity_create h]
    omega
  disjoint id hid := by
    rw [mem_historySet_iff] at hid
    rw [Dict.contains_eq_false_iff]
    exact (rt.afterCalls calls).historyRing_retired id hid

/-- A registered identifier is refused as a duplicate until it has been deregistered and a ring's worth of others after it. -/
theorem dedupWindow {historyCapacity : ℤ} {rt : IdempotencyRouter} (h : create historyCapacity = .ok rt)
    (calls : List RouterCall) :
    (rt.afterCalls calls).Mirrored historyCapacity ∧
      ∀ (earlier later : List RouterCall) (id : String) (r : Ref) (rt' : IdempotencyRouter),
        calls = earlier ++ .registerOrder id r :: later →
        (rt.afterCalls earlier).registerOrder id r = .ok rt' →
        ¬ ForgottenAfter id historyCapacity (rt'.retirements later) →
        ∀ r', ∃ exc, (rt.afterCalls calls).registerOrder id r' = .error exc ∧ exc.cls = .duplicateOrder := by
  refine ⟨mirrored_afterCalls h calls, ?_⟩
  intro earlier later id r rt' hcalls hreg hkept r'
  have hrt' : rt.afterCalls calls = rt'.afterCalls later := by
    rw [hcalls, afterCalls, List.foldl_append, List.foldl_cons]
    change List.foldl afterCall ((rt.afterCalls earlier).afterCall (.registerOrder id r)) later = _
    rw [afterCall, hreg]
    rfl
  have hcap : (rt'.historyCapacity : ℤ) = historyCapacity := by
    have := (rt.afterCalls earlier).historyCapacity_afterCall (.registerOrder id r)
    rw [afterCall, hreg, historyCapacity_afterCalls] at this
    rw [this, historyCapacity_create h]
  have hknown : rt'.Known id [] := by
    obtain ⟨-, hid, rfl⟩ := registerOrder_eq_ok hreg
    left
    rw [activeOrders_activate, Dict.contains_set_self]
  have := known_afterCalls hknown later
  rw [List.nil_append] at this
  rw [hrt']
  rcases this with hact | ⟨before, after, hgone, hsuffix | hfull⟩
  · exact registerOrder_duplicate r' (Or.inl hact)
  · exact registerOrder_duplicate r' (Or.inr (hsuffix.subset List.mem_cons_self))
  · rw [historyCapacity_afterCalls] at hfull
    exact absurd ⟨before, after, hgone, by omega⟩ hkept

/-- A router that remembers two identifiers. -/
def ringOfTwo : IdempotencyRouter := { historyCapacity := 2 }

/-- Deregistered with one other after it, an identifier is still refused. -/
theorem dedupWindow_two :
    ∃ exc, (ringOfTwo.afterCalls [.registerOrder "a" 0, .deregisterOrder "a", .registerOrder "b" 1, .deregisterOrder "b",
      .isDuplicate "a"]).registerOrder "a" 2 = .error exc ∧ exc.cls = .duplicateOrder := by
  have hcreate : create 2 = .ok ringOfTwo := rfl
  have hreg : (ringOfTwo.afterCalls []).registerOrder "a" 0 = .ok (ringOfTwo.afterCall (.registerOrder "a" 0)) := rfl
  refine (dedupWindow hcreate _).2 [] _ "a" 0 _ rfl hreg ?_ 2
  have hgone : (ringOfTwo.afterCall (.registerOrder "a" 0)).retirements
      [.deregisterOrder "a", .registerOrder "b" 1, .deregisterOrder "b", .isDuplicate "a"] = ["a", "b"] := by decide
  rw [hgone]
  rintro ⟨before, later, hsplit, hlen⟩
  have := congrArg List.length hsplit
  simp only [List.length_append, List.length_cons, List.length_nil] at this
  omega

end IdempotencyRouter

end Quant
