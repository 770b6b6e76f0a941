import Mathlib.Data.Finset.Basic
import Mathlib.Data.Finset.Dedup
import Quant.Exceptions
import Quant.Pylib.Dict
import Quant.Pylib.Text

/-!
# The idempotency router

`IdempotencyRouter` of `execution/idempotency.py`: the orders in flight by their identifier, and a bounded ring of the
identifiers retired last, with a set of the same identifiers beside it for the lookup. The structure carries what the class
maintains: the set holds what the ring holds, the ring has no identifier twice and respects its capacity, and no identifier is
both in flight and retired.
-/

namespace Quant

open Pylib

/-- The identity of an order object. -/
abbrev Ref := ℕ

/-- An empty ring and its set. -/
theorem emptySet_eq : (∅ : Finset String) = ([] : List String).toFinset := rfl

theorem emptyRing_retired : ∀ id ∈ ([] : List String), (∅ : Dict String Ref).get? id = none := by simp

structure IdempotencyRouter where
  historyCapacity : ℕ := 10000
  activeOrders : Dict String Ref := ∅
  historyRing : List String := []
  historySet : Finset String := ∅
  historyCapacity_pos : 0 < historyCapacity := by decide
  historySet_eq : historySet = historyRing.toFinset := by exact emptySet_eq
  historyRing_nodup : historyRing.Nodup := by exact List.nodup_nil
  historyRing_length : historyRing.length ≤ historyCapacity := by exact Nat.zero_le _
  historyRing_retired : ∀ id ∈ historyRing, activeOrders.get? id = none := by exact emptyRing_retired

namespace IdempotencyRouter

theorem mem_historySet_iff (rt : IdempotencyRouter) (id : String) : id ∈ rt.historySet ↔ id ∈ rt.historyRing := by
  rw [rt.historySet_eq, List.mem_toFinset]

/-- Put an order in flight under an identifier that is not retired. -/
def activate (rt : IdempotencyRouter) (id : String) (r : Ref) (h : id ∉ rt.historySet) : IdempotencyRouter :=
  { rt with
    activeOrders := rt.activeOrders.set id r
    historyRing_retired := by
      intro id' hid'
      have hne : id' ≠ id := by
        rintro rfl
        exact h ((rt.mem_historySet_iff id').2 hid')
      rw [Dict.get?_set_of_ne _ _ hne]
      exact rt.historyRing_retired id' hid' }

/-- `register_order`. -/
def registerOrder (rt : IdempotencyRouter) (id : String) (r : Ref) : Except Exc IdempotencyRouter :=
  if h : rt.activeOrders.contains id = true ∨ id ∈ rt.historySet then
    .error ⟨.duplicateOrder, "Order with client_order_id % already registered or in historical ring buffer.", [.str id]⟩
  else .ok (rt.activate id r (fun hid => h (Or.inr hid)))

/-- Drop the oldest identifier of a full ring. -/
def evict (rt : IdempotencyRouter) : IdempotencyRouter :=
  if rt.historyCapacity ≤ rt.historyRing.length then
    { rt with
      historyRing := rt.historyRing.tail
      historySet := rt.historyRing.head?.elim rt.historySet rt.historySet.erase
      historySet_eq := by
        rw [rt.historySet_eq]
        have hn := rt.historyRing_nodup
        cases hr : rt.historyRing with
        | nil => rfl
        | cons x xs =>
          rw [hr, List.nodup_cons] at hn
          simp [Finset.erase_insert_eq_erase, Finset.erase_eq_of_notMem, hn.1]
      historyRing_nodup := rt.historyRing_nodup.tail
      historyRing_length := by
        rw [List.length_tail]
        exact (Nat.sub_le _ _).trans rt.historyRing_length
      historyRing_retired := fun id hid => rt.historyRing_retired id (List.mem_of_mem_tail hid) }
  else rt

@[simp]
theorem activeOrders_evict (rt : IdempotencyRouter) : rt.evict.activeOrders = rt.activeOrders := by
  unfold evict
  split <;> rfl

theorem evict_length_lt (rt : IdempotencyRouter) : rt.evict.historyRing.length < rt.evict.historyCapacity := by
  have hl := rt.historyRing_length
  have hp := rt.historyCapacity_pos
  unfold evict
  split
  · simp only [List.length_tail]
    omega
  · omega

/-- Retire an identifier in flight: it leaves the active orders and goes to the end of the ring. -/
def retire (rt : IdempotencyRouter) (id : String) (h : rt.activeOrders.contains id = true) : IdempotencyRouter :=
  { rt.evict with
    activeOrders := rt.evict.activeOrders.erase id
    historyRing := rt.evict.historyRing ++ [id]
    historySet := insert id rt.evict.historySet
    historySet_eq := by
      rw [rt.evict.historySet_eq]
      ext x
      simp only [Finset.mem_insert, List.mem_toFinset, List.mem_append, List.mem_singleton]
      exact or_comm
    historyRing_nodup := by
      refine List.nodup_append.2 ⟨rt.evict.historyRing_nodup, List.nodup_singleton id, ?_⟩
      intro a ha b hb hab
      rw [List.mem_singleton] at hb
      rw [hab, hb] at ha
      have hn := rt.evict.historyRing_retired id ha
      rw [activeOrders_evict] at hn
      rw [Dict.contains, hn] at h
      cases h
    historyRing_length := by
      rw [List.length_append, List.length_singleton]
      exact rt.evict_length_lt
    historyRing_retired := by
      intro x hx
      by_cases hxi : x = id
      · rw [hxi, Dict.get?_erase_self]
      · rw [Dict.get?_erase_of_ne _ hxi]
        exact rt.evict.historyRing_retired x (by simpa [hxi] using hx) }

/-- Retire an identifier if it is in flight. -/
def drop (rt : IdempotencyRouter) (id : String) : IdempotencyRouter :=
  if h : rt.activeOrders.contains id = true then rt.retire id h else rt

/-- The exception for a blank identifier. -/
def blankOrderId (id : String) : Exc := ⟨.invalidOrderInput, "cl_ord_id must be a non-empty string, got %", [.str id]⟩

/-- `deregister_order`: it refuses a blank identifier, and ignores one that is not in flight. -/
def deregisterOrder (rt : IdempotencyRouter) (id : String) : Except Exc (Option Ref × IdempotencyRouter) :=
  if strip id = "" then .error (blankOrderId id)
  else .ok (rt.activeOrders.get? id, rt.drop id)

@[simp]
theorem activeOrders_drop (rt : IdempotencyRouter) (id : String) : (rt.drop id).activeOrders = rt.activeOrders.erase id := by
  unfold drop
  split
  · simp [retire]
  · rename_i h
    have hn : rt.activeOrders.get? id = none := (Dict.contains_eq_false_iff _ _).1 (by simpa using h)
    rw [Dict.erase_of_get?_none hn]

@[simp]
theorem activeOrders_activate (rt : IdempotencyRouter) (id : String) (r : Ref) (h : id ∉ rt.historySet) :
    (rt.activate id r h).activeOrders = rt.activeOrders.set id r := rfl

/-- An accepted registration: the identifier was not in flight and not retired, and now is in flight. -/
theorem registerOrder_eq_ok {rt rt' : IdempotencyRouter} {id : String} {r : Ref} (h : rt.registerOrder id r = .ok rt') :
    rt.activeOrders.get? id = none ∧ ∃ hid : id ∉ rt.historySet, rt' = rt.activate id r hid := by
  unfold registerOrder at h
  split at h
  · cases h
  · rename_i hn
    rw [not_or] at hn
    cases h
    exact ⟨(Dict.contains_eq_false_iff _ _).1 (by simpa using hn.1), hn.2, rfl⟩

/-- `is_duplicate`, for an identifier that is not blank. -/
def isDuplicate (rt : IdempotencyRouter) (id : String) : Except Exc Bool :=
  if strip id = "" then .error (blankOrderId id)
  else .ok (rt.activeOrders.contains id || decide (id ∈ rt.historySet))

/-- `get_active_order`. -/
def getActiveOrder (rt : IdempotencyRouter) (id : String) : Except Exc (Option Ref) :=
  if strip id = "" then .error (blankOrderId id)
  else .ok (rt.activeOrders.get? id)

/-- `__init__`: an empty router; the retention time is checked there and read nowhere else, so it is left out. -/
def create (historyCapacity : ℤ) : Except Exc IdempotencyRouter :=
  if h : historyCapacity ≤ 0 then
    .error ⟨.invalidOrderInput, "history_capacity must be an integer > 0, got %", [.num historyCapacity]⟩
  else .ok { historyCapacity := historyCapacity.toNat, historyCapacity_pos := by omega }

/-! ## Sequences of calls -/

/-- A call on the router. -/
inductive RouterCall where
  | registerOrder (id : String) (r : Ref)
  | deregisterOrder (id : String)
  | getActiveOrder (id : String)
  | isDuplicate (id : String)

/-- The router after a call; a call that raises leaves it as it is, and so does a lookup. -/
def afterCall (rt : IdempotencyRouter) : RouterCall → IdempotencyRouter
  | .registerOrder id r =>
    match rt.registerOrder id r with
    | .ok rt' => rt'
    | .error _ => rt
  | .deregisterOrder id =>
    match rt.deregisterOrder id with
    | .ok (_, rt') => rt'
    | .error _ => rt
  | .getActiveOrder _ => rt
  | .isDuplicate _ => rt

/-- The router after a sequence of calls. -/
def afterCalls (rt : IdempotencyRouter) (calls : List RouterCall) : IdempotencyRouter := calls.foldl afterCall rt

/-- The identifier a call deregisters, if it deregisters one. -/
def retired (rt : IdempotencyRouter) : RouterCall → List String
  | .deregisterOrder id =>
    match rt.deregisterOrder id with
    | .ok (some _, _) => [id]
    | _ => []
  | _ => []

/-- The identifiers a sequence of calls deregisters, in order. -/
def retirements (rt : IdempotencyRouter) : List RouterCall → List String
  | [] => []
  | c :: calls => rt.retired c ++ retirements (rt.afterCall c) calls

end IdempotencyRouter

end Quant
