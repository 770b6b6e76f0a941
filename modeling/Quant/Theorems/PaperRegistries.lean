import Quant.Theorems.PaperAccounting

namespace Quant

open Pylib

namespace PaperGateway

/-! ## Calls that raise

A call of the paper gateway that raises changes nothing, with one exception that is meant: a purchase that is turned down for
lack of a market price or of cash has used its identifier up, and the identifier goes to the history of the router. The calls of
`Slips` are left out; there a call raises half way.
-/

/-- The states of the runs from a new gateway. -/
def Reachable (w : PaperGateway) : Prop :=
  ∃ config router heap, Run (stepOf PaperGateway.step) (fun _ _ => True) (init config router heap) w

theorem Reachable.bookKeyed {w : PaperGateway} (h : w.Reachable) : w.BookKeyed := by
  obtain ⟨config, router, heap, h⟩ := h
  refine Run.invariant (I := BookKeyed) ?_ h (fun id r hr => by cases hr)
  rintro w op _ hk - rfl
  exact hk.step op

/-- Cash, positions, book, router and every order object are the same. -/
structure Unchanged (w w' : PaperGateway) : Prop where
  cash : w'.cash = w.cash
  positions : w'.positions = w.positions
  orders : w'.orders = w.orders
  router : w'.router = w.router
  heap : w'.heap = w.heap

/-- A submission that passes the first checks and the registration. -/
def Enters (w : PaperGateway) (r : Ref) : Prop :=
  w.submitFault (w.heap r) = none ∧ ∃ rt, w.router.registerOrder (w.heap r).clOrdId r = .ok rt

/-- A purchase turned down by the purchasing-power check. -/
def TurnedDown (w : PaperGateway) (r : Ref) : Prop := w.Enters r ∧ ∃ exc, w.powerFault (w.heap r) = some exc

/-- What turning an order down leaves: its identifier is the last of the history, which lost its oldest one if it was full, and
no order is booked under it. -/
structure Retired (w : PaperGateway) (id : String) (w' : PaperGateway) : Prop where
  cash : w'.cash = w.cash
  positions : w'.positions = w.positions
  heap : w'.heap = w.heap
  orders : w'.orders = w.orders.erase id
  activeOrders : w'.router.activeOrders = w.router.activeOrders
  historyRing : w'.router.historyRing =
    (if w.router.historyCapacity ≤ w.router.historyRing.length then w.router.historyRing.tail else w.router.historyRing) ++ [id]

/-- The report of an immediate fill is refused: its price is negative or the order is overfilled. -/
def FillRefused (w : PaperGateway) (o : Order) : Prop :=
  ∃ cur, w.marketPrices.get? o.symbol = some cur ∧ (w.fillPrice o cur < 0 ∨ o.overfilled)

/-- The calls that raise half way: an accepted submission under a blank identifier, one that finds no market price or whose fill
is refused, and a new market price that fills an order with a blank identifier or an overfilled one. -/
def Slips (w : PaperGateway) : Op → Prop
  | .submit r _ =>
    w.Enters r ∧ (strip (w.heap r).clOrdId = "" ∨ w.powerFault (w.heap r) = none ∧ w.isMarketable (w.heap r) = true ∧
      (w.marketPrices.get? (w.heap r).symbol = none ∨ w.FillRefused (w.heap r)))
  | .setPrice symbol price _ =>
    strip symbol ≠ "" ∧ 0 < price ∧ ∃ r ∈ w.orders.values, isMatch (w.heap r) (strip symbol) price = true ∧
      ((w.heap r).overfilled ∨ strip (w.heap r).clOrdId = "")
  | _ => False

theorem historyRing_drop (rt : IdempotencyRouter) {id : String} (h : rt.activeOrders.contains id = true) :
    (rt.drop id).historyRing =
      (if rt.historyCapacity ≤ rt.historyRing.length then rt.historyRing.tail else rt.historyRing) ++ [id] := by
  rw [IdempotencyRouter.drop, dif_pos h]
  simp only [IdempotencyRouter.retire, IdempotencyRouter.evict]
  split <;> rfl

/-- A submission that raises. -/
theorem submit_raised {w : PaperGateway} {r : Ref} {t : Stamp} (hslip : ¬ w.Slips (.submit r t))
    {exc : Exc} (hraise : w.raised (.submit r t) = some exc) :
    (w.TurnedDown r ∧ w.Retired (w.heap r).clOrdId (w.step (.submit r t))) ∨
      (¬ w.TurnedDown r ∧ w.Unchanged (w.step (.submit r t))) := by
  obtain ⟨res, w', hw, hs⟩ := w.submitOrder_cases r t
  simp only [raised, hw] at hraise
  simp only [PaperGateway.step, hw]
  clear hw
  cases hs with
  | refused exc' h =>
    right
    refine ⟨fun ht => ?_, rfl, rfl, rfl, rfl, rfl⟩
    obtain ⟨⟨h1, rt, h2⟩, -⟩ := ht
    rcases h with h | h
    · rw [h1] at h
      cases h
    · rw [h2] at h
      cases h
  | declined exc' exc'' rt hf hr hp =>
    left
    have hblank : strip (w.heap r).clOrdId ≠ "" := fun hb => hslip ⟨⟨hf, rt, hr⟩, Or.inl hb⟩
    obtain ⟨hactive, hid, rfl⟩ := IdempotencyRouter.registerOrder_eq_ok hr
    refine ⟨⟨⟨hf, _, hr⟩, exc', hp⟩, rfl, rfl, rfl, ?_, ?_, ?_⟩
    · simp [released, enter, hblank]
    · simp only [released, routerAfter, enter, hblank, if_false, IdempotencyRouter.activeOrders_drop,
        IdempotencyRouter.activeOrders_activate]
      exact Dict.erase_set_of_get?_none r hactive
    · have hc : (w.router.activate (w.heap r).clOrdId r hid).activeOrders.contains (w.heap r).clOrdId = true := by
        simp
      simp only [released, routerAfter, enter, hblank, if_false, historyRing_drop _ hc]
      rfl
  | unpriced exc' rt hf hr hp hm hn =>
    have hmk : w.isMarketable (w.heap r) = true := by simp [isMarketable, hm]
    exact absurd ⟨⟨hf, rt, hr⟩, Or.inr ⟨hp, hmk, Or.inl hn⟩⟩ hslip
  | executed rt hf hr hp cur hm hcur res w' hex =>
    have hterms := sameOrders_accepted w rt r t r
    cases hex with
    | refused exc' h =>
      rw [accepted_overfilled] at h
      exact absurd ⟨⟨hf, rt, hr⟩, Or.inr ⟨hp, hm, Or.inr ⟨cur, hcur, h⟩⟩⟩ hslip
    | blank exc' o _ _ _ _ hid =>
      rw [hterms.clOrdId] at hid
      exact absurd ⟨⟨hf, rt, hr⟩, Or.inl hid⟩ hslip
    | filled => cases hraise
  | rested => cases hraise

/-- A cancellation that raises changes nothing. -/
theorem cancel_raised {w : PaperGateway} (hk : w.BookKeyed) {id : String} {t : Stamp} {exc : Exc}
    (hraise : w.raised (.cancel id t) = some exc) : w.Unchanged (w.step (.cancel id t)) := by
  obtain ⟨res, w', hw, hs⟩ := w.cancelOrder_cases id t
  simp only [raised, hw] at hraise
  simp only [PaperGateway.step, hw]
  clear hw
  cases hs with
  | refused => exact ⟨rfl, rfl, rfl, rfl, rfl⟩
  | unbooked => exact ⟨rfl, rfl, rfl, rfl, rfl⟩
  | cancelled _ r o hid hr _ _ _ hres =>
    rcases hres with ⟨hb, -⟩ | ⟨-, rep, rfl, -⟩
    · rw [hk _ r hr, strip_strip] at hb
      exact absurd hb hid
    · cases hraise

/-- Setting a market price raises only on its arguments when no order it fills is refused. -/
theorem setPrice_raised {w : PaperGateway} {symbol : String} {price : ℚ} {t : ℕ → Stamp}
    (hslip : ¬ w.Slips (.setPrice symbol price t)) {exc : Exc} (hraise : w.raised (.setPrice symbol price t) = some exc) :
    w.Unchanged (w.step (.setPrice symbol price t)) := by
  rcases w.setMarketPrice_cases symbol price t with ⟨-, exc', hw⟩ | ⟨hs, hprice, hw⟩
  · simp only [PaperGateway.step, hw]
    exact ⟨rfl, rfl, rfl, rfl, rfl⟩
  -- The loop changes an order only by filling it, so the orders it meets are as they were at the start.
  have hsame : ∀ (w1 : PaperGateway) (r : Ref), (∀ r, w1.heap r = w.heap r ∨ (w1.heap r).isTerminal = true) →
      isMatch (w1.heap r) (strip symbol) price = true → w1.heap r = w.heap r := by
    intro w1 r hJ hm
    refine (hJ r).resolve_right fun ht => ?_
    rw [isTerminal_of_isMatch hm] at ht
    cases ht
  have hloop := @matchResting_rule (strip symbol) price t
    (fun _ w1 => ∀ r, w1.heap r = w.heap r ∨ (w1.heap r).isTerminal = true) (fun _ => False) w.orders.values
    (fun r hr _ w1 rep w2 hJ hm hex r' => by
      by_cases hrr : r' = r
      · subst hrr
        right
        cases hex with
        | filled _ o _ _ _ hstate => simp [dropped, setOrder, Order.isTerminal, hstate]
      · rw [hex.heap_of_ne hrr]
        exact hJ r')
    (fun r hr _ w1 exc w2 hJ hm hex => by
      have hheap := hsame w1 r hJ hm
      rw [hheap] at hm
      cases hex with
      | refused _ h =>
        rw [hheap] at h
        exact hslip ⟨hs, hprice, r, hr, hm, Or.inl (h.resolve_left (not_lt.2 hprice.le))⟩
      | blank _ _ _ _ _ _ hid =>
        rw [hheap] at hid
        exact hslip ⟨hs, hprice, r, hr, hm, Or.inr hid⟩)
    [] (w.priced symbol price) (fun r => Or.inl rfl)
  rcases hloop with ⟨reps, hres, -⟩ | ⟨_, -, hF⟩
  · simp only [raised, hw, hres] at hraise
    cases hraise
  · exact hF.elim

/-- In every state of every run, a call that raises, outside the calls of `Slips`, changes nothing, except that a purchase that
is turned down retires its identifier. -/
theorem raised_cases {w : PaperGateway} (h : w.Reachable) {op : Op} (hslip : ¬ w.Slips op) {exc : Exc}
    (hraise : w.raised op = some exc) :
    (∃ r t, op = .submit r t ∧ w.TurnedDown r ∧ w.Retired (w.heap r).clOrdId (w.step op)) ∨
      ((∀ r t, op = .submit r t → ¬ w.TurnedDown r) ∧ w.Unchanged (w.step op)) := by
  cases op with
  | submit r t =>
    rcases submit_raised hslip hraise with ⟨ht, hw⟩ | ⟨ht, hw⟩
    · exact Or.inl ⟨r, t, rfl, ht, hw⟩
    · refine Or.inr ⟨fun r' t' he => ?_, hw⟩
      cases he
      exact ht
  | cancel id t => exact Or.inr ⟨fun _ _ he => (by cases he), cancel_raised h.bookKeyed hraise⟩
  | setPrice symbol price t => exact Or.inr ⟨fun _ _ he => (by cases he), setPrice_raised hslip hraise⟩
  | connect => cases hraise
  | disconnect => cases hraise

/-- A gateway that spent nine tenths of its cash on one order and is sent a second one. -/
def spent : PaperGateway :=
  ((((init thousand {} twoOrders).step .connect).step (.submit 0 ⟨0, "0"⟩)).step (.setPrice "AAPL" 90 fun _ => ⟨0, "0"⟩))

theorem reachable_spent : spent.Reachable :=
  ⟨thousand, {}, twoOrders, ((Run.refl.tail (i := Op.connect) trivial rfl).tail (i := Op.submit 0 ⟨0, "0"⟩) trivial rfl).tail
    (i := Op.setPrice "AAPL" 90 fun _ => ⟨0, "0"⟩) trivial rfl⟩

example : spent.cash = 100 := by decide +kernel

/-- The exception of the second order. -/
def spentFault : Exc :=
  ⟨.insufficientMargin, "Required purchasing power % exceeds available cash %", [.num 900, .num 100]⟩

/-- The second order is turned down and its identifier is in the history. -/
theorem not_unchanged_spent :
    ¬ ∀ w : PaperGateway, w.Reachable → ∀ op exc, w.raised op = some exc → w.Unchanged (w.step op) := by
  intro h
  have hraise : spent.raised (.submit 1 ⟨0, "0"⟩) = some spentFault := by decide +kernel
  have := congrArg IdempotencyRouter.historyRing (h spent reachable_spent _ _ hraise).router
  revert this
  decide +kernel

/-- The second order is turned down and retires its identifier, while a cancellation of an unknown order raises and changes
nothing. -/
theorem raised_cases_spent :
    (spent.raised (.submit 1 ⟨0, "0"⟩) = some spentFault ∧ spent.Retired "b" (spent.step (.submit 1 ⟨0, "0"⟩))) ∧
      spent.raised (.cancel "c" ⟨0, "0"⟩) = some (notFound "c") ∧ spent.Unchanged (spent.step (.cancel "c" ⟨0, "0"⟩)) := by
  have hdeclined : spent.raised (.submit 1 ⟨0, "0"⟩) = some spentFault := by decide +kernel
  have hpower : ∃ exc, spent.powerFault (spent.heap 1) = some exc := ⟨spentFault, by decide +kernel⟩
  have hslip : ¬ spent.Slips (.submit 1 ⟨0, "0"⟩) := by
    rintro ⟨-, hblank | ⟨hnone, -⟩⟩
    · revert hblank
      decide +kernel
    · rw [hnone] at hpower
      exact absurd hpower.choose_spec nofun
  have hraise : spent.raised (.cancel "c" ⟨0, "0"⟩) = some (notFound "c") := by decide +kernel
  have hcancel : ¬ spent.Slips (.cancel "c" ⟨0, "0"⟩) := fun h => h
  refine ⟨⟨hdeclined, ?_⟩, hraise, ?_⟩
  · rcases raised_cases reachable_spent hslip hdeclined with ⟨r, t, h, -, hretired⟩ | ⟨hnot, -⟩
    · obtain rfl : (1 : Ref) = r := (Op.submit.inj h).1
      rwa [show (spent.heap 1).clOrdId = "b" by decide +kernel] at hretired
    · refine absurd ⟨⟨?_, ?_⟩, hpower⟩ (hnot 1 _ rfl)
      · decide +kernel
      · exact exists_of_isOk (by decide +kernel)
  · rcases raised_cases reachable_spent hcancel hraise with ⟨r, t, h, -⟩ | ⟨-, h⟩
    · cases h
    · exact h

/-! ## The two registries

The book is keyed by the identifier of an order as it stands, and the calls that look an order up strip theirs first. The two
agree as long as every order that stays open has an identifier without blanks around it.
-/

/-- The errors of an identifier that is invalid or unknown. -/
def idErrors (id : String) : List Exc := [blankId id, notFound (strip id), IdempotencyRouter.blankOrderId id]

/-- The router and the book agree on the open orders, and each of them can be looked up and cancelled under its identifier. -/
structure RegistriesAgree (w : PaperGateway) : Prop where
  active : ∀ id, w.router.activeOrders.contains id = true ↔
    ∃ r ∈ w.orders.values, (w.heap r).isActive = true ∧ (w.heap r).clOrdId = id
  getOrder : ∀ r ∈ w.orders.values, (w.heap r).isActive = true → w.getOrder (w.heap r).clOrdId = .ok (some r)
  cancelOrder : ∀ r ∈ w.orders.values, (w.heap r).isActive = true → ∀ t exc,
    (w.cancelOrder (w.heap r).clOrdId t).1 = .error exc → exc ∉ idErrors (w.heap r).clOrdId

/-- A submission leaves its order open: it passes the purchasing-power check and rests, or the report of its fill is refused. -/
def LeavesOpen (w : PaperGateway) (o : Order) : Prop :=
  w.powerFault o = none ∧ (w.isMarketable o = false ∨ w.FillRefused o)

/-- The condition on a call: no order enters under a blank identifier, and one that stays open has no blanks around its own. -/
def Proper (w : PaperGateway) : Op → Prop
  | .submit r _ => w.Enters r → strip (w.heap r).clOrdId ≠ "" ∧
      (w.LeavesOpen (w.heap r) → strip (w.heap r).clOrdId = (w.heap r).clOrdId)
  | _ => True

/-- What every proper call keeps. -/
structure Registered (w : PaperGateway) : Prop where
  keyed : w.BookKeyed
  active : ∀ id, w.router.activeOrders.contains id = true ↔
    ∃ r, w.orders.get? id = some r ∧ (w.heap r).isTerminal = false
  stripped : ∀ id, w.router.activeOrders.contains id = true → strip id = id

/-- An open order is in flight under its own identifier, which is not blank. -/
theorem Registered.of_open {w : PaperGateway} (h : w.Registered) {r : Ref}
    (hr : w.orders.get? (w.heap r).clOrdId = some r) (hact : (w.heap r).isTerminal = false) :
    strip (w.heap r).clOrdId = (w.heap r).clOrdId ∧ strip (w.heap r).clOrdId ≠ "" := by
  have hs := h.stripped _ ((h.active _).2 ⟨r, hr, hact⟩)
  refine ⟨hs, ?_⟩
  rw [hs]
  exact (w.heap r).clOrdId_ne

/-- Ending an open order and retiring its identifier keeps the registries in step. -/
theorem Registered.close {w w' : PaperGateway} (h : w.Registered) {r : Ref}
    (hr : w.orders.get? (w.heap r).clOrdId = some r) (horders : w'.orders = w.orders) (hterms : SameOrders w w')
    (hrouter : w'.router.activeOrders = w.router.activeOrders.erase (w.heap r).clOrdId)
    (hend : (w'.heap r).isTerminal = true) (hother : ∀ r', r' ≠ r → w'.heap r' = w.heap r') : w'.Registered := by
  refine ⟨h.keyed.of_sameOrders hterms fun id r' hr' => Or.inl (horders ▸ hr'), fun id => ?_, fun id hid => ?_⟩
  · rw [hrouter, Dict.contains_erase, h.active, horders]
    constructor
    · rintro ⟨hne, r', hr', hact⟩
      refine ⟨r', hr', ?_⟩
      rwa [hother r' (by rintro rfl; exact hne (h.keyed id _ hr').symm)]
    · rintro ⟨r', hr', hact⟩
      have hrr : r' ≠ r := by
        rintro rfl
        rw [hend] at hact
        cases hact
      rw [hother r' hrr] at hact
      refine ⟨?_, r', hr', hact⟩
      rintro rfl
      rw [hr, Option.some.injEq] at hr'
      exact hrr hr'.symm
  · rw [hrouter, Dict.contains_erase] at hid
    exact h.stripped id hid.2

theorem routerAfter_of_ne (w : PaperGateway) {id : String} (h : strip id ≠ "") :
    (w.routerAfter id).activeOrders = w.router.activeOrders.erase id := by
  rw [routerAfter, if_neg h, IdempotencyRouter.activeOrders_drop]

example : (spent.routerAfter "a").activeOrders.keys = [] := by decide +kernel

/-- Executing an open order keeps the registries in step, whether its report is booked or refused. -/
theorem Registered.executed {w w' : PaperGateway} (h : w.Registered) {r : Ref} {price : ℚ}
    {res : Except Exc ExecutionReport} (hr : w.orders.get? (w.heap r).clOrdId = some r)
    (hact : (w.heap r).isTerminal = false) (hex : Executed w r price res w') : w'.Registered := by
  obtain ⟨-, hblank⟩ := h.of_open hr hact
  have hterms := hex.sameOrders
  cases hex with
  | refused => exact ⟨h.keyed, h.active, h.stripped⟩
  | blank _ _ _ _ _ _ hid => exact absurd hid hblank
  | filled _ o _ _ _ hstate =>
    refine h.close hr ?_ hterms ?_ ?_ ?_
    · simp [dropped, setOrder, paid, settle]
    · simp only [dropped]
      rw [routerAfter_of_ne _ hblank]
      simp [setOrder, paid, settle]
    · simp [dropped, setOrder, Order.isTerminal, hstate]
    · intro r' hrr
      simp [dropped, setOrder, paid, settle, hrr]

/-- Removing an identifier from both registries keeps them in step. -/
theorem Registered.remove {w w' : PaperGateway} (h : w.Registered) {id : String}
    (hid : w.router.activeOrders.get? id = none) (horders : w'.orders = w.orders.erase id) (hterms : SameOrders w w')
    (hrouter : w'.router.activeOrders = w.router.activeOrders)
    (hother : ∀ id' r, id' ≠ id → w.orders.get? id' = some r → w'.heap r = w.heap r) : w'.Registered := by
  have hnot : w.router.activeOrders.contains id = false := (Dict.contains_eq_false_iff _ _).2 hid
  refine ⟨h.keyed.of_sameOrders hterms fun id' r hr => ?_, fun id' => ?_, fun id' hid' => ?_⟩
  · by_cases he : id' = id
    · rw [horders, he, Dict.get?_erase_self] at hr
      cases hr
    · rw [horders, Dict.get?_erase_of_ne _ he] at hr
      exact Or.inl hr
  · rw [hrouter, horders]
    by_cases he : id' = id
    · subst he
      rw [hnot]
      simp
    · rw [h.active, Dict.get?_erase_of_ne _ he]
      refine exists_congr fun r => and_congr_right fun hr => ?_
      rw [hother id' r he hr]
  · rw [hrouter] at hid'
    exact h.stripped id' hid'

/-- Entering an order under a new, stripped identifier keeps the registries in step. -/
theorem Registered.accepted {w : PaperGateway} (h : w.Registered) {r : Ref} {rt : IdempotencyRouter}
    (hr : w.router.registerOrder (w.heap r).clOrdId r = .ok rt) (hid : strip (w.heap r).clOrdId = (w.heap r).clOrdId)
    (t : Stamp) : (w.accepted rt r t).Registered := by
  obtain ⟨hnone, hret, rfl⟩ := IdempotencyRouter.registerOrder_eq_ok hr
  have hheap := w.accepted_heap (w.router.activate _ r hret) r t
  have horders := w.accepted_orders (w.router.activate _ r hret) r t
  have hrouter : (w.accepted (w.router.activate _ r hret) r t).router.activeOrders =
      w.router.activeOrders.set (w.heap r).clOrdId r := by
    simp
  refine ⟨h.keyed.of_sameOrders (sameOrders_accepted w _ r t) fun id r' hr' => ?_, fun id => ?_, fun id hid' => ?_⟩
  · rw [horders, Dict.get?_set] at hr'
    split at hr'
    · rename_i he
      cases hr'
      exact Or.inr he.symm
    · exact Or.inl hr'
  · rw [hrouter, horders, Dict.contains_set, Dict.get?_set]
    by_cases he : id = (w.heap r).clOrdId
    · refine iff_of_true (Or.inl he) ⟨r, by rw [if_pos he], ?_⟩
      rw [hheap, if_pos rfl, Order.isTerminal, acknowledged_state]
      rfl
    · rw [if_neg he, h.active]
      constructor
      · rintro (he' | ⟨r', hr', hact⟩)
        · exact absurd he' he
        · refine ⟨r', hr', ?_⟩
          rw [hheap, if_neg]
          · exact hact
          · rintro rfl
            exact he (h.keyed id _ hr').symm
      · rintro ⟨r', hr', hact⟩
        refine Or.inr ⟨r', hr', ?_⟩
        rw [hheap, if_neg] at hact
        · exact hact
        · rintro rfl
          exact he (h.keyed id _ hr').symm
  · rw [hrouter, Dict.contains_set] at hid'
    rcases hid' with rfl | hid'
    · exact hid
    · exact h.stripped id hid'

/-- An order that enters and is filled at once keeps the registries in step, whatever its identifier. -/
theorem Registered.filledNew {w w' : PaperGateway} (h : w.Registered) {r : Ref}
    (hnone : w.router.activeOrders.get? (w.heap r).clOrdId = none) (hterms : SameOrders w w')
    (horders : w'.orders = w.orders.set (w.heap r).clOrdId r)
    (hrouter : w'.router.activeOrders = w.router.activeOrders) (hend : (w'.heap r).isTerminal = true)
    (hother : ∀ r', r' ≠ r → w'.heap r' = w.heap r') : w'.Registered := by
  have hnot : w.router.activeOrders.contains (w.heap r).clOrdId = false := (Dict.contains_eq_false_iff _ _).2 hnone
  refine ⟨h.keyed.of_sameOrders hterms fun id r' hr' => ?_, fun id => ?_, fun id hid => ?_⟩
  · rw [horders, Dict.get?_set] at hr'
    split at hr'
    · rename_i he
      cases hr'
      exact Or.inr he.symm
    · exact Or.inl hr'
  · rw [hrouter, horders, Dict.get?_set]
    by_cases he : id = (w.heap r).clOrdId
    · rw [if_pos he, he, hnot]
      refine iff_of_false Bool.false_ne_true ?_
      rintro ⟨r', hr', hact⟩
      cases hr'
      rw [hend] at hact
      cases hact
    · rw [if_neg he, h.active]
      refine exists_congr fun r' => and_congr_right fun hr' => ?_
      rw [hother r' (by rintro rfl; exact he (h.keyed id _ hr').symm)]
  · rw [hrouter] at hid
    exact h.stripped id hid

/-- A proper submission keeps the registries in step. -/
theorem Registered.submit {w : PaperGateway} (h : w.Registered) {r : Ref} {t : Stamp}
    (hproper : w.Proper (.submit r t)) : (w.step (.submit r t)).Registered := by
  obtain ⟨res, w', hw, hs⟩ := w.submitOrder_cases r t
  rw [PaperGateway.step, hw]
  clear hw
  cases hs with
  | refused => exact h
  | declined _ _ rt hf hr hp =>
    obtain ⟨hblank, -⟩ := hproper ⟨hf, rt, hr⟩
    obtain ⟨hnone, hret, rfl⟩ := IdempotencyRouter.registerOrder_eq_ok hr
    refine h.remove hnone ?_ ((SameOrders.refl _).released (w.heap r).clOrdId) ?_ fun _ _ _ _ => ?_
    · simp [released, enter, hblank]
    · simp only [released]
      rw [routerAfter_of_ne _ hblank]
      exact Dict.erase_set_of_get?_none r hnone
    · simp [released, enter]
  | unpriced _ rt hf hr hp hm hn =>
    obtain ⟨hblank, -⟩ := hproper ⟨hf, rt, hr⟩
    obtain ⟨hnone, hret, rfl⟩ := IdempotencyRouter.registerOrder_eq_ok hr
    refine h.remove hnone ?_ ((sameOrders_accepted w _ r t).released (w.heap r).clOrdId) ?_ fun id' r' he hr' => ?_
    · simp [released, hblank]
    · simp only [released]
      rw [routerAfter_of_ne _ hblank, accepted_router]
      exact Dict.erase_set_of_get?_none r hnone
    · have hrr : r' ≠ r := by
        rintro rfl
        exact he (h.keyed id' _ hr').symm
      simp [released, accepted_heap, hrr]
  | executed rt hf hr hp cur hm hcur res w' hex =>
    obtain ⟨hblank, hopen⟩ := hproper ⟨hf, rt, hr⟩
    have hterms := sameOrders_accepted w rt r t r
    by_cases hid : strip (w.heap r).clOrdId = (w.heap r).clOrdId
    · refine (h.accepted hr hid t).executed ?_ (w.accepted_isTerminal rt r t) hex
      rw [hterms.clOrdId, accepted_orders, Dict.get?_set_self]
    · -- The identifier has blanks around it, so the fill is not refused and the order does not stay open.
      have hfill : ¬ w.FillRefused (w.heap r) := fun hbad => hid (hopen ⟨hp, Or.inr hbad⟩)
      obtain ⟨hnone, hret, rfl⟩ := IdempotencyRouter.registerOrder_eq_ok hr
      have hsame := hex.sameOrders
      have hacc := sameOrders_accepted w (w.router.activate _ r hret) r t
      cases hex with
      | refused _ hbad =>
        rw [accepted_overfilled] at hbad
        exact absurd ⟨cur, hcur, hbad⟩ hfill
      | blank _ _ _ _ _ _ hb =>
        rw [hterms.clOrdId] at hb
        exact absurd hb hblank
      | filled _ o _ _ _ hstate =>
        rw [hterms.clOrdId] at hsame ⊢
        refine h.filledNew hnone (fun r' => (hacc r').trans (hsame r')) ?_ ?_ ?_ ?_
        · simp [dropped, setOrder, paid, settle]
        · simp only [dropped]
          rw [routerAfter_of_ne _ hblank]
          simp only [setOrder, paid, settle, accepted_router]
          exact Dict.erase_set_of_get?_none r hnone
        · simp [dropped, setOrder, Order.isTerminal, hstate]
        · intro r' hrr
          simp [dropped, setOrder, paid, settle, accepted_heap, hrr]
  | rested rep rt hf hr hp hm hx =>
    obtain ⟨-, hopen⟩ := hproper ⟨hf, rt, hr⟩
    have ha := h.accepted hr (hopen ⟨hp, Or.inl hm⟩) t
    exact ⟨ha.keyed, ha.active, ha.stripped⟩

/-- A cancellation keeps the registries in step. -/
theorem Registered.cancel {w : PaperGateway} (h : w.Registered) (id : String) (t : Stamp) :
    (w.step (.cancel id t)).Registered := by
  obtain ⟨res, w', hw, hs⟩ := w.cancelOrder_cases id t
  rw [PaperGateway.step, hw]
  clear hw
  cases hs with
  | refused => exact h
  | unbooked => exact ⟨h.keyed, h.active, h.stripped⟩
  | cancelled _ r o hid hr hact hterms hstate =>
    have hkey := h.keyed _ r hr
    have hr' : w.orders.get? (w.heap r).clOrdId = some r := by
      rw [hkey]
      exact hr
    obtain ⟨-, hblank⟩ := h.of_open hr' hact
    refine h.close hr' ?_ (SameOrders.dropped (SameOrders.setOrder (fun _ => Order.SameTerms.refl _) hterms) (w.heap r).clOrdId)
      ?_ ?_ ?_
    · simp [dropped, setOrder]
    · simp only [dropped]
      rw [routerAfter_of_ne _ hblank]
      simp [setOrder]
    · simp [dropped, setOrder, Order.isTerminal, hstate]
    · intro r' hrr
      simp [dropped, setOrder, hrr]

/-- A new market price keeps the registries in step. -/
theorem Registered.setPrice {w : PaperGateway} (h : w.Registered) (symbol : String) (price : ℚ) (t : ℕ → Stamp) :
    (w.step (.setPrice symbol price t)).Registered := by
  rcases w.setMarketPrice_cases symbol price t with ⟨-, exc, hw⟩ | ⟨-, -, hw⟩
  · rw [PaperGateway.step, hw]
    exact h
  · rw [PaperGateway.step, hw]
    have hloop := @matchResting_invariant (strip symbol) price t (fun w1 => w1.orders = w.orders ∧ w1.Registered)
      w.orders.values ?_ [] (w.priced symbol price) ⟨rfl, h.keyed, h.active, h.stripped⟩
    · exact hloop.2
    · intro r hr w1 res w2 hI hm hex
      obtain ⟨id, hid⟩ := (Dict.mem_values_iff _ r).1 hr
      rw [← hI.1] at hid
      have hget : w1.orders.get? (w1.heap r).clOrdId = some r := by
        rw [hI.2.keyed id r hid]
        exact hid
      exact ⟨hex.orders.trans hI.1, hI.2.executed hget (isTerminal_of_isMatch hm) hex⟩

/-- Every proper call keeps the registries in step. -/
theorem Registered.step {w : PaperGateway} (h : w.Registered) {op : Op} (hproper : w.Proper op) : (w.step op).Registered := by
  cases op with
  | submit r t => exact h.submit hproper
  | cancel id t => exact h.cancel id t
  | setPrice symbol price t => exact h.setPrice symbol price t
  | connect => exact ⟨h.keyed, h.active, h.stripped⟩
  | disconnect => exact ⟨h.keyed, h.active, h.stripped⟩

/-- An error of the state machine is not about an identifier. -/
theorem not_mem_idErrors {exc : Exc} (h : exc.text ∈ Order.reportFaults) (id : String) : exc ∉ idErrors id := by
  intro hid
  simp only [idErrors, List.mem_cons, List.not_mem_nil, or_false] at hid
  rcases hid with rfl | rfl | rfl
  · revert h
    simp [blankId, Order.reportFaults]
  · revert h
    simp [notFound, Order.reportFaults]
  · revert h
    simp [IdempotencyRouter.blankOrderId, Order.reportFaults]

/-- Cancelling a booked order that is open fails, if at all, for another reason than its identifier. -/
theorem Registered.cancelOrder_error {w : PaperGateway} (h : w.Registered) {r : Ref}
    (hr : w.orders.get? (w.heap r).clOrdId = some r) (hact : (w.heap r).isTerminal = false) {t : Stamp} {exc : Exc}
    (he : (w.cancelOrder (w.heap r).clOrdId t).1 = .error exc) : exc ∉ idErrors (w.heap r).clOrdId := by
  obtain ⟨hs, hblank⟩ := h.of_open hr hact
  have hget : w.orders.get? (strip (w.heap r).clOrdId) = some r := by
    rw [hs]
    exact hr
  unfold PaperGateway.cancelOrder at he
  by_cases hc : w.isConnected = true
  swap
  · rw [if_pos hc] at he
    cases he
    simp [idErrors, blankId, notFound, IdempotencyRouter.blankOrderId]
  rw [if_neg (not_not.2 hc), if_neg hblank, hget] at he
  simp only [hact, Bool.false_eq_true, if_false] at he
  obtain ⟨rep, hcr, -⟩ := cancelReport_create { w with reportCounter := w.reportCounter + 1 } (w.heap r) t
  rw [hcr] at he
  simp only [applyReport] at he
  rcases ha : (w.heap r).applyExecutionReport rep with ⟨exc' | u, o⟩
  · rw [ha] at he
    cases he
    exact not_mem_idErrors (Order.text_of_applyExecutionReport (by rw [ha])) _
  · -- The state machine keeps the identifier, so deregistering it succeeds.
    have hid : o.clOrdId = (w.heap r).clOrdId := by
      have := (Order.sameTerms_applyExecutionReport (w.heap r) rep).clOrdId
      rwa [ha] at this
    rw [ha] at he
    simp only [hid] at he
    rcases ({ w with reportCounter := w.reportCounter + 1 }.setOrder r o).deregister_eq (w.heap r).clOrdId with
      ⟨hb, -⟩ | ⟨-, hd⟩
    · exact absurd hb hblank
    · simp only [hd] at he
      cases he

theorem Registered.registriesAgree {w : PaperGateway} (h : w.Registered) : w.RegistriesAgree := by
  have hopen : ∀ r ∈ w.orders.values, (w.heap r).isActive = true →
      w.orders.get? (w.heap r).clOrdId = some r ∧ (w.heap r).isTerminal = false := by
    intro r hr hact
    obtain ⟨id, hid⟩ := (Dict.mem_values_iff _ r).1 hr
    refine ⟨?_, by simpa [Order.isActive_eq_not_isTerminal] using hact⟩
    rw [h.keyed id r hid]
    exact hid
  refine ⟨fun id => ?_, fun r hr hact => ?_, fun r hr hact t exc he => ?_⟩
  · rw [h.active]
    constructor
    · rintro ⟨r, hr, hact⟩
      refine ⟨r, (Dict.mem_values_iff _ r).2 ⟨id, hr⟩, ?_, h.keyed id r hr⟩
      rw [Order.isActive_eq_not_isTerminal, hact]
      rfl
    · rintro ⟨r, hr, hact, rfl⟩
      exact ⟨r, hopen r hr hact⟩
  · obtain ⟨hget, ht⟩ := hopen r hr hact
    obtain ⟨hs, hblank⟩ := h.of_open hget ht
    rw [PaperGateway.getOrder, if_neg hblank, hs, hget]
  · obtain ⟨hget, ht⟩ := hopen r hr hact
    exact h.cancelOrder_error hget ht he

/-- In every run of proper calls from a new gateway whose router has no order in flight, the registries agree. -/
theorem registriesAgree_of_run {config : PaperConfig} {router : IdempotencyRouter} (hrouter : router.activeOrders = ∅)
    (heap : Ref → Order) {w : PaperGateway} (h : Run (stepOf PaperGateway.step) Proper (init config router heap) w) :
    w.RegistriesAgree := by
  refine Registered.registriesAgree (Run.invariant (I := Registered) ?_ h ?_)
  · rintro w op _ hI hop rfl
    exact hI.step hop
  · refine ⟨fun id r hr => (by cases hr), fun id => ?_, fun id hid => ?_⟩
    · simp [init, hrouter, Dict.contains]
    · simp [init, hrouter, Dict.contains] at hid

/-- The identifier of an order with a blank in front. -/
def paddedOrders : Ref → Order := fun _ => tenAtHundred " a" (by decide)

example : strip (paddedOrders 0).clOrdId ≠ (paddedOrders 0).clOrdId := by decide

/-- The gateway at which that order rests. -/
def padded : PaperGateway := ((init thousand {} paddedOrders).step .connect).step (.submit 0 ⟨0, "0"⟩)

theorem run_padded : Run (stepOf PaperGateway.step) (fun _ _ => True) (init thousand {} paddedOrders) padded :=
  (Run.refl.tail (i := Op.connect) trivial rfl).tail (i := Op.submit 0 ⟨0, "0"⟩) trivial rfl

/-- An order with a blank in front of its identifier rests, and cannot be looked up. -/
theorem not_registriesAgree :
    ¬ ∀ (config : PaperConfig) (router : IdempotencyRouter), router.activeOrders = ∅ → ∀ heap w,
      Run (stepOf PaperGateway.step) (fun _ _ => True) (init config router heap) w → w.RegistriesAgree := by
  intro h
  have := (h thousand _ rfl paddedOrders _ run_padded).getOrder 0 (by decide +kernel) (by decide +kernel)
  revert this
  decide +kernel

/-- A gateway at which one order without blanks rests. -/
def resting : PaperGateway := ((init thousand {} twoOrders).step .connect).step (.submit 0 ⟨0, "0"⟩)

theorem run_resting : Run (stepOf PaperGateway.step) Proper (init thousand {} twoOrders) resting := by
  refine (Run.refl.tail (i := Op.connect) trivial rfl).tail (i := Op.submit 0 ⟨0, "0"⟩) (fun _ => ⟨?_, fun _ => ?_⟩) rfl
  · decide
  · decide

/-- An order without blanks around its identifier rests, and the registries agree. -/
theorem registriesAgree_oneOrder : ∃ w : PaperGateway, w.orders.values = [0] ∧ w.RegistriesAgree :=
  ⟨resting, by decide +kernel, registriesAgree_of_run rfl twoOrders run_resting⟩

end PaperGateway

end Quant
