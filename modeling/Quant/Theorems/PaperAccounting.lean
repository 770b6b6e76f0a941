import Quant.Lemmas.Gateway
import Quant.Pylib.Runs

namespace Quant

open Pylib

namespace PaperGateway

/-! ## The ledger of a run

The cash and the positions of the gateway against the reports it returned. Orders are submitted as the accounting assumes them:
not filled before, identifiers and symbols without blanks around them, quantities with eight decimals, and no identifier of two
orders. An order may be submitted again.
-/

/-- A gateway with the orders submitted to it and the reports it returned so far. -/
structure Ledger where
  gateway : PaperGateway
  submitted : List Ref := []
  reports : List ExecutionReport := []

/-- A call, recorded. -/
def Ledger.step (L : Ledger) (op : Op) : Ledger :=
  { gateway := L.gateway.step op
    submitted := match op with
      | .submit r _ => L.submitted ++ [r]
      | _ => L.submitted
    reports := L.reports ++ L.gateway.reports op }

/-- The orders the accounting is about: their terms. -/
structure PlainOrder (o : Order) : Prop where
  clOrdId : strip o.clOrdId = o.clOrdId
  symbol : strip o.symbol = o.symbol
  quantity : HasDecimals 8 o.quantity

/-- The calls of the accounting: an order is submitted under an identifier that no other order has, and is unfilled where it is
pending; the other calls are arbitrary. -/
def Ledger.Admits (L : Ledger) : Op → Prop
  | .submit r _ =>
    PlainOrder (L.gateway.heap r) ∧ ((L.gateway.heap r).state = .pendingNew → (L.gateway.heap r).filledQuantity = 0) ∧
      ∀ r' ∈ L.submitted, (L.gateway.heap r').clOrdId = (L.gateway.heap r).clOrdId → r' = r
  | _ => True

/-- The fills among the reports. -/
def fills (reps : List ExecutionReport) : List ExecutionReport := reps.filter (fun rep => rep.execType = .filled)

/-- The cash a fill report stands for: the notional with the sign of a sale, less the fee. -/
def flow (rep : ExecutionReport) : ℚ := cashFlow rep.side rep.cumQuoteAmount rep.fee

/-- The quantity a fill report stands for, signed. -/
def signedFill (rep : ExecutionReport) : ℚ := rep.side.signed rep.lastQuantity

/-- The accounting identity: cash and positions are what the fills add up to, and no order has two fills. -/
structure Accounted (w : PaperGateway) (reps : List ExecutionReport) : Prop where
  cash : w.cash = w.config.initialBalance + ((fills reps).map flow).sum
  position : ∀ symbol, w.positions.getD symbol 0 =
    (((fills reps).filter (fun rep => rep.symbol = symbol)).map signedFill).sum
  once : ((fills reps).map (·.clOrdId)).Nodup

/-- What every call keeps, beside the accounting identity. -/
structure LedgerInv (submitted : List Ref) (reps : List ExecutionReport) (w : PaperGateway) : Prop where
  accounted : w.Accounted reps
  slippage : w.config.slippageBps ≤ 10000
  prices : w.PricesPos
  decimals : ∀ symbol, HasDecimals 8 (w.positions.getD symbol 0)
  keyed : w.BookKeyed
  apart : ∀ r ∈ submitted, ∀ r' ∈ submitted, (w.heap r').clOrdId = (w.heap r).clOrdId → r' = r
  booked : ∀ id r, w.orders.get? id = some r → r ∈ submitted ∧ PlainOrder (w.heap r) ∧
    ((w.heap r).isTerminal = false → ¬ (w.heap r).overfilled)
  filled : ∀ rep ∈ fills reps, ∃ r ∈ submitted, (w.heap r).clOrdId = rep.clOrdId ∧ (w.heap r).isTerminal = true

/-! ### One fill -/

theorem fills_append (reps reps' : List ExecutionReport) : fills (reps ++ reps') = fills reps ++ fills reps' :=
  List.filter_append ..

theorem fills_of_ne {rep : ExecutionReport} (h : rep.execType ≠ .filled) : fills [rep] = [] := by
  simp [fills, h]

theorem fills_of_eq {rep : ExecutionReport} (h : rep.execType = .filled) : fills [rep] = [rep] := by
  simp [fills, h]

/-- Rounding does nothing to positions with eight decimals. -/
theorem newPosition_eq {pos signed : ℚ} (hp : HasDecimals 8 pos) (hs : HasDecimals 8 signed) :
    newPosition pos signed = pos + signed := by
  have h := hp.add hs
  rw [newPosition, round_of_hasDecimals h]
  split
  · rename_i hlt
    by_contra hne
    have hle := h.le_abs (fun h0 => hne h0.symm)
    have hd : (1 : ℚ) / 10 ^ 9 ≤ 1 / 10 ^ 8 := by norm_num
    linarith
  · rfl

theorem HasDecimals.signed {n : ℕ} {q : ℚ} (h : HasDecimals n q) (side : OrderSide) : HasDecimals n (side.signed q) := by
  cases side with
  | buy => exact h
  | sell => simpa [OrderSide.signed] using (HasDecimals.zero n).sub h

/-- The state and the report of an execution that returns. -/
theorem executed_ok {w w' : PaperGateway} {r : Ref} {price : ℚ} {rep : ExecutionReport}
    (h : Executed w r price (.ok rep) w') :
    rep.execType = .filled ∧ rep.clOrdId = (w.heap r).clOrdId ∧ rep.symbol = (w.heap r).symbol ∧
      flow rep = cashFlow (w.heap r).side (price * (w.heap r).quantity) (w.feeOf (price * (w.heap r).quantity)) ∧
      signedFill rep = (w.heap r).side.signed (w.heap r).quantity ∧ (w'.heap r).state = .filled ∧
      w'.positions = w.positions.set (w.heap r).symbol
        (newPosition (w.positions.getD (w.heap r).symbol 0) ((w.heap r).side.signed (w.heap r).quantity)) := by
  cases h with
  | filled _ o _ _ _ hstate _ xid t text hrep =>
    refine ⟨congrArg ReportFields.execType hrep, congrArg ReportFields.clOrdId hrep, congrArg ReportFields.symbol hrep,
      ?_, ?_, ?_, ?_⟩
    · rw [flow, hrep]
      rfl
    · rw [signedFill, hrep]
      rfl
    · simp [dropped, setOrder, hstate]
    · simp [dropped, setOrder, paid, settle]

/-- A fill of an order that has none among the reports keeps the accounts, when its report stands for what it changed. -/
theorem Accounted.append {w w' : PaperGateway} {reps : List ExecutionReport} {rep : ExecutionReport} (h : w.Accounted reps)
    (hx : rep.execType = .filled) (hfresh : ∀ rep' ∈ fills reps, rep'.clOrdId ≠ rep.clOrdId) (hconfig : w'.config = w.config)
    (hcash : w'.cash = w.cash + flow rep)
    (hpos : ∀ symbol, w'.positions.getD symbol 0 = w.positions.getD symbol 0 +
      if rep.symbol = symbol then signedFill rep else 0) : w'.Accounted (reps ++ [rep]) := by
  have hfills : fills (reps ++ [rep]) = fills reps ++ [rep] := by rw [fills_append, fills_of_eq hx]
  refine ⟨?_, ?_, ?_⟩
  · rw [hcash, hconfig, h.cash, hfills, List.map_append, List.sum_append]
    simp [add_assoc]
  · intro symbol
    rw [hpos, h.position, hfills, List.filter_append, List.map_append, List.sum_append]
    by_cases hs : rep.symbol = symbol <;> simp [hs]
  · rw [hfills, List.map_append, List.nodup_append]
    refine ⟨h.once, List.nodup_singleton _, ?_⟩
    intro a ha b hb hab
    obtain ⟨rep', hrep', rfl⟩ := List.mem_map.1 ha
    simp only [List.map_cons, List.map_nil, List.mem_singleton] at hb
    exact hfresh rep' hrep' (hab.trans hb)

/-- Orders that keep their terms stay apart. -/
theorem LedgerInv.apart_of_sameOrders {submitted : List Ref} {reps : List ExecutionReport} {w w' : PaperGateway}
    (h : LedgerInv submitted reps w) (hterms : SameOrders w w') :
    ∀ r ∈ submitted, ∀ r' ∈ submitted, (w'.heap r').clOrdId = (w'.heap r).clOrdId → r' = r := by
  intro r hr r' hr' heq
  rw [(hterms r).clOrdId, (hterms r').clOrdId] at heq
  exact h.apart r hr r' hr' heq

/-- A fill keeps the ledger: its report is new, and stands for exactly what the settlement changed. -/
theorem LedgerInv.executed {submitted : List Ref} {reps : List ExecutionReport} {w w' : PaperGateway} {r : Ref}
    {price : ℚ} {rep : ExecutionReport} (h : LedgerInv submitted reps w)
    (hr : w.orders.get? (w.heap r).clOrdId = some r) (hact : (w.heap r).isTerminal = false)
    (hex : Executed w r price (.ok rep) w') : LedgerInv submitted (reps ++ [rep]) w' := by
  obtain ⟨hx, hid, hsym, hflow, hsig, hstate, hpos⟩ := executed_ok hex
  obtain ⟨hsub, hplain, -⟩ := h.booked _ r hr
  have hfills : fills (reps ++ [rep]) = fills reps ++ [rep] := by rw [fills_append, fills_of_eq hx]
  have hnew := newPosition_eq (h.decimals (w.heap r).symbol) (HasDecimals.signed hplain.quantity (w.heap r).side)
  have hterms := hex.sameOrders
  -- The order was active, so it has no fill among the reports, and no other order has its identifier.
  have hfresh : ∀ rep' ∈ fills reps, rep'.clOrdId ≠ rep.clOrdId := by
    intro rep' hrep' heq
    obtain ⟨r', hr', hid', hended⟩ := h.filled rep' hrep'
    obtain rfl := h.apart r hsub r' hr' (hid'.trans (heq.trans hid))
    rw [hact] at hended
    cases hended
  have hterm : ∀ r', (w.heap r').isTerminal = true → (w'.heap r').isTerminal = true := by
    intro r' ht
    by_cases hr' : r' = r
    · rw [hr', hact] at ht
      cases ht
    · rwa [hex.heap_of_ne hr']
  have hpos' : ∀ symbol, w'.positions.getD symbol 0 = w.positions.getD symbol 0 +
      if rep.symbol = symbol then signedFill rep else 0 := by
    intro symbol
    rw [hpos]
    by_cases hs : symbol = (w.heap r).symbol
    · subst hs
      rw [Dict.getD_set_self, hnew, hsym, if_pos rfl, hsig]
    · rw [Dict.getD_set_of_ne _ _ _ hs, hsym, if_neg (fun hs' => hs hs'.symm), add_zero]
  have hcash : w'.cash = w.cash + flow rep := by rw [hex.cash, hflow]
  constructor
  case accounted => exact h.accounted.append hx hfresh hex.config hcash hpos'
  case slippage =>
    rw [hex.config]
    exact h.slippage
  case prices =>
    intro symbol p hp
    rw [hex.marketPrices] at hp
    exact h.prices symbol p hp
  case decimals =>
    intro symbol
    rw [hpos']
    split
    · rw [hsig]
      exact (h.decimals symbol).add (HasDecimals.signed hplain.quantity _)
    · rw [add_zero]
      exact h.decimals symbol
  case keyed =>
    refine h.keyed.of_sameOrders hterms fun id r' hr' => Or.inl ?_
    rwa [hex.orders] at hr'
  case apart => exact h.apart_of_sameOrders hterms
  case booked =>
    intro id r' hr'
    rw [hex.orders] at hr'
    obtain ⟨h1, h2, h3⟩ := h.booked id r' hr'
    refine ⟨h1, ⟨?_, ?_, ?_⟩, fun hact' => ?_⟩
    · rw [(hterms r').clOrdId]
      exact h2.clOrdId
    · rw [(hterms r').symbol]
      exact h2.symbol
    · rw [(hterms r').quantity]
      exact h2.quantity
    · by_cases hrr : r' = r
      · rw [hrr, Order.isTerminal, hstate] at hact'
        simp at hact'
      · rw [hex.heap_of_ne hrr] at hact' ⊢
        exact h3 hact'
  case filled =>
    intro rep' hrep'
    rw [hfills, List.mem_append, List.mem_singleton] at hrep'
    rcases hrep' with hrep' | rfl
    · obtain ⟨r', hr', hid', hended⟩ := h.filled rep' hrep'
      exact ⟨r', hr', (hterms r').clOrdId.trans hid', hterm r' hended⟩
    · refine ⟨r, hsub, (hterms r).clOrdId.trans hid.symm, ?_⟩
      rw [Order.isTerminal, hstate]
      rfl

/-- An execution under the ledger's invariants cannot raise. -/
theorem LedgerInv.not_error {submitted : List Ref} {reps : List ExecutionReport} {w w' : PaperGateway} {r : Ref}
    {price : ℚ} {exc : Exc} (h : LedgerInv submitted reps w) (hr : w.orders.get? (w.heap r).clOrdId = some r)
    (hact : (w.heap r).isTerminal = false) (hprice : 0 ≤ price) : ¬ Executed w r price (.error exc) w' := by
  intro hex
  obtain ⟨-, hplain, hover⟩ := h.booked _ r hr
  cases hex with
  | refused _ hbad => exact hbad.elim (not_lt.2 hprice) (hover hact)
  | blank _ _ _ _ _ _ hid =>
    rw [hplain.clOrdId] at hid
    exact (w.heap r).clOrdId_ne hid

/-! ### One call -/

theorem PlainOrder.congr {o o' : Order} (h : PlainOrder o) (ht : o.SameTerms o') : PlainOrder o' :=
  ⟨by rw [ht.clOrdId]; exact h.clOrdId, by rw [ht.symbol]; exact h.symbol, by rw [ht.quantity]; exact h.quantity⟩

/-- A change that moves no cash and no position keeps the ledger if orders that have ended stay so and the book keeps its orders,
as they are or ended, and any order it gains is a plain one that was submitted. -/
theorem LedgerInv.frame {submitted : List Ref} {reps : List ExecutionReport} {w w' : PaperGateway}
    (h : LedgerInv submitted reps w)
    (hconfig : w'.config = w.config) (hcash : w'.cash = w.cash) (hpos : w'.positions = w.positions) (hprices : w'.PricesPos)
    (hterms : SameOrders w w') (hended : ∀ r, (w.heap r).isTerminal = true → (w'.heap r).isTerminal = true)
    (horders : ∀ id r, w'.orders.get? id = some r →
      (w.orders.get? id = some r ∧ (w'.heap r = w.heap r ∨ (w'.heap r).isTerminal = true)) ∨
        ((w.heap r).clOrdId = id ∧ r ∈ submitted ∧ PlainOrder (w.heap r) ∧ ¬ (w'.heap r).overfilled)) :
    LedgerInv submitted reps w' := by
  refine ⟨⟨?_, ?_, h.accounted.once⟩, ?_, hprices, ?_, ?_, h.apart_of_sameOrders hterms, ?_, ?_⟩
  · rw [hcash, hconfig]
    exact h.accounted.cash
  · rw [hpos]
    exact h.accounted.position
  · rw [hconfig]
    exact h.slippage
  · rw [hpos]
    exact h.decimals
  · refine h.keyed.of_sameOrders hterms fun id r hr => ?_
    rcases horders id r hr with ⟨h1, -⟩ | ⟨h1, -⟩
    · exact Or.inl h1
    · exact Or.inr h1
  · intro id r hr
    rcases horders id r hr with ⟨h1, h2⟩ | ⟨-, h2, h3, h4⟩
    · obtain ⟨hb1, hb2, hb3⟩ := h.booked id r h1
      refine ⟨hb1, hb2.congr (hterms r), fun hact => ?_⟩
      rcases h2 with h2 | h2
      · rw [h2] at hact ⊢
        exact hb3 hact
      · rw [h2] at hact
        cases hact
    · exact ⟨h2, h3.congr (hterms r), fun _ => h4⟩
  · intro rep hrep
    obtain ⟨r, hr, hid, ht⟩ := h.filled rep hrep
    exact ⟨r, hr, (hterms r).clOrdId.trans hid, hended r ht⟩

theorem LedgerInv.append {submitted : List Ref} {reps reps' : List ExecutionReport} {w : PaperGateway}
    (h : LedgerInv submitted reps w) (hn : fills reps' = []) : LedgerInv submitted (reps ++ reps') w := by
  have hf : fills (reps ++ reps') = fills reps := by rw [fills_append, hn, List.append_nil]
  refine ⟨⟨?_, ?_, ?_⟩, h.slippage, h.prices, h.decimals, h.keyed, h.apart, h.booked, ?_⟩
  · rw [hf]
    exact h.accounted.cash
  · rw [hf]
    exact h.accounted.position
  · rw [hf]
    exact h.accounted.once
  · rw [hf]
    exact h.filled

/-- The report counter is no part of the ledger. -/
theorem LedgerInv.counted {submitted : List Ref} {reps : List ExecutionReport} {w : PaperGateway}
    (h : LedgerInv submitted reps w) (n : ℕ) : LedgerInv submitted reps { w with reportCounter := n } :=
  h.frame rfl rfl rfl h.prices (fun r => Order.SameTerms.refl (w.heap r)) (fun _ ht => ht) fun _ _ hr => Or.inl ⟨hr, Or.inl rfl⟩

/-- One more order is submitted, under an identifier that no other one has. -/
theorem LedgerInv.submitting {submitted : List Ref} {reps : List ExecutionReport} {w : PaperGateway}
    (h : LedgerInv submitted reps w) {r : Ref}
    (hdistinct : ∀ r' ∈ submitted, (w.heap r').clOrdId = (w.heap r).clOrdId → r' = r) :
    LedgerInv (submitted ++ [r]) reps w := by
  refine ⟨h.accounted, h.slippage, h.prices, h.decimals, h.keyed, ?_, fun id r' hr' => ?_, fun rep hrep => ?_⟩
  · intro r₁ h₁ r₂ h₂ heq
    rw [List.mem_append, List.mem_singleton] at h₁ h₂
    rcases h₁ with h₁ | rfl <;> rcases h₂ with h₂ | rfl
    · exact h.apart r₁ h₁ r₂ h₂ heq
    · exact (hdistinct r₁ h₁ heq.symm).symm
    · exact hdistinct r₂ h₂ heq
    · rfl
  · obtain ⟨hmem, hplain, hover⟩ := h.booked id r' hr'
    exact ⟨List.mem_append_left _ hmem, hplain, hover⟩
  · obtain ⟨r', hmem, hid, hended⟩ := h.filled rep hrep
    exact ⟨r', List.mem_append_left _ hmem, hid, hended⟩

/-- Accepting a plain, unfilled order that was submitted and is active. -/
theorem LedgerInv.accepted {submitted : List Ref} {reps : List ExecutionReport} {w : PaperGateway}
    (h : LedgerInv submitted reps w) {r : Ref} (hmem : r ∈ submitted) (hplain : PlainOrder (w.heap r))
    (hact : (w.heap r).isTerminal = false) (hzero : (w.heap r).filledQuantity = 0) (rt : IdempotencyRouter) (t : Stamp) :
    LedgerInv submitted reps (w.accepted rt r t) := by
  refine h.frame (w.accepted_config rt r t) (w.accepted_cash rt r t) (w.accepted_positions rt r t) h.prices
    (sameOrders_accepted w rt r t) ?_ ?_
  · intro r' ht
    have hrr : r' ≠ r := by
      rintro rfl
      rw [hact] at ht
      cases ht
    rwa [accepted_heap, if_neg hrr]
  intro id r' hr'
  rw [accepted_orders] at hr'
  by_cases hid : id = (w.heap r).clOrdId
  · subst hid
    rw [Dict.get?_set_self, Option.some.injEq] at hr'
    subst hr'
    refine Or.inr ⟨rfl, hmem, hplain, ?_⟩
    rw [accepted_overfilled, Order.overfilled, hzero, not_lt]
    linarith [(w.heap r).quantity_pos, Order.tolerance_pos]
  · rw [Dict.get?_set_of_ne _ _ hid] at hr'
    have hrr : r' ≠ r := by
      rintro rfl
      exact hid (h.keyed id _ hr').symm
    exact Or.inl ⟨hr', Or.inl (by rw [accepted_heap, if_neg hrr])⟩

/-- A recorded submission keeps the ledger. -/
theorem LedgerInv.submit {submitted : List Ref} {reps : List ExecutionReport} {w : PaperGateway}
    (hbefore : LedgerInv submitted reps w) {r : Ref} (hplain : PlainOrder (w.heap r))
    (hzero : (w.heap r).state = .pendingNew → (w.heap r).filledQuantity = 0)
    (hdistinct : ∀ r' ∈ submitted, (w.heap r').clOrdId = (w.heap r).clOrdId → r' = r) (t : Stamp) :
    LedgerInv (submitted ++ [r]) (reps ++ w.reports (.submit r t)) (w.step (.submit r t)) := by
  have h := hbefore.submitting hdistinct
  have haccepted : w.submitFault (w.heap r) = none → ∀ rt, LedgerInv (submitted ++ [r]) reps (w.accepted rt r t) := by
    intro hf rt
    have hstate := (submitFault_eq_none hf).2.1
    exact h.accepted (by simp) hplain (by rw [Order.isTerminal, hstate]; rfl) (hzero hstate) rt t
  obtain ⟨res, w', hw, hs⟩ := w.submitOrder_cases r t
  simp only [PaperGateway.step, PaperGateway.reports, hw]
  cases hs with
  | refused exc =>
    rw [List.append_nil]
    exact h
  | declined exc exc' rt =>
    rw [List.append_nil]
    refine h.frame (by simp [released, enter]) (by simp [released, enter]) (by simp [released, enter])
      (by simpa [PricesPos, released, enter] using h.prices)
      ((SameOrders.refl (w.enter rt (w.heap r).clOrdId r)).released (w.heap r).clOrdId)
      (fun r' ht => by simpa [released, enter] using ht) fun id r' hr' => Or.inl ⟨?_, Or.inl (by simp [released, enter])⟩
    have hblank : strip (w.heap r).clOrdId ≠ "" := by
      rw [hplain.clOrdId]
      exact (w.heap r).clOrdId_ne
    simp only [released, enter, if_neg hblank, Dict.erase_set] at hr'
    exact Dict.get?_of_get?_erase hr'
  | unpriced exc rt hf =>
    rw [List.append_nil]
    have ha := haccepted hf rt
    refine ha.frame (by simp [released]) (by simp [released]) (by simp [released])
      (by simpa [PricesPos, released] using ha.prices) ((SameOrders.refl _).released (w.heap r).clOrdId)
      (fun r' ht => by simpa [released] using ht) fun id r' hr' => Or.inl ⟨?_, Or.inl (by simp [released])⟩
    exact orders_of_released hr'
  | executed rt hf hr hp cur hm hcur res w' hex =>
    have ha := haccepted hf rt
    have hget : (w.accepted rt r t).orders.get? ((w.accepted rt r t).heap r).clOrdId = some r := by
      rw [(sameOrders_accepted w rt r t r).clOrdId, accepted_orders, Dict.get?_set_self]
    have hact := w.accepted_isTerminal rt r t
    cases res with
    | error exc =>
      have hprice := fillPrice_nonneg h.slippage (o := w.heap r) (h.prices _ _ hcur)
      exact absurd hex (ha.not_error hget hact hprice)
    | ok rep => exact ha.executed hget hact hex
  | rested rep rt hf hr hp hm hx =>
    exact ((haccepted hf rt).counted (w.reportCounter + 1)).append (fills_of_ne (by rw [hx]; decide))

/-- A cancellation keeps the ledger. -/
theorem LedgerInv.cancel {submitted : List Ref} {reps : List ExecutionReport} {w : PaperGateway}
    (h : LedgerInv submitted reps w) (id : String) (t : Stamp) :
    LedgerInv submitted (reps ++ w.reports (.cancel id t)) (w.step (.cancel id t)) := by
  obtain ⟨res, w', hw, hs⟩ := w.cancelOrder_cases id t
  simp only [PaperGateway.step, PaperGateway.reports, hw]
  clear hw
  cases hs with
  | refused exc =>
    rw [List.append_nil]
    exact h
  | unbooked exc r =>
    rw [List.append_nil]
    exact h.counted (w.reportCounter + 1)
  | cancelled _ r o hid hr hact hterms hstate hres =>
    have hstep : LedgerInv submitted reps
        (({ w with reportCounter := w.reportCounter + 1 }.setOrder r o).dropped (w.heap r).clOrdId) := by
      refine h.frame (by simp [dropped, setOrder]) (by simp [dropped, setOrder]) (by simp [dropped, setOrder])
        (by simpa [PricesPos, dropped, setOrder] using h.prices) ?_ ?_ ?_
      · refine SameOrders.dropped ?_ _
        exact SameOrders.setOrder (fun _ => Order.SameTerms.refl _) hterms
      · intro r' ht
        have hrr : r' ≠ r := by
          rintro rfl
          rw [hact] at ht
          cases ht
        simpa [dropped, setOrder, hrr] using ht
      · intro id' r' hr'
        refine Or.inl ⟨by simpa [dropped, setOrder] using hr', ?_⟩
        by_cases hrr : r' = r
        · right
          simp [dropped, setOrder, hrr, Order.isTerminal, hstate]
        · left
          simp [dropped, setOrder, hrr]
    rcases hres with ⟨-, exc, rfl⟩ | ⟨-, rep, rfl, hx⟩
    · rw [List.append_nil]
      exact hstep
    · exact hstep.append (fills_of_ne (by rw [hx]; decide))

/-- A new market price keeps the ledger: the loop fills booked orders only, and none of the fills raises. -/
theorem LedgerInv.setPrice {submitted : List Ref} {reps : List ExecutionReport} {w : PaperGateway}
    (h : LedgerInv submitted reps w) (symbol : String) (price : ℚ) (t : ℕ → Stamp) :
    LedgerInv submitted (reps ++ w.reports (.setPrice symbol price t)) (w.step (.setPrice symbol price t)) := by
  simp only [PaperGateway.step, PaperGateway.reports]
  rcases w.setMarketPrice_cases symbol price t with ⟨-, exc, hw⟩ | ⟨-, hprice, hw⟩
  · simp only [hw, List.append_nil]
    exact h
  have h1 : LedgerInv submitted reps (w.priced symbol price) :=
    h.frame rfl rfl rfl (h.prices.priced symbol hprice) (fun r => Order.SameTerms.refl (w.heap r)) (fun _ ht => ht)
      fun id r' hr' => Or.inl ⟨hr', Or.inl rfl⟩
  have hget : ∀ r ∈ w.orders.values, ∀ w1 : PaperGateway, w1.orders = w.orders → w1.BookKeyed →
      w1.orders.get? (w1.heap r).clOrdId = some r := by
    intro r hr w1 ho hk
    obtain ⟨id, hid⟩ := (Dict.mem_values_iff _ r).1 hr
    rw [← ho] at hid
    rw [hk id r hid]
    exact hid
  have hloop := @matchResting_rule (strip symbol) price t
    (fun reps' w1 => w1.orders = w.orders ∧ LedgerInv submitted (reps ++ reps') w1) (fun _ => False) w.orders.values
    (fun r hr reps' w1 rep w2 hJ hm hex => by
      refine ⟨hex.orders.trans hJ.1, ?_⟩
      rw [← List.append_assoc]
      exact hJ.2.executed (hget r hr w1 hJ.1 hJ.2.keyed) (isTerminal_of_isMatch hm) hex)
    (fun r hr reps' w1 exc w2 hJ hm hex =>
      hJ.2.not_error (hget r hr w1 hJ.1 hJ.2.keyed) (isTerminal_of_isMatch hm) hprice.le hex)
    [] (w.priced symbol price) ⟨rfl, by rw [List.append_nil]; exact h1⟩
  rcases hloop with ⟨reps', hres, -, hinv⟩ | ⟨_, _, hF⟩
  · simp only [hw, hres]
    exact hinv
  · exact hF.elim

/-- Every recorded call keeps the ledger. -/
theorem LedgerInv.step {L : Ledger} {op : Op} (h : LedgerInv L.submitted L.reports L.gateway) (hop : L.Admits op) :
    LedgerInv (L.step op).submitted (L.step op).reports (L.step op).gateway := by
  unfold Ledger.step
  cases op with
  | submit r t => exact h.submit hop.1 hop.2.1 hop.2.2 t
  | cancel id t => exact h.cancel id t
  | setPrice symbol price t => exact h.setPrice symbol price t
  | connect | disconnect =>
    simp only [PaperGateway.step, PaperGateway.reports, List.append_nil]
    exact h.frame rfl rfl rfl h.prices (fun r => Order.SameTerms.refl (L.gateway.heap r)) (fun _ ht => ht)
      fun id r' hr' => Or.inl ⟨hr', Or.inl rfl⟩

/-! ### A run -/

theorem LedgerInv.init {config : PaperConfig} (hslip : config.slippageBps ≤ 10000) (router : IdempotencyRouter)
    (heap : Ref → Order) : LedgerInv [] [] (PaperGateway.init config router heap) := by
  refine ⟨⟨?_, ?_, ?_⟩, hslip, ?_, ?_, ?_, nofun, ?_, ?_⟩
  · simp [PaperGateway.init, fills]
  · simp [PaperGateway.init, fills]
  · simp [fills]
  · intro symbol p hp
    cases hp
  · intro symbol
    exact HasDecimals.zero 8
  · intro id r hr
    cases hr
  · intro id r hr
    cases hr
  · intro rep hrep
    cases hrep

/-- In every run of calls that submit plain, unfilled orders under their own identifiers, cash and positions are what the fills
reported so far add up to, and no order has two of them. -/
theorem accounted_of_run {config : PaperConfig} (hslip : config.slippageBps ≤ 10000) (router : IdempotencyRouter)
    (heap : Ref → Order) {L : Ledger}
    (h : Run (stepOf Ledger.step) Ledger.Admits { gateway := PaperGateway.init config router heap } L) :
    L.gateway.Accounted L.reports := by
  have hinv : LedgerInv L.submitted L.reports L.gateway := by
    refine Run.invariant (I := fun L => LedgerInv L.submitted L.reports L.gateway) ?_ h (LedgerInv.init hslip router heap)
    rintro L op _ hL hop rfl
    exact hL.step hop
  exact hinv.accounted

/-- A limit order to buy ten shares at a hundred. -/
def tenAtHundred (id : String) (h : id ≠ "") : Order where
  clOrdId := id
  symbol := "AAPL"
  side := .buy
  orderType := .limit
  quantity := 10
  price := some 100
  clOrdId_ne := h
  symbol_ne := Literal.aapl_ne
  quantity_pos := by norm_num
  price_pos := Literal.some_hundred_pos
  stopPrice_pos := Literal.none_pos
  filledQuantity_nonneg := Literal.zero_nonneg
  filledQuoteAmount_nonneg := Literal.zero_nonneg
  averagePrice_nonneg := Literal.zero_nonneg
  feesPaid_nonneg := Literal.zero_nonneg

/-- Two of them, as two objects. -/
def twoOrders : Ref → Order := fun r => if r = 0 then tenAtHundred "a" (by decide) else tenAtHundred "b" (by decide)

/-- A thousand in cash, no fee and no slippage. -/
def thousand : PaperConfig where
  initialBalance := 1000
  feeBps := 0
  slippageBps := 0
  initialBalance_nonneg := Literal.thousand_nonneg
  feeBps_nonneg := Literal.zero_nonneg
  slippageBps_nonneg := Literal.zero_nonneg
  latencyMs_nonneg := Literal.zero_nonneg

/-- A run that submits an order before it connects and again after, has it filled by a new market price, and has its last
submission refused. -/
theorem accounted_oneFill :
    ∃ L : Ledger, L.gateway.cash = 100 ∧ L.gateway.positions.getD "AAPL" 0 = 10 ∧ L.submitted = [0, 0, 0] ∧
      L.gateway.Accounted L.reports := by
  let L0 : Ledger := { gateway := PaperGateway.init thousand {} twoOrders }
  let t : Stamp := ⟨0, "0"⟩
  have hplain : PlainOrder (tenAtHundred "a" (by decide)) := ⟨by decide, by decide, ⟨10 * 10 ^ 8, by norm_num [tenAtHundred]⟩⟩
  have hfilled : PlainOrder ((((L0.step (.submit 0 t)).step .connect).step (.submit 0 t)).step (.setPrice "AAPL" 90 fun _ => t)
      |>.gateway.heap 0) := ⟨by decide +kernel, by decide +kernel, ⟨10 * 10 ^ 8, by decide +kernel⟩⟩
  have hrun : Run (stepOf Ledger.step) Ledger.Admits L0
      (((((L0.step (.submit 0 t)).step .connect).step (.submit 0 t)).step (.setPrice "AAPL" 90 fun _ => t)).step
        (.submit 0 t)) := by
    refine ((((Run.refl.tail (i := Op.submit 0 t) ⟨hplain, fun _ => rfl, by simp [L0]⟩ rfl).tail
      (i := Op.connect) trivial rfl).tail
      (i := Op.submit 0 t) ⟨hplain, fun _ => rfl, by simp [L0, Ledger.step]⟩ rfl).tail
      (i := Op.setPrice "AAPL" 90 fun _ => t) trivial rfl).tail (i := Op.submit 0 t) ⟨hfilled, ?_, by simp [L0, Ledger.step]⟩ rfl
    decide +kernel
  refine ⟨_, ?_, ?_, rfl, accounted_of_run (by decide) {} twoOrders hrun⟩
  · decide +kernel
  · decide +kernel

/-! ## Buying power

A purchase is checked against the cash when it is submitted, and one that trades at once costs what the check estimated. A limit
order that rests reserves nothing: when a later price fills several of them, the cash need not cover them together.
-/

/-- A fill of the book that raises after it was settled, and ends the loop. -/
def fillRefused (o : Order) : Prop := o.overfilled ∨ strip o.clOrdId = ""

instance (o : Order) : Decidable (fillRefused o) := inferInstanceAs (Decidable (_ ∨ _))

/-- The cash the orders of a list would bring if the book were matched at a price. -/
def restingFlow (w : PaperGateway) (symbol : String) (price : ℚ) : List Ref → ℚ
  | [] => 0
  | r :: rs =>
    if isMatch (w.heap r) symbol price then
      cashFlow (w.heap r).side (price * (w.heap r).quantity) (w.feeOf (price * (w.heap r).quantity)) +
        if fillRefused (w.heap r) then 0 else restingFlow w symbol price rs
    else restingFlow w symbol price rs

/-- The condition on a call: the cash covers all the resting orders a new market price fills, taken together. -/
def Covered (w : PaperGateway) : Op → Prop
  | .setPrice symbol price _ =>
    strip symbol ≠ "" → 0 < price → 0 ≤ w.cash + w.restingFlow (strip symbol) price w.orders.values
  | _ => True

theorem restingFlow_congr {w w' : PaperGateway} (hc : w'.config = w.config) (symbol : String) (price : ℚ) (rs : List Ref)
    (h : ∀ r ∈ rs, w'.heap r = w.heap r) : w'.restingFlow symbol price rs = w.restingFlow symbol price rs := by
  induction rs with
  | nil => rfl
  | cons r rs ih =>
    have ih' := ih fun r' hr' => h r' (List.mem_cons_of_mem r hr')
    have hf : ∀ n, w'.feeOf n = w.feeOf n := fun n => by rw [feeOf, feeOf, hc]
    simp only [restingFlow, h r List.mem_cons_self, ih', hf]

/-- The loop over the book brings what its orders bring. -/
theorem matchResting_cash {symbol : String} {price : ℚ} (hprice : 0 < price) (t : ℕ → Stamp) (rs : List Ref)
    (hn : rs.Nodup) (reports : List ExecutionReport) (w : PaperGateway) :
    (matchResting symbol price t rs reports w).2.cash = w.cash + w.restingFlow symbol price rs := by
  induction rs generalizing reports w with
  | nil => simp [matchResting, restingFlow]
  | cons r rs ih =>
    rw [List.nodup_cons] at hn
    rw [matchResting, restingFlow]
    by_cases hm : isMatch (w.heap r) symbol price = true
    · rw [if_pos hm, if_pos hm]
      have hex := PaperGateway.executed (isTerminal_of_isMatch hm) price (exchangeIdOr (w.heap r)) (t reports.length)
        "Resting limit order matched"
      rcases hres : w.execute r price (exchangeIdOr (w.heap r)) (t reports.length) "Resting limit order matched" with
        ⟨exc | rep, w'⟩
      · rw [hres] at hex
        have hr : fillRefused (w.heap r) := by
          cases hex with
          | refused _ h => exact Or.inl (h.resolve_left (not_lt.2 hprice.le))
          | blank _ _ _ _ _ _ hid => exact Or.inr hid
        simp only [if_pos hr, add_zero]
        exact hex.cash
      · rw [hres] at hex
        have hr : ¬ fillRefused (w.heap r) := by
          cases hex with
          | filled _ _ _ hover _ _ hid => exact fun h => h.elim hover hid
        have hcongr := restingFlow_congr hex.config symbol price rs fun r' hr' =>
          hex.heap_of_ne (by rintro rfl; exact hn.1 hr')
        simp only [if_neg hr]
        rw [ih hn.2, hcongr, hex.cash, add_assoc]
    · rw [if_neg hm, if_neg hm]
      exact ih hn.2 reports w

/-- From a gateway without debt a call leads to one without debt exactly when the call is covered. -/
theorem step_cash_nonneg_iff {w : PaperGateway} (hfee : w.config.feeBps ≤ 10000) (hslip : w.config.slippageBps ≤ 10000)
    (hk : w.BookKeyed) (hp : w.PricesPos) (hcash : 0 ≤ w.cash) (op : Op) : 0 ≤ (w.step op).cash ↔ w.Covered op := by
  cases op with
  | submit r t =>
    refine iff_of_true ?_ trivial
    obtain ⟨res, w', hw, hs⟩ := w.submitOrder_cases r t
    rw [PaperGateway.step, hw]
    cases hs with
    | refused => exact hcash
    | declined => simpa [released, enter] using hcash
    | unpriced => simpa [released] using hcash
    | rested => simpa using hcash
    | executed rt _ _ hpow cur hm hcur res w' hex =>
      have hterms := sameOrders_accepted w rt r t r
      have hfee' : ∀ n, (w.accepted rt r t).feeOf n = w.feeOf n := fun _ => rfl
      rw [hex.cash, hterms.side, hterms.quantity, accepted_cash, hfee']
      cases hside : (w.heap r).side with
      | buy =>
        have := cash_buy_nonneg hside hpow hm hcur
        rwa [hside] at this
      | sell =>
        have hprice := fillPrice_nonneg hslip (o := w.heap r) (hp _ _ hcur)
        exact add_nonneg hcash (cashFlow_sell_nonneg hfee (mul_nonneg hprice (w.heap r).quantity_pos.le))
  | cancel id t =>
    refine iff_of_true ?_ trivial
    obtain ⟨res, w', hw, hs⟩ := w.cancelOrder_cases id t
    rw [PaperGateway.step, hw]
    cases hs with
    | refused => exact hcash
    | unbooked => exact hcash
    | cancelled => simpa [dropped, setOrder] using hcash
  | setPrice symbol price t =>
    rw [PaperGateway.step]
    rcases w.setMarketPrice_cases symbol price t with ⟨hbad, exc, hw⟩ | ⟨hs, hprice, hw⟩
    · rw [hw]
      exact iff_of_true hcash fun hs hprice => (hbad.elim hs (not_le.2 hprice)).elim
    · have hflow := @restingFlow_congr w (w.priced symbol price) rfl (strip symbol) price w.orders.values
        fun _ _ => rfl
      rw [hw, matchResting_cash hprice t _ hk.values_nodup, hflow]
      exact ⟨fun h _ _ => h, fun h => h hs hprice⟩
  | connect => exact iff_of_true hcash trivial
  | disconnect => exact iff_of_true hcash trivial

/-- In every run in which each new market price leaves the resting orders it fills covered, the cash is never negative. -/
theorem cash_nonneg_of_run {config : PaperConfig} (hfee : config.feeBps ≤ 10000) (hslip : config.slippageBps ≤ 10000)
    (router : IdempotencyRouter) (heap : Ref → Order) {w : PaperGateway}
    (h : Run (stepOf PaperGateway.step) Covered (PaperGateway.init config router heap) w) : 0 ≤ w.cash := by
  have hinv : (w.config = config ∧ w.BookKeyed ∧ w.PricesPos) ∧ 0 ≤ w.cash := by
    refine Run.invariant (I := fun w => (w.config = config ∧ w.BookKeyed ∧ w.PricesPos) ∧ 0 ≤ w.cash) ?_ h ?_
    · rintro w op _ ⟨⟨hc, hk, hp⟩, hcash⟩ hop rfl
      refine ⟨⟨(config_step w op).trans hc, hk.step op, hp.step op⟩, ?_⟩
      rw [← hc] at hfee hslip
      exact (step_cash_nonneg_iff hfee hslip hk hp hcash op).2 hop
    · refine ⟨⟨rfl, fun id r hr => ?_, fun symbol p hp => ?_⟩, config.initialBalance_nonneg⟩
      · cases hr
      · cases hp
  exact hinv.2

/-! ### Reservations

Cash that covers all the open purchases of the book whenever an order is accepted covers whatever later prices fill.
-/

/-- What an open purchase costs at its limit, with the fee. -/
def reserved (w : PaperGateway) (r : Ref) : ℚ :=
  if (w.heap r).side = .buy ∧ (w.heap r).isTerminal = false then
    limitPrice (w.heap r) * (w.heap r).quantity + w.feeOf (limitPrice (w.heap r) * (w.heap r).quantity)
  else 0

/-- The reservations of the book. -/
def reservations (w : PaperGateway) : ℚ := w.orders.sum fun _ r => w.reserved r

/-- The condition on a call: a submission that is accepted leaves the open purchases covered. A pending order is one that can be
filled. -/
def Reserves (w : PaperGateway) : Op → Prop
  | .submit r t =>
    ((w.heap r).state = .pendingNew → ¬ fillRefused (w.heap r)) ∧
      ((w.submitOrder r t).1.isOk = true → (w.step (.submit r t)).reservations ≤ (w.step (.submit r t)).cash)
  | _ => True

/-- What such calls keep: open orders that can be filled, and cash for the purchases among them. -/
structure Solvent (w : PaperGateway) : Prop where
  keyed : w.BookKeyed
  prices : w.PricesPos
  fillable : ∀ id r, w.orders.get? id = some r → (w.heap r).isTerminal = false → ¬ fillRefused (w.heap r)
  covered : w.reservations ≤ w.cash

theorem reserved_nonneg (w : PaperGateway) (r : Ref) : 0 ≤ w.reserved r := by
  unfold reserved
  split
  · have hlimit : 0 ≤ limitPrice (w.heap r) := by
      unfold limitPrice
      cases hp : (w.heap r).price with
      | none => exact le_refl 0
      | some p => exact ((w.heap r).price_pos p hp).le
    have hn := mul_nonneg hlimit (w.heap r).quantity_pos.le
    exact add_nonneg hn (w.feeOf_nonneg hn)
  · exact le_refl 0

theorem reservations_nonneg (w : PaperGateway) : 0 ≤ w.reservations := by
  refine List.sum_nonneg fun x hx => ?_
  obtain ⟨p, -, rfl⟩ := List.mem_map.1 hx
  exact w.reserved_nonneg p.2

/-- What has ended reserves nothing. -/
theorem reserved_of_isTerminal {w : PaperGateway} {r : Ref} (h : (w.heap r).isTerminal = true) : w.reserved r = 0 := by
  simp [reserved, h]

theorem reserved_congr {w w' : PaperGateway} (hc : w'.config = w.config) {r : Ref} (h : w'.heap r = w.heap r) :
    w'.reserved r = w.reserved r := by
  simp only [reserved, feeOf, h, hc]

/-- An order that ends gives back what it reserved. -/
theorem reservations_ended {w w' : PaperGateway} (hc : w'.config = w.config) (ho : w'.orders = w.orders) {id : String}
    {r : Ref} (hr : w.orders.get? id = some r) (hended : (w'.heap r).isTerminal = true)
    (hheap : ∀ r', r' ≠ r → w'.heap r' = w.heap r') :
    w'.reservations + w.reserved r ≤ w.reservations := by
  have hagree := w.orders.sum_of_agree (f := fun _ x => w.reserved x)
    (g := fun k x => if k = id then 0 else w.reserved x) (k := id)
    fun k hne x => if_neg hne
  simp only [hr, Option.elim_some, if_true, add_zero] at hagree
  have hle : w'.reservations ≤ w.orders.sum fun k x => if k = id then 0 else w.reserved x := by
    rw [reservations, ho]
    refine Dict.sum_le_sum fun k x hx => ?_
    by_cases hxr : x = r
    · subst hxr
      rw [reserved_of_isTerminal hended]
      split
      · exact le_refl 0
      · exact w.reserved_nonneg x
    · have hkid : k ≠ id := by
        rintro rfl
        exact hxr (Option.some.inj (hx.symm.trans hr))
      rw [if_neg hkid, reserved_congr hc (hheap x hxr)]
  calc w'.reservations + w.reserved r ≤ _ + w.reserved r := by gcongr
    _ = w.reservations := hagree

/-- A fill at a price within the limit costs no more than what was reserved for it. -/
theorem neg_reserved_le_cashFlow {w : PaperGateway} (hfee : w.config.feeBps ≤ 10000) {r : Ref} {symbol : String} {price : ℚ}
    (hprice : 0 < price) (hm : isMatch (w.heap r) symbol price = true) :
    -w.reserved r ≤ cashFlow (w.heap r).side (price * (w.heap r).quantity) (w.feeOf (price * (w.heap r).quantity)) := by
  have hact := isTerminal_of_isMatch hm
  have hn : 0 ≤ price * (w.heap r).quantity := mul_nonneg hprice.le (w.heap r).quantity_pos.le
  cases hside : (w.heap r).side with
  | sell => exact (neg_nonpos.2 (w.reserved_nonneg r)).trans (cashFlow_sell_nonneg hfee hn)
  | buy =>
    have hlimit : price ≤ limitPrice (w.heap r) := by
      have hcross := (of_decide_eq_true hm).2.2.2
      simpa [crosses, hside] using hcross
    have hcost : price * (w.heap r).quantity ≤ limitPrice (w.heap r) * (w.heap r).quantity :=
      mul_le_mul_of_nonneg_right hlimit (w.heap r).quantity_pos.le
    have hrate : 0 ≤ w.config.feeBps * (1 / 10 ^ 4) := mul_nonneg w.config.feeBps_nonneg (by norm_num)
    have hfees : w.feeOf (price * (w.heap r).quantity) ≤ w.feeOf (limitPrice (w.heap r) * (w.heap r).quantity) :=
      mul_le_mul_of_nonneg_right hcost hrate
    rw [reserved, if_pos ⟨hside, hact⟩, cashFlow]
    linarith

/-- A change that moves no cash and opens no order keeps the cash over the reservations. -/
theorem Solvent.frame {w w' : PaperGateway} (h : w.Solvent) (hcash : w'.cash = w.cash) (hk : w'.BookKeyed) (hp : w'.PricesPos)
    (horders : w'.reservations ≤ w.reservations)
    (hopen : ∀ id r, w'.orders.get? id = some r → (w'.heap r).isTerminal = false → w.orders.get? id = some r ∧
      w'.heap r = w.heap r) :
    w'.Solvent := by
  refine ⟨hk, hp, fun id r hr hact => ?_, horders.trans (h.covered.trans_eq hcash.symm)⟩
  obtain ⟨hr', heq⟩ := hopen id r hr hact
  rw [heq] at hact ⊢
  exact h.fillable id r hr' hact

/-- Giving an order up that was entered leaves the reservations of the others. -/
theorem reservations_released_le {w w' : PaperGateway} (hk : w.BookKeyed) (hc : w'.config = w.config) {r : Ref}
    (ho : w'.orders = w.orders.set (w.heap r).clOrdId r) (hid : strip (w.heap r).clOrdId ≠ "")
    (hheap : ∀ r', r' ≠ r → w'.heap r' = w.heap r') : (w'.released (w.heap r).clOrdId).reservations ≤ w.reservations := by
  have horders : (w'.released (w.heap r).clOrdId).orders = w.orders.erase (w.heap r).clOrdId := by
    simp only [released, if_neg hid, ho, Dict.erase_set]
  refine le_trans ?_ (w.orders.sum_erase_le (w.heap r).clOrdId fun _ x => w.reserved_nonneg x)
  rw [reservations, horders]
  refine Dict.sum_le_sum fun k x hx => le_of_eq (reserved_congr hc (hheap x ?_))
  rintro rfl
  have hkey := hk k x (Dict.get?_of_get?_erase hx)
  rw [hkey, Dict.get?_erase_self] at hx
  cases hx

/-- The book after a submission is accepted can be filled. -/
theorem Solvent.fillable_accepted {w : PaperGateway} (h : w.Solvent) {r : Ref} (hr : ¬ fillRefused (w.heap r))
    (rt : IdempotencyRouter)
    (t : Stamp) {id : String} {r' : Ref} (hr' : (w.accepted rt r t).orders.get? id = some r')
    (hact : ((w.accepted rt r t).heap r').isTerminal = false) : ¬ fillRefused ((w.accepted rt r t).heap r') := by
  by_cases hrr : r' = r
  · subst hrr
    rwa [fillRefused, accepted_overfilled, (sameOrders_accepted w rt r' t r').clOrdId]
  · rw [accepted_heap, if_neg hrr] at hact ⊢
    rw [accepted_orders, Dict.get?_set_of_ne] at hr'
    · exact h.fillable id r' hr' hact
    · rintro rfl
      rw [Dict.get?_set_self] at hr'
      exact hrr (Option.some.inj hr').symm

/-- What is still open after an execution was open before it. -/
theorem fillable_executed {w w' : PaperGateway} {r : Ref} {price : ℚ} {rep : ExecutionReport}
    (hex : Executed w r price (.ok rep) w')
    (h : ∀ id r', w.orders.get? id = some r' → (w.heap r').isTerminal = false → ¬ fillRefused (w.heap r'))
    {id : String} {r' : Ref}
    (hr' : w'.orders.get? id = some r') (hact : (w'.heap r').isTerminal = false) : ¬ fillRefused (w'.heap r') := by
  have hne : r' ≠ r := by
    rintro rfl
    rw [Order.isTerminal, (executed_ok hex).2.2.2.2.2.1] at hact
    cases hact
  rw [hex.orders] at hr'
  rw [hex.heap_of_ne hne] at hact ⊢
  exact h id r' hr' hact

/-- An execution at a price that is not negative does not raise where the order can be filled. -/
theorem not_error_of_fillable {w w' : PaperGateway} {r : Ref} {price : ℚ} {exc : Exc} (hprice : 0 ≤ price)
    (h : ¬ fillRefused (w.heap r)) : ¬ Executed w r price (.error exc) w' := by
  intro hex
  cases hex with
  | refused _ hbad => exact hbad.elim (not_lt.2 hprice) fun hover => h (.inl hover)
  | blank _ _ _ _ _ _ hid => exact h (.inr hid)

theorem Solvent.submit {w : PaperGateway} (hslip : w.config.slippageBps ≤ 10000) (h : w.Solvent) {r : Ref} {t : Stamp}
    (hop : w.Reserves (.submit r t)) : (w.step (.submit r t)).Solvent := by
  have hk := h.keyed.step (.submit r t)
  have hp := h.prices.step (.submit r t)
  obtain ⟨hfillable, haccepted⟩ := hop
  obtain ⟨res, w', hw, hs⟩ := w.submitOrder_cases r t
  simp only [PaperGateway.step, hw] at hk hp haccepted ⊢
  cases hs with
  | refused => exact h
  | declined exc exc' rt hf =>
    have hfill := hfillable (submitFault_eq_none hf).2.1
    have hblank : strip (w.heap r).clOrdId ≠ "" := fun hid => hfill (.inr hid)
    have hle : ((w.enter rt (w.heap r).clOrdId r).released (w.heap r).clOrdId).reservations ≤ w.reservations :=
      reservations_released_le h.keyed (by rfl) (by rfl) hblank fun _ _ => by rfl
    refine h.frame rfl hk hp hle fun id r' hr' _ => ⟨?_, rfl⟩
    simp only [released, enter, if_neg hblank, Dict.erase_set] at hr'
    exact Dict.get?_of_get?_erase hr'
  | unpriced exc rt hf =>
    have hfill := hfillable (submitFault_eq_none hf).2.1
    have hblank : strip (w.heap r).clOrdId ≠ "" := fun hid => hfill (.inr hid)
    have hheap : ∀ r', r' ≠ r → (w.accepted rt r t).heap r' = w.heap r' := fun r' hne => by rw [accepted_heap, if_neg hne]
    have hle : ((w.accepted rt r t).released (w.heap r).clOrdId).reservations ≤ w.reservations :=
      reservations_released_le h.keyed (w.accepted_config rt r t) (w.accepted_orders rt r t) hblank hheap
    refine h.frame rfl hk hp hle fun id r' hr' _ => ?_
    simp only [released, accepted_orders, if_neg hblank, Dict.erase_set] at hr'
    have hget := Dict.get?_of_get?_erase hr'
    refine ⟨hget, hheap r' ?_⟩
    rintro rfl
    rw [h.keyed id r' hget, Dict.get?_erase_self] at hr'
    cases hr'
  | executed rt hf hr hpow cur hm hcur res w' hex =>
    have hfill := hfillable (submitFault_eq_none hf).2.1
    cases res with
    | error exc =>
      have hprice := fillPrice_nonneg hslip (o := w.heap r) (h.prices _ _ hcur)
      have hget : (w.accepted rt r t).orders.get? (w.heap r).clOrdId = some r := by rw [accepted_orders, Dict.get?_set_self]
      exact absurd hex (not_error_of_fillable hprice (h.fillable_accepted hfill rt t hget (w.accepted_isTerminal rt r t)))
    | ok rep =>
      exact ⟨hk, hp, fun id r' => fillable_executed hex fun id r' => h.fillable_accepted hfill rt t, haccepted rfl⟩
  | rested rep rt hf =>
    exact ⟨hk, hp, fun id r' => h.fillable_accepted (hfillable (submitFault_eq_none hf).2.1) rt t, haccepted rfl⟩

theorem Solvent.cancel {w : PaperGateway} (h : w.Solvent) (id : String) (t : Stamp) : (w.step (.cancel id t)).Solvent := by
  have hk := h.keyed.step (.cancel id t)
  have hp := h.prices.step (.cancel id t)
  obtain ⟨res, w', hw, hs⟩ := w.cancelOrder_cases id t
  simp only [PaperGateway.step, hw] at hk hp ⊢
  cases hs with
  | refused => exact h
  | unbooked => exact h.frame rfl hk hp (le_refl _) fun _ _ hr' _ => ⟨hr', rfl⟩
  | cancelled res r o hid hr hact hterms hstate hres =>
    have hended : (({ w with reportCounter := w.reportCounter + 1 }.setOrder r o).dropped
      (w.heap r).clOrdId |>.heap r).isTerminal = true := by
      simp [dropped, setOrder, Order.isTerminal, hstate]
    have hheap : ∀ r', r' ≠ r →
        (({ w with reportCounter := w.reportCounter + 1 }.setOrder r o).dropped (w.heap r).clOrdId).heap r' = w.heap r' :=
      fun r' hne => by simp [dropped, setOrder, hne]
    refine h.frame rfl hk hp ?_ fun id' r' hr' hopen => ⟨hr', hheap r' ?_⟩
    · exact (le_add_of_nonneg_right (w.reserved_nonneg r)).trans (reservations_ended (by rfl) (by rfl) hr hended hheap)
    · rintro rfl
      rw [hended] at hopen
      cases hopen

/-- A new market price fills purchases out of what is reserved for them. -/
theorem Solvent.setPrice {w : PaperGateway} (hfee : w.config.feeBps ≤ 10000) (h : w.Solvent) (symbol : String) (price : ℚ)
    (t : ℕ → Stamp) :
    (w.step (.setPrice symbol price t)).Solvent := by
  have hk := h.keyed.step (.setPrice symbol price t)
  have hp := h.prices.step (.setPrice symbol price t)
  simp only [PaperGateway.step] at hk hp ⊢
  rcases w.setMarketPrice_cases symbol price t with ⟨-, exc, hw⟩ | ⟨-, hprice, hw⟩
  · rw [hw]
    exact h
  rw [hw] at hk hp ⊢
  have hstart : (w.priced symbol price).orders = w.orders ∧ (w.priced symbol price).config = w.config ∧
      (∀ id r, w.orders.get? id = some r → ((w.priced symbol price).heap r).isTerminal = false →
        ¬ fillRefused ((w.priced symbol price).heap r)) ∧ (w.priced symbol price).reservations ≤ (w.priced symbol price).cash :=
    ⟨rfl, rfl, h.fillable, h.covered⟩
  have hloop := @matchResting_invariant (strip symbol) price t (fun w₁ => w₁.orders = w.orders ∧ w₁.config = w.config ∧
      (∀ id r, w.orders.get? id = some r → (w₁.heap r).isTerminal = false → ¬ fillRefused (w₁.heap r)) ∧
        w₁.reservations ≤ w₁.cash)
    w.orders.values ?_ [] _ hstart
  · obtain ⟨ho, -, hfillable, hcovered⟩ := hloop
    refine ⟨hk, hp, fun id r hr => hfillable id r ?_, hcovered⟩
    rwa [ho] at hr
  · rintro r hr w₁ res w₂ ⟨ho, hc, hfillable, hcovered⟩ hm hex
    obtain ⟨id, hid⟩ := (Dict.mem_values_iff _ r).1 hr
    cases res with
    | error exc => exact absurd hex (not_error_of_fillable hprice.le (hfillable id r hid (isTerminal_of_isMatch hm)))
    | ok rep =>
      have hended : (w₂.heap r).isTerminal = true := by
        rw [Order.isTerminal, (executed_ok hex).2.2.2.2.2.1]
        rfl
      have hgiven := reservations_ended hex.config hex.orders (ho ▸ hid) hended fun r' hne => hex.heap_of_ne hne
      have hcost := neg_reserved_le_cashFlow (hc ▸ hfee) hprice hm
      refine ⟨hex.orders.trans ho, hex.config.trans hc, fun id r' hr' => ?_, ?_⟩
      · exact fillable_executed hex (fun id r' hr' => hfillable id r' (ho ▸ hr')) ((hex.orders.trans ho).symm ▸ hr')
      · rw [hex.cash]
        linarith

/-- Where every accepted order leaves the open purchases covered, they stay covered, whatever the prices, and the cash is never
negative. -/
theorem reservations_le_cash_of_run {config : PaperConfig} (hfee : config.feeBps ≤ 10000) (hslip : config.slippageBps ≤ 10000)
    (router : IdempotencyRouter) (heap : Ref → Order) {w : PaperGateway}
    (h : Run (stepOf PaperGateway.step) Reserves (PaperGateway.init config router heap) w) :
    w.reservations ≤ w.cash ∧ 0 ≤ w.cash := by
  have hinv : w.config = config ∧ w.Solvent := by
    refine Run.invariant (I := fun w => w.config = config ∧ w.Solvent) ?_ h ?_
    · rintro w op _ ⟨hc, hsolvent⟩ hop rfl
      rw [← hc] at hfee hslip
      refine ⟨(config_step w op).trans hc, ?_⟩
      cases op with
      | submit r t => exact hsolvent.submit hslip hop
      | cancel id t => exact hsolvent.cancel id t
      | setPrice symbol price t => exact hsolvent.setPrice hfee symbol price t
      | connect => exact hsolvent.frame rfl hsolvent.keyed hsolvent.prices (le_refl _) fun _ _ hr _ => ⟨hr, rfl⟩
      | disconnect => exact hsolvent.frame rfl hsolvent.keyed hsolvent.prices (le_refl _) fun _ _ hr _ => ⟨hr, rfl⟩
    · exact ⟨rfl, nofun, nofun, nofun, config.initialBalance_nonneg⟩
  exact ⟨hinv.2.covered, w.reservations_nonneg.trans hinv.2.covered⟩

/-! ### Two orders and one -/

/-- Two limit orders, each affordable alone, are filled together and leave a debt. -/
theorem not_cash_nonneg :
    ¬ ∀ config : PaperConfig, config.feeBps ≤ 10000 → config.slippageBps ≤ 10000 → ∀ router heap w,
      Run (stepOf PaperGateway.step) (fun _ _ => True) (PaperGateway.init config router heap) w → 0 ≤ w.cash := by
  intro h
  let w0 := PaperGateway.init thousand {} twoOrders
  let t : Stamp := ⟨0, "0"⟩
  have hrun : Run (stepOf PaperGateway.step) (fun _ _ => True) w0
      ((((w0.step .connect).step (.submit 0 t)).step (.submit 1 t)).step (.setPrice "AAPL" 90 fun _ => t)) :=
    (((Run.refl.tail (i := Op.connect) trivial rfl).tail (i := Op.submit 0 t) trivial rfl).tail (i := Op.submit 1 t)
      trivial rfl).tail (i := Op.setPrice "AAPL" 90 fun _ => t) trivial rfl
  have := h thousand (by decide) (by decide) {} twoOrders _ hrun
  revert this
  decide +kernel

/-- One such order alone is covered. -/
theorem cash_nonneg_oneFill : ∃ w : PaperGateway, w.positions.getD "AAPL" 0 = 10 ∧ 0 ≤ w.cash := by
  let w0 := PaperGateway.init thousand {} twoOrders
  let t : Stamp := ⟨0, "0"⟩
  have hrun : Run (stepOf PaperGateway.step) Covered w0
      (((w0.step .connect).step (.submit 0 t)).step (.setPrice "AAPL" 90 fun _ => t)) := by
    refine ((Run.refl.tail (i := Op.connect) trivial rfl).tail (i := Op.submit 0 t) trivial rfl).tail
      (i := Op.setPrice "AAPL" 90 fun _ => t) (fun _ _ => ?_) rfl
    decide +kernel
  refine ⟨_, ?_, cash_nonneg_of_run (by decide) (by decide) {} twoOrders hrun⟩
  decide +kernel

end PaperGateway

end Quant
