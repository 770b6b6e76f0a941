import Quant.Execution.AlpacaGateway
import Quant.Execution.KillSwitch
import Quant.Lemmas.Raised
import Quant.Pylib.Steps

/-!
# Open orders at the broker

One item of the answer that is not an order empties the list, and the sweep of the kill switch takes an empty list for an answer
with nothing to cancel. So the orders that carry an identifier are listed exactly where every item is an order.
-/

namespace Quant

open Pylib AlpacaExecutionGateway

/-- The identifier an item carries. -/
def clientOrderId : Json → Option String
  | .dict item =>
    match item.lookup "client_order_id" with
    | some (.str id) => some id
    | _ => none
  | _ => none

/-- An item with the fields of an order: two identifiers that are not empty, a positive quantity, and a positive limit price where
there is one. -/
structure IsOrder (parse : FloatOfString) (item : Fields) : Prop where
  clientOrderId : ∃ id, item.lookup "client_order_id" = some (.str id) ∧ id ≠ ""
  symbol : ∃ symbol, item.lookup "symbol" = some (.str symbol) ∧ symbol ≠ ""
  qty : ∃ value q, item.lookup "qty" = some value ∧ value.toFloat parse = .ok (some q) ∧ 0 < q
  limitPrice : ∀ value ∈ item.lookup "limit_price", value.truthy = true → ∃ p, value.toFloat parse = .ok (some p) ∧ 0 < p

/-- The item is an object with the fields of an order. -/
def OrderItem (parse : FloatOfString) (item : Json) : Prop := ∃ fields, item = .dict fields ∧ IsOrder parse fields

/-! ## One item -/

theorem checkIdentifier_ok {text : String} {value : Json} {s : String} (h : checkIdentifier text value = .ok s) :
    value = .str s ∧ s ≠ "" := by
  cases value with
  | str t =>
    obtain ⟨hne, h⟩ := of_check_ok h
    obtain rfl := Except.ok.inj h
    exact ⟨rfl, hne⟩
  | _ => cases h

theorem checkPositive_ok {text : String} {value : Option ℚ} {x : ℚ} (h : checkPositive text value = .ok x) :
    value = some x ∧ 0 < x := by
  cases value with
  | none => cases h
  | some y =>
    obtain ⟨hpos, h⟩ := of_check_ok h
    obtain rfl := Except.ok.inj h
    exact ⟨rfl, not_le.1 hpos⟩

/-- A field with a text for its default that passed the check of an identifier is there. -/
theorem lookup_of_checkIdentifier {text key : String} {item : Fields} {s : String}
    (h : checkIdentifier text ((item.lookup key).getD (.str "")) = .ok s) : item.lookup key = some (.str s) ∧ s ≠ "" := by
  obtain ⟨hvalue, hne⟩ := checkIdentifier_ok h
  cases hkey : item.lookup key with
  | none =>
    rw [hkey] at hvalue
    cases hvalue
    exact absurd rfl hne
  | some value =>
    rw [hkey] at hvalue
    exact ⟨congrArg some hvalue, hne⟩

/-- The limit price of an item passes its checks exactly where it is absent, false or a positive number. -/
theorem limitPrice_ok_iff {parse : FloatOfString} {item : Fields} :
    (∃ price p, limitPrice parse item = .ok price ∧ checkPrice price = .ok p ∧ ∀ x ∈ p, 0 < x) ↔
      ∀ value ∈ item.lookup "limit_price", value.truthy = true → ∃ p, value.toFloat parse = .ok (some p) ∧ 0 < p := by
  unfold limitPrice
  cases hkey : item.lookup "limit_price" with
  | none => exact iff_of_true ⟨none, none, rfl, rfl, fun x hx => nomatch hx⟩ fun value hvalue => nomatch hvalue
  | some value =>
    dsimp only
    by_cases htruthy : value.truthy = true
    · rw [if_pos htruthy]
      constructor
      · rintro ⟨price, p, hprice, hp, -⟩ value' hvalue -
        obtain rfl := Option.some.inj hvalue
        cases hfloat : value.toFloat parse with
        | error exc =>
          rw [hfloat] at hprice
          cases hprice
        | ok x =>
          rw [hfloat] at hprice
          obtain rfl := Except.ok.inj hprice
          cases hx : checkPositive "Order price must be finite scalar > 0.0, got %" x with
          | error exc =>
            rw [checkPrice, hx] at hp
            cases hp
          | ok q =>
            obtain ⟨rfl, hq⟩ := checkPositive_ok hx
            exact ⟨q, rfl, hq⟩
      · intro h
        obtain ⟨p, hfloat, hp⟩ := h value rfl htruthy
        refine ⟨some (some p), some p, by rw [hfloat]; rfl, ?_, ?_⟩
        · rw [checkPrice, checkPositive, if_neg (not_le.2 hp)]
          rfl
        · intro x hx
          obtain rfl := Option.some.inj hx
          exact hp
    · rw [if_neg htruthy]
      refine iff_of_true ⟨none, none, rfl, rfl, fun x hx => nomatch hx⟩ fun value' hvalue h => ?_
      obtain rfl := Option.some.inj hvalue
      exact absurd h htruthy

/-- What an item that was converted looks like. -/
theorem orderOfItem_ok {parse : FloatOfString} {item : Json} {o : Order} (h : orderOfItem parse "" item = .ok o) :
    OrderItem parse item ∧ clientOrderId item = some o.clOrdId := by
  cases item with
  | dict fields =>
    obtain ⟨price, hprice, h⟩ := exists_of_bind_ok h
    obtain ⟨quantity, hqty, h⟩ := exists_of_bind_ok h
    obtain ⟨clOrdId, hid, h⟩ := exists_of_bind_ok h
    obtain ⟨symbol, hsymbol, h⟩ := exists_of_bind_ok h
    obtain ⟨q, hq, h⟩ := exists_of_bind_ok h
    obtain ⟨p, hp, h⟩ := exists_of_bind_ok h
    obtain ⟨hid, hid_ne⟩ := lookup_of_checkIdentifier hid
    have ho := OrderFields.create_ok h
    obtain ⟨rfl, hpos⟩ := checkPositive_ok hq
    refine ⟨⟨fields, rfl, ⟨clOrdId, hid, hid_ne⟩, ⟨symbol, lookup_of_checkIdentifier hsymbol⟩, ?_,
      limitPrice_ok_iff.1 ⟨price, p, hprice, hp, ?_⟩⟩, ?_⟩
    · cases hkey : fields.lookup "qty" with
      | none =>
        rw [hkey] at hqty
        obtain rfl := Option.some.inj (Except.ok.inj hqty)
        exact absurd hpos (lt_irrefl 0)
      | some value =>
        rw [hkey] at hqty
        exact ⟨value, q, rfl, hqty, hpos⟩
    · have hprices := o.price_pos
      rw [ho] at hprices
      exact hprices
    · rw [clientOrderId, hid, ho]
  | _ => cases h

/-- An item with the fields of an order is converted. -/
theorem exists_orderOfItem {parse : FloatOfString} {item : Json} (h : OrderItem parse item) :
    ∃ o, orderOfItem parse "" item = .ok o := by
  obtain ⟨fields, rfl, ⟨id, hid, hid_ne⟩, ⟨symbol, hsymbol, hsymbol_ne⟩, ⟨value, q, hqty, hfloat, hpos⟩, hlimit⟩ := h
  obtain ⟨price, p, hprice, hp, hprices⟩ := limitPrice_ok_iff.2 hlimit
  rw [orderOfItem, hprice, hid, hsymbol, hqty]
  dsimp only [Except.bind, Option.getD_some]
  rw [hfloat]
  dsimp only
  rw [checkIdentifier, if_neg hid_ne, checkIdentifier, if_neg hsymbol_ne, checkPositive, if_neg (not_le.2 hpos), hp]
  exact OrderFields.exists_create _ hid_ne hsymbol_ne hpos hprices rfl rfl rfl rfl rfl

/-! ## What a conversion raises -/

theorem toFloat_isException (parse : FloatOfString) (value : Json) :
    ∀ exc, value.toFloat parse = .error exc → exc.isException = true := by
  intro exc h
  cases value with
  | str s =>
    rw [Json.toFloat] at h
    split at h
    · cases h
    · obtain rfl := Except.error.inj h
      rfl
  | int n =>
    rcases of_check_error h with rfl | ⟨_, h⟩
    · rfl
    · cases h
  | float | bool => cases h
  | null | list | dict =>
    obtain rfl := Except.error.inj h
    rfl

theorem checkIdentifier_isException (text : String) (value : Json) :
    ∀ exc, checkIdentifier text value = .error exc → exc.isException = true := by
  intro exc h
  cases value with
  | str s =>
    rcases of_check_error h with rfl | ⟨_, h⟩
    · rfl
    · cases h
  | _ =>
    obtain rfl := Except.error.inj h
    rfl

theorem checkPositive_isException (text : String) (value : Option ℚ) :
    ∀ exc, checkPositive text value = .error exc → exc.isException = true := by
  intro exc h
  cases value with
  | some x =>
    rcases of_check_error h with rfl | ⟨_, h⟩
    · rfl
    · cases h
  | none =>
    obtain rfl := Except.error.inj h
    rfl

/-- Whatever a conversion raises is caught. -/
theorem orderOfItem_isException (parse : FloatOfString) (clOrdId : String) (item : Json) :
    ∀ exc, orderOfItem parse clOrdId item = .error exc → exc.isException = true := by
  cases item with
  | dict fields =>
    refine error_of_bind ?_ fun price => error_of_bind (toFloat_isException _ _) fun quantity =>
      error_of_bind (checkIdentifier_isException _ _) fun id => error_of_bind (checkIdentifier_isException _ _) fun symbol =>
      error_of_bind (checkPositive_isException _ _) fun q => error_of_bind ?_ fun p exc =>
        SmartOrderRouter.orderCreate_isException
    · intro exc h
      unfold limitPrice at h
      split at h
      · cases h
      · split at h
        · exact error_of_map (toFloat_isException _ _) exc h
        · cases h
    · cases price with
      | none => exact fun exc h => nomatch h
      | some x => exact error_of_map (checkPositive_isException _ _)
  | _ =>
    intro exc h
    obtain rfl := Except.error.inj h
    rfl

/-! ## The list -/

/-- Every item that carries an identifier is among the orders. -/
def Listed (items : List Json) (orders : List Order) : Prop :=
  ∀ item ∈ items, ∀ id ∈ clientOrderId item, ∃ o ∈ orders, o.clOrdId = id

/-- The tasks cancel every item that carries an identifier, at the gateway. -/
def Swept (items : List Json) (gateway : GatewayRef) (tasks : List CancelTask) : Prop :=
  ∀ item ∈ items, ∀ id ∈ clientOrderId item, ∃ t ∈ tasks, t.gateway = gateway ∧ t.clOrdId = id

/-- What the query returns: all orders where every item is one, else none. -/
theorem getOpenOrders_cases {self : AlpacaExecutionGateway} (hself : self.ensureConnected = .ok ()) (parse : FloatOfString)
    (items : List Json) :
    ∃ orders, self.getOpenOrders parse (.ok ⟨200, .ok (.list items)⟩) = .ok orders ∧
      ((∀ item ∈ items, OrderItem parse item) ∧ List.Forall₂ (fun item o => orderOfItem parse "" item = .ok o) items orders ∨
        (¬ ∀ item ∈ items, OrderItem parse item) ∧ orders = []) := by
  have hrun : self.getOpenOrders parse (.ok ⟨200, .ok (.list items)⟩) = tryOr [] (items.mapM (orderOfItem parse "")) := by
    rw [getOpenOrders, hself]
    rfl
  rw [hrun]
  cases hmap : items.mapM (orderOfItem parse "") with
  | ok orders =>
    have hall := forall₂_of_mapM_ok hmap
    refine ⟨orders, rfl, .inl ⟨fun item hitem => ?_, hall⟩⟩
    obtain ⟨o, -, ho⟩ := exists_of_forall₂_right hall.flip hitem
    exact (orderOfItem_ok ho).1
  | error exc =>
    refine ⟨[], ?_, .inr ⟨fun hall => ?_, rfl⟩⟩
    · obtain ⟨item, -, hitem⟩ := exists_of_mapM_error hmap
      rw [tryOr, if_pos (orderOfItem_isException parse "" item exc hitem)]
    · obtain ⟨orders, hok⟩ := mapM_ok_of_forall fun item hitem => exists_orderOfItem (hall item hitem)
      rw [hmap] at hok
      cases hok

/-- The sweep has a task for each order that was fetched. -/
theorem mem_cancelTasks {gateways : Dict String GatewayRef} {gatewayId : String} {gw : GatewayRef}
    (hgw : gateways.get? gatewayId = some gw)
    (ids : List String) (positions : Except Exc (Dict String ℚ)) (id : String) :
    (∃ t ∈ cancelTasks gateways [⟨gatewayId, gw, .done (.ok ids) positions⟩], t.gateway = gw ∧ t.clOrdId = id) ↔ id ∈ ids := by
  rw [cancelTasks, List.flatMap_cons, List.flatMap_nil, List.append_nil]
  dsimp only
  rw [hgw]
  dsimp only
  constructor
  · rintro ⟨t, ht, -, rfl⟩
    obtain ⟨id, hid, rfl⟩ := List.mem_map.1 ht
    exact hid
  · intro hid
    exact ⟨_, List.mem_map.2 ⟨id, hid, rfl⟩, rfl, rfl⟩

/-- The orders that carry an identifier are listed, and cancelled in the sweep, exactly where every item is an order or none
carries one. -/
theorem getOpenOrders_lists_iff (self : AlpacaExecutionGateway) (hself : self.ensureConnected = .ok ()) (parse : FloatOfString)
    (items : List Json) {gateways : Dict String GatewayRef} {gatewayId : String} {gw : GatewayRef}
    (hgw : gateways.get? gatewayId = some gw) (positions : Except Exc (Dict String ℚ)) :
    ∃ orders, self.getOpenOrders parse (.ok ⟨200, .ok (.list items)⟩) = .ok orders ∧
      (Listed items orders ↔ (∀ item ∈ items, OrderItem parse item) ∨ ∀ item ∈ items, clientOrderId item = none) ∧
      (Swept items gw (cancelTasks gateways [⟨gatewayId, gw, .done (.ok (orders.map (·.clOrdId))) positions⟩]) ↔
        (∀ item ∈ items, OrderItem parse item) ∨ ∀ item ∈ items, clientOrderId item = none) := by
  obtain ⟨orders, hrun, hcases⟩ := getOpenOrders_cases hself parse items
  have hlisted : Listed items orders ↔ (∀ item ∈ items, OrderItem parse item) ∨ ∀ item ∈ items, clientOrderId item = none := by
    rcases hcases with ⟨hall, horders⟩ | ⟨hnot, rfl⟩
    · refine iff_of_true (fun item hitem id hid => ?_) (.inl hall)
      obtain ⟨o, ho, hitem⟩ := exists_of_forall₂_right horders.flip hitem
      exact ⟨o, ho, Option.some.inj ((orderOfItem_ok hitem).2.symm.trans hid)⟩
    · rw [or_iff_right hnot]
      constructor
      · intro h item hitem
        refine Option.eq_none_iff_forall_not_mem.2 fun id hid => ?_
        obtain ⟨o, ho, -⟩ := h item hitem id hid
        cases ho
      · intro h item hitem id hid
        rw [h item hitem] at hid
        cases hid
  refine ⟨orders, hrun, hlisted, Iff.trans ?_ hlisted⟩
  refine forall₂_congr fun item _ => forall₂_congr fun id _ => ?_
  rw [mem_cancelTasks hgw, List.mem_map]

/-! ## An answer with a notional order -/

def session : AlpacaExecutionGateway := ⟨true, some true⟩

/-- `float` on the numbers of the answers below. -/
def floatOfDigits : FloatOfString := fun s => if s = "100" then some (some 100) else if s = "150" then some (some 150) else none

def limitItem : Json :=
  .dict [("client_order_id", .str "c-1"), ("symbol", .str "AAPL"), ("side", .str "buy"), ("type", .str "limit"),
    ("qty", .str "100"),
    ("limit_price", .str "150")]

/-- An order that was placed for an amount of money has no quantity. -/
def notionalItem : Json :=
  .dict [("client_order_id", .str "c-2"), ("symbol", .str "MSFT"), ("side", .str "sell"), ("type", .str "market"), ("qty", .null),
    ("notional", .str "500"), ("limit_price", .null)]

theorem limitItem_isOrder : OrderItem floatOfDigits limitItem := by
  refine ⟨_, rfl, ⟨"c-1", rfl, by decide⟩, ⟨"AAPL", rfl, by decide⟩, ⟨.str "100", 100, rfl, rfl, by decide⟩, ?_⟩
  intro value hvalue _
  obtain rfl := Option.some.inj hvalue
  exact ⟨150, rfl, by decide⟩

theorem getOpenOrders_lists_limitItem :
    ∃ orders, session.getOpenOrders floatOfDigits (.ok ⟨200, .ok (.list [limitItem])⟩) = .ok orders ∧ Listed [limitItem] orders ∧
      Swept [limitItem] 0 (cancelTasks ((∅ : Dict String GatewayRef).set "alpaca" 0)
        [⟨"alpaca", 0, .done (.ok (orders.map (·.clOrdId))) (.ok ∅)⟩]) := by
  have hall : ∀ item ∈ [limitItem], OrderItem floatOfDigits item := by
    intro item hitem
    rw [List.mem_singleton.1 hitem]
    exact limitItem_isOrder
  have hgw : ((∅ : Dict String GatewayRef).set "alpaca" 0).get? "alpaca" = some 0 := by decide
  obtain ⟨orders, hrun, hlisted, hcancelled⟩ := getOpenOrders_lists_iff session rfl floatOfDigits [limitItem] hgw (.ok ∅)
  exact ⟨orders, hrun, hlisted.2 (.inl hall), hcancelled.2 (.inl hall)⟩

/-- The order beside a notional one is not listed. -/
theorem getOpenOrders_drops_limitItem :
    session.getOpenOrders floatOfDigits (.ok ⟨200, .ok (.list [limitItem, notionalItem])⟩) = .ok [] ∧
      ¬ Listed [limitItem, notionalItem] [] := by
  refine ⟨by rfl, fun h => ?_⟩
  obtain ⟨o, ho, -⟩ := h limitItem List.mem_cons_self "c-1" rfl
  cases ho

end Quant
