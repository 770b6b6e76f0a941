import Quant.Execution.Models
import Quant.Json
import Quant.Pylib.PyFloat

/-!
# The Alpaca gateway

The queries for orders of `execution/alpaca_gateway.py`. What the broker answers, and what `float` makes of a string, are
parameters.
-/

namespace Quant

/-- `float` on strings: nothing where it raises, and no number where the result is not finite. -/
abbrev FloatOfString := String → Option (Option ℚ)

/-- `float(value)`. -/
def Json.toFloat (parse : FloatOfString) : Json → Except Exc (Option ℚ)
  | .int n =>
    if Pylib.PyFloat.limit ≤ |(n : ℚ)| then .error ⟨.overflowError, "int too large to convert to float", []⟩ else .ok (some n)
  | .float x => .ok (some x)
  | .bool b => .ok (some (if b then 1 else 0))
  | .str s =>
    match parse s with
    | some x => .ok x
    | none => .error ⟨.valueError, "could not convert string to float: %", [.str s]⟩
  | value => .error ⟨.typeError, "float() argument must be a string or a real number, not '%'", [.str value.typeName]⟩

/-- `iter(value)`: the items of a list, the keys of an object, the characters of a string. -/
def Json.iterate : Json → Except Exc (List Json)
  | .list items => .ok items
  | .dict fields => .ok (fields.map fun field => .str field.1)
  | .str s => .ok (s.toList.map fun c => .str (String.singleton c))
  | value => .error ⟨.typeError, "'%' object is not iterable", [.str value.typeName]⟩

/-- The check of `Order` on an identifier. -/
def checkIdentifier (text : String) : Json → Except Exc String
  | .str s => if s = "" then .error (fieldFault text (.str s)) else .ok s
  | value => .error (fieldFault text (.str value.typeName))

/-- The check of `Order` on a positive number. -/
def checkPositive (text : String) : Option ℚ → Except Exc ℚ
  | some x => if x ≤ 0 then .error (fieldFault text (.num x)) else .ok x
  | none => .error (fieldFault text (.str "nan"))

/-- `float(item["limit_price"]) if item.get("limit_price") else None`. -/
def limitPrice (parse : FloatOfString) (item : Fields) : Except Exc (Option (Option ℚ)) :=
  match item.lookup "limit_price" with
  | none => .ok none
  | some value => if value.truthy then (value.toFloat parse).map some else .ok none

/-- The check of `Order` on the limit price. -/
def checkPrice : Option (Option ℚ) → Except Exc (Option ℚ)
  | none => .ok none
  | some price => (checkPositive "Order price must be finite scalar > 0.0, got %" price).map some

/-- The order that an item of an answer stands for; `clOrdId` is the identifier where it has none. -/
def orderOfItem (parse : FloatOfString) (clOrdId : String) : Json → Except Exc Order
  | .dict item =>
    (limitPrice parse item).bind fun price =>
    (((item.lookup "qty").getD (.float 0)).toFloat parse).bind fun quantity =>
    (checkIdentifier "Order cl_ord_id must be a non-empty string, got %"
      ((item.lookup "client_order_id").getD (.str clOrdId))).bind fun clOrdId =>
    (checkIdentifier "Order symbol must be a non-empty string, got %" ((item.lookup "symbol").getD (.str ""))).bind fun symbol =>
    (checkPositive "Order quantity must be finite scalar > 0.0, got %" quantity).bind fun quantity =>
    (checkPrice price).bind fun price =>
    OrderFields.create
      { clOrdId := clOrdId
        symbol := symbol
        side := if (item.lookup "side").any (·.isText "buy") then .buy else .sell
        orderType := if (item.lookup "type").any (·.isText "market") then .market else .limit
        quantity := quantity
        price := price }
  | value => .error ⟨.attributeError, "'%' object has no attribute 'get'", [.str value.typeName]⟩

/-- An answer of the broker: its status, and what its body decodes to. -/
structure HttpResponse where
  statusCode : ℕ
  body : Except Exc Json

/-- An `AlpacaExecutionGateway`: its session flag and its client, which is open or closed. -/
structure AlpacaExecutionGateway where
  isConnected : Bool
  clientOpen : Option Bool

namespace AlpacaExecutionGateway

/-- `_ensure_connected`. -/
def ensureConnected (self : AlpacaExecutionGateway) : Except Exc Unit :=
  if self.isConnected ∧ self.clientOpen = some true then .ok ()
  else .error ⟨.gatewayDisconnected, "Cannot perform broker action while gateway is disconnected.", []⟩

/-- The body of a `try` whose `except Exception` returns `fallback`. -/
def tryOr {α : Type} (fallback : α) : Except Exc α → Except Exc α
  | .ok x => .ok x
  | .error exc => if exc.isException then .ok fallback else .error exc

/-- `get_order`, with what the query comes to. -/
def getOrder (self : AlpacaExecutionGateway) (parse : FloatOfString) (clOrdId : String) (reply : Except Exc HttpResponse) :
    Except Exc (Option Order) :=
  self.ensureConnected.bind fun () =>
  tryOr none (reply.bind fun response =>
    if response.statusCode ≠ 200 then .ok none
    else response.body.bind fun data => (orderOfItem parse clOrdId data).map some)

/-- `get_open_orders`, with what the query comes to. -/
def getOpenOrders (self : AlpacaExecutionGateway) (parse : FloatOfString) (reply : Except Exc HttpResponse) :
    Except Exc (List Order) :=
  self.ensureConnected.bind fun () =>
  tryOr [] (reply.bind fun response =>
    if response.statusCode ≠ 200 then .ok []
    else response.body.bind fun data => data.iterate.bind fun items => items.mapM (orderOfItem parse ""))

end AlpacaExecutionGateway
end Quant
