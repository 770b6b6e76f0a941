import Mathlib.Tactic.NormNum
import Quant.Exceptions

/-!
# Orders and execution reports

The entities of `execution/models.py`. The constructors check every field and raise on the first one that is out of bounds; here
a structure holds the fields and its extension holds the proofs of those checks, so that an order or a report is one its own
constructor accepted. Quantities and prices are exact rationals, so the checks for non-finite numbers and for booleans have no
counterpart.
-/

namespace Quant

/-- Order lifecycle states. -/
inductive OrderState where
  | pendingNew
  | new
  | partiallyFilled
  | filled
  | pendingCancel
  | cancelled
  | rejected
  | expired
  deriving DecidableEq, Repr

/-- The text of a state, as messages show it. -/
def OrderState.value : OrderState → String
  | .pendingNew => "PENDING_NEW"
  | .new => "NEW"
  | .partiallyFilled => "PARTIALLY_FILLED"
  | .filled => "FILLED"
  | .pendingCancel => "PENDING_CANCEL"
  | .cancelled => "CANCELLED"
  | .rejected => "REJECTED"
  | .expired => "EXPIRED"

inductive OrderSide where
  | buy
  | sell
  deriving DecidableEq, Repr

def OrderSide.value : OrderSide → String
  | .buy => "BUY"
  | .sell => "SELL"

/-- A quantity with the sign of its side: `+` for a buy, `-` for a sell. -/
def OrderSide.signed : OrderSide → ℚ → ℚ
  | .buy, q => q
  | .sell, q => -q

inductive OrderType where
  | market
  | limit
  | stopLimit
  | pegged
  deriving DecidableEq, Repr

def OrderType.value : OrderType → String
  | .market => "MARKET"
  | .limit => "LIMIT"
  | .stopLimit => "STOP_LIMIT"
  | .pegged => "PEGGED"

inductive TimeInForce where
  | day
  | gtc
  | ioc
  | fok
  deriving DecidableEq, Repr

/-! ## Orders -/

/-- The fields of an order, with the defaults of its constructor. -/
structure OrderFields where
  clOrdId : String
  symbol : String
  side : OrderSide
  orderType : OrderType
  quantity : ℚ
  price : Option ℚ := none
  stopPrice : Option ℚ := none
  timeInForce : TimeInForce := .gtc
  state : OrderState := .pendingNew
  exchangeOrderId : Option String := none
  filledQuantity : ℚ := 0
  filledQuoteAmount : ℚ := 0
  averagePrice : ℚ := 0
  feesPaid : ℚ := 0
  createdAtNs : ℕ := 0
  updatedAtNs : ℕ := 0
  deriving DecidableEq

/-- An order its constructor accepted. -/
structure Order extends OrderFields where
  clOrdId_ne : clOrdId ≠ ""
  symbol_ne : symbol ≠ ""
  quantity_pos : 0 < quantity
  price_pos : ∀ p ∈ price, 0 < p
  stopPrice_pos : ∀ p ∈ stopPrice, 0 < p
  filledQuantity_nonneg : 0 ≤ filledQuantity
  filledQuoteAmount_nonneg : 0 ≤ filledQuoteAmount
  averagePrice_nonneg : 0 ≤ averagePrice
  feesPaid_nonneg : 0 ≤ feesPaid
  deriving DecidableEq

/-- The exception `Order` and `ExecutionReport` raise on a field out of bounds. -/
def fieldFault (text : String) (arg : ExcArg) : Exc := ⟨.invalidOrderInput, text, [arg]⟩

/-- `Order.__post_init__`: the checks on the fields, in the order the source makes them. -/
def OrderFields.create (f : OrderFields) : Except Exc Order :=
  if h1 : f.clOrdId = "" then .error (fieldFault "Order cl_ord_id must be a non-empty string, got %" (.str f.clOrdId))
  else if h2 : f.symbol = "" then .error (fieldFault "Order symbol must be a non-empty string, got %" (.str f.symbol))
  else if h3 : f.quantity ≤ 0 then
    .error (fieldFault "Order quantity must be finite scalar > 0.0, got %" (.num f.quantity))
  else if h4 : ∃ p ∈ f.price, p ≤ 0 then
    .error (fieldFault "Order price must be finite scalar > 0.0, got %" (.num (f.price.getD 0)))
  else if h5 : ∃ p ∈ f.stopPrice, p ≤ 0 then
    .error (fieldFault "Order stop_price must be finite scalar > 0.0, got %" (.num (f.stopPrice.getD 0)))
  else if h6 : f.filledQuantity < 0 then
    .error (fieldFault "Order filled_quantity must be finite scalar >= 0.0, got %" (.num f.filledQuantity))
  else if h7 : f.filledQuoteAmount < 0 then
    .error (fieldFault "Order filled_quote_amount must be finite scalar >= 0.0, got %" (.num f.filledQuoteAmount))
  else if h8 : f.averagePrice < 0 then
    .error (fieldFault "Order average_price must be finite scalar >= 0.0, got %" (.num f.averagePrice))
  else if h9 : f.feesPaid < 0 then
    .error (fieldFault "Order fees_paid must be finite scalar >= 0.0, got %" (.num f.feesPaid))
  else .ok
    { f with
      clOrdId_ne := h1
      symbol_ne := h2
      quantity_pos := not_le.1 h3
      price_pos := fun p hp => not_le.1 fun hle => h4 ⟨p, hp, hle⟩
      stopPrice_pos := fun p hp => not_le.1 fun hle => h5 ⟨p, hp, hle⟩
      filledQuantity_nonneg := not_lt.1 h6
      filledQuoteAmount_nonneg := not_lt.1 h7
      averagePrice_nonneg := not_lt.1 h8
      feesPaid_nonneg := not_lt.1 h9 }

/-- A created order has the fields it was created from. -/
theorem OrderFields.create_ok {f : OrderFields} {o : Order} (h : f.create = .ok o) : o.toOrderFields = f := by
  unfold OrderFields.create at h
  iterate 9 obtain ⟨_, h⟩ := of_check_ok h
  rw [← Except.ok.inj h]

/-- The constructor accepts a fresh order with its identifiers, a positive quantity and no price that is not positive. -/
theorem OrderFields.exists_create (f : OrderFields) (h1 : f.clOrdId ≠ "") (h2 : f.symbol ≠ "") (h3 : 0 < f.quantity)
    (h4 : ∀ p ∈ f.price, 0 < p) (h5 : f.stopPrice = none) (h6 : f.filledQuantity = 0) (h7 : f.filledQuoteAmount = 0)
    (h8 : f.averagePrice = 0) (h9 : f.feesPaid = 0) : ∃ o, f.create = .ok o := by
  have hp : ¬ ∃ p ∈ f.price, p ≤ 0 := fun ⟨p, hp, hle⟩ => absurd (h4 p hp) (not_lt.2 hle)
  unfold OrderFields.create
  rw [dif_neg h1, dif_neg h2, dif_neg (not_le.2 h3), dif_neg hp, dif_neg (by simp [h5]), dif_neg (by simp [h6]),
    dif_neg (by simp [h7]), dif_neg (by simp [h8]), dif_neg (by simp [h9])]
  exact ⟨_, rfl⟩

namespace Order

/-- Whether the order is in one of the four states no report changes any more. -/
def isTerminal (o : Order) : Bool :=
  o.state = .filled ∨ o.state = .cancelled ∨ o.state = .rejected ∨ o.state = .expired

/-- Whether the order is resting, pending or subject to matching. -/
def isActive (o : Order) : Bool :=
  o.state = .pendingNew ∨ o.state = .new ∨ o.state = .partiallyFilled ∨ o.state = .pendingCancel

theorem isActive_eq_not_isTerminal (o : Order) : o.isActive = !o.isTerminal := by
  unfold isActive isTerminal
  cases o.state <;> rfl

/-- The quantity with the sign of the order's side. -/
def signedQuantity (o : Order) : ℚ := o.side.signed o.quantity

end Order

/-! ## Execution reports -/

/-- The fields of an execution report. -/
structure ReportFields where
  reportId : String
  clOrdId : String
  exchangeOrderId : String
  symbol : String
  side : OrderSide
  execType : OrderState
  lastQuantity : ℚ
  lastPrice : ℚ
  cumQuantity : ℚ
  leavesQuantity : ℚ
  cumQuoteAmount : ℚ
  averagePrice : ℚ
  fee : ℚ
  timestampNs : ℕ
  text : String := ""
  deriving DecidableEq

/-- An execution report its constructor accepted. -/
structure ExecutionReport extends ReportFields where
  reportId_ne : reportId ≠ ""
  clOrdId_ne : clOrdId ≠ ""
  symbol_ne : symbol ≠ ""
  lastQuantity_nonneg : 0 ≤ lastQuantity
  lastPrice_nonneg : 0 ≤ lastPrice
  cumQuantity_nonneg : 0 ≤ cumQuantity
  leavesQuantity_nonneg : 0 ≤ leavesQuantity
  cumQuoteAmount_nonneg : 0 ≤ cumQuoteAmount
  averagePrice_nonneg : 0 ≤ averagePrice
  fee_nonneg : 0 ≤ fee
  deriving DecidableEq

/-- `ExecutionReport.__post_init__`: the checks on the fields, in the order the source makes them. -/
def ReportFields.create (f : ReportFields) : Except Exc ExecutionReport :=
  if h1 : f.reportId = "" then
    .error (fieldFault "ExecutionReport report_id must be a non-empty string, got %" (.str f.reportId))
  else if h2 : f.clOrdId = "" then
    .error (fieldFault "ExecutionReport cl_ord_id must be a non-empty string, got %" (.str f.clOrdId))
  else if h3 : f.symbol = "" then
    .error (fieldFault "ExecutionReport symbol must be a non-empty string, got %" (.str f.symbol))
  else if h4 : f.lastQuantity < 0 then
    .error (fieldFault "ExecutionReport last_quantity must be finite scalar >= 0.0, got %" (.num f.lastQuantity))
  else if h5 : f.lastPrice < 0 then
    .error (fieldFault "ExecutionReport last_price must be finite scalar >= 0.0, got %" (.num f.lastPrice))
  else if h6 : f.cumQuantity < 0 then
    .error (fieldFault "ExecutionReport cum_quantity must be finite scalar >= 0.0, got %" (.num f.cumQuantity))
  else if h7 : f.leavesQuantity < 0 then
    .error (fieldFault "ExecutionReport leaves_quantity must be finite scalar >= 0.0, got %" (.num f.leavesQuantity))
  else if h8 : f.cumQuoteAmount < 0 then
    .error (fieldFault "ExecutionReport cum_quote_amount must be finite scalar >= 0.0, got %" (.num f.cumQuoteAmount))
  else if h9 : f.averagePrice < 0 then
    .error (fieldFault "ExecutionReport average_price must be finite scalar >= 0.0, got %" (.num f.averagePrice))
  else if h10 : f.fee < 0 then
    .error (fieldFault "ExecutionReport fee must be finite scalar >= 0.0, got %" (.num f.fee))
  else .ok
    { f with
      reportId_ne := h1
      clOrdId_ne := h2
      symbol_ne := h3
      lastQuantity_nonneg := not_lt.1 h4
      lastPrice_nonneg := not_lt.1 h5
      cumQuantity_nonneg := not_lt.1 h6
      leavesQuantity_nonneg := not_lt.1 h7
      cumQuoteAmount_nonneg := not_lt.1 h8
      averagePrice_nonneg := not_lt.1 h9
      fee_nonneg := not_lt.1 h10 }

/-- A created report has the fields it was created from. -/
theorem ReportFields.create_ok {f : ReportFields} {rep : ExecutionReport} (h : f.create = .ok rep) :
    rep.toReportFields = f := by
  unfold ReportFields.create at h
  iterate 10 obtain ⟨_, h⟩ := of_check_ok h
  rw [← Except.ok.inj h]

/-- The constructor accepts a report whose identifiers are not empty and whose numbers are not negative. -/
theorem ReportFields.exists_create (f : ReportFields) (h1 : f.reportId ≠ "") (h2 : f.clOrdId ≠ "") (h3 : f.symbol ≠ "")
    (h4 : 0 ≤ f.lastQuantity) (h5 : 0 ≤ f.lastPrice) (h6 : 0 ≤ f.cumQuantity) (h7 : 0 ≤ f.leavesQuantity)
    (h8 : 0 ≤ f.cumQuoteAmount) (h9 : 0 ≤ f.averagePrice) (h10 : 0 ≤ f.fee) : ∃ rep, f.create = .ok rep := by
  unfold ReportFields.create
  rw [dif_neg h1, dif_neg h2, dif_neg h3, dif_neg (not_lt.2 h4), dif_neg (not_lt.2 h5), dif_neg (not_lt.2 h6),
    dif_neg (not_lt.2 h7), dif_neg (not_lt.2 h8), dif_neg (not_lt.2 h9), dif_neg (not_lt.2 h10)]
  exact ⟨_, rfl⟩

/-! ## Literals

What the orders, reports and limits of examples carry beside their literals. Each fact has a name, so that two values that carry
it carry the same proof. -/

namespace Literal

theorem order_ne : "order" ≠ "" := by decide

theorem report_ne : "report" ≠ "" := by decide

theorem aapl_ne : "AAPL" ≠ "" := by decide

theorem zero_nonneg : (0 : ℚ) ≤ 0 := le_rfl

theorem half_pos : (0 : ℚ) < 1 / 2 := by norm_num

theorem one_pos : (0 : ℚ) < 1 := by norm_num

theorem one_nonneg : (0 : ℚ) ≤ 1 := by norm_num

theorem twenty_pos : (0 : ℚ) < 20 := by norm_num

theorem fifty_pos : (0 : ℚ) < 50 := by norm_num

theorem sixty_nonneg : (0 : ℚ) ≤ 60 := by norm_num

theorem hundred_pos : (0 : ℚ) < 100 := by norm_num

theorem hundred_nonneg : (0 : ℚ) ≤ 100 := by norm_num

theorem two_nonneg : (0 : ℚ) ≤ 2 := by norm_num

theorem million_nonneg : (0 : ℚ) ≤ 1000000 := by norm_num

theorem thousand_pos : (0 : ℚ) < 1000 := by norm_num

theorem thousand_nonneg : (0 : ℚ) ≤ 1000 := by norm_num

theorem none_pos : ∀ p ∈ (none : Option ℚ), 0 < p := by simp

theorem some_hundred_pos : ∀ p ∈ some (100 : ℚ), 0 < p := by simp

/-- What a quantity that is not negative costs at one hundred. -/
theorem hundred_mul_nonneg {qty : ℚ} (h : 0 ≤ qty) : 0 ≤ 100 * qty := mul_nonneg hundred_nonneg h

end Literal

end Quant
