import Quant.Execution.Sor

/-!
# A slice at a venue that fills at any time

The system `route_slice` runs in: the coroutine at one of its awaits, and its child orders as the venue holds them. The venue
fills or closes an open order whenever it likes, before a call is answered, between two calls and after the slice has ended. The
coroutine sees a fill only in the report of a call.
-/

namespace Quant

open SmartOrderRouter

/-- The states in which an order stays at the venue. -/
def OrderState.isResting (s : OrderState) : Bool :=
  s = .pendingNew ∨ s = .new ∨ s = .partiallyFilled ∨ s = .pendingCancel

/-- A child order as the venue holds it, filled for no more than its quantity. -/
structure ChildOrder where
  clOrdId : String
  quantity : ℚ
  filled : ℚ
  isOpen : Bool
  filled_le : filled ≤ quantity
  deriving DecidableEq

namespace ChildOrder

/-- A further fill. An order that is filled in full is closed. -/
def fill (c : ChildOrder) (q : ℚ) (h : c.filled + q ≤ c.quantity) : ChildOrder :=
  { c with filled := c.filled + q, isOpen := decide (c.filled + q < c.quantity), filled_le := h }

/-- The order is closed with what it was filled. -/
def close (c : ChildOrder) : ChildOrder := { c with isOpen := false }

end ChildOrder

/-- What a venue may report on an order of a quantity: no more than the quantity, all of it when filled, less while it rests. -/
structure Honest (quantity : ℚ) (rep : ExecutionReport) : Prop where
  cum_le : rep.cumQuantity ≤ quantity
  filled : rep.execType = .filled → rep.cumQuantity = quantity
  resting : rep.execType.isResting = true → rep.cumQuantity < quantity

/-- The coroutine, the router and the child orders. -/
structure SliceWorld where
  router : SmartOrderRouter
  phase : SlicePhase
  children : List ChildOrder := []

namespace SliceWorld

/-- The world after the call the coroutine awaits was answered. -/
def resume (w : SliceWorld) (a : SliceCall) (answer : Except Exc ExecutionReport) (children : List ChildOrder) : SliceWorld :=
  { router := (w.router.resumeSlice a w.phase answer).2
    phase := (w.router.resumeSlice a w.phase answer).1
    children := children }

/-- The world in which a slice is at its first await. -/
def start (r : SmartOrderRouter) (a : SliceCall) (isConnected : Bool) : SliceWorld :=
  { router := (r.routeSlice a isConnected).2, phase := (r.routeSlice a isConnected).1 }

/-- The quantity filled at the venue. -/
def totalFilled (w : SliceWorld) : ℚ := (w.children.map (fun c => c.filled)).sum

end SliceWorld

/-- The child order a report leaves at the venue. -/
def reported (o : Order) (rep : ExecutionReport) (h : Honest o.quantity rep) : ChildOrder :=
  { clOrdId := o.clOrdId
    quantity := o.quantity
    filled := rep.cumQuantity
    isOpen := rep.execType.isResting
    filled_le := h.cum_le }

/-- The steps of the system. The answer to the dark submission is given; the venue chooses every other answer and every fill. -/
inductive SliceStep (a : SliceCall) (dark : Except Exc ExecutionReport) : SliceWorld → SliceWorld → Prop
  /-- An open order is filled further. -/
  | fill {w : SliceWorld} {before after : List ChildOrder} {c : ChildOrder} {q : ℚ}
      (hc : w.children = before ++ c :: after) (ho : c.isOpen = true) (hq : 0 ≤ q) (hle : c.filled + q ≤ c.quantity) :
      SliceStep a dark w { w with children := before ++ c.fill q hle :: after }
  /-- The venue closes an order. -/
  | expire {w : SliceWorld} {before after : List ChildOrder} {c : ChildOrder} (hc : w.children = before ++ c :: after) :
      SliceStep a dark w { w with children := before ++ c.close :: after }
  /-- A submission is answered with a report. -/
  | submitted {w : SliceWorld} {o : Order} {rep : ExecutionReport} (hcall : w.phase.call = some (.submit o))
      (hdark : ∀ vid o', w.phase = .darkSubmit vid o' → dark = .ok rep) (hrep : Honest o.quantity rep) :
      SliceStep a dark w (w.resume a (.ok rep) (w.children ++ [reported o rep hrep]))
  /-- A submission fails, and the order may have reached the venue all the same. -/
  | submitFailed {w : SliceWorld} {o : Order} {exc : Exc} {c : ChildOrder} (hcall : w.phase.call = some (.submit o))
      (hdark : ∀ vid o', w.phase = .darkSubmit vid o' → dark = .error exc) (hc : c.quantity = o.quantity) :
      SliceStep a dark w (w.resume a (.error exc) (w.children ++ [c]))
  /-- A cancellation is answered: the order is closed, and the report carries what it was filled. -/
  | cancelled {w : SliceWorld} {before after : List ChildOrder} {c : ChildOrder} {rep : ExecutionReport}
      (hcall : w.phase.call = some (.cancel c.clOrdId)) (hc : w.children = before ++ c :: after)
      (hcum : rep.cumQuantity = c.filled) :
      SliceStep a dark w (w.resume a (.ok rep) (before ++ c.close :: after))
  /-- A cancellation fails. -/
  | cancelFailed {w : SliceWorld} {id : String} {exc : Exc} (hcall : w.phase.call = some (.cancel id)) :
      SliceStep a dark w (w.resume a (.error exc) w.children)

end Quant
