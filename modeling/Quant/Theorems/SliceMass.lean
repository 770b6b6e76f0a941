import Mathlib.Logic.Relation
import Quant.Execution.SliceVenue
import Quant.Lemmas.Sor

/-!
# The mass of a slice

`route_slice` sends to the lit venues what the report of the dark order leaves, and fills of the dark order after that report are
not in it. What the venue may still fill is kept as a budget of every state; the budget is overdrawn only from one branch, which
is the condition of the main theorem.
-/

namespace Quant

open Pylib SmartOrderRouter

/-! ## The branch that overcommits -/

/-- What the dark report leaves for the lit venues. -/
def residual (a : Slice) (rep : ExecutionReport) : ℚ :=
  if routingEpsilon < rep.cumQuantity then a.quantity - rep.cumQuantity else a.quantity

/-- The dark order is left at the venue, and the lit venues take the residual. -/
def Overcommits (r : SmartOrderRouter) (a : SliceCall) (isConnected : Bool) (dark : Except Exc ExecutionReport) : Prop :=
  isConnected = true ∧ a.enableDark = true ∧ ∃ p ∈ darkChoice r a.toSlice, ∃ rep ∈ dark.toOption,
    rep.execType.isResting = true ∧ routingEpsilon < residual a.toSlice rep ∧ LitCovers p.2 a.toSlice (residual a.toSlice rep)

/-- The reports a slice keeps from the dark phase. -/
def kept (rep : ExecutionReport) : List ExecutionReport := if routingEpsilon < rep.cumQuantity then [rep] else []

/-- The dark order is cancelled after its report. -/
def cancels (rep : ExecutionReport) : Prop :=
  if routingEpsilon < rep.cumQuantity then rep.execType = .new ∨ rep.execType = .partiallyFilled
  else rep.execType = .new ∨ rep.execType = .pendingNew

theorem isResting_of_cancels {rep : ExecutionReport} (h : cancels rep) : rep.execType.isResting = true := by
  unfold cancels at h
  split at h
  all_goals rcases h with h | h <;> simp [h, OrderState.isResting]

open Classical in
/-- A dark report that neither rejects nor fills the order. -/
theorem afterDark_eq {r : SmartOrderRouter} {a : SliceCall} {vid : String} {o : Order} {rep : ExecutionReport}
    (h1 : rep.execType ≠ .rejected) (h2 : rep.execType ≠ .filled) :
    r.afterDark a vid o rep =
      if cancels rep then (.darkCancel o.clOrdId (kept rep) (residual a.toSlice rep), r)
      else r.litPhase a (residual a.toSlice rep) (kept rep) := by
  unfold afterDark cancels kept residual
  rw [if_neg h1, if_neg h2]
  split <;> rfl

/-! ## The budget -/

namespace ChildOrder

/-- What the venue may fill of an order in the end. -/
def committed (c : ChildOrder) : ℚ := if c.isOpen then c.quantity else c.filled

theorem filled_le_committed (c : ChildOrder) : c.filled ≤ c.committed := by
  unfold committed
  split
  · exact c.filled_le
  · exact le_rfl

theorem committed_le_quantity (c : ChildOrder) : c.committed ≤ c.quantity := by
  unfold committed
  split
  · exact le_rfl
  · exact c.filled_le

theorem committed_fill_le {c : ChildOrder} {q : ℚ} (ho : c.isOpen = true) (h : c.filled + q ≤ c.quantity) :
    (c.fill q h).committed ≤ c.committed :=
  (committed_le_quantity (c.fill q h)).trans_eq (by simp [committed, fill, ho])

theorem committed_close_le (c : ChildOrder) : c.close.committed ≤ c.committed := c.filled_le_committed

end ChildOrder

/-- What the venue may fill of its orders in the end. -/
def totalCommitted (cs : List ChildOrder) : ℚ := (cs.map ChildOrder.committed).sum

@[simp]
theorem totalCommitted_nil : totalCommitted [] = 0 := rfl

@[simp]
theorem totalCommitted_cons (c : ChildOrder) (cs : List ChildOrder) :
    totalCommitted (c :: cs) = c.committed + totalCommitted cs := by
  simp [totalCommitted]

@[simp]
theorem totalCommitted_append (cs ds : List ChildOrder) : totalCommitted (cs ++ ds) = totalCommitted cs + totalCommitted ds := by
  simp [totalCommitted]

theorem totalFilled_le_totalCommitted (cs : List ChildOrder) : (cs.map (fun c => c.filled)).sum ≤ totalCommitted cs := by
  induction cs with
  | nil => exact le_rfl
  | cons c cs ih =>
    have hc := c.filled_le_committed
    simp only [List.map_cons, List.sum_cons, totalCommitted_cons]
    linarith

/-- Replacing an order by one that commits no more. -/
theorem totalCommitted_replace {before after : List ChildOrder} {c c' : ChildOrder} (h : c'.committed ≤ c.committed) :
    totalCommitted (before ++ c' :: after) ≤ totalCommitted (before ++ c :: after) := by
  simp only [totalCommitted_append, totalCommitted_cons]
  linarith

section Budget

variable (r : SmartOrderRouter) (a : SliceCall) (isConnected : Bool)

/-- The budget of a state. At the cancellation of the dark order the slice is about to end: otherwise it would be on the branch
that overcommits. -/
def Budget (router : SmartOrderRouter) (cs : List ChildOrder) : SlicePhase → Prop
  | .darkSubmit _ o => cs = [] ∧ o.quantity = a.quantity ∧ isConnected = true ∧ a.enableDark = true ∧
      ∃ v, darkChoice r a.toSlice = some (v, router)
  | .darkCancel _ reports unfilled =>
      totalCommitted cs ≤ a.quantity ∧ ∃ result r', router.litPhase a unfilled reports = (.done result, r')
  | .litSubmit _ o rest _ _ => totalCommitted cs + (o.quantity + legTotal rest) ≤ a.quantity + routingEpsilon
  | .done _ => totalCommitted cs ≤ a.quantity + routingEpsilon

variable {r a isConnected}

theorem epsilon_pos : 0 < routingEpsilon := by norm_num [routingEpsilon]

/-- Whatever the phase is, the venue cannot fill more than the budget. -/
theorem Budget.total_le {router : SmartOrderRouter} {cs : List ChildOrder} {phase : SlicePhase}
    (h : Budget r a isConnected router cs phase) (hq : 0 ≤ a.quantity) : totalCommitted cs ≤ a.quantity + routingEpsilon := by
  have heps := epsilon_pos
  cases phase with
  | darkSubmit vid o =>
    rw [h.1, totalCommitted_nil]
    linarith
  | darkCancel id reports unfilled => exact h.1.trans (by linarith)
  | litSubmit vid o rest sent reports =>
    have h1 := o.quantity_pos
    have h2 := legTotal_nonneg rest
    have h3 : totalCommitted cs + (o.quantity + legTotal rest) ≤ a.quantity + routingEpsilon := h
    linarith
  | done result => exact h

/-- Orders that commit no more keep the budget, once there are orders. -/
theorem Budget.mono {router : SmartOrderRouter} {cs cs' : List ChildOrder} {phase : SlicePhase}
    (h : Budget r a isConnected router cs phase) (hne : cs ≠ []) (hle : totalCommitted cs' ≤ totalCommitted cs) :
    Budget r a isConnected router cs' phase := by
  cases phase with
  | darkSubmit vid o => exact absurd h.1 hne
  | darkCancel id reports unfilled => exact ⟨hle.trans h.1, h.2⟩
  | litSubmit vid o rest sent reports => exact (add_le_add_left hle _).trans h
  | done result => exact hle.trans h

theorem budget_nextLeg {router : SmartOrderRouter} {cs : List ChildOrder} {rest : List RoutedVenueOrder}
    (h : totalCommitted cs + legTotal rest ≤ a.quantity + routingEpsilon) (reports : List ExecutionReport) (sent : ℕ) :
    Budget r a isConnected router cs (nextLeg a reports sent rest) := by
  cases rest with
  | nil => simpa [nextLeg, Budget] using h
  | cons o rest =>
    rw [legTotal_cons] at h
    simp only [nextLeg]
    cases hchild : (childOrder a "lit" (sent + 1) o).create with
    | error exc =>
      have h1 := o.quantity_pos
      have h2 := legTotal_nonneg rest
      simp only [Budget]
      linarith
    | ok child =>
      have hq : child.quantity = o.quantity := congrArg OrderFields.quantity (OrderFields.create_ok hchild)
      simpa [Budget, hq] using h

theorem budget_litPhase {router : SmartOrderRouter} {cs : List ChildOrder} {unfilled : ℚ}
    (h : totalCommitted cs ≤ a.quantity + routingEpsilon)
    (hu : totalCommitted cs + unfilled ≤ a.quantity + routingEpsilon) (reports : List ExecutionReport) :
    Budget r a isConnected (router.litPhase a unfilled reports).2 cs (router.litPhase a unfilled reports).1 := by
  by_cases hlit : routingEpsilon < unfilled ∧ LitCovers router a.toSlice unfilled
  · obtain ⟨o, rest, child, r', heq, hchild, htot, -⟩ := litPhase_of_covers hlit.1 hlit.2 reports
    have hq : child.quantity = o.quantity := congrArg OrderFields.quantity hchild
    rw [heq]
    simp only [Budget, hq]
    linarith
  · obtain ⟨result, r', heq⟩ := litPhase_done hlit reports
    rw [heq]
    exact h

/-- The dark report keeps the budget, except on the branch that overcommits. -/
theorem budget_afterDark {router : SmartOrderRouter} {vid : String} {o : Order} {rep : ExecutionReport}
    (h : Budget r a isConnected router [] (.darkSubmit vid o)) (hrep : Honest o.quantity rep)
    (hno : ¬ Overcommits r a isConnected (.ok rep)) :
    Budget r a isConnected (router.afterDark a vid o rep).2 [reported o rep hrep] (router.afterDark a vid o rep).1 := by
  obtain ⟨-, hq, hcon, hdark, v, hv⟩ := h
  have heps := epsilon_pos
  have hcom := ChildOrder.committed_le_quantity (reported o rep hrep)
  have hone : totalCommitted [reported o rep hrep] = (reported o rep hrep).committed := by simp
  have hqty : (reported o rep hrep).quantity = a.quantity := hq
  have hdone : totalCommitted [reported o rep hrep] ≤ a.quantity + routingEpsilon := by linarith
  by_cases h1 : rep.execType = .rejected
  · simp only [afterDark, if_pos h1]
    exact hdone
  by_cases h2 : rep.execType = .filled
  · simp only [afterDark, if_neg h1, if_pos h2]
    exact hdone
  rw [afterDark_eq h1 h2]
  by_cases hrest : rep.execType.isResting = true
  · -- the order is left open, so the lit phase cannot go on
    have hlit : ¬ (routingEpsilon < residual a.toSlice rep ∧ LitCovers router a.toSlice (residual a.toSlice rep)) :=
      fun hl => hno ⟨hcon, hdark, (v, router), hv, rep, rfl, hrest, hl⟩
    obtain ⟨result, r', heq⟩ := litPhase_done hlit (kept rep)
    split
    · exact ⟨by linarith, result, r', heq⟩
    · rw [heq]
      exact hdone
  · -- the order is closed: what it was filled and the residual make up the quantity, up to the tolerance
    rw [if_neg (fun hc => hrest (isResting_of_cancels hc))]
    refine budget_litPhase hdone ?_ _
    have hclosed : totalCommitted [reported o rep hrep] = rep.cumQuantity := by
      simp [ChildOrder.committed, reported, hrest]
    rw [hclosed]
    unfold residual
    split
    · linarith
    · rename_i hsmall
      have := not_lt.1 hsmall
      linarith

/-- A step keeps the budget. -/
theorem Budget.step {dark : Except Exc ExecutionReport} {w w' : SliceWorld} (hno : ¬ Overcommits r a isConnected dark)
    (h : Budget r a isConnected w.router w.children w.phase) (hs : SliceStep a dark w w') :
    Budget r a isConnected w'.router w'.children w'.phase := by
  have heps := epsilon_pos
  obtain ⟨router, phase, cs⟩ := w
  cases hs with
  | fill hc ho hq' hle =>
    subst hc
    exact h.mono (by simp) (totalCommitted_replace (ChildOrder.committed_fill_le ho hle))
  | expire hc =>
    subst hc
    exact h.mono (by simp) (totalCommitted_replace (ChildOrder.committed_close_le _))
  | @submitted o rep hcall hdark hrep =>
    cases phase with
    | darkSubmit vid o' =>
      cases hcall
      obtain rfl : cs = [] := h.1
      rw [hdark vid o rfl] at hno
      exact budget_afterDark h hrep hno
    | darkCancel => cases hcall
    | litSubmit vid o' rest sent reports =>
      cases hcall
      have hcom := ChildOrder.committed_le_quantity (reported o rep hrep)
      have hqty : (reported o rep hrep).quantity = o.quantity := rfl
      have hb : totalCommitted cs + (o.quantity + legTotal rest) ≤ a.quantity + routingEpsilon := h
      have hrest := legTotal_nonneg rest
      simp only [SliceWorld.resume, resumeSlice]
      split
      · simp only [Budget, totalCommitted_append, totalCommitted_cons, totalCommitted_nil]
        linarith
      · refine budget_nextLeg ?_ _ _
        simp only [totalCommitted_append, totalCommitted_cons, totalCommitted_nil]
        linarith
    | done => cases hcall
  | @submitFailed o exc c hcall hdark hc =>
    have hcom := c.committed_le_quantity
    cases phase with
    | darkSubmit vid o' =>
      cases hcall
      obtain ⟨rfl, hqty, -⟩ := h
      simp only [SliceWorld.resume, resumeSlice, Budget, List.nil_append, totalCommitted_cons, totalCommitted_nil]
      linarith
    | darkCancel => cases hcall
    | litSubmit vid o' rest sent reports =>
      cases hcall
      have hb : totalCommitted cs + (o.quantity + legTotal rest) ≤ a.quantity + routingEpsilon := h
      have hrest := legTotal_nonneg rest
      simp only [SliceWorld.resume, resumeSlice, Budget, totalCommitted_append, totalCommitted_cons, totalCommitted_nil]
      linarith
    | done => cases hcall
  | @cancelled before after c rep hcall hc hcum =>
    subst hc
    cases phase with
    | darkSubmit => cases hcall
    | darkCancel id reports unfilled =>
      obtain ⟨hle, result, r', heq⟩ := h
      have hclose := @totalCommitted_replace before after _ _ (ChildOrder.committed_close_le c)
      simp only [SliceWorld.resume, resumeSlice, heq, Budget]
      linarith
    | litSubmit => cases hcall
    | done => cases hcall
  | cancelFailed hcall =>
    cases phase with
    | darkSubmit => cases hcall
    | darkCancel id reports unfilled =>
      have hle := h.1
      simp only [SliceWorld.resume, resumeSlice, Budget]
      linarith
    | litSubmit => cases hcall
    | done => cases hcall

/-- A slice starts within its budget. -/
theorem budget_start (hq : 0 ≤ a.quantity) :
    Budget r a isConnected (SliceWorld.start r a isConnected).router [] (SliceWorld.start r a isConnected).phase := by
  have heps := epsilon_pos
  by_cases hd : isConnected = true ∧ a.enableDark = true ∧ (darkChoice r a.toSlice).isSome = true
  · obtain ⟨hcon, hdark, hsome⟩ := hd
    obtain ⟨⟨v, r'⟩, hv⟩ := Option.isSome_iff_exists.1 hsome
    obtain ⟨child, heq, hqty⟩ := routeSlice_dark hdark hv
    subst hcon
    simp only [SliceWorld.start, heq]
    exact ⟨rfl, hqty, rfl, hdark, v, hv⟩
  · rcases routeSlice_lit hd with ⟨exc, r', heq⟩ | ⟨r', heq⟩
    · simp only [SliceWorld.start, heq, Budget, totalCommitted_nil]
      linarith
    · simp only [SliceWorld.start, heq]
      refine budget_litPhase ?_ ?_ _ <;> simp only [totalCommitted_nil] <;> linarith

/-- Off the branch that overcommits, no run fills more than the quantity up to the tolerance. -/
theorem totalFilled_le {dark : Except Exc ExecutionReport} {w : SliceWorld} (hq : 0 ≤ a.quantity)
    (hno : ¬ Overcommits r a isConnected dark)
    (h : Relation.ReflTransGen (SliceStep a dark) (SliceWorld.start r a isConnected) w) :
    w.totalFilled ≤ a.quantity + routingEpsilon := by
  have hb : Budget r a isConnected w.router w.children w.phase := by
    induction h with
    | refl => exact budget_start hq
    | tail _ hs ih => exact ih.step hno hs
  exact (totalFilled_le_totalCommitted _).trans (hb.total_le hq)

end Budget

/-! ## The run that fills too much -/

/-- A report with a given state and cumulative quantity. -/
theorem exists_report (st : OrderState) {cum : ℚ} (h : 0 ≤ cum) :
    ∃ rep : ExecutionReport, rep.execType = st ∧ rep.cumQuantity = cum := by
  obtain ⟨rep, hrep⟩ := ReportFields.exists_create
    { reportId := "r", clOrdId := "c", exchangeOrderId := "", symbol := "s", side := .buy, execType := st, lastQuantity := 0,
      lastPrice := 0, cumQuantity := cum, leavesQuantity := 0, cumQuoteAmount := 0, averagePrice := 0, fee := 0,
      timestampNs := 0 } (by simp) (by simp) (by simp) le_rfl le_rfl h le_rfl le_rfl le_rfl le_rfl
  have hf := ReportFields.create_ok hrep
  exact ⟨rep, congrArg ReportFields.execType hf, congrArg ReportFields.cumQuantity hf⟩

/-- After an open dark report the slice comes to the lit phase with the dark order filled by any part of what it still lacks. -/
theorem reaches_litPhase {r : SmartOrderRouter} {a : SliceCall} {vid : String} {o : Order} {rep : ExecutionReport} {f : ℚ}
    (hrep : Honest o.quantity rep) (hrest : rep.execType.isResting = true) (hf : 0 ≤ f)
    (hle : rep.cumQuantity + f ≤ o.quantity) :
    ∃ c : ChildOrder, c.filled = rep.cumQuantity + f ∧
      Relation.ReflTransGen (SliceStep a (.ok rep)) ⟨r, .darkSubmit vid o, []⟩
        ⟨(r.litPhase a (residual a.toSlice rep) (kept rep)).2, (r.litPhase a (residual a.toSlice rep) (kept rep)).1, [c]⟩ := by
  have h1 : rep.execType ≠ .rejected := fun h => by simp [h, OrderState.isResting] at hrest
  have h2 : rep.execType ≠ .filled := fun h => by simp [h, OrderState.isResting] at hrest
  -- the report, then the fill that the slice does not see
  have hsub : SliceStep a (.ok rep) ⟨r, .darkSubmit vid o, []⟩
      ⟨(r.afterDark a vid o rep).2, (r.afterDark a vid o rep).1, [reported o rep hrep]⟩ :=
    @SliceStep.submitted a _ ⟨r, .darkSubmit vid o, []⟩ o rep rfl (fun _ _ _ => rfl) hrep
  have hopen : (reported o rep hrep).isOpen = true := hrest
  have hfill : SliceStep a (.ok rep) ⟨(r.afterDark a vid o rep).2, (r.afterDark a vid o rep).1, [reported o rep hrep]⟩
      ⟨(r.afterDark a vid o rep).2, (r.afterDark a vid o rep).1, [(reported o rep hrep).fill f hle]⟩ :=
    @SliceStep.fill a _ ⟨_, _, [reported o rep hrep]⟩ [] [] _ f rfl hopen hf hle
  have hboth := (Relation.ReflTransGen.single hsub).tail hfill
  rw [afterDark_eq h1 h2] at hboth
  by_cases hc : cancels rep
  · rw [if_pos hc] at hboth
    obtain ⟨rep', -, hcum⟩ := exists_report .cancelled (add_nonneg rep.cumQuantity_nonneg hf)
    refine ⟨((reported o rep hrep).fill f hle).close, rfl, hboth.tail ?_⟩
    exact @SliceStep.cancelled a _ ⟨r, .darkCancel o.clOrdId (kept rep) (residual a.toSlice rep), _⟩ [] []
      ((reported o rep hrep).fill f hle) rep' rfl rfl hcum
  · rw [if_neg hc] at hboth
    exact ⟨(reported o rep hrep).fill f hle, rfl, hboth⟩

/-- On the branch that overcommits, some run fills more than the quantity. -/
theorem exists_run_of_overcommits {r : SmartOrderRouter} {a : SliceCall} {isConnected : Bool}
    {dark : Except Exc ExecutionReport} (hdark : ∀ rep, dark = .ok rep → Honest a.quantity rep)
    (h : Overcommits r a isConnected dark) :
    ∃ w, Relation.ReflTransGen (SliceStep a dark) (SliceWorld.start r a isConnected) w ∧
      a.quantity + routingEpsilon < w.totalFilled := by
  obtain ⟨hcon, hen, ⟨v, r'⟩, hv, rep, hok, hrest, hres, hlit⟩ := h
  obtain rfl : dark = .ok rep := by
    cases dark with
    | error exc => cases hok
    | ok rep' =>
      cases hok
      rfl
  subst hcon
  obtain ⟨child, hstart, hqty⟩ := routeSlice_dark hen hv
  obtain ⟨o, rest, leg, r'', hlp, hleg, htot, hall⟩ := litPhase_of_covers hres hlit (kept rep)
  have hbig : routingEpsilon < o.quantity := (hall o List.mem_cons_self).1
  have hcum : rep.cumQuantity < a.quantity := (hdark rep rfl).resting hrest
  -- the dark order is filled almost in full, so that the first leg alone goes over the quantity
  obtain ⟨d, hd0, hd1, hd2⟩ : ∃ d : ℚ, 0 < d ∧ d ≤ a.quantity - rep.cumQuantity ∧ d < o.quantity - routingEpsilon :=
    ⟨min ((o.quantity - routingEpsilon) / 2) (a.quantity - rep.cumQuantity),
      lt_min (by linarith) (by linarith), min_le_right _ _, (min_le_left _ _).trans_lt (by linarith)⟩
  obtain ⟨c, hc, hrun⟩ := @reaches_litPhase r' a v.venueId child rep (a.quantity - rep.cumQuantity - d)
    (hqty ▸ hdark rep rfl) hrest (by linarith) (by linarith)
  rw [hlp] at hrun
  obtain ⟨full, htype, hfull⟩ := exists_report .filled leg.quantity_pos.le
  have hlq : leg.quantity = o.quantity := congrArg OrderFields.quantity hleg
  have hhon : Honest leg.quantity full :=
    ⟨hfull.le, fun _ => hfull, fun hr => by simp [htype, OrderState.isResting] at hr⟩
  have hstep : SliceStep a (.ok rep) ⟨r'', .litSubmit o.venueId leg rest 1 (kept rep), [c]⟩ _ :=
    @SliceStep.submitted a _ ⟨r'', .litSubmit o.venueId leg rest 1 (kept rep), [c]⟩ leg full rfl
      (fun _ _ hp => by cases hp) hhon
  have hbegin : SliceWorld.start r a true = ⟨r', .darkSubmit v.venueId child, []⟩ := by simp [SliceWorld.start, hstart]
  refine ⟨_, hbegin ▸ hrun.tail hstep, ?_⟩
  simp only [SliceWorld.totalFilled, SliceWorld.resume, List.map_append, List.map_cons, List.map_nil, List.sum_append,
    List.sum_cons, List.sum_nil, reported, hc, hfull, hlq]
  linarith

/-! ## The law -/

/-- The child orders of a slice are never filled beyond its quantity, up to the tolerance, exactly when the dark answer does not
lead onto the branch that overcommits. -/
theorem massConserved_iff (r : SmartOrderRouter) (a : SliceCall) (isConnected : Bool) (dark : Except Exc ExecutionReport)
    (hq : 0 < a.quantity) (hdark : ∀ rep, dark = .ok rep → Honest a.quantity rep) :
    (∀ w, Relation.ReflTransGen (SliceStep a dark) (SliceWorld.start r a isConnected) w →
      w.totalFilled ≤ a.quantity + routingEpsilon) ↔ ¬ Overcommits r a isConnected dark := by
  constructor
  · intro hall hover
    obtain ⟨w, hrun, hlt⟩ := exists_run_of_overcommits hdark hover
    exact absurd (hall w hrun) (not_le.2 hlt)
  · intro hno w hrun
    exact totalFilled_le hq.le hno hrun

/-! ## A slice of one hundred -/

/-- A dark pool. -/
def ats : VenueProfile :=
  { venueId := "ATS"
    venueType := .darkPool
    makerFeeBps := 0
    takerFeeBps := 0
    venueId_ne := by decide
    minOrderSize_pos := Literal.one_pos
    lotSize_pos := Literal.one_pos
    avgLatencyMs_nonneg := by norm_num
    darkFillProbability_mem := by norm_num }

/-- A lit exchange. -/
def nyse : VenueProfile := { ats with venueId := "NYSE", venueType := .litExchange, venueId_ne := by decide }

/-- A router with one venue of each kind. -/
def darkAndLit : SmartOrderRouter :=
  ofVenues ⟨[("ATS", ats), ("NYSE", nyse)], by decide⟩ (by simp) (by decide)

/-- A quote with a thousand on either side of the exchange. -/
def deepQuote : ConsolidatedQuote :=
  { symbol := "AAPL"
    bidPrice := 99
    bidQuantity := 1000
    askPrice := 101
    askQuantity := 1000
    timestampNs := 0
    venueDepths := ⟨[("NYSE", 1000, 1000)], by decide⟩
    symbol_ne := Literal.aapl_ne
    bidPrice_pos := by norm_num
    askPrice_pos := by norm_num
    bidQuantity_nonneg := Literal.thousand_nonneg
    askQuantity_nonneg := Literal.thousand_nonneg
    depths_nonneg := by decide
    bid_lt_ask := by norm_num }

/-- One hundred to buy. -/
def buyHundred : SliceCall :=
  { symbol := "AAPL", side := .buy, quantity := 100, quote := deepQuote, hex := fun n => toString n }

/-- A report on the dark order. -/
def darkReport (st : OrderState) (cum : ℚ) (h : 0 ≤ cum) : ExecutionReport :=
  { reportId := "rep"
    clOrdId := "sor-dark-ATS-0"
    exchangeOrderId := "ex"
    symbol := "AAPL"
    side := .buy
    execType := st
    lastQuantity := cum
    lastPrice := 100
    cumQuantity := cum
    leavesQuantity := 0
    cumQuoteAmount := 100 * cum
    averagePrice := 100
    fee := 0
    timestampNs := 0
    reportId_ne := by simp
    clOrdId_ne := by simp
    symbol_ne := Literal.aapl_ne
    lastQuantity_nonneg := h
    lastPrice_nonneg := Literal.hundred_nonneg
    cumQuantity_nonneg := h
    leavesQuantity_nonneg := Literal.zero_nonneg
    cumQuoteAmount_nonneg := Literal.hundred_mul_nonneg h
    averagePrice_nonneg := Literal.hundred_nonneg
    fee_nonneg := Literal.zero_nonneg }

/-- A dark order that rests when its report is made can be filled before it is cancelled, on top of the lit order for all of
it. -/
theorem not_massConserved :
    ¬ ∀ (r : SmartOrderRouter) (a : SliceCall) (isConnected : Bool) (dark : Except Exc ExecutionReport), 0 < a.quantity →
      (∀ rep, dark = .ok rep → Honest a.quantity rep) → ∀ w,
      Relation.ReflTransGen (SliceStep a dark) (SliceWorld.start r a isConnected) w →
      w.totalFilled ≤ a.quantity + routingEpsilon := by
  intro hall
  have hhon : ∀ rep, Except.ok (darkReport .new 0 le_rfl) = (.ok rep : Except Exc _) → Honest buyHundred.quantity rep := by
    rintro rep ⟨⟩
    exact ⟨by decide, (fun h => by cases h), (fun _ => by decide)⟩
  have hover : Overcommits darkAndLit buyHundred true (.ok (darkReport .new 0 le_rfl)) := by
    unfold Overcommits LitCovers
    decide +kernel
  obtain ⟨w, hrun, hlt⟩ := exists_run_of_overcommits hhon hover
  exact absurd (hall darkAndLit buyHundred true _ (by decide) hhon w hrun) (not_le.2 hlt)

/-- A dark order that is filled when its report is made does not lead there, and the law holds. -/
theorem massConserved_filled :
    ¬ Overcommits darkAndLit buyHundred true (.ok (darkReport .filled 100 Literal.hundred_nonneg)) ∧
      ∀ w, Relation.ReflTransGen (SliceStep buyHundred (.ok (darkReport .filled 100 Literal.hundred_nonneg)))
        (SliceWorld.start darkAndLit buyHundred true) w → w.totalFilled ≤ buyHundred.quantity + routingEpsilon := by
  have hno : ¬ Overcommits darkAndLit buyHundred true (.ok (darkReport .filled 100 Literal.hundred_nonneg)) := by
    unfold Overcommits LitCovers
    decide
  refine ⟨hno, (massConserved_iff darkAndLit buyHundred true _ (by decide) ?_).2 hno⟩
  rintro rep ⟨⟩
  exact ⟨by decide, (fun _ => rfl), (fun h => by cases h)⟩

end Quant
