import Quant.Theorems.StrategySignals

/-!
# Computing signals again

A strategy that is asked for its signals twice, with the same history and context, gives the same again, unless news is injected
with the context: every call records the events of the context once more, and each counts as often as it was recorded.
-/

namespace Quant

open Pylib

section Reevaluation

variable {α : Type} [Field α] [LinearOrder α] [FloorRing α] {M : StrategyMath α} {history : BarHistoryWindow α}
  {context : Option (StrategyContext α)}

/-! ## What is returned -/

/-- An accepted signal has the fields it was made of. -/
theorem StrategySignalFields.fields_of_create {f : StrategySignalFields α} {sig : StrategySignal α} (h : f.create = .ok sig) :
    sig.toStrategySignalFields = f := by
  unfold create at h
  obtain ⟨_, h⟩ := of_check_ok h
  obtain ⟨_, h⟩ := of_check_ok h
  obtain ⟨_, h⟩ := of_check_ok h
  obtain ⟨_, h⟩ := of_check_ok h
  obtain ⟨_, h⟩ := of_check_ok h
  obtain ⟨_, h⟩ := of_check_ok h
  obtain ⟨_, h⟩ := of_check_ok h
  obtain ⟨_, h⟩ := of_check_ok h
  obtain ⟨_, h⟩ := of_check_ok h
  cases h
  rfl

/-- The signal that is collected for a symbol is the one made for it. -/
theorem get?_of_collectSignals {symbols : List String} {f : String → Except (StrategyExc α) (StrategySignal α)}
    {signals : Signals α}
    (h : collectSignals symbols f = .ok signals) {sym : String} (hsym : sym ∈ symbols) :
    ∃ sig, signals.get? sym = some sig ∧ f sym = .ok sig := by
  obtain ⟨made, hmade, hsignals⟩ := exists_of_bind_ok h
  cases hsignals
  have heach := forall₂_of_mapM_ok hmade
  have hkeys : sym ∈ (symbols.zip made).map Prod.fst := by rwa [List.map_fst_zip heach.length_eq.le]
  obtain ⟨sig, hget, hmem⟩ := Dict.exists_get?_setAll ∅ hkeys
  exact ⟨sig, hget, (List.forall₂_iff_zip.1 heach).2 hmem⟩

/-- What stands beside a key in a list made from the values of its items. -/
theorem exists_item_of_zip {κ ν μ : Type} {R : ν → μ → Prop} {items : List (κ × ν)} {made : List μ}
    (h : List.Forall₂ R (items.map Prod.snd) made) {k : κ} {y : μ} (hy : (k, y) ∈ (items.map Prod.fst).zip made) : ∃ x, (k, x) ∈
    items ∧ R x y := by
  induction items generalizing made with
  | nil => cases hy
  | cons p items ih =>
    cases h with
    | cons hp hrest =>
      rcases List.mem_cons.1 hy with heq | hmem
      · cases heq
        exact ⟨p.2, List.mem_cons_self, hp⟩
      · obtain ⟨x, hx, hR⟩ := ih hrest hmem
        exact ⟨x, List.mem_cons_of_mem p hx, hR⟩

/-- The leverage changes nothing of a signal but its weight. -/
theorem BaseAlphaStrategy.get?_of_enforceLeverage {base : BaseAlphaStrategy α} {signals out : Signals α}
    (h : base.enforceLeverage signals = .ok out) {sym : String} {sig : StrategySignal α} (hsig : signals.get? sym = some sig) :
    ∃ sig', out.get? sym = some sig' ∧ sig'.direction = sig.direction ∧ sig'.diagnostics = sig.diagnostics := by
  unfold enforceLeverage at h
  dsimp only at h
  split_ifs at h with hover
  · obtain ⟨scaled, hscaled, hout⟩ := exists_of_bind_ok h
    cases hout
    have heach := forall₂_of_mapM_ok hscaled
    have hlen : signals.keys.length = scaled.length := by
      rw [← heach.length_eq, Dict.keys, Dict.values, List.length_map, List.length_map]
    have hkey : sym ∈ signals.keys := List.mem_map_of_mem ((Dict.mem_items_iff _ _ _).2 hsig)
    have hkeys : sym ∈ (signals.keys.zip scaled).map Prod.fst := by rwa [List.map_fst_zip hlen.le]
    obtain ⟨sig', hget, hmem⟩ := Dict.exists_get?_setAll ∅ hkeys
    obtain ⟨made, hmade, hcreate⟩ := exists_item_of_zip heach hmem
    rw [Dict.mem_items_iff, hsig] at hmade
    cases hmade
    have hfields := StrategySignalFields.fields_of_create hcreate
    exact ⟨sig', hget, by rw [hfields], by rw [hfields]⟩
  · cases h
    exact ⟨sig, hsig, rfl, rfl⟩

/-! ## News -/

namespace EventBuffer

omit [FloorRing α] in
/-- The events of a symbol after some were recorded. -/
theorem getD_record (events : List (NewsSentimentEvent α)) (buffer : EventBuffer α) (sym : String) :
    (events.foldl record buffer).getD sym [] = buffer.getD sym [] ++ events.filter fun ev => ev.symbol = sym := by
  induction events generalizing buffer with
  | nil => simp
  | cons ev events ih =>
    rw [List.foldl_cons, ih, record]
    by_cases hsym : ev.symbol = sym
    · subst hsym
      rw [Dict.getD_set_self, List.filter_cons_of_pos (by simp), List.append_assoc]
      rfl
    · rw [Dict.getD_set_of_ne _ _ _ (Ne.symm hsym), List.filter_cons_of_neg (by simpa using hsym)]

/-- `valid_events`: those of a symbol that are not of a later time. -/
def validEvents (buffer : EventBuffer α) (currentTsNs : ℤ) (sym : String) : List (NewsSentimentEvent α) :=
  (buffer.getD sym []).filter fun ev => ev.timestampNs ≤ currentTsNs

omit [FloorRing α] in
theorem validEvents_record (events : List (NewsSentimentEvent α)) (buffer : EventBuffer α) (currentTsNs : ℤ) (sym : String) :
    (events.foldl record buffer).validEvents currentTsNs sym =
      buffer.validEvents currentTsNs sym ++ events.filter fun ev => ev.symbol = sym ∧ ev.timestampNs ≤ currentTsNs := by
  rw [validEvents, validEvents, getD_record, List.filter_append, List.filter_filter]
  refine congrArg _ (List.filter_congr fun ev _ => ?_)
  rw [Bool.decide_and, Bool.and_comm]

end EventBuffer

namespace SentimentConfig

variable {cfg : SentimentConfig α}

/-- A signal depends on the events recorded only through the valid ones of its symbol. -/
theorem signalOf_congr {buffer buffer' : EventBuffer α} {currentTsNs : ℤ} {sym : String}
    (h : buffer.validEvents currentTsNs sym = buffer'.validEvents currentTsNs sym) :
    cfg.signalOf M buffer currentTsNs sym = cfg.signalOf M buffer' currentTsNs sym := by
  unfold signalOf
  dsimp only
  rw [← EventBuffer.validEvents, ← EventBuffer.validEvents, h]

/-- No event of the context counts: each is of a symbol that is not monitored, or of a later time. -/
def NoNews (cfg : SentimentConfig α) (context : Option (StrategyContext α)) : Prop :=
  ∀ c, context = some c → ∀ ev ∈ c.newsEvents, ev.symbol ∈ cfg.monitoredSymbols → c.currentTimestamp < ev.timestampNs

/-- Recording events that do not count leaves the valid ones. -/
theorem validEvents_ingest (h : cfg.NoNews context) (buffer : EventBuffer α) {sym : String} (hsym : sym ∈ cfg.monitoredSymbols) :
    (ingest buffer context).validEvents (cfg.currentTs history context) sym =
    buffer.validEvents (cfg.currentTs history context) sym := by
  cases context with
  | none => rfl
  | some c =>
    have hnone : (c.newsEvents.filter fun ev => ev.symbol = sym ∧ ev.timestampNs ≤ c.currentTimestamp) = [] := by
      refine List.filter_eq_nil_iff.2 fun ev hev => ?_
      simp only [decide_eq_true_eq, not_and, not_le]
      rintro rfl
      exact h c rfl ev hev hsym
    change (c.newsEvents.foldl EventBuffer.record buffer).validEvents c.currentTimestamp sym = _
    rw [EventBuffer.validEvents_record, hnone, List.append_nil]
    rfl

theorem generateSignals_again (h : cfg.NoNews context) (buffer : EventBuffer α) :
    (cfg.generateSignals M history context (cfg.generateSignals M history context buffer).2).1 =
      (cfg.generateSignals M history context buffer).1 := by
  have hmake : (cfg.monitoredSymbols.mapM
      (cfg.signalOf M (ingest (ingest buffer context) context) (cfg.currentTs history context))) =
      cfg.monitoredSymbols.mapM (cfg.signalOf M (ingest buffer context) (cfg.currentTs history context)) :=
    mapM_congr fun _ hsym => signalOf_congr (validEvents_ingest h _ hsym)
  exact congrArg (fun made : Except (StrategyExc α) (List (StrategySignal α)) =>
    made.bind fun signals => .ok ((∅ : Signals α).setAll (cfg.monitoredSymbols.zip signals))) hmake

/-- The number of valid events is among the diagnostics of a signal. -/
theorem totalEvents_of_signalOf {buffer : EventBuffer α} {currentTsNs : ℤ} {sym : String} {sig : StrategySignal α}
    (h : cfg.signalOf M buffer currentTsNs sym = .ok sig) :
    sig.diagnostics.get? "total_events" = some (.int (buffer.validEvents currentTsNs sym).length) := by
  obtain ⟨shock, _, hcreate⟩ := exists_of_bind_ok h
  rw [StrategySignalFields.fields_of_create hcreate]
  rfl

theorem direction_of_signalOf {buffer : EventBuffer α} {currentTsNs : ℤ} {sym : String} {shock : α} {count : ℕ}
    (hshock : cfg.cumulativeShock M currentTsNs (buffer.validEvents currentTsNs sym) = .ok (shock, count))
    {sig : StrategySignal α}
    (h : cfg.signalOf M buffer currentTsNs sym = .ok sig) :
    sig.direction = (cfg.directionalThresholding (max (-1) (min 1 shock))).1 := by
  obtain ⟨result, hresult, hcreate⟩ := exists_of_bind_ok h
  rw [← EventBuffer.validEvents, hshock] at hresult
  cases hresult
  dsimp only at hcreate
  rw [StrategySignalFields.fields_of_create hcreate]

end SentimentConfig

/-! ## One strategy -/

/-- What the template returns, it generated after the warm-up. -/
theorem BaseAlphaStrategy.generated_of_returned {base : BaseAlphaStrategy α} {s : Strategy α}
    {generated : Except (StrategyExc α) (Signals α) × Strategy α} {signals : Signals α}
    (h : (base.computeSignals history s generated).1 = .ok signals) :
    generated.1.bind base.enforceLeverage = .ok signals ∧ (base.computeSignals history s generated).2 = generated.2 := by
  unfold computeSignals at h ⊢
  cases hwarm : base.validateWarmup history with
  | error exc =>
    rw [hwarm] at h
    cases h
  | ok _ =>
    rw [hwarm] at h
    exact ⟨h, rfl⟩

namespace Strategy

/-- Asked again at once, with the same history and context, the strategy gives the same. -/
def Reevaluates (M : StrategyMath α) (history : BarHistoryWindow α) (context : Option (StrategyContext α))
    (s : Strategy α) : Prop :=
  ((s.computeSignals M history context).2.computeSignals M history context).1 = (s.computeSignals M history context).1

/-- No event of the context counts in the strategy's signals. -/
def NoNews (context : Option (StrategyContext α)) : Strategy α → Prop
  | .sentiment cfg _ => cfg.NoNews context
  | _ => True

/-- What a news strategy returns holds the signal of every symbol, made of the events recorded with those of the context. -/
theorem signal_of_sentiment {cfg : SentimentConfig α} {buffer : EventBuffer α} {signals : Signals α}
    (h : ((Strategy.sentiment cfg buffer).computeSignals M history context).1 = .ok signals) {sym : String}
    (hsym : sym ∈ cfg.monitoredSymbols) :
    ∃ sig made, signals.get? sym = some sig ∧
      cfg.signalOf M (SentimentConfig.ingest buffer context) (cfg.currentTs history context) sym = .ok made ∧
      sig.direction = made.direction ∧ sig.diagnostics = made.diagnostics := by
  rw [computeSignals] at h
  obtain ⟨generated, hgenerated, hleverage⟩ := exists_of_bind_ok (BaseAlphaStrategy.generated_of_returned h).1
  obtain ⟨made, hget, hmade⟩ := get?_of_collectSignals hgenerated hsym
  obtain ⟨sig, hsig, hdirection, hdiagnostics⟩ := BaseAlphaStrategy.get?_of_enforceLeverage hleverage hget
  exact ⟨sig, made, hsig, hmade, hdirection, hdiagnostics⟩

/-- A news strategy that returned signals has recorded the events of the context. -/
theorem sentiment_after {cfg : SentimentConfig α} {buffer : EventBuffer α} {signals : Signals α}
    (h : ((Strategy.sentiment cfg buffer).computeSignals M history context).1 = .ok signals) :
    ((Strategy.sentiment cfg buffer).computeSignals M history context).2 =
    .sentiment cfg (SentimentConfig.ingest buffer context) := by
  rw [computeSignals] at h ⊢
  exact (BaseAlphaStrategy.generated_of_returned h).2

/-- The events that count are counted again: where a news strategy returns signals and reevaluates, there are none. -/
theorem noNews_of_reevaluates {cfg : SentimentConfig α} {buffer : EventBuffer α} {signals : Signals α}
    (h : ((Strategy.sentiment cfg buffer).computeSignals M history context).1 = .ok signals)
    (hagain : (Strategy.sentiment cfg buffer).Reevaluates M history context) : cfg.NoNews context := by
  rw [Reevaluates, h, sentiment_after h] at hagain
  rintro c rfl ev hev hsym
  by_contra htime
  obtain ⟨sig, made, hget, hmade, -, hdiagnostics⟩ := signal_of_sentiment h hsym
  obtain ⟨sig', made', hget', hmade', -, hdiagnostics'⟩ := signal_of_sentiment hagain hsym
  rw [hget] at hget'
  cases hget'
  have hcount := SentimentConfig.totalEvents_of_signalOf hmade
  rw [← hdiagnostics, hdiagnostics', SentimentConfig.totalEvents_of_signalOf hmade'] at hcount
  have hlength : ((SentimentConfig.ingest (SentimentConfig.ingest buffer (some c)) (some c)).validEvents c.currentTimestamp
      ev.symbol).length =
      ((SentimentConfig.ingest buffer (some c)).validEvents c.currentTimestamp ev.symbol).length :=
    Int.ofNat.inj (DiagValue.int.inj (Option.some.inj hcount))
  have hmem : ev ∈ c.newsEvents.filter fun ev' => ev'.symbol = ev.symbol ∧ ev'.timestampNs ≤ c.currentTimestamp :=
    List.mem_filter.2 ⟨hev, by simpa using not_lt.1 htime⟩
  rw [SentimentConfig.ingest, EventBuffer.validEvents_record, List.length_append] at hlength
  exact List.ne_nil_of_mem hmem (List.eq_nil_of_length_eq_zero (by omega))

end Strategy

namespace KalmanPairsConfig

variable {cfg : KalmanPairsConfig α}

omit [FloorRing α] in
/-- The bands decide the same again from the position that they led to. -/
theorem stance_stance (cfg : KalmanPairsConfig α) (z : Option α) (position : ℤ) :
    cfg.stance z (cfg.stance z position).position = cfg.stance z position := by
  have hheld : heldStance (α := α) (heldStance (α := α) position).position = heldStance position := by
    unfold heldStance
    split_ifs <;> rfl
  cases z with
  | none => exact hheld
  | some z =>
    unfold stance
    dsimp only
    split_ifs with hstop hshort hlong hexit
    · rfl
    · rfl
    · rfl
    · rfl
    · exact hheld

/-- What stands in the way of the pair's signals does so at every position. -/
theorem generateSignals_cases (M : StrategyMath α) (cfg : KalmanPairsConfig α) (history : BarHistoryWindow α) :
    (∃ exc, ∀ position, cfg.generateSignals M history position = (.error exc, position)) ∨
      ∃ last spreads currentSpread pY pX, ∀ position,
        cfg.generateSignals M history position = cfg.pairSignals M last spreads currentSpread pY pX position := by
  unfold generateSignals
  dsimp only
  cases cfg.initKalmanState with
  | error exc => exact .inl ⟨exc, fun _ => rfl⟩
  | ok state =>
    dsimp only
    generalize state.run _ = filtered
    split
    · exact .inr ⟨_, _, _, _, _, fun _ => rfl⟩
    · exact .inl ⟨_, fun _ => rfl⟩

theorem generateSignals_again (cfg : KalmanPairsConfig α) (position : ℤ) :
    (cfg.generateSignals M history (cfg.generateSignals M history position).2).1 =
    (cfg.generateSignals M history position).1 := by
  rcases generateSignals_cases M cfg history with ⟨exc, h⟩ | ⟨last, spreads, currentSpread, pY, pX, h⟩
  · rw [h, h]
  · rw [h, h]
    unfold pairSignals
    dsimp only
    rw [stance_stance]

end KalmanPairsConfig

namespace Strategy

/-! ## A tree of strategies -/

theorem template_of_warm {base : BaseAlphaStrategy α} (hwarm : base.validateWarmup history = .ok ()) (s : Strategy α)
    (generated : Except (StrategyExc α) (Signals α) × Strategy α) :
    base.computeSignals history s generated = (generated.1.bind base.enforceLeverage, generated.2) := by
  rw [BaseAlphaStrategy.computeSignals, hwarm]

/-- A strategy that generates the same again reevaluates: short of the warm-up it stays as it was. -/
theorem reevaluates_of_generated {s : Strategy α} (base : BaseAlphaStrategy α)
    {generated : Except (StrategyExc α) (Signals α) × Strategy α}
    (hs : s.computeSignals M history context = base.computeSignals history s generated)
    (h : base.validateWarmup history = .ok () →
      (generated.2.computeSignals M history context).1 = generated.1.bind base.enforceLeverage) :
    s.Reevaluates M history context := by
  cases hwarm : base.validateWarmup history with
  | error exc =>
    have hsame : s.computeSignals M history context = (.error exc, s) := by rw [hs, BaseAlphaStrategy.computeSignals, hwarm]
    rw [Reevaluates, hsame, hsame]
  | ok _ => rw [Reevaluates, hs, template_of_warm hwarm, h hwarm]

/-- Sub-strategies that reevaluate give the same again, up to the first that raises. -/
theorem computeAll_again (subs : List (Strategy α)) (h : ∀ sub ∈ subs, sub.Reevaluates M history context) :
    (computeAll M history context (computeAll M history context subs).2).1 = (computeAll M history context subs).1 := by
  induction subs with
  | nil => rfl
  | cons s subs ih =>
    obtain ⟨hs, hsubs⟩ := List.forall_mem_cons.1 h
    rw [Reevaluates] at hs
    rw [computeAll]
    rcases hfirst : s.computeSignals M history context with ⟨result, s'⟩
    rw [hfirst] at hs
    rcases hsecond : s'.computeSignals M history context with ⟨result', s''⟩
    rw [hsecond] at hs
    cases (show result' = result from hs)
    cases result with
    | error exc =>
      dsimp only
      rw [computeAll, hsecond]
    | ok signals =>
      dsimp only
      rw [computeAll, hsecond]
      dsimp only
      rw [ih hsubs]

theorem ids_computeAll (subs : List (Strategy α)) :
    ((computeAll M history context subs).2.map fun s => s.base.strategyId) = subs.map fun s => s.base.strategyId := by
  have hupdates := updates_computeAll M history context subs
  generalize (computeAll M history context subs).2 = subs' at hupdates
  induction hupdates with
  | nil => rfl
  | cons hu _ ih => rw [List.map_cons, List.map_cons, ih, base_of_updates hu]

/-- Where no news counts anywhere in the tree, every strategy of the tree reevaluates. -/
theorem reevaluates_of_noNews {s : Strategy α} (h : s.Forall (NoNews context)) : s.Forall (Reevaluates M history context) := by
  induction h with
  | @node s here below ih =>
    refine .node ?_ ih
    cases s with
    | kalmanPairs cfg position =>
      refine reevaluates_of_generated cfg.toBaseAlphaStrategy (by rw [computeSignals]) fun hwarm => ?_
      rw [computeSignals]
      dsimp only
      rw [template_of_warm hwarm, cfg.generateSignals_again position]
    | fracDiffMomentum cfg =>
      refine reevaluates_of_generated cfg.toBaseAlphaStrategy (by rw [computeSignals]) fun hwarm => ?_
      rw [computeSignals, template_of_warm hwarm]
    | sentiment cfg buffer =>
      refine reevaluates_of_generated cfg.toBaseAlphaStrategy (by rw [computeSignals]) fun hwarm => ?_
      rw [computeSignals]
      dsimp only
      rw [template_of_warm hwarm, SentimentConfig.generateSignals_again here]
    | volatilityBreakout cfg =>
      refine reevaluates_of_generated cfg.toBaseAlphaStrategy (by rw [computeSignals]) fun hwarm => ?_
      rw [computeSignals, template_of_warm hwarm]
    | swarmMeta cfg weights subs =>
      have hall := computeAll_again subs fun sub hsub => (ih sub hsub).here
      refine reevaluates_of_generated cfg.toBaseAlphaStrategy (by rw [computeSignals]) fun hwarm => ?_
      dsimp only
      rw [computeSignals]
      dsimp only
      rw [template_of_warm hwarm, ids_computeAll, hall]

/-- The sub-strategies of a swarm that returned signals returned theirs. -/
theorem computeAll_returned {subs : List (Strategy α)} {all : List (Signals α)}
    (h : (computeAll M history context subs).1 = .ok all) :
    ∀ sub ∈ subs, ∃ signals, (sub.computeSignals M history context).1 = .ok signals := by
  induction subs generalizing all with
  | nil => exact fun _ hsub => absurd hsub List.not_mem_nil
  | cons s subs ih =>
    rw [computeAll] at h
    rcases hs : s.computeSignals M history context with ⟨result, s'⟩
    rw [hs] at h
    cases result with
    | error exc => cases h
    | ok signals =>
      obtain ⟨rest, hrest, -⟩ := exists_of_map_ok h
      exact List.forall_mem_cons.2 ⟨⟨signals, by rw [hs]⟩, ih hrest⟩

/-- A tree that returned signals reevaluates throughout only where no news counts in it. -/
theorem forall_noNews_of_reevaluates {s : Strategy α} (h : s.Forall (Reevaluates M history context)) {signals : Signals α}
    (hreturned : (s.computeSignals M history context).1 = .ok signals) : s.Forall (NoNews context) := by
  induction h generalizing signals with
  | @node s here below ih =>
    cases s with
    | sentiment cfg buffer => exact .node (noNews_of_reevaluates hreturned here) fun _ hsub => absurd hsub List.not_mem_nil
    | swarmMeta cfg weights subs =>
      refine .node trivial fun sub hsub => ?_
      rw [computeSignals] at hreturned
      obtain ⟨_, hgenerated, -⟩ := exists_of_bind_ok (BaseAlphaStrategy.generated_of_returned hreturned).1
      obtain ⟨all, hall, -⟩ := exists_of_bind_ok hgenerated
      obtain ⟨subSignals, hsubSignals⟩ := computeAll_returned hall sub hsub
      exact ih sub hsub hsubSignals
    | _ => exact .node trivial fun _ hsub => absurd hsub List.not_mem_nil

end Strategy

/-! ## In every state -/

/-- Whatever calls a strategy has had, it and all the strategies under it give the same signals again where no event of the
context counts in one of them; and where signals were returned, only there. -/
theorem reevaluation (M : StrategyMath α) (calls : List (StrategyCall α)) (s : Strategy α) (history : BarHistoryWindow α)
    (context : Option (StrategyContext α)) :
    let reached := calls.foldl (fun s call => call.run M s) s
    (reached.Forall (Strategy.NoNews context) → reached.Forall (Strategy.Reevaluates M history context)) ∧
      ∀ signals, (reached.computeSignals M history context).1 = .ok signals →
        reached.Forall (Strategy.Reevaluates M history context) →
        reached.Forall (Strategy.NoNews context) :=
  ⟨Strategy.reevaluates_of_noNews, fun _ hreturned h => Strategy.forall_noNews_of_reevaluates h hreturned⟩

end Reevaluation

/-! ## News that counts twice -/

theorem mild_polarity_mem : -1 ≤ (lit (1 / 4) : ℝ) ∧ (lit (1 / 4) : ℝ) ≤ 1 :=
  ⟨(neg_nonpos.2 zero_le_one).trans (lit_pos.2 (by norm_num)).le, lit_le_one.2 (by norm_num)⟩

/-- News half as strong as the threshold of the news strategies. -/
noncomputable def mildEvent : NewsSentimentEvent ℝ :=
  { bestEvent with polarity := lit (1 / 4), polarity_mem := mild_polarity_mem }

noncomputable def mildNews : StrategyContext ℝ where
  currentTimestamp := 0
  newsEvents := [mildEvent]

theorem one_leverage_pos : (0 : ℝ) < 1 := zero_lt_one

/-- A news strategy of one symbol, as it is constructed. -/
noncomputable def appleNews : SentimentConfig ℝ := newsConfig "AAPL" one_leverage_pos (lit 7200) (lit (2 / 100))

theorem sound_appleNews : (Strategy.sentiment appleNews ∅).Sound := by
  have hhalf : (halfUnit 4 : ℝ) < lit (1 / 2) * 1 := by
    rw [mul_one, halfUnit_eq_lit]
    exact lit_lt_lit.2 (by norm_num)
  have hnews : appleNews.Sound :=
    ⟨fun sym hsym => List.mem_singleton.1 hsym ▸ (by decide), le_rfl, hhalf, lit_pos.2 (by norm_num), lit_pos.2 (by norm_num),
      lit_pos.2 (by norm_num)⟩
  exact ⟨.node hnews fun _ h => absurd h List.not_mem_nil, fun _ h => absurd h List.not_mem_nil⟩

/-- Mild news at the time of the evaluation adds a quarter to the shock. -/
theorem cumulativeShock_mildEvent {events : List (NewsSentimentEvent ℝ)} {shock : ℝ} {count : ℕ}
    (h : appleNews.cumulativeShock exactMath 0 events = .ok (shock, count)) :
    appleNews.cumulativeShock exactMath 0 (mildEvent :: events) = .ok (lit (1 / 4) + shock, count + 1) := by
  have hslow : (lit 7200 : ℝ) * lit 10 ≠ 0 := mul_ne_zero (lit_pos.2 (by norm_num)).ne' (lit_pos.2 (by norm_num)).ne'
  have hcount : (lit (1 / 10 ^ 4) : ℝ) < 1 := (lit_lt_lit.2 (by norm_num : (1 / 10 ^ 4 : ℚ) < 1)).trans_eq Rat.cast_one
  have hdelta : max 0 (((0 - mildEvent.timestampNs : ℤ) : ℝ) / lit (10 ^ 9)) = 0 := delta_bestEvent
  have hkernel := computeDecayKernel_now mildEvent.urgency (lit 7200) hslow
  rw [SentimentConfig.cumulativeShock, hdelta]
  change (computeDecayKernel exactMath 0 mildEvent.urgency (lit 7200) (lit 7200 * lit 10)).bind _ = _
  rw [hkernel]
  dsimp only [bind, Except.bind]
  rw [h]
  dsimp only [mildEvent, bestEvent]
  rw [mul_one, mul_one, if_pos hcount]

/-- The direction of the signal when the news was recorded `n` times. -/
theorem direction_mildNews {n : ℕ} {buffer : EventBuffer ℝ} (hbuffer : buffer.validEvents 0 "AAPL" = List.replicate n mildEvent)
    {sig : StrategySignal ℝ} (h : appleNews.signalOf exactMath buffer 0 "AAPL" = .ok sig) :
    sig.direction = (appleNews.directionalThresholding (max (-1) (min 1 (n * lit (1 / 4))))).1 := by
  have hshock : ∀ n : ℕ, appleNews.cumulativeShock exactMath 0 (List.replicate n mildEvent) = .ok (n * lit (1 / 4), n) :=
    fun n => by
    induction n with
    | zero => simp [SentimentConfig.cumulativeShock]
    | succ n ih =>
      rw [List.replicate_succ, cumulativeShock_mildEvent ih]
      push_cast
      rw [add_mul, one_mul, add_comm]
  exact SentimentConfig.direction_of_signalOf (by rw [hbuffer]; exact hshock n) h

/-- News half as strong as the threshold gives no direction. Computing the signals again at once counts it twice, and it is the
direction. -/
theorem reevaluation_counterexample : appleNews.fields.create = .ok appleNews ∧
    ∃ signals signals' sig sig',
      ((Strategy.sentiment appleNews ∅).computeSignals exactMath steadyHistory (some mildNews)).1 = .ok signals ∧
      (((Strategy.sentiment appleNews ∅).computeSignals exactMath steadyHistory (some mildNews)).2.computeSignals
        exactMath steadyHistory
        (some mildNews)).1 = .ok signals' ∧
      signals.get? "AAPL" = some sig ∧ signals'.get? "AAPL" = some sig' ∧ sig.direction = .flat ∧ sig'.direction = .long := by
  have hwarm : (Strategy.sentiment appleNews ∅).WarmedUp steadyHistory := warmedUp_news (by decide) zero_lt_one _ _ ∅
  have haligned : ∀ sym, (steadyHistory.series sym .high).length = (steadyHistory.series sym .low).length := fun sym => by
    rw [series_steadyHistory, series_steadyHistory]
  have hreturns : ∀ s : Strategy ℝ, s.Sound → s.WarmedUp steadyHistory →
      ∃ signals, (s.computeSignals exactMath steadyHistory (some mildNews)).1 = .ok signals := fun s hs hs' =>
    (Strategy.computeSignals_ok sqrt_252_mem haligned hs.nodes hs.stops hs').imp fun _ h => h.1
  obtain ⟨signals, hfirst⟩ := hreturns _ sound_appleNews hwarm
  obtain ⟨signals', hsecond⟩ := hreturns _
    (sound_appleNews.run (M := exactMath) Real.exp_pos (.computeSignals steadyHistory (some mildNews)))
    (hwarm.run (.computeSignals steadyHistory (some mildNews)))
  rw [StrategyCall.run] at hsecond
  have hafter := hsecond
  rw [Strategy.sentiment_after hfirst] at hafter
  have hsym : "AAPL" ∈ appleNews.monitoredSymbols := List.mem_singleton_self _
  obtain ⟨sig, made, hget, hmade, hdirection, -⟩ := Strategy.signal_of_sentiment hfirst hsym
  obtain ⟨sig', made', hget', hmade', hdirection', -⟩ := Strategy.signal_of_sentiment hafter hsym
  refine ⟨SentimentConfig.create_fields _, signals, signals', sig, sig', hfirst, hsecond, hget, hget', ?_, ?_⟩
  · have hshock : max (-1) (min 1 (((1 : ℕ) : ℝ) * lit (1 / 4))) = 1 / 4 := by norm_num [lit]
    have hthreshold : ¬ appleNews.polarityThreshold ≤ 1 / 4 ∧ ¬ 1 / 4 ≤ -appleNews.polarityThreshold := by
      change ¬ lit (1 / 2) ≤ (1 / 4 : ℝ) ∧ ¬ (1 / 4 : ℝ) ≤ -lit (1 / 2)
      norm_num [lit]
    rw [hdirection, direction_mildNews (n := 1) rfl hmade, hshock, SentimentConfig.directionalThresholding, if_neg hthreshold.1,
      if_neg hthreshold.2]
  · have hshock : max (-1) (min 1 (((2 : ℕ) : ℝ) * lit (1 / 4))) = 1 / 2 := by norm_num [lit]
    have hthreshold : appleNews.polarityThreshold ≤ 1 / 2 := by
      change lit (1 / 2) ≤ (1 / 2 : ℝ)
      norm_num [lit]
    rw [hdirection', direction_mildNews (n := 2) rfl hmade', hshock, SentimentConfig.directionalThresholding, if_pos hthreshold]

end Quant
