import Mathlib.Analysis.Complex.Trigonometric
import Mathlib.Analysis.SpecialFunctions.Log.Basic
import Quant.Lemmas.StrategyTrees
import Quant.Pylib.Runs

/-!
# Strategy signals

A strategy with sound settings returns signals that are accepted and within its leverage, in every state that calls on it lead to.
The constructors accept settings that are not sound: signals past a weight of 1, rounded to zero or with a stop of zero are
refused, and two parameters are divided by or counted on without a check.
-/

namespace Quant

open Pylib

/-! ## Exact mathematics -/

/-- The functions as the real ones. -/
noncomputable def exactMath : StrategyMath ℝ := ⟨Real.log, Real.exp, Real.tanh, Real.sqrt⟩

theorem sqrt_252_mem : 0 < exactMath.sqrt (lit 252) ∧ exactMath.sqrt (lit 252) ≤ lit 16 := by
  have h252 : (lit 252 : ℝ) ≤ lit 16 ^ 2 := by
    rw [pow_two, lit_mul]
    exact lit_le_lit.2 (by norm_num)
  exact ⟨Real.sqrt_pos.2 (lit_pos.2 (by norm_num)), Real.sqrt_le_iff.2 ⟨(lit_pos.2 (by norm_num)).le, h252⟩⟩

/-- Positive prices and volumes that are not negative: where the strategies divide by a price, `numpy` has a number. -/
structure BarHistoryWindow.Priced (history : BarHistoryWindow ℝ) : Prop where
  prices : ∀ sym, ∀ f ∈ [BarField.open, .high, .low, .close, .vwap], ∀ x ∈ history.series sym f, 0 < x
  volumes : ∀ sym, ∀ x ∈ history.series sym .volume, 0 ≤ x

/-- The history a call reads is one of prices. -/
def StrategyCall.Priced : StrategyCall ℝ → Prop
  | .computeSignals history _ => history.Priced
  | .sub _ call => call.Priced
  | _ => True

/-- A sound strategy returns its signals within the leverage, after whatever calls on histories of prices, on every such history
that passes the warm-up and has as many highs as lows for each symbol. -/
theorem validSignals {s s' : Strategy ℝ} (hs : s.Sound)
    (hrun : Run (stepOf fun s (call : StrategyCall ℝ) => call.run exactMath s) (fun _ call => call.Priced) s s')
    {history : BarHistoryWindow ℝ} (_hprices : history.Priced) (hwarm : s.WarmedUp history)
    (haligned : ∀ sym, (history.series sym .high).length = (history.series sym .low).length) (context : Option
      (StrategyContext ℝ)) :
    ∃ signals, (s'.computeSignals exactMath history context).1 = .ok signals ∧
      BaseAlphaStrategy.totalAbsWeight signals ≤ s.base.maxLeverage + lit (1 / 10 ^ 6) := by
  have hkept : s'.Sound ∧ s'.WarmedUp history ∧ s'.base = s.base := by
    refine hrun.invariant (I := fun t => t.Sound ∧ t.WarmedUp history ∧ t.base = s.base) ?_ ⟨hs, hwarm, rfl⟩
    rintro t call u ⟨hsound, hwarm, hbase⟩ - rfl
    exact ⟨hsound.run Real.exp_pos call, hwarm.run call,
      (Strategy.base_of_updates (Strategy.updates_run exactMath call t)).trans hbase⟩
  obtain ⟨hsound, hwarm', hbase⟩ := hkept
  obtain ⟨signals, hcompute, htotal, -⟩ := Strategy.computeSignals_ok sqrt_252_mem haligned hsound.nodes hsound.stops hwarm'
  exact ⟨signals, hcompute, hbase ▸ htotal⟩

/-! ## Settings that are accepted and not sound -/

section Constructors

variable {α : Type} [Field α] [LinearOrder α]

/-- The attributes of the base are accepted as its arguments. -/
theorem AlphaStrategyFields.create_base (base : BaseAlphaStrategy α) : base.toAlphaStrategyFields.create = .ok ⟨base, rfl⟩ := by
  rw [create, dif_neg base.strategyId_ne, dif_neg base.monitoredSymbols_ne, dif_neg (not_le.2 base.minWarmupBars_pos),
    dif_neg (not_le.2 base.maxLeverage_pos)]

/-- The arguments a strategy comes from. -/
def SentimentConfig.fields (cfg : SentimentConfig α) : SentimentFields α :=
  { cfg.toAlphaStrategyFields with
    polarityThreshold := cfg.polarityThreshold
    decayHalfLifeSeconds := cfg.tauFast
    stopLossPct := cfg.stopLoss
    takeProfitPct := cfg.takeProfit }

theorem SentimentConfig.create_fields (cfg : SentimentConfig α) : cfg.fields.create = .ok cfg := by
  have hthreshold : ¬ (cfg.fields.polarityThreshold ≤ 0 ∨ 1 < cfg.fields.polarityThreshold) :=
    not_or.2 ⟨not_le.2 cfg.polarityThreshold_mem.1, not_lt.2 cfg.polarityThreshold_mem.2⟩
  exact (dif_neg hthreshold).trans (congrArg (Except.map _) (AlphaStrategyFields.create_base cfg.toBaseAlphaStrategy))

def KalmanPairsConfig.fields (cfg : KalmanPairsConfig α) : KalmanPairsFields α where
  strategyId := cfg.strategyId
  assetY := cfg.assetY
  assetX := cfg.assetX
  minWarmupBars := cfg.minWarmupBars
  lookbackWindow := cfg.lookbackWindow
  zEntry := cfg.zEntry
  zExit := cfg.zExit
  zStop := cfg.zStop
  maxLeverage := cfg.maxLeverage
  deltaProcessNoise := cfg.delta
  measurementNoiseR := cfg.measurementNoiseR

theorem KalmanPairsConfig.create_fields (cfg : KalmanPairsConfig α) : cfg.fields.create = .ok cfg := by
  obtain ⟨⟨⟨id, symbols, bars, leverage⟩, hid, hne, hbars, hleverage⟩, y, x, lookback, entry, exit, stop, delta, r,
      hsymbols, hassets,
    hexit, hentry⟩ := cfg
  cases hsymbols
  refine (dif_neg hassets).trans ((dif_neg (not_le.2 hexit)).trans ((dif_neg (not_le.2 hentry)).trans ?_))
  exact congrArg (Except.map _) (AlphaStrategyFields.create_base ⟨⟨id, [y, x], bars, leverage⟩, hid, hne, hbars, hleverage⟩)

variable [FloorRing α]

def VolatilityBreakoutConfig.fields (cfg : VolatilityBreakoutConfig α) : VolatilityBreakoutFields α :=
  { cfg.toAlphaStrategyFields with
    bbPeriod := cfg.bbPeriod
    bbStdDev := cfg.bbStdDev
    squeezeLookback := cfg.squeezeLookback
    squeezePercentile := cfg.squeezePct
    volExpansionThreshold := cfg.volExpansionThresh
    volumeConfirmationMult := cfg.volumeMult }

theorem VolatilityBreakoutConfig.create_fields (cfg : VolatilityBreakoutConfig α) : cfg.fields.create = .ok cfg := by
  refine (dif_neg (not_lt.2 cfg.bbPeriod_le)).trans ((dif_neg (not_not.2 cfg.squeezePct_mem)).trans
    ((dif_neg (not_lt.2 cfg.minWarmupBars_ge)).trans ?_))
  exact congrArg (Except.map _) (AlphaStrategyFields.create_base cfg.toBaseAlphaStrategy)

end Constructors

/-! ## Settings on one history -/

/-- Five bars of some symbols, every number the same. -/
noncomputable def steadyHistory : BarHistoryWindow ℝ where
  data :=
    let bars := (∅ : Dict BarField (List ℝ)).setAll
      ([.timestamp, .open, .high, .low, .close, .volume, .vwap].map fun f => (f, List.replicate 5 (lit 100)))
    (∅ : Dict String (Dict BarField (List ℝ))).setAll [("AAPL", bars), ("MSFT", bars), ("", bars)]
  symbols := ["AAPL", "MSFT", ""]
  symbols_ne := List.cons_ne_nil _ _

theorem series_steadyHistory (sym : String) (f : BarField) :
    steadyHistory.series sym f = if sym ∈ ["AAPL", "MSFT", ""] then List.replicate 5 (lit 100) else [] := by
  rw [BarHistoryWindow.series, steadyHistory]
  dsimp only
  rw [Dict.get?_setAll _ (by decide)]
  split_ifs with hsym
  · simp only [List.mem_cons, List.not_mem_nil, or_false] at hsym
    rcases hsym with rfl | rfl | rfl <;> cases f <;> rfl
  · simp only [List.mem_cons, List.not_mem_nil, or_false, not_or] at hsym
    rw [Dict.lookup_cons_ite, if_neg hsym.1, Dict.lookup_cons_ite, if_neg hsym.2.1, Dict.lookup_cons_ite, if_neg hsym.2.2]
    rfl

/-- Positive numbers, and as many in every series of a symbol. -/
def BarHistoryWindow.Regular (history : BarHistoryWindow ℝ) : Prop :=
  (∀ sym f, ∀ x ∈ history.series sym f, 0 < x) ∧ ∀ sym f, (history.series sym f).length = history.barCount sym

theorem BarHistoryWindow.Regular.priced {history : BarHistoryWindow ℝ} (h : history.Regular) : history.Priced :=
  ⟨fun sym f _ x hx => h.1 sym f x hx, fun sym x hx => (h.1 sym .volume x hx).le⟩

theorem regular_steadyHistory : steadyHistory.Regular := by
  refine ⟨fun sym f x hx => ?_, fun sym f => by rw [BarHistoryWindow.barCount, series_steadyHistory, series_steadyHistory]⟩
  rw [series_steadyHistory] at hx
  split_ifs at hx
  · rw [List.eq_of_mem_replicate hx]
    exact lit_pos.2 (by norm_num)
  · cases hx

theorem goodNews_symbol_ne : "AAPL" ≠ "" := by decide

theorem best_polarity_mem : -1 ≤ (1 : ℝ) ∧ (1 : ℝ) ≤ 1 := ⟨(neg_nonpos.2 zero_le_one).trans zero_le_one, le_rfl⟩

/-- The best news there is. -/
noncomputable def bestEvent : NewsSentimentEvent ℝ where
  symbol := "AAPL"
  timestampNs := 0
  polarity := 1
  urgency := lit (1 / 2)
  centrality := 1
  symbol_ne := goodNews_symbol_ne
  polarity_mem := best_polarity_mem

/-- It arrives at the time of the evaluation. -/
noncomputable def goodNews : StrategyContext ℝ where
  currentTimestamp := 0
  newsEvents := [bestEvent]

/-- The strategy raises on the five bars, though they pass the warm-up. -/
def Strategy.Raises (s : Strategy ℝ) (exc : StrategyExc ℝ) : Prop :=
  s.WarmedUp steadyHistory ∧ (s.computeSignals exactMath steadyHistory (some goodNews)).1 = .error exc

/-- A news strategy of one symbol. -/
noncomputable def newsConfig (symbol : String) {maxLeverage : ℝ} (h : 0 < maxLeverage) (tauFast stopLoss : ℝ) :
    SentimentConfig ℝ where
  strategyId := "news"
  monitoredSymbols := [symbol]
  minWarmupBars := 5
  maxLeverage := maxLeverage
  strategyId_ne := by decide
  monitoredSymbols_ne := List.cons_ne_nil _ _
  minWarmupBars_pos := by decide
  maxLeverage_pos := h
  polarityThreshold := lit (1 / 2)
  tauFast := tauFast
  stopLoss := stopLoss
  takeProfit := lit (4 / 100)
  polarityThreshold_mem := ⟨lit_pos.2 (by norm_num), lit_le_one.2 (by norm_num)⟩

/-- Its constructor accepts it, and it raises. -/
def SentimentConfig.Fails (cfg : SentimentConfig ℝ) (exc : StrategyExc ℝ) : Prop :=
  cfg.fields.create = .ok cfg ∧ (Strategy.sentiment cfg ∅).Raises exc

/-- Five bars are enough where the warm-up is five. -/
theorem validateWarmup_steadyHistory {base : BaseAlphaStrategy ℝ}
    (hsymbols : ∀ sym ∈ base.monitoredSymbols, sym ∈ ["AAPL", "MSFT", ""])
    (hbars : base.minWarmupBars = 5) : base.validateWarmup steadyHistory = .ok () := by
  unfold BaseAlphaStrategy.validateWarmup
  have hnone : (base.monitoredSymbols.find? fun sym => (steadyHistory.barCount sym : ℤ) < base.minWarmupBars) = none := by
    refine List.find?_eq_none.2 fun sym hsym => ?_
    rw [BarHistoryWindow.barCount, series_steadyHistory, if_pos (hsymbols sym hsym), hbars]
    simp
  rw [hnone]

theorem warmedUp_news {symbol : String} (hsymbol : symbol ∈ ["AAPL", "MSFT", ""]) {maxLeverage : ℝ} (h : 0 < maxLeverage)
    (tauFast stopLoss : ℝ) (buffer : EventBuffer ℝ) :
    (Strategy.sentiment (newsConfig symbol h tauFast stopLoss) buffer).WarmedUp steadyHistory :=
  .node (validateWarmup_steadyHistory (fun _ hsym => List.mem_singleton.1 hsym ▸ hsymbol) rfl) fun _ hsub =>
    absurd hsub List.not_mem_nil

/-- What a news strategy computes on the five bars, when the news arrives. -/
theorem computeSignals_news {symbol : String} (hsymbol : symbol ∈ ["AAPL", "MSFT", ""]) {maxLeverage : ℝ} (h : 0 < maxLeverage)
    (tauFast stopLoss : ℝ) :
    ((Strategy.sentiment (newsConfig symbol h tauFast stopLoss) ∅).computeSignals exactMath steadyHistory (some goodNews)).1 =
      (collectSignals [symbol] ((newsConfig symbol h tauFast stopLoss).signalOf exactMath
        (EventBuffer.record ∅ bestEvent) 0)).bind
        (newsConfig symbol h tauFast stopLoss).enforceLeverage := by
  rw [Strategy.computeSignals]
  unfold BaseAlphaStrategy.computeSignals
  rw [show (newsConfig symbol h tauFast stopLoss).validateWarmup steadyHistory = .ok () from
    (warmedUp_news hsymbol h tauFast stopLoss ∅).here]
  rfl

/-- A swarm over one news strategy, as it is constructed. -/
noncomputable def swarmConfig (symbol : String) : SwarmMetaConfig ℝ where
  strategyId := "swarm"
  monitoredSymbols := [symbol]
  minWarmupBars := 5
  maxLeverage := 1
  strategyId_ne := by decide
  monitoredSymbols_ne := List.cons_ne_nil _ _
  minWarmupBars_pos := by decide
  maxLeverage_pos := zero_lt_one
  learningRate := lit (5 / 100)
  priorWeight := lit (20 / 100)

noncomputable def newsSwarm (symbol : String) (stopLoss : ℝ) : Strategy ℝ :=
  .swarmMeta (swarmConfig symbol) (List.replicate 1 (1 / ((1 : ℕ) : ℝ)))
    [.sentiment (newsConfig symbol zero_lt_one (lit 7200) stopLoss) ∅]

theorem create_newsSwarm (symbol : String) (stopLoss : ℝ) :
    SwarmMetaFields.create ⟨"swarm", [symbol], lit (5 / 100), lit (20 / 100), none, 1⟩
      [.sentiment (newsConfig symbol zero_lt_one (lit 7200) stopLoss) ∅] = .ok (newsSwarm symbol stopLoss) := by
  unfold SwarmMetaFields.create
  rw [if_neg (List.cons_ne_nil _ _)]
  exact congrArg (Except.map _) (AlphaStrategyFields.create_base (swarmConfig symbol).toBaseAlphaStrategy)

theorem warmedUp_newsSwarm {symbol : String} (hsymbol : symbol ∈ ["AAPL", "MSFT", ""]) (stopLoss : ℝ) :
    (newsSwarm symbol stopLoss).WarmedUp steadyHistory := by
  refine .node (validateWarmup_steadyHistory (fun _ hsym => List.mem_singleton.1 hsym ▸ hsymbol) rfl) fun sub hsub => ?_
  cases List.mem_singleton.1 hsub
  exact warmedUp_news hsymbol zero_lt_one _ _ ∅

theorem validSignals_newsSwarm : ∃ signals, ((StrategyCall.run exactMath (.updateWeightsWithRewards [1] "BULL")
      (newsSwarm "AAPL" (lit (2 / 100)))).computeSignals exactMath steadyHistory (some goodNews)).1 = .ok signals ∧
    BaseAlphaStrategy.totalAbsWeight signals ≤ (newsSwarm "AAPL" (lit (2 / 100))).base.maxLeverage + lit (1 / 10 ^ 6) := by
  have hsymbols : ∀ sym ∈ ["AAPL"], sym ≠ "" := fun sym hsym => List.mem_singleton.1 hsym ▸ (by decide)
  have hhalf : (halfUnit 4 : ℝ) < lit (1 / 2) * 1 := by
    rw [mul_one, halfUnit_eq_lit]
    exact lit_lt_lit.2 (by norm_num)
  have hstop : (halfUnit 4 : ℝ) < lit (2 / 100) ∧ (halfUnit 4 : ℝ) < lit (4 / 100) := by
    rw [halfUnit_eq_lit]
    exact ⟨lit_lt_lit.2 (by norm_num), lit_lt_lit.2 (by norm_num)⟩
  have hone : (halfUnit 4 : ℝ) < 1 := by
    rw [halfUnit_eq_lit]
    exact (lit_lt_lit.2 (by norm_num : (1 / 2 / 10 ^ 4 : ℚ) < 1)).trans_eq Rat.cast_one
  have hnews : (newsConfig "AAPL" zero_lt_one (lit 7200) (lit (2 / 100))).Sound :=
    ⟨hsymbols, le_rfl, hhalf, lit_pos.2 (by norm_num), lit_pos.2 (by norm_num), lit_pos.2 (by norm_num)⟩
  have hsub : ∀ sub ∈ [Strategy.sentiment (newsConfig "AAPL" zero_lt_one (lit 7200) (lit (2 / 100))) ∅],
      sub.Sound ∧ sub.Forall Strategy.StopsCount := fun sub hsub => by
    cases List.mem_singleton.1 hsub
    exact ⟨⟨.node hnews fun _ h => absurd h List.not_mem_nil, fun _ h => absurd h List.not_mem_nil⟩,
      .node hstop fun _ h => absurd h List.not_mem_nil⟩
  exact validSignals (SwarmMetaFields.sound_of_create (create_newsSwarm _ _) hsymbols hone (.inl le_rfl) hsub)
    (Run.refl.tail (i := .updateWeightsWithRewards [1] "BULL") trivial rfl) regular_steadyHistory.priced
    (warmedUp_newsSwarm (by decide) _)
    (fun sym => by rw [series_steadyHistory, series_steadyHistory]) (some goodNews)

/-! ## Where the signals are refused -/

/-- Where its symbol's signal is refused, the strategy raises. -/
theorem fails_news {symbol : String} (hsymbol : symbol ∈ ["AAPL", "MSFT", ""]) {maxLeverage : ℝ} (h : 0 < maxLeverage)
    {tauFast stopLoss : ℝ} {exc : StrategyExc ℝ}
    (hexc : (newsConfig symbol h tauFast stopLoss).signalOf exactMath (EventBuffer.record ∅ bestEvent) 0 symbol = .error exc) :
    (newsConfig symbol h tauFast stopLoss).Fails exc := by
  refine ⟨SentimentConfig.create_fields _, warmedUp_news hsymbol h tauFast stopLoss ∅, ?_⟩
  rw [computeSignals_news hsymbol, collectSignals, List.mapM_cons, hexc]
  rfl

/-- A stop of zero is refused, whatever else is valid. -/
theorem create_stop_zero {f : StrategySignalFields ℝ} (h : f.Valid) :
    { f with stopLossPct := some 0 : StrategySignalFields ℝ }.create =
      .error (invalidSignal "stop_loss_pct must be finite positive float, got %" [.num 0]) := by
  have hstop : ¬ PositiveIfSome (some (0 : ℝ)) := fun h => lt_irrefl _ (h 0 rfl)
  rw [StrategySignalFields.create, dif_neg h.symbol_ne, dif_neg (not_not.2 h.targetWeight_mem),
    dif_neg (not_not.2 h.conviction_mem),
    dif_neg (not_le.2 h.targetHorizonBars_pos), dif_neg fun hd => not_le.2 (h.long_pos hd.1) hd.2,
    dif_neg fun hd => not_le.2 (h.short_neg hd.1) hd.2, dif_neg fun hd => hd.2 (h.flat_zero hd.1), dif_pos hstop]
  rfl

/-- The kernel at once is whole. -/
theorem computeDecayKernel_now (urgency : ℝ) (tauFast : ℝ) {tauSlow : ℝ} (h : tauSlow ≠ 0) :
    computeDecayKernel exactMath 0 urgency tauFast tauSlow = .ok 1 := by
  have hlimit : ¬ (lit 604800 : ℝ) < 0 := not_lt.2 (lit_pos.2 (by norm_num)).le
  have hval : (lit (1 / 2) : ℝ) * Real.exp 0 + lit (1 / 2) * (1 : ℝ)⁻¹ = 1 := by
    rw [Real.exp_zero, inv_one, mul_one, lit_add, lit]
    norm_num
  unfold computeDecayKernel
  dsimp only [exactMath]
  rw [if_neg (lt_irrefl _), if_neg hlimit, if_neg h, neg_zero, zero_div, zero_div, add_zero, if_neg one_ne_zero, hval,
    if_neg (not_lt.2 (lit_le_one.2 (by norm_num)))]

theorem delta_bestEvent : max 0 (((0 - bestEvent.timestampNs : ℤ) : ℝ) / lit (10 ^ 9)) = 0 := by
  rw [show (0 - bestEvent.timestampNs : ℤ) = 0 from rfl, Int.cast_zero, zero_div, max_self]

/-- The event in a news strategy's memory is a shock of 1. -/
theorem cumulativeShock_bestEvent {maxLeverage : ℝ} (h : 0 < maxLeverage) {tauFast : ℝ} (htau : tauFast ≠ 0) (stopLoss : ℝ) :
    (newsConfig "AAPL" h tauFast stopLoss).cumulativeShock exactMath 0 [bestEvent] = .ok (1, 1) := by
  have hslow : tauFast * lit 10 ≠ 0 := mul_ne_zero htau (lit_pos.2 (by norm_num)).ne'
  rw [SentimentConfig.cumulativeShock, delta_bestEvent]
  change (computeDecayKernel exactMath 0 bestEvent.urgency tauFast (tauFast * lit 10)).bind _ = _
  rw [computeDecayKernel_now _ _ hslow]
  have hcount : (lit (1 / 10 ^ 4) : ℝ) < 1 := (lit_lt_lit.2 (by norm_num : (1 / 10 ^ 4 : ℚ) < 1)).trans_eq Rat.cast_one
  dsimp only [bind, Except.bind, SentimentConfig.cumulativeShock, bestEvent]
  rw [mul_one, mul_one, add_zero, if_pos hcount]

/-- The signal a news strategy makes of it. -/
theorem signalOf_bestEvent {maxLeverage : ℝ} (h : 0 < maxLeverage) {tauFast : ℝ} (htau : tauFast ≠ 0) (stopLoss : ℝ) :
    (newsConfig "AAPL" h tauFast stopLoss).signalOf exactMath (EventBuffer.record ∅ bestEvent) 0 "AAPL" =
      StrategySignalFields.create
        { symbol := "AAPL"
          direction := .long
          targetWeight := roundTo maxLeverage 4
          conviction := roundTo 1 4
          targetHorizonBars := 5
          stopLossPct := some stopLoss
          takeProfitPct := some (lit (4 / 100))
          diagnostics := (∅ : Dict String (DiagValue ℝ)).setAll
            [("sentiment_shock", .float (roundTo 1 4)), ("active_events", .int 1), ("total_events", .int 1),
            ("current_ts_ns", .int 0)] } := by
  have hevents : ((EventBuffer.record ∅ bestEvent).getD "AAPL" []).filter (fun e => e.timestampNs ≤ 0) = [bestEvent] := rfl
  have hclamped : max (-1) (min 1 (1 : ℝ)) = 1 := by norm_num
  have hdirection : (newsConfig "AAPL" h tauFast stopLoss).directionalThresholding 1 = (.long, maxLeverage, 1) := by
    have hhalf : (newsConfig "AAPL" h tauFast stopLoss).polarityThreshold ≤ 1 := lit_le_one.2 (by norm_num)
    rw [SentimentConfig.directionalThresholding, if_pos hhalf, one_mul, abs_one, min_self]
    rfl
  unfold SentimentConfig.signalOf
  dsimp only
  rw [hevents, cumulativeShock_bestEvent h htau]
  dsimp only [bind, Except.bind]
  rw [hclamped, hdirection]
  rfl

theorem lit_two_pos : (0 : ℝ) < lit 2 := lit_pos.2 (by norm_num)

/-- A leverage whose half is less than half a unit of the fourth decimal. -/
theorem lit_tiny_pos : (0 : ℝ) < lit (1 / 10 ^ 5) := lit_pos.2 (by norm_num)

theorem roundTo_lit_two : roundTo (lit 2 : ℝ) 4 = lit 2 := by
  have hcast : (lit 2 : ℝ) * ((10 ^ 4 : ℕ) : ℝ) = ((20000 : ℤ) : ℝ) := by
    norm_num [lit]
  rw [roundTo, hcast, nearestInt_intCast]
  norm_num [lit]

theorem roundTo_one : roundTo (1 : ℝ) 4 = 1 := by
  have hcast : (1 : ℝ) * ((10 ^ 4 : ℕ) : ℝ) = ((10000 : ℤ) : ℝ) := by norm_num
  rw [roundTo, hcast, nearestInt_intCast]
  norm_num

/-- With a leverage of 2 the weight of a whole shock is past 1. -/
theorem fails_leverage : (newsConfig "AAPL" lit_two_pos (lit 7200) (lit (2 / 100))).Fails
    (invalidSignal "Target weight must be in [-1.0, 1.0], got %" [.num (lit 2)]) := by
  have hover : ¬ (lit 2 : ℝ) ≤ 1 := fun h => absurd (lit_le_one.1 h) (by norm_num)
  refine fails_news (by decide) lit_two_pos ?_
  rw [signalOf_bestEvent lit_two_pos (lit_pos.2 (by norm_num)).ne', roundTo_lit_two, StrategySignalFields.create,
    dif_neg (by decide : ¬ "AAPL" = ""), dif_pos fun h => hover h.2]

/-- With a small leverage the weight is rounded to zero. -/
theorem fails_rounding : (newsConfig "AAPL" lit_tiny_pos (lit 7200) (lit (2 / 100))).Fails
    (invalidSignal "LONG signal requires target_weight > 0.0, got %" [.num 0]) := by
  have htiny : (lit (1 / 10 ^ 5) : ℝ) < halfUnit 4 := by
    rw [halfUnit_eq_lit]
    exact lit_lt_lit.2 (by norm_num)
  refine fails_news (by decide) lit_tiny_pos ?_
  rw [signalOf_bestEvent lit_tiny_pos (lit_pos.2 (by norm_num)).ne', roundTo_eq_zero ⟨lit_tiny_pos.le, htiny⟩, roundTo_one,
    StrategySignalFields.create, dif_neg (by decide : ¬ "AAPL" = ""), dif_neg (not_not.2 ⟨neg_nonpos.2 zero_le_one, zero_le_one⟩),
    dif_neg (not_not.2 ⟨zero_le_one, le_rfl⟩), dif_neg (by decide : ¬ (5 : ℤ) ≤ 0), dif_pos ⟨rfl, le_rfl⟩]

/-- A stop of zero is refused. -/
theorem fails_stop : (newsConfig "AAPL" zero_lt_one (lit 7200) 0).Fails
    (invalidSignal "stop_loss_pct must be finite positive float, got %" [.num 0]) := by
  have hsmall : (halfUnit 4 : ℝ) < 1 := by
    rw [halfUnit_eq_lit]
    exact (lit_lt_lit.2 (by norm_num : (1 / 2 / 10 ^ 4 : ℚ) < 1)).trans_eq Rat.cast_one
  have hlong : Suits (halfUnit 4) .long (1 : ℝ) ∧ |(1 : ℝ)| ≤ 1 := ⟨hsmall, abs_one.le⟩
  refine fails_news (by decide) zero_lt_one ?_
  rw [signalOf_bestEvent zero_lt_one (lit_pos.2 (by norm_num)).ne']
  exact create_stop_zero (valid_rounded (by decide : "AAPL" ≠ "") hlong ⟨zero_le_one, le_rfl⟩ (by decide : (0 : ℤ) < 5)
    (zero_lt_one : (0 : ℝ) < 1) (lit_pos.2 (by norm_num) : (0 : ℝ) < lit (4 / 100)) _ 0)

/-- A decay of zero is divided by. -/
theorem fails_decay : (newsConfig "AAPL" zero_lt_one 0 (lit (2 / 100))).Fails zeroDivision := by
  have hkernel : computeDecayKernel exactMath 0 bestEvent.urgency 0 (0 * lit 10) = .error zeroDivision := by
    have hlimit : ¬ (lit 604800 : ℝ) < 0 := not_lt.2 (lit_pos.2 (by norm_num)).le
    rw [computeDecayKernel, if_neg (lt_irrefl _), if_neg hlimit, if_pos (zero_mul _)]
  have hevents : ((EventBuffer.record ∅ bestEvent).getD "AAPL" []).filter (fun e => e.timestampNs ≤ 0) = [bestEvent] := rfl
  refine fails_news (by decide) zero_lt_one ?_
  unfold SentimentConfig.signalOf
  dsimp only
  rw [hevents, SentimentConfig.cumulativeShock, delta_bestEvent]
  change ((computeDecayKernel exactMath 0 bestEvent.urgency 0 (0 * lit 10)).bind _).bind _ = _
  rw [hkernel]
  rfl

/-- The empty symbol is accepted by the strategy and refused by its signal. -/
theorem fails_symbol : (newsConfig "" zero_lt_one (lit 7200) (lit (2 / 100))).Fails
    (invalidSignal "Symbol must be non-empty string, got %" [.str ""]) := by
  have hevents : ((EventBuffer.record ∅ bestEvent).getD "" []).filter (fun e => e.timestampNs ≤ 0) = [] := rfl
  refine fails_news (by decide) zero_lt_one ?_
  unfold SentimentConfig.signalOf
  dsimp only
  rw [hevents]
  dsimp only [bind, Except.bind, SentimentConfig.cumulativeShock]
  rw [StrategySignalFields.create, dif_pos rfl]

/-- A pair whose process noise is 1. -/
noncomputable def noisyPair : KalmanPairsConfig ℝ where
  strategyId := "pairs"
  monitoredSymbols := ["AAPL", "MSFT"]
  minWarmupBars := 5
  maxLeverage := 1
  strategyId_ne := by decide
  monitoredSymbols_ne := List.cons_ne_nil _ _
  minWarmupBars_pos := by decide
  maxLeverage_pos := zero_lt_one
  assetY := "AAPL"
  assetX := "MSFT"
  lookbackWindow := 5
  zEntry := lit 2
  zExit := lit (1 / 2)
  zStop := lit 4
  delta := 1
  measurementNoiseR := lit (1 / 1000)
  monitoredSymbols_eq := rfl
  assets_ne := by decide
  zExit_lt := lit_lt_lit.2 (by norm_num)
  zEntry_lt := lit_lt_lit.2 (by norm_num)

/-- A process noise of 1 is divided by what is left of it. -/
theorem raises_noise : (Strategy.kalmanPairs noisyPair 0).Raises zeroDivision := by
  have hwarm : noisyPair.validateWarmup steadyHistory = .ok () :=
    validateWarmup_steadyHistory (fun sym hsym => List.mem_append_left [""] hsym) rfl
  refine ⟨.node hwarm fun sub hsub => absurd hsub List.not_mem_nil, ?_⟩
  · rw [Strategy.computeSignals]
    unfold BaseAlphaStrategy.computeSignals
    rw [hwarm]
    have hinit : noisyPair.initKalmanState = .error zeroDivision := if_pos (sub_self 1)
    dsimp only [KalmanPairsConfig.generateSignals]
    rw [hinit]
    rfl

/-- A breakout strategy without a lookback. -/
noncomputable def noLookback : VolatilityBreakoutConfig ℝ where
  strategyId := "breakout"
  monitoredSymbols := ["AAPL"]
  minWarmupBars := 5
  maxLeverage := 1
  strategyId_ne := by decide
  monitoredSymbols_ne := List.cons_ne_nil _ _
  minWarmupBars_pos := by decide
  maxLeverage_pos := zero_lt_one
  bbPeriod := 5
  bbStdDev := lit 2
  squeezeLookback := 0
  squeezePct := lit 15
  volExpansionThresh := lit (13 / 10)
  volumeMult := lit (115 / 100)
  bbPeriod_le := le_rfl
  squeezePct_mem := ⟨lit_pos.2 (by norm_num), lit_lt_lit.2 (by norm_num)⟩
  minWarmupBars_ge := le_rfl

/-- Without a lookback there is no last bandwidth. -/
theorem raises_lookback : (Strategy.volatilityBreakout noLookback).Raises
    ⟨.indexError, none, "index -1 is out of bounds for axis 0 with size 0", []⟩ := by
  have hwarm : noLookback.validateWarmup steadyHistory = .ok () :=
    validateWarmup_steadyHistory (fun sym hsym => List.mem_append_left ["MSFT", ""] hsym) rfl
  refine ⟨.node hwarm fun sub hsub => absurd hsub List.not_mem_nil, ?_⟩
  · rw [Strategy.computeSignals]
    unfold BaseAlphaStrategy.computeSignals
    rw [hwarm]
    have hfilter : (noLookback.monitoredSymbols.filter fun sym =>
        noLookback.minWarmupBars ≤ (steadyHistory.series sym .close).length) = ["AAPL"] := by
      rw [show noLookback.monitoredSymbols = ["AAPL"] from rfl, List.filter_singleton, series_steadyHistory]
      rfl
    have hbands : noLookback.bandwidths exactMath (steadyHistory.series "AAPL" .close) = .ok [] := if_neg (lt_irrefl _)
    dsimp only [VolatilityBreakoutConfig.generateSignals]
    rw [hfilter, collectSignals, List.mapM_cons, VolatilityBreakoutConfig.signalOf]
    dsimp only
    rw [hbands]
    rfl

/-- Without news the signal of a news strategy is flat. -/
theorem signalOf_noNews (stopLoss : ℝ) (h : 0 < stopLoss) :
    ∃ sig, (newsConfig "MSFT" zero_lt_one (lit 7200) stopLoss).signalOf exactMath
      (EventBuffer.record ∅ bestEvent) 0 "MSFT" = .ok sig ∧
      sig.targetWeight = 0 ∧ sig.conviction = 0 ∧ sig.stopLossPct = some stopLoss ∧ sig.takeProfitPct = some (lit (4 / 100)) := by
  have hevents : ((EventBuffer.record ∅ bestEvent).getD "MSFT" []).filter (fun e => e.timestampNs ≤ 0) = [] := rfl
  have hclamped : max (-1) (min 1 (0 : ℝ)) = 0 := by norm_num
  have hdirection : (newsConfig "MSFT" zero_lt_one (lit 7200) stopLoss).directionalThresholding 0 = (.flat, 0, 0) := by
    have hpos : (0 : ℝ) < (newsConfig "MSFT" zero_lt_one (lit 7200) stopLoss).polarityThreshold := lit_pos.2 (by norm_num)
    rw [SentimentConfig.directionalThresholding, if_neg (not_le.2 hpos), if_neg (not_le.2 (neg_neg_of_pos hpos))]
  unfold SentimentConfig.signalOf
  dsimp only
  rw [hevents]
  dsimp only [bind, Except.bind, SentimentConfig.cumulativeShock]
  rw [hclamped, hdirection]
  dsimp only
  have hflat : Suits (halfUnit 4) .flat (0 : ℝ) ∧ |(0 : ℝ)| ≤ 1 := ⟨rfl, abs_zero.trans_le zero_le_one⟩
  obtain ⟨sig, hcreate, hfields⟩ := StrategySignalFields.create_of_valid (valid_rounded (by decide : "MSFT" ≠ "") hflat
    ⟨le_rfl, zero_le_one⟩ (by decide : (0 : ℤ) < 5) h (lit_pos.2 (by norm_num) : (0 : ℝ) < lit (4 / 100)) _ 0)
  exact ⟨sig, hcreate, by rw [hfields]; exact roundTo_zero 4, by rw [hfields]; exact roundTo_zero 4, by rw [hfields],
    by rw [hfields]⟩

/-- The composite of one flat signal whose stop is rounded to zero. -/
theorem aggregate_thinStop {sig : StrategySignal ℝ} (hweight : sig.targetWeight = 0) (hconviction : sig.conviction = 0)
    (hstop : sig.stopLossPct = some (lit (1 / 10 ^ 5))) (htarget : sig.takeProfitPct = some (lit (4 / 100))) :
    (swarmConfig "MSFT").aggregate exactMath (List.replicate 1 (1 / ((1 : ℕ) : ℝ))) ["news"] (some goodNews)
      [(∅ : Signals ℝ).setAll [("MSFT", sig)]] =
      .error (invalidSignal "stop_loss_pct must be finite positive float, got %" [.num 0]) := by
  have hactive : (swarmConfig "MSFT").activeWeights (List.replicate 1 (1 / ((1 : ℕ) : ℝ))) 1 (upper goodNews.regimeLabel) =
      [1 / ((1 : ℕ) : ℝ)] := if_neg (by decide)
  have hcontributions : SwarmMetaConfig.contributions [1 / ((1 : ℕ) : ℝ)] [(∅ : Signals ℝ).setAll [("MSFT", sig)]] "MSFT" =
      [(1 / ((1 : ℕ) : ℝ), sig)] := rfl
  have hthreshold : (swarmConfig "MSFT").directionalThreshold 0 = (.flat, 0) := by
    have hpos : (0 : ℝ) < lit (1 / 100) := lit_pos.2 (by norm_num)
    have hneg : (lit (-1 / 100) : ℝ) < 0 := by
      rw [neg_div, lit_neg]
      exact neg_neg_of_pos hpos
    rw [SwarmMetaConfig.directionalThreshold, if_neg (not_lt.2 hpos.le), if_neg (not_lt.2 hneg.le)]
  have havg : SwarmMetaConfig.avgStop [(lit (1 / 10 ^ 5) : ℝ)] (lit (2 / 100)) = 0 := by
    have htiny : (lit (1 / 10 ^ 5) : ℝ) < halfUnit 4 := by
      rw [halfUnit_eq_lit]
      exact lit_lt_lit.2 (by norm_num)
    rw [SwarmMetaConfig.avgStop, if_neg (List.cons_ne_nil _ _), npMean, List.sum_singleton, List.length_singleton, Nat.cast_one,
      div_one, roundTo_eq_zero ⟨lit_tiny_pos.le, htiny⟩]
  have hstops : ([(1 / ((1 : ℕ) : ℝ), sig)].filterMap fun p => p.2.stopLossPct) = [lit (1 / 10 ^ 5)] := by
    rw [List.filterMap_cons, hstop]
    rfl
  have hconv : min 1 (max 0 (0 : ℝ)) = 0 := by norm_num
  unfold SwarmMetaConfig.aggregate
  dsimp only [Option.elim]
  rw [show ["news"].length = 1 from rfl, hactive, collectSignals, show (swarmConfig "MSFT").monitoredSymbols = ["MSFT"] from rfl,
    List.mapM_cons]
  unfold SwarmMetaConfig.signalOf
  dsimp only
  rw [hcontributions]
  simp only [List.map_cons, List.map_nil, List.sum_cons, List.sum_nil, hweight, hconviction, mul_zero, add_zero]
  rw [hthreshold, hstops, havg, hconv]
  dsimp only
  have hflat : Suits (halfUnit 4) .flat (0 : ℝ) ∧ |(0 : ℝ)| ≤ 1 := ⟨rfl, abs_zero.trans_le zero_le_one⟩
  have htake : (0 : ℝ) < SwarmMetaConfig.avgStop ([(1 / ((1 : ℕ) : ℝ), sig)].filterMap fun p => p.2.takeProfitPct)
      (lit (4 / 100)) := by
    refine (halfUnit_pos 4).trans (SwarmMetaConfig.halfUnit_lt_avgStop (fun y hy => ?_) (by norm_num))
    rw [List.filterMap_cons, htarget] at hy
    rw [List.mem_singleton.1 hy, halfUnit_eq_lit]
    exact lit_lt_lit.2 (by norm_num)
  rw [create_stop_zero (valid_rounded (by decide : "MSFT" ≠ "") hflat ⟨le_rfl, zero_le_one⟩ (by decide : (0 : ℤ) < 10)
    (zero_lt_one : (0 : ℝ) < 1) htake _ 0)]
  rfl

/-- A stop of a sub-strategy that is rounded to zero in the mean is refused. -/
theorem raises_average : (newsSwarm "MSFT" (lit (1 / 10 ^ 5))).Raises
    (invalidSignal "stop_loss_pct must be finite positive float, got %" [.num 0]) := by
  obtain ⟨sig, hsig, hweight, hconviction, hstop, htarget⟩ := signalOf_noNews (lit (1 / 10 ^ 5)) lit_tiny_pos
  have hwarm := warmedUp_newsSwarm (by decide : "MSFT" ∈ ["AAPL", "MSFT", ""]) (lit (1 / 10 ^ 5))
  refine ⟨hwarm, ?_⟩
  have hsub : ((Strategy.sentiment (newsConfig "MSFT" zero_lt_one (lit 7200) (lit (1 / 10 ^ 5))) ∅).computeSignals exactMath
      steadyHistory (some goodNews)).1 = .ok ((∅ : Signals ℝ).setAll [("MSFT", sig)]) := by
    have htotal : ¬ (1 : ℝ) + lit (1 / 10 ^ 6) < BaseAlphaStrategy.totalAbsWeight ((∅ : Signals ℝ).setAll [("MSFT", sig)]) := by
      have hzero : BaseAlphaStrategy.totalAbsWeight ((∅ : Signals ℝ).setAll [("MSFT", sig)]) = |sig.targetWeight| + 0 := rfl
      rw [hzero, hweight, abs_zero, add_zero, not_lt]
      exact add_nonneg zero_le_one (lit_pos.2 (by norm_num)).le
    rw [computeSignals_news (by decide), collectSignals, List.mapM_cons, hsig]
    exact if_neg htotal
  have hall : (Strategy.computeAll exactMath steadyHistory (some goodNews)
      [.sentiment (newsConfig "MSFT" zero_lt_one (lit 7200) (lit (1 / 10 ^ 5))) ∅]).1 =
      .ok [(∅ : Signals ℝ).setAll [("MSFT", sig)]] := by
    rw [Strategy.computeAll]
    split
    · rename_i heq
      rw [heq] at hsub
      cases hsub
    · rename_i heq
      rw [heq] at hsub
      cases hsub
      rfl
  rw [newsSwarm, Strategy.computeSignals]
  unfold BaseAlphaStrategy.computeSignals
  rw [show (swarmConfig "MSFT").validateWarmup steadyHistory = .ok () from hwarm.here]
  dsimp only
  rw [hall]
  exact congrArg (Except.bind · _) (aggregate_thinStop hweight hconviction hstop htarget)

/-- Strategies that their constructors accept raise on a regular history: with a leverage of 2, with a leverage or a stop that is
rounded to zero, with an empty symbol, a stop or a decay of zero, a process noise of 1, and no lookback. -/
theorem validSignals_counterexample :
    steadyHistory.Regular ∧
      (newsConfig "AAPL" lit_two_pos (lit 7200) (lit (2 / 100))).Fails
        (invalidSignal "Target weight must be in [-1.0, 1.0], got %" [.num (lit 2)]) ∧
      (newsConfig "AAPL" lit_tiny_pos (lit 7200) (lit (2 / 100))).Fails
        (invalidSignal "LONG signal requires target_weight > 0.0, got %" [.num 0]) ∧
      (newsConfig "" zero_lt_one (lit 7200) (lit (2 / 100))).Fails
        (invalidSignal "Symbol must be non-empty string, got %" [.str ""]) ∧
      (newsConfig "AAPL" zero_lt_one (lit 7200) 0).Fails
        (invalidSignal "stop_loss_pct must be finite positive float, got %" [.num 0]) ∧
      (newsConfig "AAPL" zero_lt_one 0 (lit (2 / 100))).Fails zeroDivision ∧
      (noisyPair.fields.create = .ok noisyPair ∧ (Strategy.kalmanPairs noisyPair 0).Raises zeroDivision) ∧
      (noLookback.fields.create = .ok noLookback ∧ (Strategy.volatilityBreakout noLookback).Raises
        ⟨.indexError, none, "index -1 is out of bounds for axis 0 with size 0", []⟩) ∧
      (newsSwarm "MSFT" (lit (1 / 10 ^ 5))).Raises
      (invalidSignal "stop_loss_pct must be finite positive float, got %" [.num 0]) :=
  ⟨regular_steadyHistory, fails_leverage, fails_rounding, fails_symbol, fails_stop, fails_decay,
    ⟨noisyPair.create_fields, raises_noise⟩, ⟨noLookback.create_fields, raises_lookback⟩, raises_average⟩

end Quant
