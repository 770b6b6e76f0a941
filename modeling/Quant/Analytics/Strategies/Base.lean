import Quant.Exceptions
import Quant.Pylib.Dict
import Quant.Pylib.Series

/-!
# Strategies: signals, histories and the template method

`analytics/strategies/base.py`, over any ordered field with floors. Numbers are exact and finite, so the checks for `NaN` and for
types have no case here.
-/

namespace Quant

open Pylib

/-! ## Exceptions -/

inductive StrategyExcClass where
  | strategyError
  | insufficientWarmup
  | invalidSignal
  | zeroDivisionError
  | indexError
  | valueError
  | runtimeError
  | invalidSizingInput
  | nonFiniteSignal
  | reactionPredictionTimeout
  deriving DecidableEq, Repr

/-- A value in a message. -/
inductive StrategyArg (α : Type) where
  | num (x : α)
  | int (k : ℤ)
  | str (s : String)

/-- A raised exception, with its code where it is a `StrategyError`. -/
structure StrategyExc (α : Type) where
  cls : StrategyExcClass
  code : Option String
  text : String
  args : List (StrategyArg α) := []

section Errors

variable {α : Type}

def strategyError (text : String) (args : List (StrategyArg α)) : StrategyExc α :=
  ⟨.strategyError, some "ERR-STRAT-000", text, args⟩

def invalidSignal (text : String) (args : List (StrategyArg α)) : StrategyExc α :=
  ⟨.invalidSignal, some "ERR-STRAT-005", text, args⟩

def zeroDivision : StrategyExc α := ⟨.zeroDivisionError, none, "float division by zero", []⟩

end Errors

/-- The functions of `math` and numpy that the strategies call. -/
structure StrategyMath (α : Type) where
  log : α → α
  exp : α → α
  tanh : α → α
  sqrt : α → α

/-! ## Signals -/

inductive SignalDirection where
  | long
  | short
  | flat
  deriving DecidableEq, Repr

/-- A value among the diagnostics. -/
inductive DiagValue (α : Type) where
  | float (x : α)
  | int (k : ℤ)
  | str (s : String)

/-- The fields of a signal. -/
structure StrategySignalFields (α : Type) where
  symbol : String
  direction : SignalDirection
  targetWeight : α
  conviction : α
  targetHorizonBars : ℤ
  stopLossPct : Option α := none
  takeProfitPct : Option α := none
  diagnostics : Dict String (DiagValue α) := ∅
  timestamp : ℤ := 0

section Signals

variable {α : Type} [Field α] [LinearOrder α] [FloorRing α]

/-- `math.isclose(x, 0.0, abs_tol=1e-7)`. -/
def IsCloseToZero (x : α) : Prop := |x| ≤ max (lit (1 / 10 ^ 9) * |x|) (lit (1 / 10 ^ 7))

instance (x : α) : Decidable (IsCloseToZero x) :=
  inferInstanceAs (Decidable (|x| ≤ max (lit (1 / 10 ^ 9) * |x|) (lit (1 / 10 ^ 7))))

/-- A stop or a target, where there is one, is positive. -/
def PositiveIfSome (x : Option α) : Prop := ∀ y, x = some y → 0 < y

instance (x : Option α) : Decidable (PositiveIfSome x) :=
  match x with
  | none => isTrue fun _ h => by cases h
  | some y => decidable_of_iff (0 < y) ⟨fun h _ hy => Option.some.inj hy ▸ h, fun h => h y rfl⟩

/-- A signal its constructor accepted. -/
structure StrategySignal (α : Type) [Field α] [LinearOrder α] [FloorRing α] extends StrategySignalFields α where
  symbol_ne : symbol ≠ ""
  targetWeight_mem : -1 ≤ targetWeight ∧ targetWeight ≤ 1
  conviction_mem : 0 ≤ conviction ∧ conviction ≤ 1
  targetHorizonBars_pos : 0 < targetHorizonBars
  long_pos : direction = .long → 0 < targetWeight
  short_neg : direction = .short → targetWeight < 0
  flat_zero : direction = .flat → IsCloseToZero targetWeight
  stopLossPct_pos : PositiveIfSome stopLossPct
  takeProfitPct_pos : PositiveIfSome takeProfitPct

/-- `StrategySignal.__post_init__`. -/
def StrategySignalFields.create (f : StrategySignalFields α) : Except (StrategyExc α) (StrategySignal α) :=
  if h1 : f.symbol = "" then .error (invalidSignal "Symbol must be non-empty string, got %" [.str f.symbol])
  else if h2 : ¬ (-1 ≤ f.targetWeight ∧ f.targetWeight ≤ 1) then
    .error (invalidSignal "Target weight must be in [-1.0, 1.0], got %" [.num f.targetWeight])
  else if h3 : ¬ (0 ≤ f.conviction ∧ f.conviction ≤ 1) then
    .error (invalidSignal "Conviction must be in [0.0, 1.0], got %" [.num f.conviction])
  else if h4 : f.targetHorizonBars ≤ 0 then
    .error (invalidSignal "target_horizon_bars must be integer > 0, got %" [.int f.targetHorizonBars])
  else if h5 : f.direction = .long ∧ f.targetWeight ≤ 0 then
    .error (invalidSignal "LONG signal requires target_weight > 0.0, got %" [.num f.targetWeight])
  else if h6 : f.direction = .short ∧ 0 ≤ f.targetWeight then
    .error (invalidSignal "SHORT signal requires target_weight < 0.0, got %" [.num f.targetWeight])
  else if h7 : f.direction = .flat ∧ ¬ IsCloseToZero f.targetWeight then
    .error (invalidSignal "FLAT signal requires target_weight == 0.0, got %" [.num f.targetWeight])
  else if h8 : ¬ PositiveIfSome f.stopLossPct then
    .error (invalidSignal "stop_loss_pct must be finite positive float, got %" (f.stopLossPct.toList.map .num))
  else if h9 : ¬ PositiveIfSome f.takeProfitPct then
    .error (invalidSignal "take_profit_pct must be finite positive float, got %" (f.takeProfitPct.toList.map .num))
  else .ok
    { f with
      symbol_ne := h1
      targetWeight_mem := not_not.1 h2
      conviction_mem := not_not.1 h3
      targetHorizonBars_pos := not_le.1 h4
      long_pos := fun hd => not_le.1 fun hw => h5 ⟨hd, hw⟩
      short_neg := fun hd => not_le.1 fun hw => h6 ⟨hd, hw⟩
      flat_zero := fun hd => not_not.1 fun hw => h7 ⟨hd, hw⟩
      stopLossPct_pos := not_not.1 h8
      takeProfitPct_pos := not_not.1 h9 }

end Signals

/-! ## Histories and contexts -/

inductive BarField where
  | timestamp
  | open
  | high
  | low
  | close
  | volume
  | vwap
  deriving DecidableEq, Repr

/-- The series of each symbol. -/
structure BarHistoryWindow (α : Type) where
  data : Dict String (Dict BarField (List α))
  symbols : List String
  symbols_ne : symbols ≠ []

namespace BarHistoryWindow

variable {α : Type}

/-- `_get_series`: empty where it is missing. -/
def series (history : BarHistoryWindow α) (symbol : String) (f : BarField) : List α :=
  ((history.data.get? symbol).bind fun symDict => symDict.get? f).getD []

def barCount (history : BarHistoryWindow α) (symbol : String) : ℕ := (history.series symbol .close).length

end BarHistoryWindow

/-- A parsed news event. -/
structure NewsSentimentEvent (α : Type) [Field α] [LinearOrder α] where
  symbol : String
  timestampNs : ℤ
  polarity : α
  urgency : α
  centrality : α
  symbol_ne : symbol ≠ ""
  polarity_mem : -1 ≤ polarity ∧ polarity ≤ 1

/-- What the strategies read of a `StrategyContext`: the news events are those of its metadata, where it has them. -/
structure StrategyContext (α : Type) [Field α] [LinearOrder α] where
  currentTimestamp : ℤ
  regimeLabel : String := "NORMAL"
  newsEvents : List (NewsSentimentEvent α) := []

/-! ## The template -/

section Template

variable {α : Type} [Field α] [LinearOrder α] [FloorRing α]

/-- The arguments of the base constructor. -/
structure AlphaStrategyFields (α : Type) where
  strategyId : String
  monitoredSymbols : List String
  minWarmupBars : ℤ
  maxLeverage : α

/-- The attributes of a strategy that the base constructor accepted. -/
structure BaseAlphaStrategy (α : Type) [Field α] [LinearOrder α] extends AlphaStrategyFields α where
  strategyId_ne : strategyId ≠ ""
  monitoredSymbols_ne : monitoredSymbols ≠ []
  minWarmupBars_pos : 0 < minWarmupBars
  maxLeverage_pos : 0 < maxLeverage

/-- `BaseAlphaStrategy.__init__`. -/
def AlphaStrategyFields.create (f : AlphaStrategyFields α) :
    Except (StrategyExc α) {base : BaseAlphaStrategy α // base.toAlphaStrategyFields = f} :=
  if h1 : f.strategyId = "" then .error (strategyError "strategy_id must be non-empty string" [])
  else if h2 : f.monitoredSymbols = [] then .error (strategyError "monitored_symbols must be non-empty sequence" [])
  else if h3 : f.minWarmupBars ≤ 0 then .error (strategyError "min_warmup_bars must be positive integer" [])
  else if h4 : f.maxLeverage ≤ 0 then .error (strategyError "max_leverage must be positive finite float" [])
  else .ok
    ⟨{ f with
        strategyId_ne := h1
        monitoredSymbols_ne := h2
        minWarmupBars_pos := not_le.1 h3
        maxLeverage_pos := not_le.1 h4 }, rfl⟩

abbrev Signals (α : Type) [Field α] [LinearOrder α] [FloorRing α] := Dict String (StrategySignal α)

namespace BaseAlphaStrategy

variable (base : BaseAlphaStrategy α)

/-- `validate_warmup`. -/
def validateWarmup (history : BarHistoryWindow α) : Except (StrategyExc α) Unit :=
  match base.monitoredSymbols.find? fun sym => (history.barCount sym : ℤ) < base.minWarmupBars with
  | some sym => .error ⟨.insufficientWarmup, some "ERR-STRAT-001",
      "Strategy % requires at least % bars for symbol %, but received only % observations.",
      [.str base.strategyId, .int base.minWarmupBars, .str sym, .int (history.barCount sym)]⟩
  | none => .ok ()

/-- `total_abs_weight`. -/
def totalAbsWeight (signals : Signals α) : α := (signals.values.map fun sig => |sig.targetWeight|).sum

/-- The end of `compute_signals`: the weights are scaled down where they exceed the leverage. -/
def enforceLeverage (signals : Signals α) : Except (StrategyExc α) (Signals α) :=
  let totalAbsWeight := totalAbsWeight signals
  if base.maxLeverage + lit (1 / 10 ^ 6) < totalAbsWeight then do
    let scale := base.maxLeverage / totalAbsWeight
    let scaled ← signals.values.mapM fun sig =>
      { sig.toStrategySignalFields with targetWeight := sig.targetWeight * scale }.create
    .ok ((∅ : Signals α).setAll (signals.keys.zip scaled))
  else .ok signals

end BaseAlphaStrategy

/-- The signals of some symbols, made one after the other. -/
def collectSignals (symbols : List String) (f : String → Except (StrategyExc α) (StrategySignal α)) :
    Except (StrategyExc α) (Signals α) := do
  let signals ← symbols.mapM f
  .ok ((∅ : Signals α).setAll (symbols.zip signals))

end Template

end Quant
