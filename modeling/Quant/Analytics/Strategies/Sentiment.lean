import Quant.Analytics.Strategies.Base

/-!
# News sentiment

`LoughranMcDonaldSentimentStrategy` of `analytics/strategies/sentiment.py`, with `compute_decay_kernel` of
`analytics/price_reaction.py` at the defaults it is called with. Headlines come in already scored.
-/

namespace Quant

open Pylib

/-- The arguments of the constructor. -/
structure SentimentFields (α : Type) extends AlphaStrategyFields α where
  polarityThreshold : α
  decayHalfLifeSeconds : α
  stopLossPct : α
  takeProfitPct : α

/-- The attributes of a strategy its constructor accepted, but for the recorded events. -/
structure SentimentConfig (α : Type) [Field α] [LinearOrder α] extends BaseAlphaStrategy α where
  polarityThreshold : α
  tauFast : α
  stopLoss : α
  takeProfit : α
  polarityThreshold_mem : 0 < polarityThreshold ∧ polarityThreshold ≤ 1

/-- The events recorded, by symbol. -/
abbrev EventBuffer (α : Type) [Field α] [LinearOrder α] := Dict String (List (NewsSentimentEvent α))

section Sentiment

variable {α : Type} [Field α] [LinearOrder α] [FloorRing α]

/-- `LoughranMcDonaldSentimentStrategy.__init__`. -/
def SentimentFields.create (f : SentimentFields α) : Except (StrategyExc α) (SentimentConfig α) :=
  if h : f.polarityThreshold ≤ 0 ∨ 1 < f.polarityThreshold then
    .error ⟨.strategyError, some "ERR-STRAT-030", "polarity_threshold must be in (0.0, 1.0], got %", [.num f.polarityThreshold]⟩
  else
    f.toAlphaStrategyFields.create.map fun base =>
      { base.1 with
        polarityThreshold := f.polarityThreshold
        tauFast := f.decayHalfLifeSeconds
        stopLoss := f.stopLossPct
        takeProfit := f.takeProfitPct
        polarityThreshold_mem := ⟨not_le.1 fun hle => h (.inl hle), not_lt.1 fun hlt => h (.inr hlt)⟩ }

/-- `record_event`. -/
def EventBuffer.record (buffer : EventBuffer α) (event : NewsSentimentEvent α) : EventBuffer α :=
  buffer.set event.symbol (buffer.getD event.symbol [] ++ [event])

/-- `compute_decay_kernel`, with `alpha` 0.5, `beta` 1 and the default bounds. -/
def computeDecayKernel (M : StrategyMath α) (deltaTSeconds urgency tauFast tauSlow : α) : Except (StrategyExc α) α :=
  if deltaTSeconds < 0 then .ok 0
  else if lit 604800 < deltaTSeconds then .ok 0
  else
    let clampedU := min (max urgency 0) (lit (999 / 1000))
    let fastDenom := max (tauFast * (1 - clampedU)) (lit (1 / 10 ^ 6))
    let termFast := lit (1 / 2) * M.exp (-deltaTSeconds / fastDenom)
    if tauSlow = 0 then .error zeroDivision
    else
      let base := 1 + deltaTSeconds / tauSlow
      if base = 0 then .error ⟨.valueError, none, "math domain error", []⟩
      else
        let val := termFast + lit (1 / 2) * base⁻¹
        .ok (if val < lit (1 / 10 ^ 4) then 0 else val)

namespace SentimentConfig

variable (M : StrategyMath α) (cfg : SentimentConfig α)

/-- `current_ts_ns`. -/
def currentTs (history : BarHistoryWindow α) : Option (StrategyContext α) → ℤ
  | some context => context.currentTimestamp
  | none =>
    cfg.monitoredSymbols.foldl
      (fun current sym =>
        match (history.series sym .timestamp).getLast? with
        | some ts => max current (if 0 ≤ ts then ⌊ts⌋ else ⌈ts⌉)
        | none => current) 0

/-- The events of the context are recorded first. -/
def ingest (buffer : EventBuffer α) : Option (StrategyContext α) → EventBuffer α
  | some context => context.newsEvents.foldl EventBuffer.record buffer
  | none => buffer

/-- `cumulative_shock` and `event_count`. -/
def cumulativeShock (currentTsNs : ℤ) : List (NewsSentimentEvent α) → Except (StrategyExc α) (α × ℕ)
  | [] => .ok (0, 0)
  | ev :: events => do
    let deltaTSec := max 0 (((currentTsNs - ev.timestampNs : ℤ) : α) / lit (10 ^ 9))
    let weight ← computeDecayKernel M deltaTSec ev.urgency cfg.tauFast (cfg.tauFast * lit 10)
    let (shock, count) ← cumulativeShock currentTsNs events
    .ok (ev.polarity * weight * ev.centrality + shock, if lit (1 / 10 ^ 4) < weight then count + 1 else count)

/-- The direction, the weight and the conviction of a shock. -/
def directionalThresholding (clampedShock : α) : SignalDirection × α × α :=
  if cfg.polarityThreshold ≤ clampedShock then (.long, clampedShock * cfg.maxLeverage, min 1 |clampedShock|)
  else if clampedShock ≤ -cfg.polarityThreshold then (.short, clampedShock * cfg.maxLeverage, min 1 |clampedShock|)
  else (.flat, 0, 0)

/-- The signal of a symbol from its events. -/
def signalOf (buffer : EventBuffer α) (currentTsNs : ℤ) (sym : String) : Except (StrategyExc α) (StrategySignal α) := do
  let validEvents := (buffer.getD sym []).filter fun e => e.timestampNs ≤ currentTsNs
  let (cumulativeShock, eventCount) ← cfg.cumulativeShock M currentTsNs validEvents
  let clampedShock := max (-1) (min 1 cumulativeShock)
  let (direction, targetW, conviction) := cfg.directionalThresholding clampedShock
  StrategySignalFields.create
    { symbol := sym
      direction := direction
      targetWeight := roundTo targetW 4
      conviction := roundTo conviction 4
      targetHorizonBars := 5
      stopLossPct := some cfg.stopLoss
      takeProfitPct := some cfg.takeProfit
      diagnostics := (∅ : Dict String (DiagValue α)).setAll
        [("sentiment_shock", .float (roundTo clampedShock 4)), ("active_events", .int eventCount),
          ("total_events", .int validEvents.length), ("current_ts_ns", .int currentTsNs)]
      timestamp := currentTsNs }

/-- `_generate_signals`, with the events recorded after it. -/
def generateSignals (history : BarHistoryWindow α) (context : Option (StrategyContext α)) (buffer : EventBuffer α) :
    Except (StrategyExc α) (Signals α) × EventBuffer α :=
  let currentTsNs := cfg.currentTs history context
  let buffer := ingest buffer context
  (collectSignals cfg.monitoredSymbols (cfg.signalOf M buffer currentTsNs), buffer)

end SentimentConfig

end Sentiment

end Quant
