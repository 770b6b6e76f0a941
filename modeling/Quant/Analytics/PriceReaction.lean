import Quant.Analytics.Strategies.Sentiment

/-!
# Price reactions

`NewsPriceReactionEngine` of `analytics/price_reaction.py`. Numbers are exact and finite, so the checks for values that are not
finite have no case here. The clock is an argument.
-/

namespace Quant

open Pylib

inductive EventType where
  | earnings
  | macroFed
  | mAndA
  | regulatoryLegal
  | analystAction
  | generalMarket
  deriving DecidableEq, Repr

section PriceReaction

variable {α : Type} [Field α]

/-- `CATEGORY_ELASTICITY`. -/
def categoryElasticity : EventType → α
  | .mAndA => lit (7 / 2)
  | .earnings => lit (5 / 2)
  | .macroFed => lit 2
  | .regulatoryLegal => lit (6 / 5)
  | .analystAction => lit (4 / 5)
  | .generalMarket => lit (2 / 5)

/-- `DEFAULT_FORECAST_HORIZONS`. -/
def defaultForecastHorizons : List α := [0, lit 300, lit 900, lit 3600, lit 14400, lit 86400, lit 259200]

/-- What the engine reads of a classified event: the classifier clips its shocks. -/
structure ClassifiedNewsEvent (α : Type) [Field α] [LE α] where
  eventType : EventType
  urgency : α
  entityCentrality : Dict String α
  compositeShock : Dict String α
  compositeShock_mem : ∀ shock ∈ compositeShock.values, -1 ≤ shock ∧ shock ≤ 1

inductive ReactionSignal where
  | buy
  | sell
  | neutral
  deriving DecidableEq, Repr

structure PriceReactionPrediction (α : Type) where
  ticker : String
  eventType : EventType
  currentPrice : α
  expectedDeltaPrice : α
  targetPrice : α
  probUp : α
  probDown : α
  barrierUpper : α
  barrierLower : α
  signal : ReactionSignal
  confidence : α
  predictedTrajectory : List (α × α)
  calculationLatencyMs : α
  createdAt : ℤ

structure NewsPriceReactionEngine (α : Type) where
  barrierMultiplier : α
  sensitivityLambda : α
  maxLatencyMs : α
  forecastHorizons : List α

/-- The engine with the default arguments. -/
def defaultReactionEngine : NewsPriceReactionEngine α := ⟨lit 2, lit (3 / 2), lit 50, defaultForecastHorizons⟩

/-- What the clock reads during a call: the date, and the milliseconds that have passed at each forecast. -/
structure PredictClock (α : Type) where
  nowUtc : ℤ
  elapsedMs : ℕ → α

variable [LinearOrder α]

/-- `_validate_inputs`. -/
def validatePriceInputs (price volatility : α) : Except (StrategyExc α) Unit :=
  if price ≤ 0 then .error ⟨.nonFiniteSignal, some "ERR-NEWS-005", "Price must be strictly positive: %", [.num price]⟩
  else if volatility ≤ 0 then
    .error ⟨.nonFiniteSignal, some "ERR-NEWS-005", "Volatility must be strictly positive: %", [.num volatility]⟩
  else .ok ()

/-- `prob_up` of a shock, with the elasticity of its category. -/
def breakoutProbability (M : StrategyMath α) (lambda shock gamma volatility : α) : α :=
  let safeVol := max volatility (lit (1 / 10 ^ 5))
  let exponent := clip (-(lambda * shock * gamma) / safeVol) (-lit 50) (lit 50)
  1 / (1 + M.exp exponent)

namespace NewsPriceReactionEngine

variable (M : StrategyMath α) (engine : NewsPriceReactionEngine α)

/-- The trajectory of a move from the current price. -/
def trajectory (urgency currentPrice expectedDelta : α) : Except (StrategyExc α) (List (α × α)) :=
  engine.forecastHorizons.mapM fun h => do
    let decay ← computeDecayKernel M h urgency (lit 3600) (lit 86400)
    return (h, currentPrice + expectedDelta * decay)

/-- The forecast of a ticker: one turn of the loop of `predict`. -/
def predictTicker (event : ClassifiedNewsEvent α) (prices volatilities : Dict String α) (nowUtc : ℤ) (elapsedMs : α)
    (ticker : String) :
    Except (StrategyExc α) (PriceReactionPrediction α) := do
  let gamma := categoryElasticity event.eventType
  let currentPrice := prices.getD ticker (lit 100)
  let volatility := volatilities.getD ticker (lit (2 / 100))
  validatePriceInputs currentPrice volatility
  let shock := event.compositeShock.getD ticker 0
  let expectedDelta := currentPrice * gamma * shock * volatility
  let probUp := breakoutProbability M engine.sensitivityLambda shock gamma volatility
  let trajectory ← engine.trajectory M event.urgency currentPrice expectedDelta
  if engine.maxLatencyMs < elapsedMs then
    .error ⟨.reactionPredictionTimeout, some "ERR-NEWS-006",
      "Prediction calculation latency %ms exceeded deadline %ms (INV-NEWS-006).", [.num elapsedMs, .num engine.maxLatencyMs]⟩
  else
    .ok
      { ticker := ticker
        eventType := event.eventType
        currentPrice := currentPrice
        expectedDeltaPrice := expectedDelta
        targetPrice := currentPrice + expectedDelta
        probUp := probUp
        probDown := 1 - probUp
        barrierUpper := currentPrice * M.exp (engine.barrierMultiplier * volatility)
        barrierLower := currentPrice * M.exp (-engine.barrierMultiplier * volatility)
        signal := if lit (65 / 100) ≤ probUp then .buy else if probUp ≤ lit (35 / 100) then .sell else .neutral
        confidence := clip (lit 2 * |probUp - lit (1 / 2)|) 0 1
        predictedTrajectory := trajectory
        calculationLatencyMs := elapsedMs
        createdAt := nowUtc }

/-- `predict`. -/
def predict (event : ClassifiedNewsEvent α) (prices volatilities : Dict String α) (clock : PredictClock α) :
    Except (StrategyExc α) (List (PriceReactionPrediction α)) :=
  event.entityCentrality.keys.zipIdx.mapM fun entry =>
    engine.predictTicker M event prices volatilities clock.nowUtc (clock.elapsedMs entry.2) entry.1

end NewsPriceReactionEngine

end PriceReaction

end Quant
