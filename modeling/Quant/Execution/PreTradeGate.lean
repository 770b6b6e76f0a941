import Quant.Pylib.Decimal
import Quant.Pylib.Text

/-!
# The pre-trade decision gate

`execution/pre_trade_gate.py`, over any ordered field with floors. Numbers are finite, so the checks for `NaN` have no case here;
`log`, `exp`, the rounding of every result and the nanoseconds an evaluation takes are parameters.
-/

namespace Quant

open Pylib

/-! ## Codes, texts and records -/

def errGateStaleData : String := "ERR-GATE-001"
def errGateMacroRegimeConflict : String := "ERR-GATE-002"
def errGateDrawdownBudgetExceeded : String := "ERR-GATE-003"
def errGateConsecutiveLossBreach : String := "ERR-GATE-004"
def errGateToxicFlowDetected : String := "ERR-GATE-005"
def errGateNonFiniteInput : String := "ERR-GATE-006"

/-- A piece of a formatted text: a number stands with its decimals where it is rounded. -/
inductive TextPart (α : Type) where
  | str (s : String)
  | num (x : α) (decimals : Option ℕ := none)
  | int (k : ℤ)

/-- A `PreTradeGateError`: `NonFiniteGateInputException` is the one that is raised. -/
structure PreTradeGateError (α : Type) where
  message : List (TextPart α)
  code : String := errGateNonFiniteInput

inductive GateDecision where
  | pass
  | reject
  | bypassExit
  deriving DecidableEq, Repr

inductive DimensionName where
  | dataFreshness
  | macroRegime
  | microstructureToxicity
  | momentumAlignment
  | capitalRiskBudget
  deriving DecidableEq, Repr

/-- A `DimensionCheck`. -/
structure DimensionCheck (α : Type) where
  name : DimensionName
  passed : Bool
  score : α
  details : List (TextPart α)

/-- The fields of a `PreTradeDecisionRequest`. -/
structure PreTradeDecisionFields (α : Type) where
  orderId : String
  symbol : String
  action : String
  quantity : α
  referencePrice : α
  timestampNs : ℤ
  isPositionExit : Bool
  marketSpreadBps : α
  orderBookImbalance : α
  macroYieldSpread : α
  trailingVolatilityPct : α
  currentBarReturnPct : α
  consecutiveLosses : ℤ
  currentDrawdownPct : α
  cvar95Pct : α
  dataAgeSeconds : α

/-- A `PreTradeDecisionResult`. -/
structure PreTradeDecisionResult (α : Type) where
  decisionId : String
  orderId : String
  symbol : String
  action : String
  allowed : Bool
  decision : GateDecision
  toxicityProbability : α
  confidence : α
  primaryCode : String
  reason : List (TextPart α)
  checks : List (DimensionCheck α)
  latencyUs : α

/-- The functions of `math` that the gate calls, and the rounding of its arithmetic. -/
structure GateMath (α : Type) where
  log : α → α
  exp : α → α
  round : α → α

/-- A `PreTradeDecisionGate` and its rolling history. -/
structure PreTradeDecisionGate (α : Type) where
  maxHistory : ℤ
  history : List (PreTradeDecisionResult α)

section Gate

variable {α : Type} [Field α] [LinearOrder α] [FloorRing α] (M : GateMath α)

/-- A literal. -/
def GateMath.num (q : ℚ) : α := M.round (lit q)

/-- The fields that have no default, the others at theirs. -/
def PreTradeDecisionFields.withDefaults (orderId symbol action : String) (quantity referencePrice : α) (timestampNs : ℤ) :
    PreTradeDecisionFields α where
  orderId := orderId
  symbol := symbol
  action := action
  quantity := quantity
  referencePrice := referencePrice
  timestampNs := timestampNs
  isPositionExit := false
  marketSpreadBps := M.num 5
  orderBookImbalance := 0
  macroYieldSpread := M.num (18 / 100)
  trailingVolatilityPct := M.num (12 / 10)
  currentBarReturnPct := M.num (5 / 100)
  consecutiveLosses := 0
  currentDrawdownPct := 0
  cvar95Pct := M.num (25 / 10)
  dataAgeSeconds := 1

variable (α) in
/-- A `PreTradeDecisionRequest`. -/
structure PreTradeDecisionRequest extends PreTradeDecisionFields α where
  quantity_pos : 0 < quantity
  referencePrice_pos : 0 < referencePrice

/-- `PreTradeDecisionRequest.__post_init__`. -/
def PreTradeDecisionFields.create (f : PreTradeDecisionFields α) : Except (PreTradeGateError α) (PreTradeDecisionRequest α) :=
  if h1 : f.quantity ≤ 0 then
    .error { message := [.str "quantity must be finite positive float, got ", .num f.quantity] }
  else if h2 : f.referencePrice ≤ 0 then
    .error { message := [.str "reference_price must be finite positive float, got ", .num f.referencePrice] }
  else .ok { f with quantity_pos := not_le.1 h1, referencePrice_pos := not_le.1 h2 }

/-! ## The constants of the gate -/

def maxToxicProbabilityThreshold : α := M.num (65 / 100)
def maxDataAgeSeconds : α := M.num 120
def maxConsecutiveLosses : ℤ := 4
def maxDrawdownThresholdPct : α := M.num 15

/-- `PRIOR_LOG_ODDS`. -/
def priorLogOdds : α := M.log (M.round (M.num (10 / 100) / M.num (90 / 100)))

/-! ## The five dimensions -/

namespace PreTradeDecisionRequest

variable (request : PreTradeDecisionRequest α)

def actionClean : String := upper (strip request.action)

/-- Exits bypass the gate. -/
def isExit : Bool := request.isPositionExit || request.actionClean ∈ ["CLOSE", "LIQUIDATE"]

def isBuying : Bool := request.actionClean ∈ ["BUY", "OPEN_LONG"]

end PreTradeDecisionRequest

/-- A code with the reason that goes with it. -/
structure Diagnosis (α : Type) where
  code : String
  reason : List (TextPart α)

/-- What a dimension finds: its check, and the diagnoses it makes in order. -/
structure Assessment (α : Type) where
  check : DimensionCheck α
  diagnoses : List (Diagnosis α)

/-- Dimension A: data freshness. -/
def dataFreshness (request : PreTradeDecisionRequest α) : Assessment α :=
  let age := request.dataAgeSeconds
  let isFresh := decide (age ≤ maxDataAgeSeconds M)
  { check :=
      { name := .dataFreshness
        passed := isFresh
        score := if isFresh then 0 else M.num (25 / 10)
        details := [.str "Data age ", .num age (some 1), .str "s"] }
    diagnoses :=
      if isFresh then []
      else [⟨errGateStaleData, [.str "Market data stale (", .num age (some 1), .str "s > ",
        .num (maxDataAgeSeconds M), .str "s)"]⟩] }

/-- The score and the reason of dimension B where it fails. -/
def toxicFlow (request : PreTradeDecisionRequest α) : Option (α × List (TextPart α)) :=
  let obi := request.orderBookImbalance
  if request.isBuying ∧ obi < -M.num (35 / 100) then
    some (M.round (M.num 2 * |obi|),
      [.str "Adverse order book imbalance (OBI=", .num obi (some 2), .str " indicates heavy selling pressure)"])
  else if ¬ request.isBuying ∧ M.num (35 / 100) < obi then
    some (M.round (M.num 2 * |obi|),
      [.str "Adverse order book imbalance (OBI=", .num obi (some 2), .str " indicates heavy bid absorption)"])
  else if M.num 35 < request.marketSpreadBps then
    some (M.num (15 / 10), [.str "Excessive bid-ask spread width (", .num request.marketSpreadBps (some 1), .str " bps)"])
  else none

/-- Dimension B: microstructure toxicity and the imbalance of the order book. -/
def microstructureToxicity (request : PreTradeDecisionRequest α) : Assessment α :=
  let found := toxicFlow M request
  { check :=
      { name := .microstructureToxicity
        passed := found.isNone
        score := found.elim 0 (·.1)
        details := [.str "OBI=", .num request.orderBookImbalance (some 2), .str ", Spread=",
          .num request.marketSpreadBps (some 1), .str "bps"] }
    diagnoses := found.toList.map fun toxic => ⟨errGateToxicFlowDetected, toxic.2⟩ }

/-- Dimension C: the yield curve. -/
def macroRegime (request : PreTradeDecisionRequest α) : Assessment α :=
  let spread := request.macroYieldSpread
  let inverted := decide (request.isBuying ∧ spread < -M.num (50 / 100))
  { check :=
      { name := .macroRegime
        passed := !inverted
        score := if inverted then M.round (M.num (15 / 10) * |spread|) else 0
        details := [.str "T10Y2Y yield spread=", .num spread (some 2), .str "%"] }
    diagnoses :=
      if inverted then
        [⟨errGateMacroRegimeConflict, [.str "Severe yield curve inversion (", .num spread (some 2), .str "% T10Y2Y spread)"]⟩]
      else [] }

/-- Dimension D: momentum and volatility shocks. It makes no diagnosis. -/
def momentumAlignment (request : PreTradeDecisionRequest α) : Assessment α :=
  let barReturn := request.currentBarReturnPct
  let vol := request.trailingVolatilityPct
  let shock := decide (M.round (M.num 3 * vol) < |barReturn|)
  let adverse := decide (request.isBuying ∧ barReturn < M.round (-M.num 2 * vol))
  { check :=
      { name := .momentumAlignment
        passed := !shock && !adverse
        score := if adverse then M.round ((if shock then M.num (12 / 10) else 0) + 1) else if shock then M.num (12 / 10) else 0
        details := [.str "Bar return=", .num barReturn (some 2), .str "%, Vol=", .num vol (some 2), .str "%"] }
    diagnoses := [] }

/-- Dimension E: loss streak and drawdown. -/
def capitalRiskBudget (request : PreTradeDecisionRequest α) : Assessment α :=
  let losses := request.consecutiveLosses
  let drawdown := request.currentDrawdownPct
  let streak := decide (maxConsecutiveLosses ≤ losses)
  let exceeded := decide (maxDrawdownThresholdPct M ≤ drawdown)
  let streakScore :=
    if streak then M.round (0 + M.round (M.num (18 / 10) * M.round ((losses - maxConsecutiveLosses + 1 : ℤ) : α))) else 0
  { check :=
      { name := .capitalRiskBudget
        passed := !streak && !exceeded
        score := if exceeded then M.round (streakScore + M.num (25 / 10)) else streakScore
        details := [.str "Streak=", .int losses, .str ", Drawdown=", .num drawdown (some 1), .str "%, CVaR=",
          .num request.cvar95Pct (some 1), .str "%"] }
    diagnoses :=
      (if streak then
        [⟨errGateConsecutiveLossBreach, [.str "Consecutive loss streak (", .int losses, .str " losses >= limit ",
          .int maxConsecutiveLosses, .str ")"]⟩]
      else []) ++
      (if exceeded then
        [⟨errGateDrawdownBudgetExceeded, [.str "Portfolio drawdown budget exceeded (", .num drawdown (some 1), .str "% >= limit ",
          .num (maxDrawdownThresholdPct M), .str "%)"]⟩]
      else []) }

/-- The dimensions in the order of their evaluation. -/
def dimensions (request : PreTradeDecisionRequest α) : List (Assessment α) :=
  [dataFreshness M request, microstructureToxicity M request, macroRegime M request, momentumAlignment M request,
    capitalRiskBudget M request]

/-! ## The evaluation -/

/-- The variables of `evaluate` between two dimensions. -/
structure Tally (α : Type) where
  checks : List (DimensionCheck α)
  logOddsDelta : α
  primaryCode : String
  rejectionReason : List (TextPart α)

/-- A diagnosis counts where none did before it. -/
def Tally.diagnose (tally : Tally α) (diagnosis : Diagnosis α) : Tally α :=
  if tally.primaryCode = "OK" then { tally with primaryCode := diagnosis.code, rejectionReason := diagnosis.reason } else tally

/-- One dimension. -/
def Tally.add (tally : Tally α) (assessment : Assessment α) : Tally α :=
  let tally' := assessment.diagnoses.foldl Tally.diagnose tally
  { tally' with
    logOddsDelta := M.round (tally.logOddsDelta + assessment.check.score)
    checks := tally.checks ++ [assessment.check] }

/-- The variables after the five dimensions. -/
def tally (request : PreTradeDecisionRequest α) : Tally α :=
  (dimensions M request).foldl (Tally.add M)
    { checks := [], logOddsDelta := 0, primaryCode := "OK", rejectionReason :=
      [.str "Order meets Bayesian toxicity and regime thresholds"] }

/-- The posterior probability of toxic flow. -/
def toxicityProb (logOddsDelta : α) : α := M.round (1 / M.round (1 + M.exp (-M.round (priorLogOdds M + logOddsDelta))))

namespace PreTradeDecisionGate

/-- `PreTradeDecisionGate.__init__`. -/
def create (maxHistory : ℤ) : PreTradeDecisionGate α := ⟨max 10 maxHistory, []⟩

/-- `_record`. -/
def record (self : PreTradeDecisionGate α) (result : PreTradeDecisionResult α) : PreTradeDecisionGate α :=
  let history := self.history ++ [result]
  { self with history := if self.maxHistory < history.length then history.tail else history }

/-- The verdict on an exit. -/
def bypass (latencyNs : ℤ) (request : PreTradeDecisionRequest α) : PreTradeDecisionResult α where
  decisionId := "DEC-" ++ toString request.timestampNs ++ "-" ++ request.orderId
  orderId := request.orderId
  symbol := request.symbol
  action := request.action
  allowed := true
  decision := .bypassExit
  toxicityProbability := 0
  confidence := 1
  primaryCode := "OK"
  reason := [.str "Risk-reducing exit order bypasses pre-trade filter (INV-GATE-001)"]
  checks := []
  latencyUs := M.round (M.round (latencyNs : α) / M.num 1000)

/-- The verdict on an entry, from what the dimensions found. -/
def verdict (latencyNs : ℤ) (request : PreTradeDecisionRequest α) (t : Tally α) : PreTradeDecisionResult α :=
  let prob := toxicityProb M t.logOddsDelta
  let threshold := maxToxicProbabilityThreshold M
  let anyHardTrips := t.checks.any fun c => !c.passed
  let excessiveToxicity := decide (threshold ≤ prob)
  let allowed := !anyHardTrips && !excessiveToxicity
  let confidence := min 1 (max 0 (M.round (|M.round (prob - threshold)| / max threshold (M.round (1 - threshold)))))
  let final : Diagnosis α :=
    if allowed then ⟨"OK", [.str "Order passed Bayesian gate (Toxicity=", .num (M.round (prob * M.num 100)) (some 1), .str "%)"]⟩
    else if t.primaryCode = "OK" ∧ excessiveToxicity then
      ⟨errGateToxicFlowDetected, [.str "Cumulative Bayesian toxicity exceeded threshold (",
        .num (M.round (prob * M.num 100)) (some 1), .str "% >= ",
        .num (M.round (threshold * M.num 100)) (some 1), .str "%)"]⟩
    else ⟨t.primaryCode, t.rejectionReason⟩
  { decisionId := "DEC-" ++ toString request.timestampNs ++ "-" ++ request.orderId
    orderId := request.orderId
    symbol := request.symbol
    action := request.action
    allowed := allowed
    decision := if allowed then .pass else .reject
    toxicityProbability := M.round (roundTo prob 4)
    confidence := M.round (roundTo confidence 4)
    primaryCode := final.code
    reason := final.reason
    checks := t.checks
    latencyUs := M.round (roundTo (M.round (M.round (latencyNs : α) / M.num 1000)) 2) }

/-- `evaluate`: the verdict, and the gate with the verdict in its history. -/
def evaluate (self : PreTradeDecisionGate α) (latencyNs : ℤ) (request : PreTradeDecisionRequest α) :
    PreTradeDecisionResult α × PreTradeDecisionGate α :=
  let result := if request.isExit then bypass M latencyNs request else verdict M latencyNs request (tally M request)
  (result, self.record result)

end PreTradeDecisionGate

end Gate
end Quant
