import Mathlib.Algebra.Order.Ring.Rat
import Quant.Exceptions
import Quant.Pylib.PyFloat

/-!
# Corporate actions

`CorporateActionRecord` of `domain/historical.py`, with the checks of its constructor.
-/

namespace Quant

open Pylib

/-- A float as a message shows it. -/
def floatArg : PyFloat → ExcArg
  | .finite x => .num x
  | .nan => .str "nan"
  | .posInf => .str "inf"
  | .negInf => .str "-inf"

/-- The check of a constructor that an argument is finite, with its message. -/
def requireFinite (text : String) (x : PyFloat) : Except Exc ℚ :=
  match x.value? with
  | some v => .ok v
  | none => .error ⟨.nonFiniteHistoricalInput, text, [floatArg x]⟩

/-- `CorporateActionType`. -/
inductive CorporateActionType where
  | split
  | cashDividend
  | stockDividend
  deriving DecidableEq, Repr

/-- A record its constructor accepted. -/
structure CorporateActionRecord where
  assetId : String
  timestamp : ℤ
  actionType : CorporateActionType
  splitRatio : ℚ
  cashDividend : ℚ
  assetId_ne : assetId ≠ ""
  timestamp_pos : 0 < timestamp
  splitRatio_pos : 0 < splitRatio
  cashDividend_nonneg : 0 ≤ cashDividend

theorem cash_nonneg {cash : ℚ} (h : ¬ cash < 0) : 0 ≤ cash := not_lt.1 h

/-- `CorporateActionRecord.__post_init__`. -/
def CorporateActionRecord.create (assetId : String) (timestamp : ℤ) (actionType : CorporateActionType)
    (splitRatio cashDividend : PyFloat) :
    Except Exc CorporateActionRecord :=
  if h1 : assetId = "" then .error ⟨.nonFiniteHistoricalInput, "asset_id must be non-empty string", []⟩
  else if h2 : timestamp ≤ 0 then
    .error ⟨.nonFiniteHistoricalInput, "timestamp must be positive integer nanoseconds, got %", [.num timestamp]⟩
  else
    (requireFinite "split_ratio must be finite float, got %" splitRatio).bind fun ratio =>
    if h3 : ratio ≤ 0 then
      .error ⟨.invalidCorporateAction, "split_ratio must be strictly positive finite float, got %", [.num ratio]⟩
    else
      (requireFinite "cash_dividend must be finite float, got %" cashDividend).bind fun cash =>
      if h4 : cash < 0 then
        .error ⟨.invalidCorporateAction, "cash_dividend must be non-negative finite float, got %", [.num cash]⟩
      else .ok
        { assetId := assetId
          timestamp := timestamp
          actionType := actionType
          splitRatio := ratio
          cashDividend := cash
          assetId_ne := h1
          timestamp_pos := not_le.1 h2
          splitRatio_pos := not_le.1 h3
          cashDividend_nonneg := cash_nonneg h4 }

end Quant
