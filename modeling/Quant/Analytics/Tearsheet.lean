import Mathlib.Algebra.Order.Field.Rat
import Mathlib.Data.Rat.Floor
import Quant.Exceptions
import Quant.Pylib.Dict
import Quant.Pylib.Drawdown
import Quant.Pylib.Series

/-!
# The tear sheet

`PerformanceAnalyticsEngine.calculate_tearsheet` of `analytics/tearsheet.py`. Numbers are exact and finite, so the checks for
values that are not finite have no case here; the square root and the power are parameters. The metadata is passed through and
left out.
-/

namespace Quant

open Pylib

/-- The functions of `math` and numpy that the tear sheet calls. -/
structure TearsheetMath where
  sqrt : ℚ → ℚ
  pow : ℚ → ℚ → ℚ

/-- The arguments of `calculate_tearsheet`. -/
structure TearsheetArgs where
  strategyReturns : List ℚ
  timestampsNs : List ℤ
  benchmarkReturns : Option (List ℚ) := none
  riskFreeRate : ℚ := 0
  periodsPerYear : ℤ := 252

structure CFAMetrics where
  totalReturn : ℚ
  cagr : ℚ
  annualizedVolatility : ℚ
  sharpeRatio : ℚ
  sortinoRatio : ℚ
  calmarRatio : ℚ
  omegaRatio : ℚ
  maxDrawdown : ℚ
  maxDrawdownDurationBars : ℕ
  winRate : ℚ
  profitFactor : ℚ
  gainToPainRatio : ℚ
  tailRatio : ℚ
  var95 : ℚ
  cvar95 : ℚ
  totalTradesBars : ℕ
  alpha : Option ℚ
  beta : Option ℚ
  informationRatio : Option ℚ
  trackingError : Option ℚ

structure TearsheetReport where
  metrics : CFAMetrics
  timestamps : List ℤ
  equityCurve : List ℚ
  drawdownSeries : List ℚ
  benchmarkEquityCurve : Option (List ℚ)
  monthlyMatrix : Dict ℤ (Dict String ℚ)

/-! ## Equity and drawdowns -/

/-- `1e-8`. -/
def tearsheetFloor : ℚ := 1 / 10 ^ 8

/-- `equity`. -/
def equityCurve (returns : List ℚ) : List ℚ := npCumprod (returns.map (1 + ·))

/-- `mdd`. -/
def maxDrawdown (returns : List ℚ) : ℚ := npMin (drawdowns tearsheetFloor (equityCurve returns))

/-- `mdd_duration`: the longest run of bars under water. -/
def maxDrawdownDuration (drawdowns : List ℚ) : ℕ :=
  (drawdowns.foldl (fun (longest, current) dd =>
    if dd < -1 / 10 ^ 6 then (max longest (current + 1), current + 1) else (longest, 0)) ((0, 0) : ℕ × ℕ)).1

/-- `total_ret`. -/
def totalReturn (returns : List ℚ) : ℚ := (equityCurve returns).getLastD 0 - 1

/-! ## The monthly matrix -/

/-- The year and the month of a day, counted from 1970-01-01, in the proleptic Gregorian calendar; the years of the calculation
start in March. -/
def civilFromDays (days : ℤ) : ℤ × ℤ :=
  let z := days + 719468
  let era := z / 146097
  let doe := z % 146097
  let yoe := (doe - doe / 1460 + doe / 36524 - doe / 146096) / 365
  let doy := doe - (365 * yoe + yoe / 4 - yoe / 100)
  let mp := (5 * doy + 2) / 153
  let month := if mp < 10 then mp + 3 else mp - 9
  (yoe + era * 400 + if month ≤ 2 then 1 else 0, month)

/-- The year and the month of `datetime.fromtimestamp(ts / 1e9, tz=UTC)`, which rounds to microseconds. -/
def utcYearMonth (ts : ℤ) : ℤ × ℤ := civilFromDays (nearestInt ((ts : ℚ) / 1000) / 86400000000)

/-- The returns with the year and the month of each. -/
def monthlyEntries (returns : List ℚ) (timestampsNs : List ℤ) : List ((ℤ × ℤ) × ℚ) := (timestampsNs.map utcYearMonth).zip returns

/-- The months of a year. -/
def months : List ℤ := (List.range 12).map fun m => (m : ℤ) + 1

/-- `by_year_month[year].get(month, [])`. -/
def monthReturns (entries : List ((ℤ × ℤ) × ℚ)) (year month : ℤ) : List ℚ :=
  (entries.filter fun e => e.1 = (year, month)).map Prod.snd

/-- `m_compound`. -/
def monthCompound (rets : List ℚ) : ℚ := (rets.map (1 + ·)).prod - 1

/-- `ytd_equity - 1.0`, before it is rounded. -/
def ytdReturn (entries : List ((ℤ × ℤ) × ℚ)) (year : ℤ) : ℚ :=
  (months.map fun month =>
    let rets := monthReturns entries year month
    if rets ≠ [] then 1 + monthCompound rets else 1).prod - 1

/-- `M01` to `M12`. -/
def monthLabel (month : ℤ) : String := if month < 10 then "M0" ++ toString month else "M" ++ toString month

/-- The row of a year. -/
def yearRow (entries : List ((ℤ × ℤ) × ℚ)) (year : ℤ) : Dict String ℚ :=
  ((∅ : Dict String ℚ).setAll (months.map fun month =>
    let rets := monthReturns entries year month
    (monthLabel month, if rets ≠ [] then roundTo (monthCompound rets) 4 else 0))).set "YTD" (roundTo (ytdReturn entries year) 4)

/-- The years that have returns, sorted. -/
def yearsOf (entries : List ((ℤ × ℤ) × ℚ)) : List ℤ := (entries.map fun e => e.1.1).dedup.insertionSort (· ≤ ·)

/-- `_build_monthly_matrix`. -/
def buildMonthlyMatrix (entries : List ((ℤ × ℤ) × ℚ)) : Dict ℤ (Dict String ℚ) :=
  (∅ : Dict ℤ (Dict String ℚ)).setAll ((yearsOf entries).map fun year => (year, yearRow entries year))

/-! ## The report -/

namespace TearsheetArgs

variable (fns : TearsheetMath) (a : TearsheetArgs)

/-- `t_years`. -/
def tYears : ℚ := a.strategyReturns.length / a.periodsPerYear

/-- `cagr`. -/
def cagr : ℚ :=
  let final := (equityCurve a.strategyReturns).getLastD 0
  if 0 < a.tYears ∧ 0 < final then fns.pow final (1 / a.tYears) - 1 else 0

/-- `daily_std`. -/
def dailyStd : ℚ := npStd fns.sqrt a.strategyReturns

/-- `daily_rf`. -/
def dailyRf : ℚ := a.riskFreeRate / a.periodsPerYear

/-- A ratio, or zero where its denominator is not above a bound. -/
def ratioAbove (bound num denom : ℚ) : ℚ := if bound < denom then num / denom else 0

/-- Alpha, beta, the information ratio and the tracking error against a benchmark. -/
def attribution (bench : List ℚ) : Option (ℚ × ℚ × ℚ × ℚ) :=
  let strat := a.strategyReturns
  let benchVar := npVar bench
  if tearsheetFloor < benchVar then
    let beta := npCov strat bench / benchVar
    let alphaDaily := npMean strat - beta * npMean bench
    let activeDiff := List.zipWith (· - ·) strat bench
    let te := npStd fns.sqrt activeDiff * fns.sqrt a.periodsPerYear
    some (alphaDaily * a.periodsPerYear, beta, npMean activeDiff * fns.sqrt a.periodsPerYear / max te tearsheetFloor, te)
  else none

/-- The metrics, each rounded as it is reported. -/
def metrics : CFAMetrics :=
  let strat := a.strategyReturns
  let mdd := Quant.maxDrawdown strat
  let excess := strat.map (· - a.dailyRf)
  let downsideStd := fns.sqrt (npMean (excess.map fun x => min x 0 ^ 2)) * fns.sqrt a.periodsPerYear
  let posExcess := (excess.map (max · 0)).sum
  let negExcess := (excess.map fun x => max (-x) 0).sum
  let posRets := strat.filter (0 < ·)
  let negRets := strat.filter (· < 0)
  let totalPain := (strat.map fun r => max (-r) 0).sum
  let p95 := npPercentile strat 95
  let p5 := npPercentile strat 5
  let tailLosses := strat.filter (· ≤ p5)
  let attribution := a.benchmarkReturns.bind (a.attribution fns)
  { totalReturn := roundTo (Quant.totalReturn strat) 4
    cagr := roundTo (a.cagr fns) 4
    annualizedVolatility := roundTo (a.dailyStd fns * fns.sqrt a.periodsPerYear) 4
    sharpeRatio := roundTo (npMean excess / a.dailyStd fns * fns.sqrt a.periodsPerYear) 3
    sortinoRatio := roundTo (ratioAbove tearsheetFloor (a.cagr fns - a.riskFreeRate) downsideStd) 3
    calmarRatio := roundTo (ratioAbove (1 / 10 ^ 6) (a.cagr fns) |mdd|) 3
    omegaRatio := roundTo (ratioAbove tearsheetFloor posExcess negExcess) 3
    maxDrawdown := roundTo mdd 4
    maxDrawdownDurationBars := maxDrawdownDuration (drawdowns tearsheetFloor (equityCurve strat))
    winRate := roundTo (posRets.length / strat.length) 4
    profitFactor := roundTo (if negRets ≠ [] then ratioAbove tearsheetFloor posRets.sum |negRets.sum| else 0) 3
    gainToPainRatio := roundTo (ratioAbove tearsheetFloor strat.sum totalPain) 3
    tailRatio := roundTo (if tearsheetFloor < |p5| then |p95 / p5| else 0) 3
    var95 := roundTo |p5| 4
    cvar95 := roundTo (if tailLosses ≠ [] then |npMean tailLosses| else |p5|) 4
    totalTradesBars := strat.length
    alpha := attribution.map fun x => roundTo x.1 4
    beta := attribution.map fun x => roundTo x.2.1 4
    informationRatio := attribution.map fun x => roundTo x.2.2.1 3
    trackingError := attribution.map fun x => roundTo x.2.2.2 4 }

/-- The report, where nothing was raised. -/
def report : TearsheetReport where
  metrics := a.metrics fns
  timestamps := a.timestampsNs
  equityCurve := Quant.equityCurve a.strategyReturns
  drawdownSeries := drawdowns tearsheetFloor (Quant.equityCurve a.strategyReturns)
  benchmarkEquityCurve := a.benchmarkReturns.map Quant.equityCurve
  monthlyMatrix := buildMonthlyMatrix (monthlyEntries a.strategyReturns a.timestampsNs)

end TearsheetArgs

/-- `calculate_tearsheet`. -/
def calculateTearsheet (fns : TearsheetMath) (a : TearsheetArgs) : Except Exc TearsheetReport :=
  let n := a.strategyReturns.length
  if n < 2 then .error ⟨.tearsheetError, "[ERR-RPT-000] strategy_returns must contain at least 2 observations, got %", [.num n]⟩
  else if a.timestampsNs.length ≠ n then
    .error ⟨.tearsheetError, "[ERR-RPT-000] timestamps length (%) does not match returns length (%)",
      [.num a.timestampsNs.length, .num n]⟩
  else if ∃ bench ∈ a.benchmarkReturns, bench.length ≠ n then
    .error ⟨.mismatchedBenchmark, "[ERR-RPT-002] Benchmark length (%) does not match strategy length (%)",
      [.num (a.benchmarkReturns.getD []).length, .num n]⟩
  else if a.periodsPerYear = 0 then .error ⟨.zeroDivisionError, "float division by zero", []⟩
  else if a.dailyStd fns < tearsheetFloor then
    .error ⟨.zeroVariance, "[ERR-RPT-001] Strategy returns have zero variance (std=%), cannot compute Sharpe ratio",
      [.num (a.dailyStd fns)]⟩
  -- the square root of the periods
  else if a.periodsPerYear < 0 then .error ⟨.valueError, "math domain error", []⟩
  else .ok (a.report fns)

end Quant
