import Mathlib.Algebra.Order.BigOperators.GroupWithZero.List
import Mathlib.Data.Finite.Prod
import Mathlib.Data.Set.Finite.Lemmas
import Mathlib.Order.Interval.Finset.Nat
import Mathlib.Tactic.IntervalCases
import Mathlib.Tactic.NormNum
import Quant.Analytics.Tearsheet

namespace Quant

open Pylib

/-! ## Drawdowns and the initial capital -/

/-! ### Capital -/

/-- The capital after `k` bars; before the first one it is 1. -/
def capital (returns : List ℚ) (k : ℕ) : ℚ := ((returns.take k).map (1 + ·)).prod

/-- The relative drops of the capital, from the initial capital on. -/
def capitalDrops (returns : List ℚ) : Set ℚ :=
  {d | ∃ i j, i ≤ j ∧ j ≤ returns.length ∧ d = capital returns j / capital returns i - 1}

/-- The drop from one bar to a later one, with the floor the code puts under a peak. -/
def barDrop (returns : List ℚ) (i k : ℕ) : ℚ := dropFrom tearsheetFloor (capital returns i) (capital returns k)

/-- However far a bar lies below the initial capital, some bar lies as far below an earlier bar, as far as four decimals tell. -/
def DropsBetweenBars (returns : List ℚ) : Prop :=
  ∀ j, 1 ≤ j → j ≤ returns.length → ∃ i k, 1 ≤ i ∧ i ≤ k ∧ k ≤ returns.length ∧
    roundTo (barDrop returns i k) 4 ≤ roundTo (capital returns j - 1) 4

section Capital

variable {returns : List ℚ}

theorem capital_zero : capital returns 0 = 1 := by simp [capital]

theorem capital_pos (h : ∀ r ∈ returns, -1 < r) (k : ℕ) : 0 < capital returns k := by
  refine List.prod_pos fun x hx => ?_
  obtain ⟨r, hr, rfl⟩ := List.mem_map.1 hx
  have := h r (List.mem_of_mem_take hr)
  linarith

theorem equityCurve_length : (equityCurve returns).length = returns.length := by
  rw [equityCurve, length_npCumprod, List.length_map]

/-- The equity at a place is the capital after its bar. -/
theorem equityCurve_getElem? {k : ℕ} (hk : k < returns.length) : (equityCurve returns)[k]? = some (capital returns (k + 1)) := by
  rw [equityCurve, getElem?_npCumprod _ (by rwa [List.length_map]), ← List.map_take]
  rfl

/-- The drops between places of the equity curve are the drops between bars. -/
theorem mem_dropsBetween_iff {d : ℚ} : d ∈ dropsBetween tearsheetFloor (equityCurve returns) ↔
    ∃ i k, 1 ≤ i ∧ i ≤ k ∧ k ≤ returns.length ∧ d = barDrop returns i k := by
  constructor
  · rintro ⟨i, k, x, y, hik, hx, hy, rfl⟩
    have hk : k < returns.length := equityCurve_length ▸ (List.getElem?_eq_some_iff.1 hy).1
    rw [equityCurve_getElem? (hik.trans_lt hk)] at hx
    rw [equityCurve_getElem? hk] at hy
    obtain rfl := Option.some.inj hx
    obtain rfl := Option.some.inj hy
    exact ⟨i + 1, k + 1, Nat.le_add_left 1 i, Nat.succ_le_succ hik, hk, rfl⟩
  · rintro ⟨i, k, hi, hik, hk, rfl⟩
    obtain ⟨i, rfl⟩ := Nat.exists_eq_add_of_le' hi
    obtain ⟨k, rfl⟩ := Nat.exists_eq_add_of_le' (hi.trans hik)
    exact ⟨i, k, _, _, Nat.le_of_succ_le_succ hik, equityCurve_getElem? (by omega), equityCurve_getElem? (by omega), rfl⟩

/-- The drawdown of the code is the deepest drop between bars. -/
theorem isLeast_maxDrawdown (hne : returns ≠ []) (h : ∀ r ∈ returns, -1 < r) :
    IsLeast {d | ∃ i k, 1 ≤ i ∧ i ≤ k ∧ k ≤ returns.length ∧ d = barDrop returns i k} (maxDrawdown returns) := by
  have hfloor : 0 < tearsheetFloor := by norm_num [tearsheetFloor]
  have hne' : equityCurve returns ≠ [] := by
    intro h0
    exact hne (List.length_eq_zero_iff.1 (equityCurve_length ▸ List.length_eq_zero_iff.2 h0))
  have hnonneg : ∀ x ∈ equityCurve returns, 0 ≤ x := by
    intro x hx
    obtain ⟨k, hk⟩ := List.mem_iff_getElem?.1 hx
    have hlt : k < returns.length := equityCurve_length ▸ (List.getElem?_eq_some_iff.1 hk).1
    rw [equityCurve_getElem? hlt] at hk
    exact Option.some.inj hk ▸ (capital_pos h _).le
  have hleast := isLeast_drawdowns hfloor hne' hnonneg
  have hset : dropsBetween tearsheetFloor (equityCurve returns) =
      {d | ∃ i k, 1 ≤ i ∧ i ≤ k ∧ k ≤ returns.length ∧ d = barDrop returns i k} := Set.ext fun _ => mem_dropsBetween_iff
  rw [hset] at hleast
  exact hleast

/-- The drops of the capital have a deepest one. -/
theorem exists_isLeast_capitalDrops (returns : List ℚ) : ∃ d, IsLeast (capitalDrops returns) d := by
  have hfinite : (capitalDrops returns).Finite := by
    refine Set.Finite.subset (Set.Finite.image2 (fun i j => capital returns j / capital returns i - 1)
      (Set.finite_Iic returns.length) (Set.finite_Iic returns.length)) ?_
    rintro d ⟨i, j, hij, hj, rfl⟩
    exact Set.mem_image2_of_mem (hij.trans hj) hj
  have hne : (capitalDrops returns).Nonempty := ⟨_, 0, 0, le_rfl, Nat.zero_le _, rfl⟩
  obtain ⟨d, hd, hmin⟩ := Set.exists_min_image (capitalDrops returns) id hfinite hne
  exact ⟨d, hd, hmin⟩

/-- A drop of almost everything is reported as a drop of everything. -/
theorem roundTo_nearTotal : roundTo (tearsheetFloor - 1) 4 = (-1 : ℚ) := by decide +kernel

/-- The code reports the deepest drop from the initial capital on exactly where the drops between bars reach as deep. -/
theorem roundTo_maxDrawdown_iff (hne : returns ≠ []) (h : ∀ r ∈ returns, -1 < r) {d : ℚ} (hd : IsLeast (capitalDrops returns) d) :
    roundTo (maxDrawdown returns) 4 = roundTo d 4 ↔ DropsBetweenBars returns := by
  obtain ⟨⟨i, k, hi, hik, hk, hm⟩, hmin⟩ := isLeast_maxDrawdown hne h
  have hinitial : ∀ j ≤ returns.length, d ≤ capital returns j - 1 := by
    intro j hj
    exact hd.2 ⟨0, j, Nat.zero_le _, hj, by rw [capital_zero, div_one]⟩
  constructor
  · intro heq j _ hj
    refine ⟨i, k, hi, hik, hk, ?_⟩
    rw [← hm, heq]
    exact roundTo_mono (hinitial j hj) 4
  · intro hdrops
    have hle : ∀ j, 1 ≤ j → j ≤ returns.length → roundTo (maxDrawdown returns) 4 ≤ roundTo (capital returns j - 1) 4 := by
      intro j h1 hj
      obtain ⟨i', k', hi', hik', hk', hround⟩ := hdrops j h1 hj
      exact (roundTo_mono (hmin ⟨i', k', hi', hik', hk', rfl⟩) 4).trans hround
    have hnonpos : maxDrawdown returns ≤ 0 := by
      refine hmin ⟨1, 1, le_rfl, le_rfl, List.length_pos_iff.2 hne, ?_⟩
      rw [barDrop, dropFrom, sub_self, zero_div]
    refine le_antisymm ?_ (roundTo_mono ?_ 4)
    · obtain ⟨a, b, hab, hb, hdab⟩ := hd.1
      have hca := capital_pos h a
      rcases Nat.eq_zero_or_pos a with rfl | ha
      · -- A drop from the initial capital.
        rw [capital_zero, div_one] at hdab
        rcases Nat.eq_zero_or_pos b with rfl | hb0
        · rw [capital_zero, sub_self] at hdab
          exact roundTo_mono (hnonpos.trans hdab.ge) 4
        · exact hdab ▸ hle b hb0 hb
      · rcases le_or_gt tearsheetFloor (capital returns a) with hfloor | hfloor
        · refine roundTo_mono (hmin ⟨a, b, ha, hab, hb, ?_⟩) 4
          rw [hdab, barDrop, dropFrom, max_eq_left hfloor, sub_div, div_self hca.ne']
        · -- A capital below the floor has lost everything, as far as four decimals tell.
          have hlost : roundTo (maxDrawdown returns) 4 ≤ -1 := by
            refine (hle a ha (hab.trans hb)).trans ?_
            rw [← roundTo_nearTotal]
            exact roundTo_mono (by linarith) 4
          have hgt : (((-1 : ℤ) : ℚ)) ≤ d := by
            have := div_pos (capital_pos h b) hca
            push_cast
            linarith
          have hmem : ((-1 : ℤ) : ℚ) ≤ d ∧ d ≤ (⌈d⌉ : ℤ) := ⟨hgt, Int.le_ceil d⟩
          have hall := (roundTo_mem hmem 4).1
          push_cast at hall
          exact hlost.trans hall
    · have hci := capital_pos h i
      have hmax : 0 < max (capital returns i) tearsheetFloor := lt_max_of_lt_left hci
      have hdiff : capital returns k - capital returns i ≤ 0 := by
        rw [hm, barDrop, dropFrom, div_le_iff₀ hmax, zero_mul] at hnonpos
        exact hnonpos
      calc d ≤ capital returns k / capital returns i - 1 := hd.2 ⟨i, k, hik, hk, rfl⟩
        _ = (capital returns k - capital returns i) / capital returns i := by rw [sub_div, div_self hci.ne']
        _ ≤ (capital returns k - capital returns i) / max (capital returns i) tearsheetFloor := by
          rw [div_le_div_iff₀ hci hmax]
          exact mul_le_mul_of_nonpos_left (le_max_left _ _) hdiff
        _ = maxDrawdown returns := hm.symm

end Capital

/-! ### Months and years -/

/-- The product over the groups of a partition is the product over all. -/
theorem prod_partition {β κ M : Type*} [DecidableEq κ] [CommMonoid M] (key : β → κ) (f : β → M) {keys : List κ}
    (hkeys : keys.Nodup)
    {l : List β} (h : ∀ x ∈ l, key x ∈ keys) : (keys.map fun k => ((l.filter fun x => key x = k).map f).prod).prod =
    (l.map f).prod := by
  induction l with
  | nil => simp
  | cons x l ih =>
    obtain ⟨hx, hl⟩ := List.forall_mem_cons.1 h
    have hone : (keys.map fun k => if key x = k then f x else 1).prod = f x := by
      rw [List.prod_map_eq_pow_single (key x) _ fun k hk _ => if_neg (Ne.symm hk), if_pos rfl, hkeys.count, if_pos hx, pow_one]
    rw [List.map_cons, List.prod_cons, ← ih hl, ← hone, ← List.prod_map_mul]
    refine congrArg List.prod (List.map_congr_left fun k _ => ?_)
    by_cases hk : key x = k <;> simp [hk]

theorem months_nodup : months.Nodup := by decide

/-- The month of a day is one of the twelve. -/
theorem month_mem (ts : ℤ) : (utcYearMonth ts).2 ∈ months := by
  have hmem : ∀ m : ℤ, 1 ≤ m → m ≤ 12 → m ∈ months := by
    intro m h1 h12
    interval_cases m <;> decide
  unfold utcYearMonth civilFromDays
  generalize nearestInt ((ts : ℚ) / 1000) / 86400000000 = days
  refine hmem _ ?_ ?_ <;> dsimp only <;> split_ifs <;> omega

example : utcYearMonth 1709164800000000000 = (2024, 2) := by decide +kernel

section Monthly

variable {entries : List ((ℤ × ℤ) × ℚ)}

/-- The growth of a year is the product of what its months hold. -/
theorem one_add_ytdReturn (h : ∀ e ∈ entries, e.1.2 ∈ months) (year : ℤ) :
    1 + ytdReturn entries year = ((entries.filter fun e => e.1.1 = year).map fun e => 1 + e.2).prod := by
  have hmonths : ∀ e ∈ entries.filter fun e => e.1.1 = year, e.1.2 ∈ months := fun e he => h e (List.mem_of_mem_filter he)
  rw [ytdReturn, add_sub_cancel, ← prod_partition (fun e : (ℤ × ℤ) × ℚ => e.1.2) _ months_nodup hmonths]
  refine congrArg List.prod (List.map_congr_left fun month _ => ?_)
  have hgroup : (entries.filter fun e => e.1.1 = year).filter (fun e => e.1.2 = month) = entries.filter fun e => e.1 =
      (year, month) := by
    rw [List.filter_filter]
    exact List.filter_congr fun e _ => by simp [Prod.ext_iff, Bool.and_comm]
  rw [hgroup]
  dsimp only
  split_ifs with hrets
  · rw [monthCompound, add_sub_cancel, monthReturns, List.map_map]
    rfl
  · rw [not_not, monthReturns, List.map_eq_nil_iff] at hrets
    rw [hrets]
    rfl

theorem yearsOf_nodup (entries : List ((ℤ × ℤ) × ℚ)) : (yearsOf entries).Nodup :=
  (List.perm_insertionSort _ _).nodup_iff.2 (List.nodup_dedup _)

theorem mem_yearsOf {e : (ℤ × ℤ) × ℚ} (he : e ∈ entries) : e.1.1 ∈ yearsOf entries := by
  rw [yearsOf, List.mem_insertionSort, List.mem_dedup]
  exact List.mem_map.2 ⟨e, he, rfl⟩

/-- The years compound to the whole. -/
theorem prod_ytdReturn (h : ∀ e ∈ entries, e.1.2 ∈ months) :
    ((yearsOf entries).map fun year => 1 + ytdReturn entries year).prod = (entries.map fun e => 1 + e.2).prod := by
  rw [← prod_partition (fun e : (ℤ × ℤ) × ℚ => e.1.1) _ (yearsOf_nodup entries) fun e he => mem_yearsOf he]
  exact congrArg List.prod (List.map_congr_left fun year _ => one_add_ytdReturn h year)

theorem buildMonthlyMatrix_items (entries : List ((ℤ × ℤ) × ℚ)) :
    (buildMonthlyMatrix entries).items = (yearsOf entries).map fun year => (year, yearRow entries year) := by
  refine Dict.items_setAll_empty ?_
  rw [List.map_map]
  exact (List.map_id _).symm ▸ yearsOf_nodup entries

theorem buildMonthlyMatrix_keys (entries : List ((ℤ × ℤ) × ℚ)) : (buildMonthlyMatrix entries).keys = yearsOf entries := by
  rw [Dict.keys, buildMonthlyMatrix_items, List.map_map]
  exact List.map_id _

/-- The matrix has the rounded return of each year under `YTD`. -/
theorem buildMonthlyMatrix_ytd {year : ℤ} (h : year ∈ (buildMonthlyMatrix entries).keys) :
    ∃ row, (buildMonthlyMatrix entries).get? year = some row ∧ row.get? "YTD" = some (roundTo (ytdReturn entries year) 4) := by
  refine ⟨yearRow entries year, ?_, Dict.get?_set_self _ _ _⟩
  rw [buildMonthlyMatrix_keys] at h
  rw [← Dict.mem_items_iff, buildMonthlyMatrix_items]
  exact List.mem_map.2 ⟨year, h, rfl⟩

end Monthly

/-! ### The report -/

/-- The reported drawdown is the deepest drop of the capital from the initial capital on, rounded. -/
def TearsheetReport.DrawdownFromCapital (r : TearsheetReport) (a : TearsheetArgs) : Prop :=
  ∃ d, IsLeast (capitalDrops a.strategyReturns) d ∧ r.metrics.maxDrawdown = roundTo d 4

/-- The matrix and the total return are roundings of returns of which those of the years compound to the total one. -/
def TearsheetReport.YearsCompound (r : TearsheetReport) (a : TearsheetArgs) : Prop :=
  let entries := monthlyEntries a.strategyReturns a.timestampsNs
  r.metrics.totalReturn = roundTo (totalReturn a.strategyReturns) 4 ∧
    (∀ year ∈ r.monthlyMatrix.keys, ∃ row, r.monthlyMatrix.get? year = some row ∧
      row.get? "YTD" = some (roundTo (ytdReturn entries year) 4)) ∧
    (r.monthlyMatrix.keys.map fun year => 1 + ytdReturn entries year).prod = 1 + totalReturn a.strategyReturns

section Report

variable {fns : TearsheetMath} {a : TearsheetArgs}

/-- The total return is the growth of the capital over all bars. -/
theorem one_add_totalReturn {returns : List ℚ} (h : returns ≠ []) : 1 + totalReturn returns = (returns.map (1 + ·)).prod := by
  have hlen := List.length_pos_iff.2 h
  have hlast : (equityCurve returns).getLast? = some (capital returns returns.length) := by
    rw [List.getLast?_eq_getElem?, equityCurve_length, equityCurve_getElem? (by omega), Nat.sub_add_cancel hlen]
  rw [totalReturn, List.getLastD_eq_getLast?, hlast, Option.getD_some, add_sub_cancel, capital, List.take_length]

theorem yearsCompound (hlen : a.timestampsNs.length = a.strategyReturns.length) (hne : a.strategyReturns ≠ []) :
    (a.report fns).YearsCompound a := by
  refine ⟨rfl, fun year hyear => buildMonthlyMatrix_ytd hyear, ?_⟩
  have hmonths : ∀ e ∈ monthlyEntries a.strategyReturns a.timestampsNs, e.1.2 ∈ months := by
    intro e he
    obtain ⟨ts, -, hts⟩ := List.mem_map.1 (List.of_mem_zip he).1
    exact hts ▸ month_mem ts
  have hreturns : (monthlyEntries a.strategyReturns a.timestampsNs).map Prod.snd = a.strategyReturns := by
    rw [monthlyEntries, List.map_snd_zip]
    rw [List.length_map, hlen]
  change ((buildMonthlyMatrix _).keys.map _).prod = _
  rw [buildMonthlyMatrix_keys, prod_ytdReturn hmonths, one_add_totalReturn hne, ← hreturns, List.map_map, hreturns]
  rfl

/-- A well-formed call gives its report, unless the deviation is below the floor. -/
theorem calculateTearsheet_eq (h2 : 2 ≤ a.strategyReturns.length) (hlen : a.timestampsNs.length = a.strategyReturns.length)
    (hbench : ∀ bench ∈ a.benchmarkReturns, bench.length = a.strategyReturns.length) (hperiods : 0 < a.periodsPerYear) :
    calculateTearsheet fns a =
      if a.dailyStd fns < tearsheetFloor then
        .error ⟨.zeroVariance, "[ERR-RPT-001] Strategy returns have zero variance (std=%), cannot compute Sharpe ratio",
          [.num (a.dailyStd fns)]⟩
      else .ok (a.report fns) := by
  have hbench' : ¬ ∃ bench ∈ a.benchmarkReturns, bench.length ≠ a.strategyReturns.length := by
    rintro ⟨bench, hmem, hneq⟩
    exact hneq (hbench bench hmem)
  unfold calculateTearsheet
  dsimp only
  rw [if_neg (by omega), if_neg (not_not.2 hlen), if_neg hbench', if_neg hperiods.ne', if_neg (not_lt.2 hperiods.le)]

/-- A call with returns above -1 gives a report with the drawdown from the initial capital, and with years that compound to the
total return, exactly where the deviation is not below the floor and the drops between bars reach as deep as those from the
initial capital. -/
theorem calculateTearsheet_fromCapital_iff (h2 : 2 ≤ a.strategyReturns.length)
    (hlen : a.timestampsNs.length = a.strategyReturns.length)
    (hreturns : ∀ r ∈ a.strategyReturns, -1 < r) (hbench : ∀ bench ∈ a.benchmarkReturns, bench.length = a.strategyReturns.length)
    (hperiods : 0 < a.periodsPerYear) :
    (∃ r, calculateTearsheet fns a = .ok r ∧ r.DrawdownFromCapital a ∧ r.YearsCompound a) ↔
      tearsheetFloor ≤ a.dailyStd fns ∧ DropsBetweenBars a.strategyReturns := by
  have hne : a.strategyReturns ≠ [] := List.ne_nil_of_length_pos (by omega)
  obtain ⟨d, hd⟩ := exists_isLeast_capitalDrops a.strategyReturns
  have hiff : (a.report fns).DrawdownFromCapital a ↔ DropsBetweenBars a.strategyReturns := by
    rw [← roundTo_maxDrawdown_iff hne hreturns hd]
    constructor
    · rintro ⟨d', hd', heq⟩
      rw [← hd.unique hd'] at heq
      exact heq
    · exact fun heq => ⟨d, hd, heq⟩
  rw [calculateTearsheet_eq h2 hlen hbench hperiods]
  by_cases hstd : a.dailyStd fns < tearsheetFloor
  · rw [if_pos hstd]
    simp [not_le.2 hstd]
  · rw [if_neg hstd]
    constructor
    · rintro ⟨r, hr, hdrop, -⟩
      obtain rfl := Except.ok.inj hr
      exact ⟨not_lt.1 hstd, hiff.1 hdrop⟩
    · exact fun hdrops => ⟨_, rfl, hiff.2 hdrops.2, yearsCompound hlen hne⟩

/-! ### Runs -/

/-- A square root from below, by bisection. -/
def bisectSqrt (x : ℚ) : ℕ → ℚ → ℚ → ℚ
  | 0, lo, _ => lo
  | n + 1, lo, hi =>
    let mid := (lo + hi) / 2
    if mid * mid ≤ x then bisectSqrt x n mid hi else bisectSqrt x n lo mid

/-- Square roots to twelve binary places and more, and powers with whole exponents. -/
def sampleMath : TearsheetMath := ⟨fun x => bisectSqrt x 16 0 (x + 1), fun x y => x ^ ⌊y⌋.toNat⟩

/-- A gain, then a loss that is deeper from the gain than from the initial capital. -/
def gainFirst : TearsheetArgs := { strategyReturns := [1 / 10, -1 / 2], timestampsNs := [1704067200000000000,
    1735689600000000000] }

/-- A loss of half the initial capital, then a gain. -/
def lossFirst : TearsheetArgs := { strategyReturns := [-1 / 2, 1 / 10], timestampsNs := [1704067200000000000,
    1735689600000000000] }

theorem calculateTearsheet_gainFirst :
    ∃ r, calculateTearsheet sampleMath gainFirst = .ok r ∧ r.DrawdownFromCapital gainFirst ∧ r.YearsCompound gainFirst := by
  refine (calculateTearsheet_fromCapital_iff (by decide) rfl (by decide +kernel) (by simp [gainFirst]) (by decide)).2
    ⟨by decide +kernel, fun j hj hle => ⟨1, 2, le_rfl, by decide, by decide, ?_⟩⟩
  change j ≤ 2 at hle
  interval_cases j <;> decide +kernel

/-- The loss that comes first is not in the report: its drawdown is 0, and half the capital was lost. -/
theorem calculateTearsheet_lossFirst :
    ∃ r, calculateTearsheet sampleMath lossFirst = .ok r ∧ r.metrics.maxDrawdown = 0 ∧ ¬ r.DrawdownFromCapital lossFirst := by
  have hstd : ¬ lossFirst.dailyStd sampleMath < tearsheetFloor := by decide +kernel
  refine ⟨lossFirst.report sampleMath, ?_, by decide +kernel, ?_⟩
  · rw [calculateTearsheet_eq (by decide) rfl (by simp [lossFirst]) (by decide), if_neg hstd]
  rintro ⟨d, hd, hmdd⟩
  have hle : d ≤ -1 / 2 := hd.2 ⟨0, 1, by decide, by decide, by decide +kernel⟩
  have hzero : (lossFirst.report sampleMath).metrics.maxDrawdown = 0 := by decide +kernel
  have hround := roundTo_mono hle 4
  rw [← hmdd, hzero] at hround
  exact absurd hround (by decide +kernel)

end Report

/-!
## Attribution of linear strategies

What `calculate_tearsheet` reports for a strategy that is `a + b` times its benchmark: its beta divides a covariance over `n - 1`
by a variance over `n`.
-/

/-- The report attributes the strategy to the benchmark as `a + b` times it. -/
structure TearsheetReport.AttributesTo (r : TearsheetReport) (args : TearsheetArgs) (a b : ℚ) : Prop where
  beta_eq : r.metrics.beta = some (roundTo b 4)
  alpha_eq : r.metrics.alpha = some (roundTo (a * args.periodsPerYear) 4)

/-- The excess of the beta over `b`, in units of `b`, is `1 / (n - 1)`: whether it and the alpha made of it vanish in the
rounding. -/
structure ExcessRoundsAway (bench : List ℚ) (periodsPerYear : ℤ) (a b : ℚ) : Prop where
  beta_eq : roundTo (b + b / (bench.length - 1)) 4 = roundTo b 4
  alpha_eq : roundTo ((a - b * npMean bench / (bench.length - 1)) * periodsPerYear) 4 = roundTo (a * periodsPerYear) 4

section Attribution

variable (fns : TearsheetMath) {args : TearsheetArgs} {bench : List ℚ} {a b : ℚ}

/-- Alpha and beta of a linear strategy, before they are rounded. -/
theorem attribution_linear (h2 : 2 ≤ bench.length) (hstrat : args.strategyReturns = bench.map fun x => a + b * x)
    (hvar : tearsheetFloor < npVar bench) :
    (args.attribution fns bench).map (fun x => (x.1, x.2.1)) =
      some ((a - b * npMean bench / (bench.length - 1)) * args.periodsPerYear, b + b / (bench.length - 1)) := by
  have hne : bench ≠ [] := List.ne_nil_of_length_pos (by omega)
  have hlen : ((bench.length : ℚ) - 1) ≠ 0 := by
    have hcast : (2 : ℚ) ≤ bench.length := by exact_mod_cast h2
    linarith
  have hpos : 0 < npVar bench := lt_trans (by decide +kernel) hvar
  have hbeta : npCov args.strategyReturns bench / npVar bench = b + b / (bench.length - 1) := by
    rw [hstrat, npCov_affine a b hne, mul_assoc, mul_div_assoc, mul_div_cancel_left₀ _ hpos.ne']
    field_simp
    ring
  rw [TearsheetArgs.attribution]
  dsimp only
  rw [if_pos hvar, Option.map_some, hbeta, hstrat, npMean_affine a b hne]
  refine congrArg some (Prod.ext ?_ rfl)
  ring

/-- A linear strategy is attributed to its benchmark exactly where the excess rounds away. -/
theorem calculateTearsheet_attribution_iff (h2 : 2 ≤ bench.length) (hts : args.timestampsNs.length = bench.length)
    (hbench : args.benchmarkReturns = some bench) (hstrat : args.strategyReturns = bench.map fun x => a + b * x)
    (hperiods : 0 < args.periodsPerYear) (hstd : tearsheetFloor ≤ args.dailyStd fns) (hvar : tearsheetFloor < npVar bench) :
    (∃ r, calculateTearsheet fns args = .ok r ∧ r.AttributesTo args a b) ↔ ExcessRoundsAway bench args.periodsPerYear a b := by
  have hlen : args.strategyReturns.length = bench.length := by rw [hstrat, List.length_map]
  have hok : calculateTearsheet fns args = .ok (args.report fns) := by
    rw [calculateTearsheet_eq (hlen ▸ h2) (hts.trans hlen.symm) (by simp [hbench, hlen]) hperiods, if_neg (not_lt.2 hstd)]
  have hpair := attribution_linear fns h2 hstrat hvar
  obtain ⟨x, hx, hxy⟩ := Option.map_eq_some_iff.1 hpair
  obtain ⟨hxalpha, hxbeta⟩ := Prod.ext_iff.1 hxy
  have hbeta : (args.report fns).metrics.beta = some (roundTo (b + b / (bench.length - 1)) 4) := by
    change ((args.benchmarkReturns.bind _).map _) = _
    rw [hbench, Option.bind_some, hx, Option.map_some]
    exact congrArg (fun y => some (roundTo y 4)) hxbeta
  have halpha : (args.report fns).metrics.alpha =
      some (roundTo ((a - b * npMean bench / (bench.length - 1)) * args.periodsPerYear) 4) := by
    change ((args.benchmarkReturns.bind _).map _) = _
    rw [hbench, Option.bind_some, hx, Option.map_some]
    exact congrArg (fun y => some (roundTo y 4)) hxalpha
  constructor
  · rintro ⟨r, hr, hbeta', halpha'⟩
    obtain rfl := Except.ok.inj (hok.symm.trans hr)
    exact ⟨Option.some.inj (hbeta.symm.trans hbeta'), Option.some.inj (halpha.symm.trans halpha')⟩
  · rintro ⟨hround, hround'⟩
    exact ⟨_, hok, hbeta.trans (congrArg some hround), halpha.trans (congrArg some hround')⟩

/-! #### Runs -/

/-- Square roots to thirty-two binary places. -/
def fineMath : TearsheetMath := ⟨fun x => bisectSqrt x 32 0 (x + 1), fun x y => x ^ ⌊y⌋.toNat⟩

/-- Two bars of a benchmark. -/
def twoBars : List ℚ := [0, 1 / 100]

/-- A strategy over them, with its benchmark. -/
def twoBarArgs (a b : ℚ) : TearsheetArgs where
  strategyReturns := twoBars.map fun x => a + b * x
  timestampsNs := [1704067200000000000, 1735689600000000000]
  benchmarkReturns := some twoBars

/-- A strategy that moves a hundred-thousandth of its benchmark: the excess rounds away. -/
theorem calculateTearsheet_attribution_small :
    ∃ r, calculateTearsheet fineMath (twoBarArgs 0 (1 / 100000)) = .ok r ∧
      r.AttributesTo (twoBarArgs 0 (1 / 100000)) 0 (1 / 100000) := by
  have hiff := @calculateTearsheet_attribution_iff fineMath (twoBarArgs 0 (1 / 100000)) twoBars 0 (1 / 100000)
    (by decide) rfl rfl rfl
    (by decide) (by decide +kernel) (by decide +kernel)
  exact hiff.2 ⟨by decide +kernel, by decide +kernel⟩

/-- The benchmark itself as the strategy, over two bars: its beta is 2. -/
theorem calculateTearsheet_twoBars :
    2 ≤ twoBars.length ∧ tearsheetFloor < npVar twoBars ∧ tearsheetFloor ≤ (twoBarArgs 0 1).dailyStd sampleMath ∧
      ∃ r, calculateTearsheet sampleMath (twoBarArgs 0 1) = .ok r ∧ r.metrics.beta = some 2 ∧
        ¬ r.AttributesTo (twoBarArgs 0 1) 0 1 := by
  have hstd : ¬ (twoBarArgs 0 1).dailyStd sampleMath < tearsheetFloor := by decide +kernel
  have hbeta : ((twoBarArgs 0 1).report sampleMath).metrics.beta = some 2 := by decide +kernel
  refine ⟨by decide, by decide +kernel, not_lt.1 hstd, _, ?_, hbeta, ?_⟩
  · rw [calculateTearsheet_eq (by decide) rfl (by simp [twoBarArgs]) (by decide), if_neg hstd]
  · intro h
    exact absurd (hbeta.symm.trans h.beta_eq) (by decide +kernel)

end Attribution

end Quant
