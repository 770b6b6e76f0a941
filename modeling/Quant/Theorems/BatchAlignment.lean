import Quant.Analytics.BacktestRunner
import Quant.Theorems.ReplayCausality

namespace Quant

open Pylib

/-! ## The alignment of market batches -/

/-- All symbols have the same timestamps, row by row. -/
def Aligned (batches : Dict String MarketDataBatch) : Prop :=
  ∀ p ∈ batches.items, ∀ q ∈ batches.items, p.2.timestamps = q.2.timestamps

instance (batches : Dict String MarketDataBatch) : Decidable (Aligned batches) :=
  inferInstanceAs (Decidable (∀ p ∈ _, ∀ q ∈ _, _))

/-- There is a batch, and all batches have as many bars, at least 30. -/
def Stackable (batches : Dict String MarketDataBatch) : Prop :=
  batches.items ≠ [] ∧ (∀ p ∈ batches.items, 30 ≤ p.2.timestamps.length) ∧
    ∀ p ∈ batches.items, ∀ q ∈ batches.items, p.2.timestamps.length = q.2.timestamps.length

/-- The batches stacked in the order of their symbols. Of the timestamps only those of the first symbol are part of it. -/
def stackedMarket (m : MarketMath) (batches : Dict String MarketDataBatch) : StackedMarket :=
  (sortedBatches batches).head?.elim ⟨0, 0, fun _ _ => .nan, fun _ _ => .nan, fun _ _ => .nan, []⟩ fun p =>
    stack m p.2 (sortedBatches batches)

theorem mem_sortedBatches {batches : Dict String MarketDataBatch} {p : String × MarketDataBatch} :
    p ∈ sortedBatches batches ↔ p ∈ batches.items := by
  rw [sortedBatches, List.mem_insertionSort]

namespace BacktestRunner

variable {ε S Z A R : Type} {runner : BacktestRunner ε S Z A R} {m : MarketMath} {batches : Dict String MarketDataBatch}
  {chromosome : Option (StrategyChromosome ℚ)} {numTrials : ℤ}

/-- Batches that can be stacked are run as they are stacked. -/
theorem runOnMarketBatches_eq (h : Stackable batches) :
    runner.runOnMarketBatches m batches chromosome numTrials =
    runner.runStacked m (stackedMarket m batches) chromosome numTrials := by
  obtain ⟨hne, hbars, hlen⟩ := h
  unfold runOnMarketBatches stackedMarket
  cases hs : sortedBatches batches with
  | nil => exact absurd (List.eq_nil_iff_forall_not_mem.2 fun p hp => by simpa [hs] using mem_sortedBatches.2 hp) hne
  | cons p rest =>
    have hmem : ∀ q, q ∈ p :: rest → q ∈ batches.items := fun q hq => mem_sortedBatches.1 (hs ▸ hq)
    have hp := hmem p List.mem_cons_self
    have hnone : (p :: rest).find? (fun b => b.2.timestamps.length ≠ p.2.timestamps.length) = none := by
      rw [List.find?_eq_none]
      intro q hq
      simpa using hlen q (hmem q hq) p hp
    simp only [if_neg (not_lt.2 (hbars p hp)), hnone, List.head?_cons, Option.elim_some]

/-- What is accepted can be stacked. -/
theorem stackable_of_ok {r : R} (h : runner.runOnMarketBatches m batches chromosome numTrials = .ok r) : Stackable batches := by
  unfold runOnMarketBatches at h
  cases hs : sortedBatches batches with
  | nil =>
    rw [hs] at h
    cases h
  | cons p rest =>
    rw [hs] at h
    have hmem : ∀ q ∈ batches.items, q ∈ p :: rest := fun q hq => hs ▸ mem_sortedBatches.2 hq
    by_cases hbars : p.2.timestamps.length < 30
    · simp only [if_pos hbars] at h
      cases h
    · simp only [if_neg hbars] at h
      cases hfind : (p :: rest).find? (fun b => b.2.timestamps.length ≠ p.2.timestamps.length) with
      | some b =>
        rw [hfind] at h
        cases h
      | none =>
        have hlen : ∀ q ∈ batches.items, q.2.timestamps.length = p.2.timestamps.length := by
          intro q hq
          simpa using List.find?_eq_none.1 hfind q (hmem q hq)
        refine ⟨List.ne_nil_of_mem (mem_sortedBatches.1 (hs ▸ List.mem_cons_self)), fun q hq => ?_, fun q hq q' hq' => ?_⟩
        · exact hlen q hq ▸ not_lt.1 hbars
        · exact (hlen q hq).trans (hlen q' hq').symm

/-! ### What the runner does not read -/

/-- A batch with other timestamps, as many. -/
def retime (b : MarketDataBatch) (ts : {ts : List ℤ // ts.length = b.timestamps.length}) : MarketDataBatch :=
  { b with
    timestamps := ts
    columns_length := fun c hc => (b.columns_length c hc).trans ts.2.symm }

/-- Other timestamps, as many, for each symbol but the first one make no difference to the call. -/
theorem retimed (ts : String → (b : MarketDataBatch) → {ts : List ℤ // ts.length = b.timestamps.length})
    (hfirst : ∀ p ∈ (sortedBatches batches).head?, (ts p.1 p.2).1 = p.2.timestamps) :
    runner.runOnMarketBatches m (batches.map fun sym b => retime b (ts sym b)) chromosome numTrials =
      runner.runOnMarketBatches m batches chromosome numTrials := by
  let other (p : String × MarketDataBatch) : String × MarketDataBatch := (p.1, retime p.2 (ts p.1 p.2))
  have hsorted : sortedBatches (batches.map fun sym b => retime b (ts sym b)) = (sortedBatches batches).map other :=
    (List.map_insertionSort _ _ other _ fun _ _ _ _ => Iff.rfl).symm
  have hlength : ∀ p, (other p).2.timestamps.length = p.2.timestamps.length := fun p => (ts p.1 p.2).2
  unfold runOnMarketBatches
  rw [hsorted]
  cases hs : sortedBatches batches with
  | nil => rfl
  | cons p rest =>
    have hp : (other p).2.timestamps = p.2.timestamps := hfirst p (by rw [hs]; rfl)
    have hfind : ((p :: rest).map other).find? (fun b => b.2.timestamps.length ≠ p.2.timestamps.length) =
        ((p :: rest).find? fun b => b.2.timestamps.length ≠ p.2.timestamps.length).map other := by
      rw [List.find?_map]
      congr 2
      funext q
      rw [Function.comp_apply, hlength]
    have hstack : stack m (other p).2 ((p :: rest).map other) = stack m p.2 (p :: rest) := by
      simp only [stack, hp, List.length_map, List.getElem?_map]
      congr 1 <;> funext t i <;> cases (p :: rest)[i]? <;> rfl
    simp only [List.map_cons] at hfind hstack ⊢
    simp only [hp, hfind, hstack]
    by_cases hbars : p.2.timestamps.length < 30
    · rw [if_pos hbars, if_pos hbars]
    · rw [if_neg hbars, if_neg hbars]
      cases (p :: rest).find? fun b => b.2.timestamps.length ≠ p.2.timestamps.length with
      | none => rfl
      | some b => simp only [Option.map_some, hlength, other]

/-! ### What is accepted -/

/-- Only aligned batches are accepted exactly where the batches are aligned, or cannot be stacked, or the run refuses what was
stacked; and other timestamps, as many, for each symbol but the first one make no difference to the call. -/
theorem runOnMarketBatches_aligned_iff (runner : BacktestRunner ε S Z A R) (m : MarketMath)
    (batches : Dict String MarketDataBatch)
    (chromosome : Option (StrategyChromosome ℚ)) (numTrials : ℤ) :
    ((∀ r, runner.runOnMarketBatches m batches chromosome numTrials = .ok r → Aligned batches) ↔
      Aligned batches ∨ ¬ Stackable batches ∨ ∀ r, runner.runStacked m (stackedMarket m batches) chromosome numTrials ≠ .ok r) ∧
    ∀ ts : String → (b : MarketDataBatch) → {ts : List ℤ // ts.length = b.timestamps.length},
      (∀ p ∈ (sortedBatches batches).head?, (ts p.1 p.2).1 = p.2.timestamps) →
        runner.runOnMarketBatches m (batches.map fun sym b => retime b (ts sym b)) chromosome numTrials =
          runner.runOnMarketBatches m batches chromosome numTrials := by
  refine ⟨⟨fun h => ?_, ?_⟩, retimed⟩
  · by_cases hs : Stackable batches
    · rw [runOnMarketBatches_eq hs] at h
      by_cases hr : ∃ r, runner.runStacked m (stackedMarket m batches) chromosome numTrials = .ok r
      · obtain ⟨r, hr⟩ := hr
        exact .inl (h r hr)
      · exact .inr (.inr (not_exists.1 hr))
    · exact .inr (.inl hs)
  · rintro (h | h | h) r hr
    · exact h
    · exact absurd (stackable_of_ok hr) h
    · rw [runOnMarketBatches_eq (stackable_of_ok hr)] at hr
      exact absurd hr (h r)

/-! ### Two symbols out of step -/

/-- Thirty-one bars at one price, a minute each, from a time on. -/
def flatBatch (assetId : String) (start : ℤ) : MarketDataBatch where
  assetId := assetId
  resolution := .oneMinute
  timestamps := (List.range 31).map fun k : ℕ => start + 60000000000 * k
  opens := List.replicate 31 (.finite 100)
  highs := List.replicate 31 (.finite 100)
  lows := List.replicate 31 (.finite 100)
  closes := List.replicate 31 (.finite 100)
  volumes := List.replicate 31 (.finite 5000)
  vwaps := List.replicate 31 (.finite 100)
  columns_length := by simp [MarketDataFields.columns]

/-- Logarithms and roots at the places the flat batches need. -/
def flatMath : MarketMath where
  log x := if x = .finite 1 then .finite 0 else if x = .finite 2 then .finite (693147 / 1000000) else .nan
  sqrt x := if x = .finite 0 then .finite 0 else .nan
  exp _ := 1

/-- A runner over an engine that buys what is predicted. -/
def deskRunner : BacktestRunner Unit Unit Unit Unit Unit where
  mddBudget := 1 / 10
  numTrials := 100
  engine _ _ := .ok ReplayEngine.deskEngine
  audit _ _ := .ok ()
  result _ _ _ := .ok ()
  message _ := ""
  typeName _ := ""

/-- The second symbol starts an hour after the first. -/
def shiftedBatches : Dict String MarketDataBatch :=
  (∅ : Dict String MarketDataBatch).setAll [("AAA", flatBatch "AAA" 0), ("BBB", flatBatch "BBB" 3600000000000)]

theorem runOnMarketBatches_shifted :
    deskRunner.runOnMarketBatches flatMath shiftedBatches none 100 = .ok () ∧ ¬ Aligned shiftedBatches := by
  decide +kernel

end BacktestRunner

end Quant
