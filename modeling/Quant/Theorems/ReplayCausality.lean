import Quant.Analytics.Replay
import Quant.Execution.Models
import Quant.Theorems.BarAccounting

namespace Quant

open Pylib

/-! ## No lookahead in a replay

What a turn of the loop reads of the inputs is the row of its own bar, so two histories that agree up to a bar lead to one state
after it. Later turns only add records.
-/

/-! ### Histories that agree -/

/-- Two inputs of one kind: one that holds for all bars is the same in both, and one with a row a bar agrees up to bar `t`. -/
def SeriesAgree (static : Ndarray → Bool) (t : ℕ) (v w : PyArray) : Prop :=
  ∃ a b, v = .ndarray a ∧ w = .ndarray b ∧ if static a ∨ static b then a = b else a.AgreeTo t b

/-- The same for inputs that may be left out of both. -/
def optionAgree (static : Ndarray → Bool) (t : ℕ) : Option PyArray → Option PyArray → Prop
  | none, none => True
  | some v, some w => SeriesAgree static t v w
  | _, _ => False

/-- One vector of regime probabilities for all bars. -/
def staticRegime (a : Ndarray) : Bool := a.ndim = 1 ∧ a.dim 0 = 3

/-- One beta for all bars. -/
def staticBeta (a : Ndarray) : Bool := a.ndim = 0 ∨ a.ndim = 1 ∧ a.dim 0 = 1

/-- One vector of volumes for all bars. -/
def staticAdvs (a : Ndarray) : Bool := a.ndim = 1

/-- An input that has a row a bar in every case. -/
def perBar (_ : Ndarray) : Bool := false

/-- The bars of the inputs. -/
def ReplayInputs.barCount (x : ReplayInputs) : ℕ :=
  match x.assetReturns with
  | .ndarray a => a.dim 0
  | .other _ => 0

/-- Two inputs that agree on all bars up to `t`, which both have. -/
structure ReplayInputs.AgreeTo (t : ℕ) (x y : ReplayInputs) : Prop where
  bars : t < x.barCount ∧ t < y.barCount
  assetReturns : SeriesAgree perBar t x.assetReturns y.assetReturns
  assetVolatilities : SeriesAgree perBar t x.assetVolatilities y.assetVolatilities
  candidatePredictions : SeriesAgree perBar t x.candidatePredictions y.candidatePredictions
  regimeProbabilities : SeriesAgree staticRegime t x.regimeProbabilities y.regimeProbabilities
  ambiguityBetas : SeriesAgree staticBeta t x.ambiguityBetas y.ambiguityBetas
  timestamps : optionAgree perBar t x.timestamps y.timestamps
  advs : optionAgree staticAdvs t x.advs y.advs
  cusumShocks : optionAgree perBar t x.cusumShocks y.cusumShocks

/-- The engine accepts the inputs: it reaches the first bar. -/
def ReplayInputs.Accepted (ε : Type) (x : ReplayInputs) : Prop := ∃ h, x.validate ε = .ok h

/-- Two histories that agree on all bars up to `t`. -/
structure ReplayHistory.AgreeTo (t : ℕ) (h k : ReplayHistory) : Prop where
  bars : t < h.tLen ∧ t < k.tLen
  assetReturns : h.assetReturns.AgreeTo t k.assetReturns
  assetVolatilities : h.assetVolatilities.AgreeTo t k.assetVolatilities
  candidatePredictions : h.candidatePredictions.AgreeTo t k.candidatePredictions
  regimeProbabilities : SeriesAgree staticRegime t (.ndarray h.regimeProbabilities) (.ndarray k.regimeProbabilities)
  ambiguityBetas : SeriesAgree staticBeta t (.ndarray h.ambiguityBetas) (.ndarray k.ambiguityBetas)
  timestamps : optionAgree perBar t (h.timestamps.map .ndarray) (k.timestamps.map .ndarray)
  advs : optionAgree staticAdvs t (h.advs.map .ndarray) (k.advs.map .ndarray)
  cusumShocks : optionAgree perBar t (h.cusumShocks.map .ndarray) (k.cusumShocks.map .ndarray)

theorem seriesAgree_iff {static : Ndarray → Bool} {t : ℕ} {a b : Ndarray} :
    SeriesAgree static t (.ndarray a) (.ndarray b) ↔ if static a ∨ static b then a = b else a.AgreeTo t b := by
  constructor
  · rintro ⟨a', b', ha, hb, h⟩
    cases ha
    cases hb
    exact h
  · intro h
    exact ⟨a, b, rfl, rfl, h⟩

theorem seriesAgree_perBar {t : ℕ} {a b : Ndarray} (h : SeriesAgree perBar t (.ndarray a) (.ndarray b)) : a.AgreeTo t b := by
  simpa [perBar] using seriesAgree_iff.1 h

/-- An input is left out of both histories, or they agree on it. -/
theorem optionAgree_cases {static : Ndarray → Bool} {t : ℕ} {x y : Option Ndarray}
    (h : optionAgree static t (x.map .ndarray) (y.map .ndarray)) :
    (x = none ∧ y = none) ∨ ∃ a b, x = some a ∧ y = some b ∧ SeriesAgree static t (.ndarray a) (.ndarray b) := by
  cases x with
  | none =>
    cases y with
    | none => exact .inl ⟨rfl, rfl⟩
    | some b => exact h.elim
  | some a =>
    cases y with
    | none => exact h.elim
    | some b => exact .inr ⟨a, b, rfl, rfl, h⟩

/-- What the checks make of inputs that agree are histories that agree. -/
theorem ReplayInputs.AgreeTo.histories {t : ℕ} {x y : ReplayInputs} {h k : ReplayHistory} (hxy : x.AgreeTo t y) (hx : x.Holds h)
    (hy : y.Holds k) : h.AgreeTo t k := by
  obtain ⟨bars, returns, volatilities, predictions, regimes, betas, timestamps, advs, shocks⟩ := hxy
  simp only [ReplayInputs.barCount, hx.assetReturns, hy.assetReturns] at bars returns
  rw [hx.assetVolatilities, hy.assetVolatilities] at volatilities
  rw [hx.candidatePredictions, hy.candidatePredictions] at predictions
  rw [hx.regimeProbabilities, hy.regimeProbabilities] at regimes
  rw [hx.ambiguityBetas, hy.ambiguityBetas] at betas
  rw [hx.timestamps, hy.timestamps] at timestamps
  rw [hx.advs, hy.advs] at advs
  rw [hx.cusumShocks, hy.cusumShocks] at shocks
  exact ⟨bars, seriesAgree_perBar returns, seriesAgree_perBar volatilities, seriesAgree_perBar predictions, regimes, betas,
    timestamps, advs, shocks⟩

/-! ### What a turn reads -/

/-- The axes after the first one have one length in arrays that agree. -/
theorem dim_succ_eq {t : ℕ} {a b : Ndarray} (h : a.AgreeTo t b) (i : ℕ) : a.dim (i + 1) = b.dim (i + 1) := by
  have htail : ∀ l : List ℕ, l.getD (i + 1) 0 = l.tail.getD i 0 := by
    intro l
    cases l <;> simp
  rw [Ndarray.dim, Ndarray.dim, htail, htail, h.shape_tail]

namespace ReplayHistory

variable {t s : ℕ} {h k : ReplayHistory}

theorem nAssets_eq (hk : h.AgreeTo t k) : h.nAssets = k.nAssets := dim_succ_eq hk.assetReturns 0

theorem kModels_eq (hk : h.AgreeTo t k) : h.kModels = k.kModels := by
  have hdim : h.candidatePredictions.dim 2 = k.candidatePredictions.dim 2 := dim_succ_eq hk.candidatePredictions 1
  unfold kModels is3dPredictions
  rw [hk.candidatePredictions.ndim_eq, hdim]

/-- A table made row by row of arrays that have a row a bar. -/
theorem rows_eq {β : Type*} {a b : Ndarray} (f : List ℚ → β) (hk : h.AgreeTo t k) (hs : s ≤ t) (hagree : a.AgreeTo t b)
    (ha : a.dim 0 = h.tLen) (hb : b.dim 0 = k.tLen) : (a.rows.map f)[s]? = (b.rows.map f)[s]? := by
  have hbars := hk.bars
  exact hagree.map_rows f hs (by omega) (by omega)

theorem predictions_rows {β : Type*} (f : List ℚ → β) (hk : h.AgreeTo t k) (hs : s ≤ t) :
    (h.candidatePredictions.rows.map f)[s]? = (k.candidatePredictions.rows.map f)[s]? :=
  rows_eq f hk hs hk.candidatePredictions h.predictions_bars k.predictions_bars

theorem volatilities_rows {β : Type*} (f : List ℚ → β) (hk : h.AgreeTo t k) (hs : s ≤ t) :
    (h.assetVolatilities.rows.map f)[s]? = (k.assetVolatilities.rows.map f)[s]? := by
  refine rows_eq f hk hs hk.assetVolatilities ?_ ?_
  · rw [Ndarray.dim, h.volatilities_shape]
    rfl
  · rw [Ndarray.dim, k.volatilities_shape]
    rfl

/-- One value for all bars. -/
theorem replicate_eq {β : Type*} (x : β) (hk : h.AgreeTo t k) (hs : s ≤ t) :
    (List.replicate h.tLen x)[s]? = (List.replicate k.tLen x)[s]? := by
  have hbars := hk.bars
  rw [List.getElem?_replicate_of_lt (lt_of_le_of_lt hs hbars.1), List.getElem?_replicate_of_lt (lt_of_le_of_lt hs hbars.2)]

theorem panicFlags_eq (hk : h.AgreeTo t k) (hs : s ≤ t) : h.panicFlags[s]? = k.panicFlags[s]? := by
  have hbars := hk.bars
  have hbig : 30 ≤ h.tLen ∧ 30 ≤ k.tLen := ⟨h.returns_bars, k.returns_bars⟩
  have hagree := seriesAgree_iff.1 hk.regimeProbabilities
  have hh := h.regimes_bars
  have hkk := k.regimes_bars
  simp only [← tLen.eq_1] at hh hkk
  unfold panicFlags
  simp only [staticRegime, decide_eq_true_eq] at hagree
  split at hagree
  · rename_i hstatic
    rw [hagree] at hstatic ⊢
    rw [or_self] at hstatic
    simp only [hstatic, and_self, if_true, show ¬ (1 : ℕ) = 2 by decide, if_false]
    exact replicate_eq _ hk hs
  · rename_i hseries
    rw [not_or] at hseries
    have hb1 := hh.resolve_right hseries.1
    have hb2 := hkk.resolve_right hseries.2
    have hrows : ∀ f : List ℚ → Bool, (h.regimeProbabilities.rows.map f)[s]? = (k.regimeProbabilities.rows.map f)[s]? := by
      intro f
      exact hagree.map_rows f hs (by omega) (by omega)
    simp only [hagree.ndim_eq, dim_succ_eq hagree 0, hb1, hb2] at hseries ⊢
    by_cases h2 : k.regimeProbabilities.ndim = 2
    · rw [if_pos h2, if_pos h2]
      split
      · exact hrows _
      · exact replicate_eq _ hk hs
    · rw [if_neg h2, if_neg h2, if_neg hseries.1, if_neg hseries.2]
      by_cases h1 : k.regimeProbabilities.ndim = 1
      · rw [if_pos ⟨h1, trivial⟩, if_pos ⟨h1, trivial⟩]
        exact hrows _
      · rw [if_neg (fun h => h1 h.1), if_neg (fun h => h1 h.1)]
        exact replicate_eq _ hk hs

theorem betasAll_eq (hk : h.AgreeTo t k) (hs : s ≤ t) : h.betasAll[s]? = k.betasAll[s]? := by
  have hbars := hk.bars
  have hbig : 30 ≤ h.tLen ∧ 30 ≤ k.tLen := ⟨h.returns_bars, k.returns_bars⟩
  have hagree := seriesAgree_iff.1 hk.ambiguityBetas
  have hh := h.betas_bars
  have hkk := k.betas_bars
  simp only [← tLen.eq_1] at hh hkk
  unfold betasAll
  simp only [staticBeta, decide_eq_true_eq] at hagree
  split at hagree
  · rename_i hstatic
    rw [hagree] at hstatic ⊢
    rw [or_self] at hstatic
    have hone : ∀ n : ℕ, 30 ≤ n →
        ¬ (k.ambiguityBetas.ndim = 1 ∧ k.ambiguityBetas.dim 0 = n) ∧
        ¬ (k.ambiguityBetas.ndim = 2 ∧ k.ambiguityBetas.dim 0 = n) := by
      intro n hn
      omega
    simp only [hone _ hbig.1, hone _ hbig.2, if_false]
    exact replicate_eq _ hk hs
  · rename_i hseries
    rw [not_or] at hseries
    have hb1 := hh.resolve_left hseries.1
    have hb2 := hkk.resolve_left hseries.2
    have hrows : ∀ f : List ℚ → ℚ, (h.ambiguityBetas.rows.map f)[s]? = (k.ambiguityBetas.rows.map f)[s]? := by
      intro f
      exact hagree.map_rows f hs (by omega) (by omega)
    simp only [hagree.ndim_eq, hb1.2, hb2.2, and_true]
    rcases hb2.1 with h1 | h2
    · rw [if_pos h1, if_pos h1]
      exact hrows _
    · have h1 : ¬ k.ambiguityBetas.ndim = 1 := by omega
      rw [if_neg h1, if_neg h1, if_pos h2, if_pos h2]
      exact hrows _

theorem cusumFlags_eq (hk : h.AgreeTo t k) (hs : s ≤ t) : h.cusumFlags[s]? = k.cusumFlags[s]? := by
  unfold cusumFlags
  obtain ⟨hh, hkk⟩ | ⟨a, b, hh, hkk, hagree⟩ := optionAgree_cases hk.cusumShocks
  · rw [hh, hkk]
    exact replicate_eq _ hk hs
  · rw [hh, hkk]
    exact rows_eq _ hk hs (seriesAgree_perBar hagree) (h.shocks_bars a hh) (k.shocks_bars b hkk)

theorem tsSeries_eq (hk : h.AgreeTo t k) (hs : s ≤ t) : h.tsSeries[s]? = k.tsSeries[s]? := by
  have hbars := hk.bars
  unfold tsSeries
  obtain ⟨hh, hkk⟩ | ⟨a, b, hh, hkk, hagree⟩ := optionAgree_cases hk.timestamps
  · rw [hh, hkk]
    simp only [List.getElem?_map, List.getElem?_range (lt_of_le_of_lt hs hbars.1),
      List.getElem?_range (lt_of_le_of_lt hs hbars.2)]
  · rw [hh, hkk]
    exact rows_eq _ hk hs (seriesAgree_perBar hagree) (h.timestamps_bars a hh) (k.timestamps_bars b hkk)

theorem advsAt_eq (hk : h.AgreeTo t k) (hs : s ≤ t) : h.advsAt s = k.advsAt s := by
  unfold advsAt
  obtain ⟨hh, hkk⟩ | ⟨a, b, hh, hkk, hagree⟩ := optionAgree_cases hk.advs
  · rw [hh, hkk]
  · rw [hh, hkk]
    have hser := seriesAgree_iff.1 hagree
    split at hser
    · rw [hser]
    · rename_i hseries
      simp only [staticAdvs, decide_eq_true_eq, not_or] at hseries
      have ha : a.ndim = 2 := by
        rw [Ndarray.ndim, (h.advs_bars a hh).resolve_left hseries.1]
        rfl
      have hb : b.ndim = 2 := hser.ndim_eq.symm.trans ha
      rw [Option.map_some, Option.map_some, if_pos ha, if_pos hb, hser.row_eq hs]

end ReplayHistory

namespace ReplayEngine

open ReplayHistory

variable {ε S Z : Type} {t s : ℕ} {h k : ReplayHistory}

theorem evaluateArgs_eq (hk : h.AgreeTo t k) (hs : s ≤ t) : evaluateArgs h s = evaluateArgs k s := by
  have hn := nAssets_eq hk
  have hm := kModels_eq hk
  simp only [evaluateArgs, List.getD_eq_getElem?_getD, barPredsAll, modelWeights, aleatoricVarCbAll, volsSq, epistemicVarCbAll,
    pSig2All, List.map_map, predictions_rows _ hk hs, volatilities_rows _ hk hs, betasAll_eq hk hs, cusumFlags_eq hk hs,
    panicFlags_eq hk hs, hn, hm]

theorem solveArgs_eq (hk : h.AgreeTo t k) (hs : s ≤ t) (κ w : ℚ) : solveArgs h s κ w = solveArgs k s κ w := by
  have hn := nAssets_eq hk
  have hm := kModels_eq hk
  simp only [solveArgs, List.getD_eq_getElem?_getD, pMuAll, pSig2All, volsSq, cAll, predictions_rows _ hk hs,
    volatilities_rows _ hk hs, hk.assetVolatilities.row_eq hs, hn, hm]

theorem updateArgs_eq (hk : h.AgreeTo t k) (hs : s ≤ t) (d : CircuitBreakerDecision) (z : SizingDecision) (cost : ℚ) :
    updateArgs h s d z cost = updateArgs k s d z cost := by
  simp only [updateArgs, List.getD_eq_getElem?_getD, tsSeries_eq hk hs, hk.assetReturns.row_eq hs]

/-- A turn reads nothing of the inputs but the rows of its bar. -/
theorem bar_eq (e : ReplayEngine ε S Z) (hk : h.AgreeTo t k) (hs : s ≤ t) (st : ReplayState S Z) :
    e.bar h s st = e.bar k s st := by
  have hbook : ∀ d z st, e.book h s d z st = e.book k s d z st := by
    intro d z st
    unfold book
    simp only [hk.assetVolatilities.row_eq hs, advsAt_eq hk hs, updateArgs_eq hk hs]
  have hsizing : ∀ κ w z, e.sizing h s κ w z = e.sizing k s κ w z := by
    intro κ w z
    unfold sizing
    rw [nAssets_eq hk, solveArgs_eq hk hs]
  unfold bar
  simp only [List.getD_eq_getElem?_getD, tsSeries_eq hk hs, evaluateArgs_eq hk hs, hsizing, hbook]

/-- After the same turns of two histories that agree on their bars, the states are one. -/
theorem play_eq (e : ReplayEngine ε S Z) (hk : h.AgreeTo t k) {n : ℕ} (hn : n ≤ t + 1) : e.play h n = e.play k n := by
  induction n with
  | zero =>
    unfold play start
    rw [nAssets_eq hk]
  | succ n ih =>
    simp only [play, ih (by omega), bar_eq e hk (show n ≤ t by omega)]

/-! ### Later turns -/

/-- A turn adds one record or raises; then it adds none. -/
theorem bar_history (e : ReplayEngine ε S Z) (h : ReplayHistory) (n : ℕ) (st : ReplayState S Z) :
    (∃ exc, (e.bar h n st).1 = .error exc ∧ (e.bar h n st).2.ledger.history = st.ledger.history) ∨
      ∃ r, (e.bar h n st).1 = .ok () ∧ (e.bar h n st).2.ledger.history = st.ledger.history ++ [r] := by
  have hbook : ∀ d z st', (∃ exc, (e.book h n d z st').1 = .error exc ∧ (e.book h n d z st').2.ledger.history =
      st'.ledger.history) ∨
      ∃ r, (e.book h n d z st').1 = .ok () ∧ (e.book h n d z st').2.ledger.history = st'.ledger.history ++ [r] := by
    intro d z st'
    unfold book
    simp only
    rcases broadcastSub z.discretizedAllocations st'.prevPositions with _ | delta
    · exact .inl ⟨_, rfl, rfl⟩
    · simp only
      rcases e.costModel.computeCost e.sqrt delta (h.assetVolatilities.row n) (h.advsAt n) with exc | cost
      · exact .inl ⟨_, rfl, rfl⟩
      · simp only
        rcases st'.ledger.update_cases (updateArgs h n d z cost) with ⟨exc, hu⟩ | ⟨-, -, r, -, hu⟩
        · rw [hu]
          exact .inl ⟨_, rfl, rfl⟩
        · rw [hu]
          exact .inr ⟨r, rfl, rfl⟩
  unfold bar
  simp only
  split
  · exact .inl ⟨_, rfl, rfl⟩
  · rcases e.evaluate (evaluateArgs h n) st.cbState with exc | ⟨d, cb⟩
    · exact .inl ⟨_, rfl, rfl⟩
    · simp only
      rcases e.sizing h n (kappa d) st.ledger.equity st.sizerState with ⟨exc | z, zs⟩
      · exact .inl ⟨_, rfl, rfl⟩
      · exact hbook _ _ _

/-- The turns so far left one record each, unless one raised. -/
theorem play_length (e : ReplayEngine ε S Z) (h : ReplayHistory) (n : ℕ) :
    (e.play h n).2.ledger.history.length ≤ n ∧
      ((e.play h n).1 = .ok () → (e.play h n).2.ledger.history.length = n) := by
  induction n with
  | zero => exact ⟨le_rfl, fun _ => rfl⟩
  | succ n ih =>
    obtain ⟨hle, heq⟩ := ih
    rw [play]
    rcases hp : e.play h n with ⟨exc | _, st⟩
    · rw [hp] at hle
      exact ⟨Nat.le_succ_of_le hle, nofun⟩
    · rw [hp] at hle heq
      have hlen : st.ledger.history.length = n := heq rfl
      rcases e.bar_history h n st with ⟨exc, hexc, hhist⟩ | ⟨r, hok, hhist⟩
      · simp only [hhist, hexc]
        exact ⟨by omega, nofun⟩
      · simp only [hhist, List.length_append, List.length_singleton]
        exact ⟨by omega, fun _ => by omega⟩

/-- The records of the first `n` bars are the same after any more turns. -/
theorem play_take (e : ReplayEngine ε S Z) (h : ReplayHistory) (n m : ℕ) :
    (e.play h (n + m)).2.ledger.history.take n = (e.play h n).2.ledger.history ∧
      ((e.play h (n + m)).1 = .ok () → (e.play h n).1 = .ok ()) := by
  induction m with
  | zero => exact ⟨List.take_of_length_le (e.play_length h n).1, id⟩
  | succ m ih =>
    obtain ⟨htake, hok⟩ := ih
    rw [← Nat.add_assoc, play]
    have hlen := (e.play_length h (n + m)).2
    rcases hp : e.play h (n + m) with ⟨exc | _, st⟩
    · rw [hp] at htake
      exact ⟨htake, nofun⟩
    · rw [hp] at htake hok hlen
      have hlen' : st.ledger.history.length = n + m := hlen rfl
      refine ⟨?_, fun _ => hok rfl⟩
      rcases e.bar_history h (n + m) st with ⟨exc, -, hhist⟩ | ⟨r, -, hhist⟩
      · simp only [hhist]
        exact htake
      · simp only [hhist]
        rw [List.take_append_of_le_length (by omega)]
        exact htake

/-- Two input histories the engine accepts that agree on all bars up to `t` leave the same records of these bars. -/
theorem records_eq_of_agreeTo (e : ReplayEngine ε S Z) {x y : ReplayInputs} (hx : x.Accepted ε) (hy : y.Accepted ε)
    (hxy : x.AgreeTo t y) : (e.run x).2.take (t + 1) = (e.run y).2.take (t + 1) := by
  obtain ⟨⟨h, hh⟩, hvx⟩ := hx
  obtain ⟨⟨k, hkk⟩, hvy⟩ := hy
  have hk := hxy.histories hh hkk
  obtain ⟨m, hm⟩ := Nat.exists_eq_add_of_lt hk.bars.1
  obtain ⟨m', hm'⟩ := Nat.exists_eq_add_of_lt hk.bars.2
  simp only [run, hvx, hvy]
  rw [show h.tLen = t + 1 +
    m by omega, show k.tLen = t + 1 + m' by omega, (e.play_take h (t + 1) m).1, (e.play_take k (t + 1) m').1,
    play_eq e hk le_rfl]

/-! ### One asset -/

/-- A table with one asset. -/
def column (xs : List ℚ) : Ndarray where
  dtype := .number "float64"
  shape := [xs.length, 1]
  data := xs.map some
  data_length := by simp

/-- One array for all bars agrees with itself. -/
theorem seriesAgree_of_static {static : Ndarray → Bool} {t : ℕ} {a : Ndarray} (h : static a = true) :
    SeriesAgree static t (.ndarray a) (.ndarray a) := by
  rw [seriesAgree_iff, if_pos (.inl h)]

theorem column_agreeTo {t : ℕ} {xs ys : List ℚ} (h : xs.take (t + 1) = ys.take (t + 1)) : (column xs).AgreeTo t (column ys) where
  dtype_eq := rfl
  ndim_eq := rfl
  shape_tail := rfl
  rawRow_eq := by
    intro s hs
    have hrow : ∀ zs : List ℚ, (column zs).rawRow s = (zs[s]?.map some).toList := by
      intro zs
      simp [Ndarray.rawRow, Ndarray.rowSize, column, List.take_one, List.head?_drop]
    have hat : ∀ zs : List ℚ, (zs.take (t + 1))[s]? = zs[s]? := fun zs => List.getElem?_take_of_lt (by omega)
    rw [hrow, hrow, ← hat xs, ← hat ys, h]

/-- One asset with returns and predictions, and the same volatility at every bar. -/
def deskInputs (returns predictions : List ℚ) : ReplayInputs where
  assetReturns := .ndarray (column returns)
  assetVolatilities := .ndarray (column (returns.map fun _ => 1 / 5))
  candidatePredictions := .ndarray (column predictions)
  regimeProbabilities := .ndarray (.vector [1, 0, 0])
  ambiguityBetas := .ndarray (.vector [1])
  timestamps := none
  advs := none
  cusumShocks := none

theorem deskInputs_agreeTo {t : ℕ} {r p r' p' : List ℚ} (hr : r.take (t + 1) = r'.take (t + 1))
    (hp : p.take (t + 1) = p'.take (t + 1))
    (hl : t < r.length ∧ t < r'.length) : (deskInputs r p).AgreeTo t (deskInputs r' p') where
  bars := hl
  assetReturns := seriesAgree_iff.2 (column_agreeTo hr)
  assetVolatilities := seriesAgree_iff.2 (column_agreeTo (by rw [← List.map_take, ← List.map_take, hr]))
  candidatePredictions := seriesAgree_iff.2 (column_agreeTo hp)
  regimeProbabilities := seriesAgree_of_static rfl
  ambiguityBetas := seriesAgree_of_static rfl
  timestamps := trivial
  advs := trivial
  cusumShocks := trivial

/-- An engine that buys what is predicted, without costs. -/
def deskEngine : ReplayEngine Unit Unit Unit where
  initialCapital := 1000
  costModel := ⟨0, 0, 0, Literal.zero_nonneg, Literal.zero_nonneg, Literal.zero_nonneg⟩
  sqrt := id
  initializeState := ()
  evaluate := fun _ _ => .ok (⟨.normal, 1, false⟩, ())
  sizerState := ()
  solve := fun a _ => (.ok { emptyDecision a.circuitBreakerHaircut
    with targetAllocations := a.mu, discretizedAllocations := a.mu }, ())
  initialCapital_pos := Literal.thousand_pos

/-- Thirty bars of a rising price that the models foresee. -/
def risingInputs : ReplayInputs := deskInputs (List.replicate 30 (1 / 100)) (List.replicate 30 10)

/-- The same ten bars first, then twenty-five of a fall. -/
def turningInputs : ReplayInputs :=
  deskInputs (List.replicate 10 (1 / 100) ++ List.replicate 25 (-1 / 50)) (List.replicate 10 10 ++ List.replicate 25 (-10))

theorem accepted_of_isOk {ε : Type} {x : ReplayInputs} (h : (x.validate ε).isOk = true) : x.Accepted ε := by
  unfold ReplayInputs.Accepted
  cases hv : x.validate ε with
  | error exc =>
    rw [hv] at h
    cases h
  | ok y => exact ⟨y, rfl⟩

theorem records_eq_of_turningInputs : (deskEngine.run risingInputs).2.take 10 = (deskEngine.run turningInputs).2.take 10 :=
  records_eq_of_agreeTo deskEngine (accepted_of_isOk (by decide +kernel)) (accepted_of_isOk (by decide +kernel))
    (deskInputs_agreeTo rfl rfl (by decide))

/-- Twenty bars are too few for the engine: it records none of them, though it records them all where ten more follow. -/
theorem records_ne_of_starvation :
    ¬ ∀ (e : ReplayEngine Unit Unit Unit) (x y : ReplayInputs) (t : ℕ), x.AgreeTo t y →
      (e.run x).2.take (t + 1) = (e.run y).2.take (t + 1) := by
  intro h
  have hrun := h deskEngine (deskInputs (List.replicate 20 0) (List.replicate 20 0))
    (deskInputs (List.replicate 30 0) (List.replicate 30 0)) 19 (deskInputs_agreeTo rfl rfl (by decide))
  have hlen : ((deskEngine.run (deskInputs (List.replicate 20 0) (List.replicate 20 0))).2.take 20).length ≠
      ((deskEngine.run (deskInputs (List.replicate 30 0) (List.replicate 30 0))).2.take 20).length := by decide +kernel
  exact hlen (congrArg List.length hrun)

end ReplayEngine
end Quant
