import Mathlib.Order.Interval.Set.UnorderedInterval
import Quant.Analytics.PriceReaction
import Quant.Theorems.StrategySignals

/-!
# Forecasts of prices

What `NewsPriceReactionEngine.predict` returns: the move is a product without a floor, so a strong negative shock of a volatile
asset leads to a target that is no price.
-/

namespace Quant

open Pylib

/-! ## The decay kernel -/

/-- The two memories of the kernel, at the time constants of a forecast. -/
noncomputable def reactionMemory (urgency h : ℝ) : ℝ :=
  lit (1 / 2) * Real.exp (-h / max (lit 3600 * (1 - min (max urgency 0) (lit (999 / 1000)))) (lit (1 / 10 ^ 6))) +
    lit (1 / 2) * (1 + h / lit 86400)⁻¹

/-- The kernel of a forecast: the memories, cut off at a tolerance and at a lookback. -/
noncomputable def reactionDecay (urgency h : ℝ) : ℝ :=
  if lit 604800 < h then 0 else if reactionMemory urgency h < lit (1 / 10 ^ 4) then 0 else reactionMemory urgency h

section Decay

variable {urgency h h' : ℝ}

theorem computeDecayKernel_reaction (urgency : ℝ) (hh : 0 ≤ h) :
    computeDecayKernel exactMath h urgency (lit 3600) (lit 86400) = .ok (reactionDecay urgency h) := by
  have hslow : (0 : ℝ) < lit 86400 := lit_pos.2 (by norm_num)
  have hbase : 0 < 1 + h / lit 86400 := add_pos_of_pos_of_nonneg one_pos (div_nonneg hh hslow.le)
  rw [computeDecayKernel, if_neg hh.not_gt, reactionDecay]
  dsimp only
  rw [if_neg hslow.ne', if_neg hbase.ne']
  split_ifs <;> first | rfl | contradiction

theorem reactionMemory_antitone (urgency : ℝ) (hh : 0 ≤ h) (hle : h ≤ h') :
    reactionMemory urgency h' ≤ reactionMemory urgency h := by
  have hslow : (0 : ℝ) < lit 86400 := lit_pos.2 (by norm_num)
  have hhalf : (0 : ℝ) ≤ lit (1 / 2) := (lit_pos.2 (by norm_num)).le
  have hbase : 0 < 1 + h / lit 86400 := add_pos_of_pos_of_nonneg one_pos (div_nonneg hh hslow.le)
  have hfast : (0 : ℝ) < max (lit 3600 * (1 - min (max urgency 0) (lit (999 / 1000)))) (lit (1 / 10 ^ 6)) :=
    lt_max_of_lt_right (lit_pos.2 (by norm_num))
  refine add_le_add (mul_le_mul_of_nonneg_left (Real.exp_le_exp.2 ?_) hhalf) (mul_le_mul_of_nonneg_left ?_ hhalf)
  · exact div_le_div_of_nonneg_right (neg_le_neg hle) hfast.le
  · refine inv_anti₀ hbase ?_
    gcongr

theorem reactionMemory_zero (urgency : ℝ) : reactionMemory urgency 0 = 1 := by
  rw [reactionMemory, neg_zero, zero_div, zero_div, add_zero, Real.exp_zero, inv_one, mul_one, lit_add, lit]
  norm_num

theorem reactionDecay_nonneg (urgency h : ℝ) : 0 ≤ reactionDecay urgency h := by
  rw [reactionDecay]
  split_ifs with hlong hsmall
  · exact le_rfl
  · exact le_rfl
  · exact (lit_pos.2 (by norm_num)).le.trans (not_lt.1 hsmall)

/-- A later horizon leaves less of the move, across both cut-offs. -/
theorem reactionDecay_antitone (urgency : ℝ) (hh : 0 ≤ h) (hle : h ≤ h') :
    reactionDecay urgency h' ≤ reactionDecay urgency h := by
  have hmemory := reactionMemory_antitone urgency hh hle
  by_cases hlong : lit 604800 < h'
  · rw [reactionDecay, if_pos hlong]
    exact reactionDecay_nonneg urgency h
  by_cases hsmall : reactionMemory urgency h' < lit (1 / 10 ^ 4)
  · rw [reactionDecay, if_neg hlong, if_pos hsmall]
    exact reactionDecay_nonneg urgency h
  · have hlong' : ¬ lit 604800 < h := fun hlt => hlong (hlt.trans_le hle)
    have hsmall' : ¬ reactionMemory urgency h < lit (1 / 10 ^ 4) := fun hlt => hsmall (hmemory.trans_lt hlt)
    rwa [reactionDecay, reactionDecay, if_neg hlong, if_neg hsmall, if_neg hlong', if_neg hsmall']

theorem reactionDecay_le_one (urgency : ℝ) (hh : 0 ≤ h) : reactionDecay urgency h ≤ 1 := by
  have hle := reactionMemory_antitone urgency le_rfl hh
  rw [reactionMemory_zero] at hle
  rw [reactionDecay]
  split_ifs
  · exact zero_le_one
  · exact zero_le_one
  · exact hle

end Decay

/-! ## Forecasts -/

/-- What a forecast of prices is: the target and the trajectory are prices, the trajectory comes back from the target to the
current price, and the probability tells the direction of the shock. -/
structure PriceReactionPrediction.IsForecast (p : PriceReactionPrediction ℝ) (shock : ℝ) : Prop where
  target_pos : 0 < p.targetPrice
  trajectory_pos : ∀ x ∈ p.predictedTrajectory, 0 < x.2
  between : ∀ x ∈ p.predictedTrajectory, x.2 ∈ Set.uIcc p.currentPrice p.targetPrice
  reverts : p.predictedTrajectory.Pairwise fun x y => y.2 ∈ Set.uIcc p.currentPrice x.2
  probUp_iff : lit (1 / 2) < p.probUp ↔ 0 < shock

/-- A smaller part of a move lies between its origin and a larger part. -/
theorem add_mul_mem_uIcc {p d k m : ℝ} (hk : 0 ≤ k) (hm : k ≤ m) : p + d * k ∈ Set.uIcc p (p + d * m) := by
  rcases le_total 0 d with hd | hd
  · refine Set.mem_uIcc.2 (.inl ⟨?_, ?_⟩)
    · exact le_add_of_nonneg_right (mul_nonneg hd hk)
    · exact add_le_add_right (mul_le_mul_of_nonneg_left hm hd) p
  · refine Set.mem_uIcc.2 (.inr ⟨?_, ?_⟩)
    · exact add_le_add_right (mul_le_mul_of_nonpos_left hm hd) p
    · exact add_le_of_nonpos_right (mul_nonpos_of_nonpos_of_nonneg hd hk)

theorem clip_neg_iff {x b : ℝ} (hb : 0 < b) : clip x (-b) b < 0 ↔ x < 0 := by
  rw [clip, min_lt_iff, max_lt_iff]
  constructor
  · rintro (h | h)
    · exact absurd h hb.not_gt
    · exact h.2
  · exact fun h => .inr ⟨neg_neg_of_pos hb, h⟩

theorem categoryElasticity_pos (e : EventType) : (0 : ℝ) < categoryElasticity e := by
  cases e <;> exact lit_pos.2 (by norm_num)

/-- The probability of a rise is above one half exactly where the shock, as the engine weighs it, is positive. -/
theorem half_lt_breakoutProbability_iff {lambda shock gamma : ℝ} (hgamma : 0 < gamma) (volatility : ℝ) :
    lit (1 / 2) < breakoutProbability exactMath lambda shock gamma volatility ↔ 0 < lambda * shock := by
  have hvol : 0 < max volatility (lit (1 / 10 ^ 5)) := lt_max_of_lt_right (lit_pos.2 (by norm_num))
  have hden (x : ℝ) : 0 < 1 + Real.exp x := add_pos one_pos (Real.exp_pos x)
  have hhalf : (lit (1 / 2) : ℝ) = 1 / 2 := by
    rw [lit]
    norm_num
  rw [breakoutProbability, hhalf]
  dsimp only [exactMath]
  rw [div_lt_div_iff_of_pos_left one_pos two_pos (hden _), ← one_add_one_eq_two, add_lt_add_iff_left, Real.exp_lt_one_iff,
    clip_neg_iff (lit_pos.2 (by norm_num)), neg_div, neg_lt_zero, div_pos_iff_of_pos_right hvol, mul_pos_iff_of_pos_right hgamma]

namespace NewsPriceReactionEngine

variable {engine : NewsPriceReactionEngine ℝ} {event : ClassifiedNewsEvent ℝ} {prices volatilities : Dict String ℝ}

/-- What the trajectory of a move is. -/
theorem trajectory_eq (hnonneg : ∀ h ∈ engine.forecastHorizons, 0 ≤ h) (urgency currentPrice expectedDelta : ℝ) :
    engine.trajectory exactMath urgency currentPrice expectedDelta =
      .ok (engine.forecastHorizons.map fun h => (h, currentPrice + expectedDelta * reactionDecay urgency h)) := by
  refine mapM_eq_ok_map fun h hh => ?_
  rw [computeDecayKernel_reaction urgency (hnonneg h hh)]
  rfl

/-- The relative move of a ticker. -/
noncomputable def relativeMove (event : ClassifiedNewsEvent ℝ) (volatilities : Dict String ℝ) (ticker : String) : ℝ :=
  categoryElasticity event.eventType * event.compositeShock.getD ticker 0 * volatilities.getD ticker (lit (2 / 100))

/-- What a forecast that is returned consists of. -/
theorem predictTicker_spec (hnonneg : ∀ h ∈ engine.forecastHorizons, 0 ≤ h) {nowUtc : ℤ} {elapsedMs : ℝ} {ticker : String}
    {p : PriceReactionPrediction ℝ}
    (h : engine.predictTicker exactMath event prices volatilities nowUtc elapsedMs ticker = .ok p) :
    p.ticker = ticker ∧ 0 < p.currentPrice ∧ p.targetPrice = p.currentPrice * (1 + relativeMove event volatilities ticker) ∧
      p.predictedTrajectory = engine.forecastHorizons.map (fun h =>
        (h, p.currentPrice + p.currentPrice * relativeMove event volatilities ticker * reactionDecay event.urgency h)) ∧
      p.probUp = breakoutProbability exactMath engine.sensitivityLambda (event.compositeShock.getD ticker 0)
        (categoryElasticity event.eventType) (volatilities.getD ticker (lit (2 / 100))) := by
  unfold predictTicker at h
  dsimp only at h
  rw [trajectory_eq hnonneg] at h
  obtain ⟨_, hvalid, h⟩ := exists_of_bind_ok h
  obtain ⟨trajectory, htrajectory, h⟩ := exists_of_bind_ok h
  cases htrajectory
  by_cases hlate : engine.maxLatencyMs < elapsedMs
  · rw [if_pos hlate] at h
    cases h
  rw [if_neg hlate] at h
  obtain rfl := Except.ok.inj h
  have hprice : 0 < prices.getD ticker (lit 100) := by
    by_contra hneg
    rw [validatePriceInputs, if_pos (not_lt.1 hneg)] at hvalid
    cases hvalid
  have hmove : prices.getD ticker (lit 100) * categoryElasticity event.eventType * event.compositeShock.getD ticker 0 *
      volatilities.getD ticker (lit (2 / 100)) = prices.getD ticker (lit 100) * relativeMove event volatilities ticker := by
    rw [relativeMove, mul_assoc, mul_assoc, mul_assoc]
  refine ⟨rfl, hprice, ?_, ?_, rfl⟩
  · dsimp only
    rw [hmove, mul_add, mul_one]
  · dsimp only
    rw [hmove]

/-- Prices and volatilities that are positive, and a clock within the deadline, give forecasts. -/
theorem predict_ok (hnonneg : ∀ h ∈ engine.forecastHorizons, 0 ≤ h) {clock : PredictClock ℝ}
    (hlatency : ∀ i, clock.elapsedMs i ≤ engine.maxLatencyMs)
    (hinputs : ∀ ticker ∈ event.entityCentrality.keys, 0 < prices.getD ticker (lit 100) ∧
      0 < volatilities.getD ticker (lit (2 / 100))) :
    ∃ predictions, engine.predict exactMath event prices volatilities clock = .ok predictions := by
  refine mapM_ok_of_forall fun entry hentry => ?_
  obtain ⟨hprice, hvol⟩ := hinputs entry.1 (List.fst_mem_of_mem_zipIdx hentry)
  have hvalid : validatePriceInputs (prices.getD entry.1 (lit 100)) (volatilities.getD entry.1 (lit (2 / 100))) = .ok () := by
    rw [validatePriceInputs, if_neg hprice.not_ge, if_neg hvol.not_ge]
  unfold predictTicker
  dsimp only
  rw [hvalid, trajectory_eq hnonneg]
  exact ⟨_, if_neg (hlatency entry.2).not_gt⟩

/-- A forecast that is returned is one of prices exactly where the relative move is above -1 and the engine weighs the shock with
its sign. -/
theorem predictTicker_isForecast_iff (hsorted : engine.forecastHorizons.Pairwise (· ≤ ·))
    (hnonneg : ∀ h ∈ engine.forecastHorizons, 0 ≤ h)
    {nowUtc : ℤ} {elapsedMs : ℝ} {ticker : String} {p : PriceReactionPrediction ℝ}
    (h : engine.predictTicker exactMath event prices volatilities nowUtc elapsedMs ticker = .ok p) :
    p.IsForecast (event.compositeShock.getD ticker 0) ↔
      -1 < relativeMove event volatilities ticker ∧
        (0 < engine.sensitivityLambda * event.compositeShock.getD ticker 0 ↔ 0 < event.compositeShock.getD ticker 0) := by
  obtain ⟨-, hprice, htarget, htrajectory, hprob⟩ := predictTicker_spec hnonneg h
  have hprobUp : lit (1 / 2) < p.probUp ↔ 0 < engine.sensitivityLambda * event.compositeShock.getD ticker 0 := by
    rw [hprob, half_lt_breakoutProbability_iff (categoryElasticity_pos _)]
  have htargetPos : 0 < p.targetPrice ↔ -1 < relativeMove event volatilities ticker := by
    rw [htarget, mul_pos_iff_of_pos_left hprice, ← neg_lt_iff_pos_add']
  have hbetween : ∀ x ∈ p.predictedTrajectory, x.2 ∈ Set.uIcc p.currentPrice p.targetPrice := by
    rw [htrajectory]
    intro x hx
    obtain ⟨horizon, hmem, rfl⟩ := List.mem_map.1 hx
    have hone := add_mul_mem_uIcc (p := p.currentPrice) (d := p.currentPrice * relativeMove event volatilities ticker)
      (reactionDecay_nonneg event.urgency horizon) (reactionDecay_le_one event.urgency (hnonneg horizon hmem))
    rwa [mul_one, ← mul_one_add, ← htarget] at hone
  constructor
  · exact fun hforecast => ⟨htargetPos.1 hforecast.target_pos, hprobUp.symm.trans hforecast.probUp_iff⟩
  · rintro ⟨hmove, hsign⟩
    have htargetPos' := htargetPos.2 hmove
    refine ⟨htargetPos', fun x hx => ?_, hbetween, ?_, hprobUp.trans hsign⟩
    · exact (lt_min hprice htargetPos').trans_le (hbetween x hx).1
    · rw [htrajectory, List.pairwise_map]
      refine hsorted.imp_of_mem fun {x y} hx _ hxy => ?_
      exact add_mul_mem_uIcc (reactionDecay_nonneg event.urgency y) (reactionDecay_antitone event.urgency (hnonneg x hx) hxy)

/-- The forecasts of a call that returns are forecasts of prices exactly where every relative move is above -1 and every shock is
weighed with its sign. -/
theorem predict_isForecast_iff (hsorted : engine.forecastHorizons.Pairwise (· ≤ ·))
    (hnonneg : ∀ h ∈ engine.forecastHorizons, 0 ≤ h)
    {clock : PredictClock ℝ} {predictions : List (PriceReactionPrediction ℝ)}
    (h : engine.predict exactMath event prices volatilities clock = .ok predictions) :
    (∀ p ∈ predictions, p.IsForecast (event.compositeShock.getD p.ticker 0)) ↔
      ∀ ticker ∈ event.entityCentrality.keys, -1 < relativeMove event volatilities ticker ∧
        (0 < engine.sensitivityLambda * event.compositeShock.getD ticker 0 ↔ 0 < event.compositeShock.getD ticker 0) := by
  have hall := forall₂_of_mapM_ok h
  have hticker : List.Forall₂ (fun ticker p => p.ticker = ticker ∧ (p.IsForecast (event.compositeShock.getD p.ticker 0) ↔
      -1 < relativeMove event volatilities ticker ∧
        (0 < engine.sensitivityLambda * event.compositeShock.getD ticker 0 ↔ 0 < event.compositeShock.getD ticker 0)))
      event.entityCentrality.keys predictions := by
    rw [← List.zipIdx_map_fst 0 event.entityCentrality.keys, List.forall₂_map_left_iff]
    refine hall.imp fun entry p hp => ?_
    obtain ⟨hname, -⟩ := predictTicker_spec hnonneg hp
    refine ⟨hname, ?_⟩
    rw [hname]
    exact predictTicker_isForecast_iff hsorted hnonneg hp
  clear hall h
  generalize event.entityCentrality.keys = tickers at hticker
  induction hticker with
  | nil => simp
  | cons hp _ ih =>
    rw [List.forall_mem_cons, List.forall_mem_cons]
    exact and_congr hp.2 ih

/-! ### Runs -/

/-- An announced merger that hits one ticker with a shock. -/
noncomputable def mergerEvent (shock : ℝ) (h : -1 ≤ shock ∧ shock ≤ 1) : ClassifiedNewsEvent ℝ where
  eventType := .mAndA
  urgency := lit (1 / 2)
  entityCentrality := (∅ : Dict String ℝ).set "ACME" 1
  compositeShock := (∅ : Dict String ℝ).set "ACME" shock
  compositeShock_mem := List.forall_mem_singleton.2 h

/-- The volatility of the ticker. -/
def mergerVolatility (volatility : ℝ) : Dict String ℝ := (∅ : Dict String ℝ).set "ACME" volatility

theorem relativeMove_merger {shock : ℝ} (h : -1 ≤ shock ∧ shock ≤ 1) (volatility : ℝ) :
    relativeMove (mergerEvent shock h) (mergerVolatility volatility) "ACME" = lit (7 / 2) * shock * volatility := rfl

theorem defaultForecastHorizons_sound :
    (defaultForecastHorizons : List ℝ).Pairwise (· ≤ ·) ∧ ∀ h ∈ (defaultForecastHorizons : List ℝ), 0 ≤ h := by
  simp only [defaultForecastHorizons, List.pairwise_cons, List.forall_mem_cons, List.not_mem_nil, false_imp_iff, implies_true,
    List.Pairwise.nil, and_true, le_refl, true_and, lit]
  norm_num

theorem predict_merger_ok {shock : ℝ} (h : -1 ≤ shock ∧ shock ≤ 1) {volatility : ℝ} (hvol : 0 < volatility) :
    ∃ predictions, defaultReactionEngine.predict exactMath (mergerEvent shock h) ∅ (mergerVolatility volatility) ⟨0, fun _ => 0⟩ =
      .ok predictions := by
  refine predict_ok defaultForecastHorizons_sound.2 (fun _ => (lit_pos.2 (by norm_num)).le) ?_
  exact List.forall_mem_singleton.2 ⟨lit_pos.2 (by norm_num), hvol⟩

theorem predict_isForecast_merger :
    ∃ predictions, defaultReactionEngine.predict exactMath (mergerEvent (-1) ⟨le_rfl, by norm_num⟩) ∅ (mergerVolatility (1 / 5))
        ⟨0, fun _ => 0⟩ = .ok predictions ∧
      ∀ p ∈ predictions, p.IsForecast ((mergerEvent (-1) ⟨le_rfl, by norm_num⟩).compositeShock.getD p.ticker 0) := by
  obtain ⟨predictions, hok⟩ := predict_merger_ok ⟨le_rfl, by norm_num⟩ (by norm_num : (0 : ℝ) < 1 / 5)
  refine ⟨predictions, hok, (predict_isForecast_iff defaultForecastHorizons_sound.1 defaultForecastHorizons_sound.2 hok).2 ?_⟩
  refine List.forall_mem_singleton.2 ⟨?_, ?_⟩
  · rw [relativeMove_merger, lit]
    norm_num
  · change 0 < lit (3 / 2) * (-1 : ℝ) ↔ (0 : ℝ) < -1
    rw [lit]
    norm_num

/-- At a volatility of 30% the same merger leads to a target below zero. -/
theorem predict_merger_negative :
    ∃ predictions, defaultReactionEngine.predict exactMath (mergerEvent (-1) ⟨le_rfl, by norm_num⟩) ∅ (mergerVolatility (3 / 10))
        ⟨0, fun _ => 0⟩ = .ok predictions ∧
      ∃ p ∈ predictions, p.targetPrice < 0 := by
  obtain ⟨predictions, hok⟩ := predict_merger_ok ⟨le_rfl, by norm_num⟩ (by norm_num : (0 : ℝ) < 3 / 10)
  refine ⟨predictions, hok, ?_⟩
  obtain ⟨p, rest, hp, -, rfl⟩ := List.forall₂_cons_left_iff.1 (forall₂_of_mapM_ok hok)
  obtain ⟨-, hprice, htarget, -⟩ := predictTicker_spec defaultForecastHorizons_sound.2 hp
  refine ⟨p, List.mem_cons_self, ?_⟩
  rw [htarget]
  refine mul_neg_of_pos_of_neg hprice ?_
  rw [relativeMove_merger, lit]
  norm_num

end NewsPriceReactionEngine

end Quant
