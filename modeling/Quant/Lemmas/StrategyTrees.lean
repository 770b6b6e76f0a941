import Quant.Lemmas.StrategySpecs

/-!
# Trees of strategies

What a call can change in a strategy and in those under it, what it keeps, and what a sound tree of strategies returns: every
signal is accepted, from the leaves up.
-/

namespace Quant

open Pylib

section Trees

variable {α : Type} [Field α] [LinearOrder α] [FloorRing α]

namespace Strategy

/-- A property of a strategy and of all the strategies under it. -/
inductive Forall (P : Strategy α → Prop) : Strategy α → Prop
  | node {s : Strategy α} (here : P s) (below : ∀ sub ∈ s.subs, Forall P sub) : Forall P s

variable {P : Strategy α → Prop} {s : Strategy α}

theorem Forall.here (h : s.Forall P) : P s := by
  cases h with
  | node here _ => exact here

theorem Forall.under (h : s.Forall P) {sub : Strategy α} (hsub : sub ∈ s.subs) : sub.Forall P := by
  cases h with
  | node _ below => exact below sub hsub

/-! ## What a call can change -/

/-- What a call can make of a strategy: another position or other events, updated weights, or such changes in its
sub-strategies. -/
inductive Updates (M : StrategyMath α) : Strategy α → Strategy α → Prop
  | refl (s : Strategy α) : Updates M s s
  | position (cfg : KalmanPairsConfig α) (position position' : ℤ) :
      Updates M (.kalmanPairs cfg position) (.kalmanPairs cfg position')
  | events (cfg : SentimentConfig α) (buffer buffer' : EventBuffer α) : Updates M (.sentiment cfg buffer) (.sentiment cfg buffer')
  | weights (cfg : SwarmMetaConfig α) {weights weights' : List α} (subs : List (Strategy α)) {rewards : List α}
      {regimeLabel : String} (h : cfg.updateWeightsWithRewards M weights subs.length rewards regimeLabel = .ok weights') :
      Updates M (.swarmMeta cfg weights subs) (.swarmMeta cfg weights' subs)
  | subs (cfg : SwarmMetaConfig α) (weights : List α) {subs subs' : List (Strategy α)} (h : List.Forall₂ (Updates M) subs subs') :
      Updates M (.swarmMeta cfg weights subs) (.swarmMeta cfg weights subs')

variable {M : StrategyMath α} {s' : Strategy α}

/-- A sub-strategy after a call was one before it. -/
theorem Updates.exists_of_mem (h : Updates M s s') {sub' : Strategy α} (hsub : sub' ∈ s'.subs) :
    ∃ sub ∈ s.subs, Updates M sub sub' := by
  cases h with
  | refl => exact ⟨sub', hsub, .refl sub'⟩
  | position => cases hsub
  | events => cases hsub
  | weights => exact ⟨sub', hsub, .refl sub'⟩
  | subs _ _ hsubs => exact exists_of_forall₂_right hsubs hsub

/-- What a change to a strategy itself keeps holds of the whole tree after it. -/
theorem Forall.of_updates (hP : ∀ s s', Updates M s s' → P s → P s') (h : s.Forall P) (hu : Updates M s s') : s'.Forall P := by
  induction h generalizing s' with
  | node here below ih =>
    refine .node (hP _ _ hu here) fun sub' hsub' => ?_
    obtain ⟨sub, hsub, hu'⟩ := hu.exists_of_mem hsub'
    exact ih sub hsub hu'

section Compute

variable {history : BarHistoryWindow α} {context : Option (StrategyContext α)}

/-- The template leaves the strategy as it was, or as generating the signals left it. -/
theorem updates_template (base : BaseAlphaStrategy α) {generated : Except (StrategyExc α) (Signals α) × Strategy α}
    (h : Updates M s generated.2) : Updates M s (base.computeSignals history s generated).2 := by
  unfold BaseAlphaStrategy.computeSignals
  split
  · exact .refl s
  · exact h

mutual

theorem updates_computeSignals (M : StrategyMath α) (history : BarHistoryWindow α) (context : Option (StrategyContext α)) :
    ∀ s : Strategy α, Updates M s (s.computeSignals M history context).2
  | .kalmanPairs _ _ => updates_template _ (.position _ _ _)
  | .fracDiffMomentum _ => updates_template _ (.refl _)
  | .sentiment _ _ => updates_template _ (.events _ _ _)
  | .volatilityBreakout _ => updates_template _ (.refl _)
  | .swarmMeta cfg weights subs => updates_template _ (.subs cfg weights (updates_computeAll M history context subs))

theorem updates_computeAll (M : StrategyMath α) (history : BarHistoryWindow α) (context : Option (StrategyContext α)) :
    ∀ subs : List (Strategy α), List.Forall₂ (Updates M) subs (computeAll M history context subs).2
  | [] => .nil
  | s :: subs => by
    have hs := updates_computeSignals M history context s
    have hsubs := updates_computeAll M history context subs
    rw [computeAll]
    split
    · rename_i exc s' heq
      rw [heq] at hs
      exact .cons hs (List.forall₂_same.2 fun sub _ => .refl sub)
    · rename_i signals s' heq
      rw [heq] at hs
      exact .cons hs hsubs

end

/-- Every call changes no more than that. -/
theorem updates_run (M : StrategyMath α) (call : StrategyCall α) (s : Strategy α) : Updates M s (call.run M s) := by
  induction call generalizing s with
  | computeSignals history context => exact updates_computeSignals M history context s
  | recordEvent event =>
    cases s with
    | sentiment cfg buffer => exact .events cfg buffer _
    | _ => exact .refl _
  | reset =>
    cases s with
    | kalmanPairs cfg position => exact .position cfg position 0
    | _ => exact .refl _
  | updateWeightsWithRewards rewards regimeLabel =>
    cases s with
    | swarmMeta cfg weights subs =>
      rw [StrategyCall.run]
      cases hupdate : cfg.updateWeightsWithRewards M weights subs.length rewards regimeLabel with
      | error exc => exact .refl _
      | ok weights' => exact .weights cfg subs hupdate
    | _ => exact .refl _
  | sub i call ih =>
    cases s with
    | swarmMeta cfg weights subs =>
      exact .subs cfg weights (forall₂_modify .refl ih subs i)
    | _ => exact .refl _

end Compute

/-! ## Sound strategies -/

/-- The stops of the strategy's signals do not round to zero. -/
def StopsCount : Strategy α → Prop
  | .sentiment cfg _ => halfUnit 4 < cfg.stopLoss ∧ halfUnit 4 < cfg.takeProfit
  | _ => True

/-- The history passes the warm-up of the strategy and of all the strategies under it. -/
def WarmedUp (history : BarHistoryWindow α) (s : Strategy α) : Prop := s.Forall fun s => s.base.validateWarmup history = .ok ()

theorem stopsCount_of_updates {s s' : Strategy α} (hu : Updates M s s') (h : s.StopsCount) : s'.StopsCount := by
  cases hu <;> exact h

theorem base_of_updates {s s' : Strategy α} (hu : Updates M s s') : s'.base = s.base := by
  cases hu <;> rfl

theorem WarmedUp.run {history : BarHistoryWindow α} {s : Strategy α} (h : s.WarmedUp history) (call : StrategyCall α) :
    (call.run M s).WarmedUp history :=
  Forall.of_updates (fun _ _ hu hwarm => by rwa [base_of_updates hu]) h (updates_run M call s)

/-- The sub-strategies one after the other, where each returns its signals. -/
theorem computeAll_ok {history : BarHistoryWindow α} {context : Option (StrategyContext α)} {subs : List (Strategy α)}
    (h : ∀ sub ∈ subs, ∃ signals, (sub.computeSignals M history context).1 = .ok signals ∧
      ∀ sig ∈ signals.values, sig.StopsRound) :
    ∃ all, (computeAll M history context subs).1 = .ok all ∧ ∀ signals ∈ all, ∀ sig ∈ signals.values, sig.StopsRound := by
  induction subs with
  | nil => exact ⟨[], rfl, fun _ hmem => absurd hmem List.not_mem_nil⟩
  | cons sub subs ih =>
    obtain ⟨hsub, hsubs⟩ := List.forall_mem_cons.1 h
    obtain ⟨signals, hcompute, hstops⟩ := hsub
    obtain ⟨all, hall, hstopsAll⟩ := ih hsubs
    refine ⟨signals :: all, ?_, List.forall_mem_cons.2 ⟨hstops, hstopsAll⟩⟩
    rw [computeAll]
    split
    · rename_i exc s' heq
      rw [heq] at hcompute
      cases hcompute
    · rename_i signals' s' heq
      rw [heq] at hcompute
      cases hcompute
      exact congrArg (Except.map (signals :: ·)) hall

variable [IsStrictOrderedRing α]

/-- The settings of the strategy itself are sound, and the weights of a swarm are an allocation where its prior's weight is a
share. -/
def NodeSound : Strategy α → Prop
  | .kalmanPairs cfg _ => cfg.Sound
  | .fracDiffMomentum cfg => cfg.Sound
  | .sentiment cfg _ => cfg.Sound
  | .volatilityBreakout cfg => cfg.Sound
  | .swarmMeta cfg weights _ => cfg.Sound ∧ (0 ≤ cfg.priorWeight ∧ cfg.priorWeight ≤ 1 → Allocation weights)

/-- A strategy whose settings are sound throughout, with stops under it that can be averaged. -/
structure Sound (s : Strategy α) : Prop where
  nodes : s.Forall NodeSound
  stops : ∀ sub ∈ s.subs, sub.Forall StopsCount

theorem nodeSound_of_updates (hexp : ∀ x, 0 < M.exp x) {s s' : Strategy α} (hu : Updates M s s') (h : s.NodeSound) :
    s'.NodeSound := by
  cases hu with
  | refl => exact h
  | position => exact h
  | events => exact h
  | weights cfg subs hupdate => exact ⟨h.1, fun hprior => SwarmMetaConfig.allocation_updateWeights hexp hprior hupdate⟩
  | subs => exact h

/-- A call keeps a strategy sound. -/
theorem Sound.run (hexp : ∀ x, 0 < M.exp x) {s : Strategy α} (h : s.Sound) (call : StrategyCall α) : (call.run M s).Sound := by
  have hu := updates_run M call s
  refine ⟨h.nodes.of_updates (fun _ _ => nodeSound_of_updates hexp) hu, fun sub' hsub' => ?_⟩
  obtain ⟨sub, hsub, hu'⟩ := hu.exists_of_mem hsub'
  exact (h.stops sub hsub).of_updates (fun _ _ => stopsCount_of_updates) hu'

/-! ## Computing signals -/

section Spec

variable {history : BarHistoryWindow α} {context : Option (StrategyContext α)}

/-- Generated signals are returned within the leverage, with their stops. -/
theorem template_ok {base : BaseAlphaStrategy α} (hwarm : base.validateWarmup history = .ok ()) (strategy : Strategy α)
    {generated : Except (StrategyExc α) (Signals α) × Strategy α} {Q : Prop}
    (h : ∃ signals, generated.1 = .ok signals ∧ (Q → ∀ sig ∈ signals.values, sig.StopsRound)) :
    ∃ signals, (base.computeSignals history strategy generated).1 = .ok signals ∧
      BaseAlphaStrategy.totalAbsWeight signals ≤ base.maxLeverage + lit (1 / 10 ^ 6) ∧
      (Q → ∀ sig ∈ signals.values, sig.StopsRound) := by
  obtain ⟨signals, hgenerated, hstops⟩ := h
  obtain ⟨out, henforce, htotal, hkeep⟩ := base.enforceLeverage_ok signals
  refine ⟨out, ?_, htotal, fun hQ => hkeep _ (hstops hQ)⟩
  rw [BaseAlphaStrategy.computeSignals, hwarm, hgenerated]
  exact henforce

/-- A sound strategy that passed the warm-up returns its signals, within its leverage. -/
theorem computeSignals_ok (hsqrt : 0 < M.sqrt (lit 252) ∧ M.sqrt (lit 252) ≤ lit 16)
    (haligned : ∀ sym, (history.series sym .high).length = (history.series sym .low).length) {s : Strategy α}
    (hnodes : s.Forall NodeSound) (hstops : ∀ sub ∈ s.subs, sub.Forall StopsCount) (hwarm : s.WarmedUp history) :
    ∃ signals, (s.computeSignals M history context).1 = .ok signals ∧
      BaseAlphaStrategy.totalAbsWeight signals ≤ s.base.maxLeverage + lit (1 / 10 ^ 6) ∧
      (s.StopsCount → ∀ sig ∈ signals.values, sig.StopsRound) := by
  induction hnodes with
  | @node s here below ih =>
    have hbase := Forall.here hwarm
    rw [computeSignals.eq_def]
    cases s with
    | kalmanPairs cfg position =>
      refine template_ok hbase _ ?_
      exact (KalmanPairsConfig.generateSignals_ok here hbase position).imp fun _ h => h.imp_right fun h _ => h
    | fracDiffMomentum cfg =>
      refine template_ok hbase _ ?_
      exact (FracDiffMomentumConfig.generateSignals_ok here hsqrt).imp fun _ h => h.imp_right fun h _ => h
    | sentiment cfg buffer =>
      refine template_ok hbase _ ?_
      exact (SentimentConfig.generateSignals_ok here context buffer).imp fun _ h => h.imp_right fun h hcount sig hsig =>
        sig.stopsRound_of (h sig hsig) hcount.1 hcount.2
    | volatilityBreakout cfg =>
      refine template_ok hbase _ ?_
      exact (VolatilityBreakoutConfig.generateSignals_ok here haligned).imp fun _ h => h.imp_right fun h _ => h
    | swarmMeta cfg weights subs =>
      refine template_ok hbase _ ?_
      have hsubs : ∀ sub ∈ subs, ∃ signals, (sub.computeSignals M history context).1 = .ok signals ∧
          ∀ sig ∈ signals.values, sig.StopsRound := fun sub hsub => by
        obtain ⟨signals, hcompute, _, hround⟩ := ih sub hsub (fun _ => (hstops sub hsub).under) (Forall.under hwarm hsub)
        exact ⟨signals, hcompute, hround (hstops sub hsub).here⟩
      obtain ⟨all, hall, hround⟩ := computeAll_ok hsubs
      obtain ⟨signals, haggregate, hsignals⟩ := SwarmMetaConfig.aggregate_ok (M := M) here.1 here.2
        (subs.map fun s => s.base.strategyId) context hround
      refine ⟨signals, ?_, fun _ => hsignals⟩
      dsimp only
      rw [hall]
      exact haggregate

end Spec

end Strategy

variable [IsStrictOrderedRing α]

/-- A swarm starts with equal weights, which are an allocation: of sound strategies it is sound. -/
theorem SwarmMetaFields.sound_of_create {f : SwarmMetaFields α} {subs : List (Strategy α)} {s : Strategy α}
    (h : f.create subs = .ok s)
    (hsymbols : ∀ sym ∈ f.monitoredSymbols, sym ≠ "") (hlt : halfUnit 4 < f.maxLeverage)
    (hle : f.maxLeverage ≤ 1 ∨ (0 ≤ f.regimePriorWeight ∧ f.regimePriorWeight ≤ 1))
    (hsubs : ∀ sub ∈ subs, sub.Sound ∧ sub.Forall Strategy.StopsCount) : s.Sound := by
  unfold create at h
  split_ifs at h
  dsimp only at h
  cases hbase : AlphaStrategyFields.create (α := α) ⟨f.strategyId, f.monitoredSymbols,
      f.minWarmupBars.getD (maxInt (subs.map fun s => s.base.minWarmupBars)), f.maxLeverage⟩ with
  | error exc =>
    rw [hbase] at h
    cases h
  | ok base =>
    rw [hbase] at h
    cases h
    obtain ⟨base, hfields⟩ := base
    refine ⟨.node ⟨⟨?_, ?_, ?_⟩, fun _ => allocation_uniform subs.length⟩ fun sub hsub => (hsubs sub hsub).1.nodes,
      fun sub hsub => (hsubs sub hsub).2⟩
    · exact (congrArg AlphaStrategyFields.monitoredSymbols hfields).symm ▸ hsymbols
    · exact (congrArg AlphaStrategyFields.maxLeverage hfields).symm ▸ hlt
    · exact hle.imp_left fun hle => (congrArg AlphaStrategyFields.maxLeverage hfields).symm ▸ hle

end Trees

end Quant
