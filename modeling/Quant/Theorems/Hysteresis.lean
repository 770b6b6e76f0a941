import Mathlib.Data.List.DropRight
import Quant.Analytics.CircuitBreakers

/-!
# Hysteresis of the circuit breaker

Whole runs of the breaker. The counter in the state is the length of the run of bars in its tier that the history ends in, so a
tier that may be left only once the counter has reached the dwell time is held that long.
-/

namespace Quant

open Pylib

/-! ## The run a list ends in -/

section Trailing

variable {α : Type*} {p q : α → Bool}

/-- A segment that is not preceded by one more element of its kind is the whole run the list ends in. -/
theorem rtakeWhile_append_of_all {before seg : List α} (hseg : ∀ x ∈ seg, p x = true)
    (hbefore : ∀ x ∈ before.getLast?, p x = false) :
    (before ++ seg).rtakeWhile p = seg := by
  induction seg using List.reverseRecOn with
  | nil =>
    rw [List.append_nil, List.rtakeWhile_eq_nil_iff]
    intro hne hp
    have := hbefore _ (List.getLast?_eq_some_getLast hne)
    rw [hp] at this
    cases this
  | append_singleton seg x ih =>
    rw [← List.append_assoc, List.rtakeWhile_concat_pos _ _ _ (hseg x (by simp)), ih fun y hy => hseg y (by simp [hy])]

/-- A wider kind has the longer run. -/
theorem length_rtakeWhile_le (h : ∀ x, p x = true → q x = true) (l : List α) :
    (l.rtakeWhile p).length ≤ (l.rtakeWhile q).length := by
  induction l using List.reverseRecOn with
  | nil => rw [List.rtakeWhile_nil, List.rtakeWhile_nil]
  | append_singleton l x ih =>
    by_cases hp : p x = true
    · rw [List.rtakeWhile_concat_pos _ _ _ hp, List.rtakeWhile_concat_pos _ _ _ (h x hp)]
      simpa using ih
    · rw [List.rtakeWhile_concat_neg _ _ _ hp]
      exact Nat.zero_le _

/-- An element of a list that has got one more is the new one, or one of the list. -/
theorem concat_eq_append_cons {l before after : List α} {x y : α} (h : l ++ [x] = before ++ y :: after) :
    (l = before ∧ x = y) ∨ ∃ after', l = before ++ y :: after' := by
  rcases List.eq_nil_or_concat after with rfl | ⟨after', z, rfl⟩
  · obtain ⟨hl, hx⟩ := List.append_inj' h rfl
    exact .inl ⟨hl, List.singleton_inj.1 hx⟩
  · right
    rw [List.concat_eq_append, ← List.cons_append, ← List.append_assoc] at h
    exact ⟨after', (List.append_inj' h rfl).1⟩

end Trailing

namespace CircuitBreakerConfig

variable (M : MathFns) (cfg : CircuitBreakerConfig)

/-! ## One bar -/

/-- What the machine can do: escalate, hold, or go down one tier with a small shock and, from a locked tier, after the dwell
time. -/
theorem nextTier_cases (tier candidate : CircuitBreakerTier) (active : ℕ) (shock : ℚ) :
    (tier.value < candidate.value ∧ cfg.nextTier tier active candidate shock = (candidate, 1)) ∨
      cfg.nextTier tier active candidate shock = (tier, active + 1) ∨
      tier.down.value + 1 = tier.value ∧ shock < cfg.recoveryThreshold ∧ (tier.locked = true → cfg.dwellTimeBars ≤ active) ∧
        cfg.nextTier tier active candidate shock = (tier.down, 1) := by
  unfold nextTier
  split
  · rename_i hlt
    exact .inl ⟨hlt, rfl⟩
  · right
    split
    · exact .inl rfl
    · split
      · rename_i hlocked
        split
        · rename_i hdown
          refine .inr ⟨?_, hdown.2, fun _ => hdown.1, rfl⟩
          cases tier <;> first | rfl | cases hlocked
        · exact .inl rfl
      · split
        · rename_i htier
          split
          · rename_i hshock
            subst htier
            refine .inr ⟨rfl, hshock, fun hl => ?_, rfl⟩
            cases hl
          · exact .inl rfl
        · left
          cases tier <;> first | rfl | simp_all [CircuitBreakerTier.locked]

/-- A state that is accepted is made of the fields given. -/
theorem state_create_ok {f : CircuitBreakerStateFields} {s : CircuitBreakerState} (h : f.create = .ok s) :
    s.toCircuitBreakerStateFields = f := by
  unfold CircuitBreakerStateFields.create at h
  iterate 7
    obtain ⟨_, h⟩ := of_check_ok h
  cases h
  rfl

variable {M cfg} in
/-- A decision that is made: its state is the next one of the machine, and its haircut that of its tier. -/
theorem evaluate_ok {x : ShockInput} {s : CircuitBreakerState} {d : CircuitBreakerDecision} (h : cfg.evaluate M x s = .ok d) :
    d.actionTier = d.state.tier ∧ d.executionHaircut = executionHaircut d.state.tier d.state.continuousHaircut ∧
      ∃ candidate, (d.state.tier, d.state.activeBarsInTier) =
        cfg.nextTier s.tier s.activeBarsInTier candidate d.state.compositeShockScore := by
  unfold evaluate at h
  split at h
  · cases h
  · obtain ⟨r, -, h⟩ := exists_of_bind_ok h
    obtain ⟨shock, -, h⟩ := exists_of_bind_ok h
    obtain ⟨haircut, -, h⟩ := exists_of_bind_ok h
    obtain ⟨s', hs', h⟩ := exists_of_bind_ok h
    have hfields := state_create_ok hs'
    obtain ⟨_, h⟩ := of_check_ok h
    cases h
    refine ⟨?_, ?_, cfg.candidateTier x.cusumShock x.regimeIsPanic shock, ?_⟩
    · rw [hfields]
    · simp only [hfields]
    · simp only [hfields]

/-- A call of the engine: with the numbers of a bar, or with an upstream prediction. -/
inductive BreakerCall where
  | raw (x : ShockInput)
  | prediction (p : EnsemblePrediction) (predictions : List ℚ) (ambiguityBeta : ℚ) (cusumShock : Bool)
      (regimeIsPanic : Option Bool)

/-- What a call answers. -/
def answer (call : BreakerCall) (s : CircuitBreakerState) : Except Exc CircuitBreakerDecision :=
  match call with
  | .raw x => cfg.evaluate M x s
  | .prediction p predictions beta cusumShock regimeIsPanic =>
    cfg.evaluatePrediction M p predictions beta s cusumShock regimeIsPanic

/-- The decisions of a sequence of calls, each made in the state the one before left; a call that raises leaves the state as it
is. -/
def bars (s : CircuitBreakerState) : List BreakerCall → List CircuitBreakerDecision
  | [] => []
  | call :: calls =>
    match cfg.answer M call s with
    | .error _ => bars s calls
    | .ok d => d :: bars d.state calls

/-- What a run of bars keeps to. A segment in a locked tier lasts the dwell time unless it ends by escalation, and so does one in
the two locked tiers together; a tier is left downwards one at a time and with a small shock; the haircut is that of the tier. -/
structure Hysteresis (bars : List CircuitBreakerDecision) : Prop where
  dwell : ∀ t before seg d after, t.locked = true → bars = before ++ seg ++ d :: after → seg ≠ [] →
    (∀ b ∈ seg, b.actionTier = t) → (∀ b ∈ before.getLast?, b.actionTier ≠ t) → d.actionTier ≠ t →
    t.value < d.actionTier.value ∨ cfg.dwellTimeBars ≤ seg.length
  dwellLocked : ∀ before seg d after, bars = before ++ seg ++ d :: after → seg ≠ [] →
    (∀ b ∈ seg, b.actionTier.locked = true) → (∀ b ∈ before.getLast?, b.actionTier.locked = false) → d.actionTier.locked = false →
    cfg.dwellTimeBars ≤ seg.length
  stepDown : ∀ before d d' after, bars = before ++ d :: d' :: after → d'.actionTier.value < d.actionTier.value →
    d'.actionTier.value + 1 = d.actionTier.value ∧ d'.state.compositeShockScore < cfg.recoveryThreshold
  haircut : ∀ d ∈ bars, (d.actionTier.locked = true → d.executionHaircut = 0) ∧
    (d.actionTier = .caution → d.executionHaircut ≤ 1 / 2)

/-- What the state knows of the bars behind it: the tier of the last one, and how many it ends in. -/
structure Recorded (bars : List CircuitBreakerDecision) (s : CircuitBreakerState) : Prop where
  tier : ∀ b ∈ bars.getLast?, b.actionTier = s.tier
  first : bars = [] → s.tier = .normal
  active : s.activeBarsInTier = (bars.rtakeWhile (fun b => b.actionTier = s.tier)).length

variable {cfg} {history : List CircuitBreakerDecision} {s s' : CircuitBreakerState} {d : CircuitBreakerDecision}

/-- The bar that a decision adds: an escalation, one more bar of the tier, or one tier down from a tier held long enough. -/
theorem bar_cases {M : MathFns} {x : ShockInput} (h : cfg.evaluate M x s = .ok d) :
    (s.tier.value < d.actionTier.value ∧ d.state.activeBarsInTier = 1) ∨
      (d.actionTier = s.tier ∧ d.state.activeBarsInTier = s.activeBarsInTier + 1) ∨
      d.actionTier.value + 1 = s.tier.value ∧ d.state.compositeShockScore < cfg.recoveryThreshold ∧
        (s.tier.locked = true → cfg.dwellTimeBars ≤ s.activeBarsInTier) ∧ d.state.activeBarsInTier = 1 := by
  obtain ⟨htier, -, candidate, hnext⟩ := evaluate_ok h
  rw [htier]
  rcases cfg.nextTier_cases s.tier candidate s.activeBarsInTier d.state.compositeShockScore with
    ⟨hlt, heq⟩ | heq | ⟨hdown, hshock, hdwell, heq⟩
  · rw [heq, Prod.mk.injEq] at hnext
    rw [hnext.1]
    exact .inl ⟨hlt, hnext.2⟩
  · rw [heq, Prod.mk.injEq] at hnext
    exact .inr (.inl hnext)
  · rw [heq, Prod.mk.injEq] at hnext
    rw [hnext.1]
    exact .inr (.inr ⟨hdown, hshock, hdwell, hnext.2⟩)

/-- The state a decision leaves knows the bars up to that decision. -/
theorem Recorded.step {M : MathFns} {x : ShockInput} (hr : Recorded history s) (h : cfg.evaluate M x s = .ok d) :
    Recorded (history ++ [d]) d.state := by
  obtain ⟨htier, -, -⟩ := evaluate_ok h
  refine ⟨fun b hb => ?_, fun he => ?_, ?_⟩
  · rw [List.getLast?_concat, Option.mem_some_iff] at hb
    rw [← hb, htier]
  · simp at he
  · -- A new tier starts a new run, and the old one is one bar longer.
    have hnew : d.state.tier ≠ s.tier → history.rtakeWhile (fun b => b.actionTier = d.state.tier) = [] := by
      intro hne
      rw [List.rtakeWhile_eq_nil_iff]
      intro hn hp
      have := hr.tier _ (List.getLast?_eq_some_getLast hn)
      rw [decide_eq_true_eq, this] at hp
      exact hne hp.symm
    rw [List.rtakeWhile_concat_pos _ _ _ (by simp [htier]), List.length_append, List.length_singleton]
    rcases bar_cases h with ⟨hlt, hactive⟩ | ⟨heq, hactive⟩ | ⟨hdown, -, -, hactive⟩
    · rw [hactive, hnew (fun heq => by rw [htier, heq] at hlt; exact lt_irrefl _ hlt), List.length_nil]
    · rw [hactive, hr.active, ← htier, heq]
    · rw [hactive, hnew (fun heq => by rw [htier, heq] at hdown; omega), List.length_nil]

/-- The last bar behind a state is of its tier. -/
theorem Recorded.tier_of_seg {before seg : List CircuitBreakerDecision} (hr : Recorded (before ++ seg) s)
    (hne : seg ≠ []) {p : CircuitBreakerTier → Prop} (hseg : ∀ b ∈ seg, p b.actionTier) : p s.tier := by
  have hlast : (before ++ seg).getLast? = some (seg.getLast hne) := by
    rw [List.getLast?_append_of_ne_nil _ hne, List.getLast?_eq_some_getLast hne]
  rw [← hr.tier _ hlast]
  exact hseg _ (List.getLast_mem hne)

/-- One bar more keeps the rules. -/
theorem Hysteresis.step {M : MathFns} {x : ShockInput} (hy : cfg.Hysteresis history) (hr : Recorded history s)
    (h : cfg.evaluate M x s = .ok d) : cfg.Hysteresis (history ++ [d]) := by
  constructor
  · intro t before seg d' after hlocked hsplit hne hseg hbefore hd'
    rcases concat_eq_append_cons hsplit with ⟨rfl, rfl⟩ | ⟨after', hhist⟩
    · have htier : s.tier = t := hr.tier_of_seg hne (p := (· = t)) hseg
      have hlen : s.activeBarsInTier = seg.length := by
        rw [hr.active, htier, rtakeWhile_append_of_all (by simpa using hseg) (by simpa using hbefore)]
      rcases bar_cases h with ⟨hlt, -⟩ | ⟨heq, -⟩ | ⟨-, -, hdwell, -⟩
      · exact .inl (htier ▸ hlt)
      · exact absurd (heq.trans htier) hd'
      · right
        rw [← hlen]
        exact hdwell (htier ▸ hlocked)
    · exact hy.dwell t before seg d' after' hlocked hhist hne hseg hbefore hd'
  · intro before seg d' after hsplit hne hseg hbefore hd'
    rcases concat_eq_append_cons hsplit with ⟨rfl, rfl⟩ | ⟨after', hhist⟩
    · have hlocked : s.tier.locked = true := hr.tier_of_seg hne (p := fun t => t.locked = true) hseg
      have hlen : s.activeBarsInTier ≤ seg.length := by
        have hrun : (before ++ seg).rtakeWhile (fun b => b.actionTier.locked) = seg := rtakeWhile_append_of_all hseg hbefore
        have hle := length_rtakeWhile_le (p := fun b : CircuitBreakerDecision => b.actionTier = s.tier)
          (q := fun b => b.actionTier.locked) (fun b hb => by rw [of_decide_eq_true hb, hlocked]) (before ++ seg)
        rwa [← hr.active, hrun] at hle
      rcases bar_cases h with ⟨hlt, -⟩ | ⟨heq, -⟩ | ⟨-, -, hdwell, -⟩
      · cases htier : s.tier <;> cases hdt : d.actionTier <;> simp_all [CircuitBreakerTier.locked, CircuitBreakerTier.value]
      · rw [heq, hlocked] at hd'
        cases hd'
      · exact (hdwell hlocked).trans (by exact_mod_cast hlen)
    · exact hy.dwellLocked before seg d' after' hhist hne hseg hbefore hd'
  · intro before b b' after hsplit hlt
    have hsplit' : history ++ [d] = (before ++ [b]) ++ b' :: after := by simpa using hsplit
    rcases concat_eq_append_cons hsplit' with ⟨rfl, rfl⟩ | ⟨after', hhist⟩
    · have htier := hr.tier b (by simp)
      rw [htier] at hlt ⊢
      rcases bar_cases h with ⟨hlt', -⟩ | ⟨heq, -⟩ | ⟨hdown, hshock, -, -⟩
      · exact absurd hlt hlt'.not_gt
      · rw [heq] at hlt
        exact absurd hlt (lt_irrefl _)
      · exact ⟨hdown, hshock⟩
    · exact hy.stepDown before b b' after' (by simpa using hhist) hlt
  · intro b hb
    rcases List.mem_append.1 hb with hb | hb
    · exact hy.haircut b hb
    · rw [List.mem_singleton] at hb
      subst hb
      obtain ⟨htier, hhair, -⟩ := evaluate_ok h
      rw [hhair, htier]
      constructor
      · intro hlocked
        rw [executionHaircut, if_pos hlocked]
      · intro hcaution
        rw [hcaution, executionHaircut, if_neg (by decide), if_pos rfl]
        exact min_le_left _ _

/-! ## Whole runs -/

/-- A run from a state that knows its history keeps the rules. -/
theorem hysteresis_append (M : MathFns) (cfg : CircuitBreakerConfig) (calls : List BreakerCall) (hy : cfg.Hysteresis history)
    (hr : Recorded history s) : cfg.Hysteresis (history ++ cfg.bars M s calls) := by
  induction calls generalizing history s with
  | nil =>
    rw [bars, List.append_nil]
    exact hy
  | cons call calls ih =>
    rw [bars]
    cases ha : cfg.answer M call s with
    | error exc => exact ih hy hr
    | ok d =>
      obtain ⟨x, hx⟩ : ∃ x, cfg.evaluate M x s = .ok d := by
        cases call with
        | raw x => exact ⟨x, ha⟩
        | prediction p predictions beta cusumShock regimeIsPanic => exact ⟨_, ha⟩
      have := ih (hy.step hr hx) (hr.step hx)
      rw [List.append_assoc] at this
      exact this

theorem hysteresis_nil (cfg : CircuitBreakerConfig) : cfg.Hysteresis [] := by
  refine ⟨?_, ?_, ?_, ?_⟩
  · intro t before seg d after _ hsplit
    simp at hsplit
  · intro before seg d after hsplit
    simp at hsplit
  · intro before d d' after hsplit
    simp at hsplit
  · intro d hd
    cases hd

theorem recorded_initial : Recorded [] CircuitBreakerState.initial := by
  refine ⟨?_, fun _ => rfl, rfl⟩
  intro b hb
  cases hb

/-- Every run of the breaker from its initial state keeps the rules. -/
theorem hysteresis_bars (M : MathFns) (cfg : CircuitBreakerConfig) (calls : List BreakerCall) :
    cfg.Hysteresis (cfg.bars M .initial calls) :=
  hysteresis_append M cfg calls (hysteresis_nil cfg) recorded_initial

/-- A breaker that dwells for two bars. -/
def twoBars : CircuitBreakerConfig :=
  { dwellTimeBars := 2
    dwellTimeBars_pos := by decide
    signThreshold_pos := by decide +kernel
    haircutSteepness_pos := by decide
    betaMin_pos := by decide
    betaMax_gt := by decide
    weights_nonneg := by decide +kernel
    weights_sum := by decide +kernel
    haircutMidpoint_mem := by decide +kernel
    recoveryThreshold_mem := by decide +kernel
    hierarchy := by decide +kernel }

/-- One model that is sure. -/
def calmBar (panic : Bool) : BreakerCall :=
  .raw
    { predictions := [1]
      weights := [1]
      aleatoricVariance := 1
      epistemicVariance := 0
      ambiguityBeta := 1
      cusumShock := panic
      regimeIsPanic := panic }

/-- A panic and calm bars after it: two bars in each locked tier. -/
example : (twoBars.bars { log := fun _ => 0, exp := fun _ => 1, sqrt := fun _ => 0 } .initial
    ([true, false, false, false, false, false].map calmBar)).map (·.actionTier) =
      [.halt, .halt, .derisk, .derisk, .caution, .normal] := by decide +kernel

end CircuitBreakerConfig

end Quant
