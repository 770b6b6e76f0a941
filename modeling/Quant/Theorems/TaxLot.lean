import Quant.Lemmas.TaxLot

namespace Quant

open Pylib

namespace TaxLotEngine

/-! ## Tax lots: what a call that raises leaves behind

Every argument check and every other failing branch comes before the lots are changed, with one exception: when a fill closes
the whole position and what is left of it may not open a position on the other side (shorting is disabled, or the rest rounds
to zero at six decimals), the engine raises after the loop has closed the lots.
-/

/-- The engines a run of `allocate_fill` calls reaches, from a new engine with any settings; calls that raise included. -/
inductive Reached : TaxLotEngine → Prop
  | fresh (portfolioId : String) (defaultMethod : TaxLotMethod) (allowShorting : Bool) :
      Reached { portfolioId := portfolioId, defaultMethod := defaultMethod, allowShorting := allowShorting }
  | fill {e : TaxLotEngine} (he : Reached e) (a : FillArgs) (rnd : Entropy) : Reached (e.allocateFill a rnd).2

/-- A call on valid arguments that closes a position with comparable instants, and whose rest is refused as a new position. -/
structure RefusedFlip (e : TaxLotEngine) (a : FillArgs) (rnd : Entropy) (s : FillSide) : Prop where
  symbol_ne : a.symbol ≠ ""
  executionPrice_pos : 0 < a.executionPrice
  side : FillSide.parse a.side = some s
  closing : s = .buy ∧ e.getPosition a.symbol < 0 ∨ s = .sell ∧ 0 < e.getPosition a.symbol
  instants : e.instantFault a.symbol a.quantity (a.timestamp.getD { micros := rnd.now }) = none
  refused : e.flipRefused a s

/-- A position is closed by the fills on its other side. -/
theorem isIncreasing_eq_false_iff (s : FillSide) (pos : ℚ) :
    isIncreasing s pos = false ↔ s = .buy ∧ pos < 0 ∨ s = .sell ∧ 0 < pos := by
  cases s <;> simp [isIncreasing]

/-- What a call does: it books the fill, it raises and leaves every lot as it was, or it refuses a flip after closing lots. -/
theorem allocateFill_cases {e : TaxLotEngine} (he : e.WellFormed) (a : FillArgs) (rnd : Entropy) :
    ((∃ s, e.RefusedFlip a rnd s) ∧ ∃ exc ls, e.allocateFill a rnd = (.error exc, (e.touch a.symbol).withLots a.symbol ls) ∧
        OneSided ls ∧ ls ≠ e.lotsOf a.symbol) ∨
      (¬ ∃ s, e.RefusedFlip a rnd s) ∧
        ((∃ exc, e.allocateFill a rnd = (.error exc, e) ∨ e.allocateFill a rnd = (.error exc, e.touch a.symbol)) ∨
          ∃ res ls, e.allocateFill a rnd = (.ok res, (e.touch a.symbol).withLots a.symbol ls) ∧ OneSided ls) := by
  unfold allocateFill
  by_cases hsym : a.symbol = ""
  · rw [if_pos hsym]
    exact Or.inr ⟨fun ⟨s, h⟩ => h.symbol_ne hsym, Or.inl ⟨_, Or.inl rfl⟩⟩
  rw [if_neg hsym]
  by_cases hq : a.quantity ≤ 0
  · rw [if_pos hq]
    refine Or.inr ⟨fun ⟨s, h⟩ => ?_, Or.inl ⟨_, Or.inl rfl⟩⟩
    have := h.refused.1
    linarith [abs_nonneg (e.getPosition a.symbol), lotEpsilon_pos]
  rw [if_neg hq]
  by_cases hp : a.executionPrice ≤ 0
  · rw [if_pos hp]
    exact Or.inr ⟨fun ⟨s, h⟩ => absurd h.executionPrice_pos (not_lt.2 hp), Or.inl ⟨_, Or.inl rfl⟩⟩
  rw [if_neg hp]
  cases hside : FillSide.parse a.side with
  | none =>
    refine Or.inr ⟨fun ⟨s, h⟩ => ?_, Or.inl ⟨_, Or.inl rfl⟩⟩
    have := h.side
    rw [hside] at this
    cases this
  | some s =>
    -- From here on the engine is `e.touch a.symbol`, which has the lots of `e`.
    have ht := he.touch a.symbol
    have hlots : (e.touch a.symbol).lotsOf a.symbol = e.lotsOf a.symbol := lotsOf_touch e a.symbol a.symbol
    have hpos : (e.touch a.symbol).getPosition a.symbol = e.getPosition a.symbol := getPosition_congr hlots
    have hs : ∀ s', e.RefusedFlip a rnd s' → s' = s := fun s' h => by
      have := h.side
      rw [hside, Option.some.injEq] at this
      exact this.symm
    simp only
    by_cases hinc : isIncreasing s ((e.touch a.symbol).getPosition a.symbol) = true
    · rw [if_pos hinc]
      refine Or.inr ⟨fun ⟨s', h⟩ => ?_, ?_⟩
      · have hcl := (isIncreasing_eq_false_iff s' (e.getPosition a.symbol)).2 h.closing
        rw [hs s' h, ← hpos, hinc] at hcl
        cases hcl
      · rcases increase_cases ht (a.timestamp.getD { micros := rnd.now }) rnd (not_le.1 hq) (not_le.1 hp) hinc with
          ⟨exc, h⟩ | ⟨res, ls, h, hone⟩
        · exact Or.inl ⟨exc, Or.inr h⟩
        · exact Or.inr ⟨res, ls, h, hone⟩
    · rw [if_neg hinc]
      have hcl := (isIncreasing_eq_false_iff s (e.getPosition a.symbol)).1 (by rw [← hpos]; simpa using hinc)
      have hne : (e.touch a.symbol).getPosition a.symbol ≠ 0 := by
        rw [hpos]
        rcases hcl with ⟨-, h⟩ | ⟨-, h⟩
        · exact h.ne
        · exact h.ne'
      have hfault := instantFault_congr hlots a.quantity (a.timestamp.getD { micros := rnd.now })
      have hrefused : (e.touch a.symbol).flipRefused a s ↔ e.flipRefused a s := by
        rw [flipRefused, flipRefused, hpos, allowShorting_touch]
      cases hf : (e.touch a.symbol).instantFault a.symbol a.quantity (a.timestamp.getD { micros := rnd.now }) with
      | some exc =>
        refine Or.inr ⟨fun ⟨s', h⟩ => ?_, Or.inl ⟨exc, Or.inr ?_⟩⟩
        · rw [hfault, h.instants] at hf
          cases hf
        · simp only [close, hf]
      | none =>
        rcases close_cases ht s rnd (not_le.1 hp) hne hf with ⟨hr, exc, ls, h, hone, hls⟩ | ⟨hr, res, ls, h, hone⟩
        · rw [hlots] at hls
          exact Or.inl ⟨⟨s, hsym, not_le.1 hp, hside, hcl, hfault ▸ hf, hrefused.1 hr⟩, exc, ls, h, hone, hls⟩
        · refine Or.inr ⟨fun ⟨s', hr'⟩ => hr (hrefused.2 ?_), Or.inr ⟨res, ls, h, hone⟩⟩
          rw [← hs s' hr']
          exact hr'.refused

/-- A call keeps the open lots of each symbol on one side, whether it raises or not. -/
theorem WellFormed.allocateFill {e : TaxLotEngine} (he : e.WellFormed) (a : FillArgs) (rnd : Entropy) :
    (e.allocateFill a rnd).2.WellFormed := by
  have ht := he.touch a.symbol
  rcases allocateFill_cases he a rnd with ⟨-, exc, ls, h, hone, -⟩ | ⟨-, ⟨exc, h | h⟩ | ⟨res, ls, h, hone⟩⟩
  · rw [h]
    exact ht.withLots hone
  · rw [h]
    exact he
  · rw [h]
    exact ht
  · rw [h]
    exact ht.withLots hone

/-- The open lots of each symbol are on one side in every engine a run reaches. -/
theorem Reached.wellFormed {e : TaxLotEngine} (h : Reached e) : e.WellFormed := by
  induction h with
  | fresh => intro symbol l hl; cases hl
  | fill _ a rnd ih => exact ih.allocateFill a rnd

/-- If the call raises, every lot of every symbol is as before. -/
def AtomicOnError (e : TaxLotEngine) (a : FillArgs) (rnd : Entropy) : Prop :=
  ∀ exc, (e.allocateFill a rnd).1 = .error exc → ∀ symbol, (e.allocateFill a rnd).2.lotsOf symbol = e.lotsOf symbol

/-- In every engine a run reaches, a call is atomic on error exactly when it is not a refused flip. -/
theorem atomicOnError_iff {e : TaxLotEngine} (he : Reached e) (a : FillArgs) (rnd : Entropy) :
    AtomicOnError e a rnd ↔ ¬ ∃ s, e.RefusedFlip a rnd s := by
  rcases allocateFill_cases he.wellFormed a rnd with ⟨hr, exc, ls, h, -, hls⟩ | ⟨hr, h⟩
  · refine ⟨fun hat => ?_, fun hn => absurd hr hn⟩
    have := hat exc (by rw [h]) a.symbol
    rw [h, lotsOf_withLots_self] at this
    exact absurd this hls
  · refine ⟨fun _ => hr, fun _ exc' he' symbol => ?_⟩
    rcases h with ⟨exc, h | h⟩ | ⟨res, ls, h, -⟩
    · rw [h]
    · rw [h]
      exact lotsOf_touch e a.symbol symbol
    · rw [h] at he'
      cases he'

/-- A long-only engine that holds ten shares. -/
def longOnly : TaxLotEngine :=
  ({ allowShorting := false } : TaxLotEngine).allocateFill
    { symbol := "AAPL", side := "BUY", quantity := 10, executionPrice := 100 } { now := 0, hex := fun _ => "0" } |>.2

/-- Selling fifteen of ten shares without shorting raises, and the lot of ten is gone. -/
theorem not_atomicOnError_longOnly :
    ¬ ∀ e, Reached e → ∀ a rnd, AtomicOnError e a rnd := by
  intro h
  have he : Reached longOnly := Reached.fill (Reached.fresh "default_portfolio" .fifo false) _ _
  have := h longOnly he { symbol := "AAPL", side := "SELL", quantity := 15, executionPrice := 110 }
    { now := 1, hex := fun _ => "1" }
    ⟨.orphanedFill, "Position flip exceeds inventory and shorting disabled for %", [.str "AAPL"]⟩
    (by decide +kernel) "AAPL"
  revert this
  decide +kernel

/-- Selling four of ten shares is not a refused flip. -/
theorem atomicOnError_longOnly :
    AtomicOnError longOnly { symbol := "AAPL", side := "SELL", quantity := 4, executionPrice := 110 }
      { now := 1, hex := fun _ => "1" } := by
  refine (atomicOnError_iff (Reached.fill (Reached.fresh "default_portfolio" .fifo false) _ _) _ _).2 ?_
  rintro ⟨s, h⟩
  have := h.refused.1
  revert this
  decide +kernel

end TaxLotEngine

end Quant
