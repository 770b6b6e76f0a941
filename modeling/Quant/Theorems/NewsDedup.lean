import Mathlib.Data.List.DropRight
import Mathlib.Data.List.Nodup
import Mathlib.Logic.Function.Basic
import Quant.Data.NewsHarvester

/-!
# The dedup window of the news

The harvester under any sequence of calls. The ring is the hashes of the articles passed on last, so an article is held back
exactly when one of them has its text. The text joins three fields with a bar that the fields may hold themselves: two articles
can have one text, and the second is lost.
-/

namespace Quant

open Pylib

namespace NewsHarvester

variable {T : TextFns}

/-! ## One article -/

/-- A ring with capacity takes a hash it does not hold, and forgets its oldest one for it when it is full. -/
theorem offer_cases {hv : NewsHarvester} (hpos : 0 < hv.ringBufferCapacity) (h : String) :
    (h ∈ hv.hashRing ∧ hv.offer h = .ok none) ∨
      h ∉ hv.hashRing ∧ ∃ hv', hv.offer h = .ok (some hv') ∧ hv'.ringBufferCapacity = hv.ringBufferCapacity ∧
        hv'.hashRing = (if hv.ringBufferCapacity ≤ hv.hashRing.length then hv.hashRing.tail else hv.hashRing) ++ [h] := by
  by_cases hm : h ∈ hv.hashRing
  · exact .inl ⟨hm, dif_pos ((hv.mem_seenHashes_iff h).2 hm)⟩
  · refine .inr ⟨hm, ?_⟩
    unfold offer
    rw [dif_neg (fun hs => hm ((hv.mem_seenHashes_iff h).1 hs))]
    by_cases hfull : hv.ringBufferCapacity ≤ hv.hashRing.length
    · have hne : hv.hashRing ≠ [] := List.length_pos_iff.1 (hpos.trans_le hfull)
      rw [dif_pos hfull, dif_neg hne, if_pos hfull]
      exact ⟨_, rfl, rfl, rfl⟩
    · rw [dif_neg hfull, if_neg hfull]
      exact ⟨_, rfl, rfl, rfl⟩

/-- The articles passed on of a list, and the harvester after it. -/
def feed (hv : NewsHarvester) : List (NewsArticle T) → List (NewsArticle T) × NewsHarvester
  | [] => ([], hv)
  | a :: articles =>
    match hv.offer a.articleHash with
    | .ok (some hv') => (a :: (hv'.feed articles).1, (hv'.feed articles).2)
    | _ => hv.feed articles

theorem feed_append (hv : NewsHarvester) (xs ys : List (NewsArticle T)) :
    hv.feed (xs ++ ys) = ((hv.feed xs).1 ++ ((hv.feed xs).2.feed ys).1, ((hv.feed xs).2.feed ys).2) := by
  induction xs generalizing hv with
  | nil => rfl
  | cons a xs ih =>
    rw [List.cons_append, feed, feed]
    split
    · rw [ih]
      rfl
    · rw [ih]

/-- A ring with capacity never raises. -/
theorem filterAndStoreUnique_eq_feed {hv : NewsHarvester} (hpos : 0 < hv.ringBufferCapacity) (xs : List (NewsArticle T)) :
    hv.filterAndStoreUnique xs = (.ok (hv.feed xs).1, (hv.feed xs).2) ∧
      (hv.feed xs).2.ringBufferCapacity = hv.ringBufferCapacity := by
  induction xs generalizing hv with
  | nil => exact ⟨rfl, rfl⟩
  | cons a xs ih =>
    rw [filterAndStoreUnique, feed]
    rcases offer_cases hpos a.articleHash with ⟨-, hoff⟩ | ⟨-, hv', hoff, hcap, -⟩
    · rw [hoff]
      exact ih hpos
    · rw [hoff]
      have hpos' : 0 < hv'.ringBufferCapacity := hcap ▸ hpos
      obtain ⟨hfilter, hfeed⟩ := ih hpos'
      simp only [hfilter]
      exact ⟨rfl, hfeed.trans hcap⟩

/-- The window after one article more: one more hash, and the oldest one gone when the window is full. -/
theorem rtake_concat_tail {α : Type*} (l : List α) (x : α) {n : ℕ} (hn : 0 < n) :
    (l ++ [x]).rtake n = (if n ≤ (l.rtake n).length then (l.rtake n).tail else l.rtake n) ++ [x] := by
  obtain ⟨m, rfl⟩ : ∃ m, n = m + 1 := ⟨n - 1, by omega⟩
  rw [List.rtake_concat_succ]
  congr 1
  unfold List.rtake
  rw [List.length_drop]
  split
  · rw [List.tail_drop]
    congr 1
    omega
  · congr 1
    omega

/-- The ring is the hashes of the articles passed on last. -/
theorem hashRing_feed {hv : NewsHarvester} (hpos : 0 < hv.ringBufferCapacity) (earlier xs : List (NewsArticle T))
    (h : hv.hashRing = (earlier.rtake hv.ringBufferCapacity).map (·.articleHash)) :
    (hv.feed xs).2.hashRing = ((earlier ++ (hv.feed xs).1).rtake hv.ringBufferCapacity).map (·.articleHash) := by
  induction xs generalizing hv earlier with
  | nil =>
    rw [feed, List.append_nil]
    exact h
  | cons a xs ih =>
    rw [feed]
    rcases offer_cases hpos a.articleHash with ⟨-, hoff⟩ | ⟨-, hv', hoff, hcap, hring⟩
    · rw [hoff]
      exact ih hpos earlier h
    · rw [hoff]
      have hwindow : hv'.hashRing = ((earlier ++ [a]).rtake hv'.ringBufferCapacity).map (·.articleHash) := by
        rw [hring, hcap, rtake_concat_tail _ _ hpos, h, List.length_map, List.map_append, List.map_singleton]
        split
        · rw [List.map_tail]
        · rfl
      have := ih (hcap ▸ hpos) (earlier ++ [a]) hwindow
      rw [hcap, List.append_assoc] at this
      exact this

/-! ## Any sequence of calls -/

/-- The harvester after a sequence of calls. -/
def afterCalls (hv : NewsHarvester) (calls : List (List (NewsArticle T))) : NewsHarvester :=
  calls.foldl (fun hv articles => (hv.filterAndStoreUnique articles).2) hv

/-- The articles a sequence of calls returns, in order. -/
def emitted (hv : NewsHarvester) : List (List (NewsArticle T)) → List (NewsArticle T)
  | [] => []
  | articles :: calls =>
    (hv.filterAndStoreUnique articles).1.toOption.getD [] ++ emitted (hv.filterAndStoreUnique articles).2 calls

/-- How the articles are spread over the calls does not matter. -/
theorem calls_eq_feed {hv : NewsHarvester} (hpos : 0 < hv.ringBufferCapacity) (calls : List (List (NewsArticle T))) :
    hv.emitted calls = (hv.feed calls.flatten).1 ∧ hv.afterCalls calls = (hv.feed calls.flatten).2 := by
  induction calls generalizing hv with
  | nil => exact ⟨rfl, rfl⟩
  | cons articles calls ih =>
    obtain ⟨hfilter, hcap⟩ := filterAndStoreUnique_eq_feed hpos articles
    have hpos' : 0 < (hv.feed articles).2.ringBufferCapacity := hcap ▸ hpos
    obtain ⟨he, ha⟩ := ih hpos'
    rw [List.flatten_cons, feed_append]
    constructor
    · rw [emitted, hfilter, he]
      rfl
    · rw [afterCalls, List.foldl_cons, hfilter]
      exact ha

/-- The set mirrors the ring, and the ring is bounded and without repetition. -/
structure Mirrored (hv : NewsHarvester) (capacity : ℤ) : Prop where
  seenHashes : ∀ h, h ∈ hv.seenHashes ↔ h ∈ hv.hashRing
  nodup : hv.hashRing.Nodup
  bounded : (hv.hashRing.length : ℤ) ≤ capacity

/-- The articles passed on last. -/
def window (capacity : ℤ) (articles : List (NewsArticle T)) : List (NewsArticle T) := articles.rtake capacity.toNat

/-- An article behind some calls and some articles of its own call: it is emitted exactly when none of the articles emitted last
has its normalised source, headline and summary. -/
def ExactAt (hv : NewsHarvester) (capacity : ℤ) (before : List (List (NewsArticle T))) (xs : List (NewsArticle T))
    (a : NewsArticle T) : Prop :=
  hv.emitted (before ++ [xs ++ [a]]) = hv.emitted (before ++ [xs]) ++ [a] ↔
    ∀ e ∈ window capacity (hv.emitted (before ++ [xs])), e.normKey T ≠ a.normKey T

/-- Deduplication that is exact within its window, over a sequence of calls. -/
def ExactDedup (hv : NewsHarvester) (capacity : ℤ) (calls : List (List (NewsArticle T))) : Prop :=
  (hv.afterCalls calls).Mirrored capacity ∧
    ∀ before xs a ys after, calls = before ++ (xs ++ a :: ys) :: after → hv.ExactAt capacity before xs a

/-- No article meets another of the same text in the window, unless the three fields agree too. -/
def Unambiguous (hv : NewsHarvester) (capacity : ℤ) (calls : List (List (NewsArticle T))) : Prop :=
  ∀ before xs a ys after, calls = before ++ (xs ++ a :: ys) :: after →
    ∀ e ∈ window capacity (hv.emitted (before ++ [xs])), e.normContent T = a.normContent T → e.normKey T = a.normKey T

theorem normContent_of_normKey {f g : NewsFields} (h : f.normKey T = g.normKey T) : f.normContent T = g.normContent T := by
  simp only [NewsFields.normKey, Prod.mk.injEq] at h
  simp only [NewsFields.normContent, h]

/-- The window at an article: the ring holds the hashes of the articles emitted last, each once. -/
theorem window_spec {capacity : ℤ} {hv : NewsHarvester} (h : create capacity = .ok hv) (hcap : 1 ≤ capacity)
    (before : List (List (NewsArticle T))) (xs : List (NewsArticle T)) (a : NewsArticle T) :
    ((window capacity (hv.emitted (before ++ [xs]))).map (·.articleHash)).Nodup ∧
      (hv.emitted (before ++ [xs ++ [a]]) = hv.emitted (before ++ [xs]) ++ [a] ↔
        ∀ e ∈ window capacity (hv.emitted (before ++ [xs])), e.articleHash ≠ a.articleHash) := by
  obtain rfl : hv = { ringBufferCapacity := capacity.toNat } := by
    rw [create, if_neg (by omega)] at h
    exact (Except.ok.inj h).symm
  generalize hhv : ({ ringBufferCapacity := capacity.toNat } : NewsHarvester) = hv at *
  have hrc : hv.ringBufferCapacity = capacity.toNat := by rw [← hhv]
  have hpos : 0 < hv.ringBufferCapacity := by omega
  have hempty : hv.hashRing = (([] : List (NewsArticle T)).rtake hv.ringBufferCapacity).map (·.articleHash) := by
    rw [← hhv, List.rtake_nil]
    rfl
  have hflat : (before ++ [xs ++ [a]]).flatten = (before ++ [xs]).flatten ++ [a] := by simp
  have hring := hashRing_feed hpos [] (before ++ [xs]).flatten hempty
  obtain ⟨-, hcap'⟩ := filterAndStoreUnique_eq_feed hpos (before ++ [xs]).flatten
  rw [List.nil_append, hrc] at hring
  rw [(calls_eq_feed hpos _).1, (calls_eq_feed hpos _).1, hflat, feed_append, window]
  refine ⟨hring ▸ (hv.feed (before ++ [xs]).flatten).2.hashRing_nodup, ?_⟩
  have hmem : a.articleHash ∈ (hv.feed (before ++ [xs]).flatten).2.hashRing ↔
      ∃ e ∈ (hv.feed (before ++ [xs]).flatten).1.rtake capacity.toNat, e.articleHash = a.articleHash := by
    rw [hring, List.mem_map]
  rw [List.append_right_inj, feed]
  rcases offer_cases (hcap' ▸ hpos) a.articleHash with ⟨hin, hoff⟩ | ⟨hout, hv', hoff, -, -⟩
  · obtain ⟨e, he, heq⟩ := hmem.1 hin
    rw [hoff]
    exact iff_of_false (by simp [feed]) fun hall => hall e he heq
  · rw [hoff]
    exact iff_of_true rfl fun e he heq => hout (hmem.2 ⟨e, he, heq⟩)

/-- An article is emitted or held back as it should be exactly when the text it shares is shared with its fields. -/
theorem exactAt_iff (hsha : Function.Injective T.sha256) {capacity : ℤ} {hv : NewsHarvester} (h : create capacity = .ok hv)
    (hcap : 1 ≤ capacity) (before : List (List (NewsArticle T))) (xs : List (NewsArticle T)) (a : NewsArticle T) :
    hv.ExactAt capacity before xs a ↔
      ∀ e ∈ window capacity (hv.emitted (before ++ [xs])), e.normContent T = a.normContent T → e.normKey T = a.normKey T := by
  obtain ⟨hnodup, hemit⟩ := window_spec h hcap before xs a
  have hhash : ∀ e e' : NewsArticle T, e.articleHash = e'.articleHash ↔ e.normContent T = e'.normContent T := by
    intro e e'
    rw [e.articleHash_eq, e'.articleHash_eq]
    exact hsha.eq_iff
  unfold ExactAt
  rw [hemit]
  constructor
  · intro hexact e he htext
    by_contra hkey
    -- The article is held back, so another one in the window has its fields: the same text twice in the window.
    have hnone : ∀ e' ∈ window capacity (hv.emitted (before ++ [xs])), e'.normKey T ≠ a.normKey T := by
      intro e' he' hkey'
      have hsame : e'.articleHash = e.articleHash := (hhash e' e).2 ((normContent_of_normKey hkey').trans htext.symm)
      rw [List.inj_on_of_nodup_map hnodup he' he hsame] at hkey'
      exact hkey hkey'
    exact hexact.2 hnone e he ((hhash e a).2 htext)
  · intro hcond
    constructor
    · intro hall e he hkey
      exact hall e he ((hhash e a).2 (normContent_of_normKey hkey))
    · intro hall e he heq
      exact hall e he (hcond e he ((hhash e a).1 heq))

/-- The deduplication is exact within its window exactly when no article meets a different one of the same text there. -/
theorem exactDedup_iff (hsha : Function.Injective T.sha256) {capacity : ℤ} {hv : NewsHarvester} (h : create capacity = .ok hv)
    (hcap : 1 ≤ capacity) (calls : List (List (NewsArticle T))) :
    hv.ExactDedup capacity calls ↔ hv.Unambiguous capacity calls := by
  have hmirror : (hv.afterCalls calls).Mirrored capacity := by
    have hrc : hv.ringBufferCapacity = capacity.toNat := by
      rw [create, if_neg (by omega)] at h
      rw [← Except.ok.inj h]
    have hpos : 0 < hv.ringBufferCapacity := by omega
    have hcap' := (filterAndStoreUnique_eq_feed hpos calls.flatten).2
    rw [(calls_eq_feed hpos calls).2]
    have hlen := (hv.feed calls.flatten).2.hashRing_length
    exact ⟨mem_seenHashes_iff _, (hv.feed calls.flatten).2.hashRing_nodup, by omega⟩
  constructor
  · intro hexact before xs a ys after hcalls
    exact (exactAt_iff hsha h hcap before xs a).1 (hexact.2 before xs a ys after hcalls)
  · intro hcond
    exact ⟨hmirror, fun before xs a ys after hcalls => (exactAt_iff hsha h hcap before xs a).2
      (hcond before xs a ys after hcalls)⟩

/-! ## Texts without a bar -/

/-- The normalised source and headline hold no bar, so the text splits at its first two. -/
def NoBar (T : TextFns) (f : NewsFields) : Prop :=
  '|' ∉ (NewsFields.norm T f.source).toList ∧ '|' ∉ (NewsFields.norm T f.headline).toList

/-- A separator that neither front holds splits a list in one way. -/
theorem append_cons_inj {α : Type*} {x y z w : List α} {c : α} (hx : c ∉ x) (hy : c ∉ y) (h : x ++ c :: z = y ++ c :: w) :
    x = y ∧ z = w := by
  induction x generalizing y with
  | nil =>
    cases y with
    | nil => exact ⟨rfl, (List.cons.inj h).2⟩
    | cons b y => exact absurd (List.cons.inj h).1 (fun heq => hy (heq ▸ List.mem_cons_self))
  | cons a x ih =>
    cases y with
    | nil => exact absurd (List.cons.inj h).1 (fun heq => hx (heq ▸ List.mem_cons_self))
    | cons b y =>
      obtain ⟨rfl, htl⟩ := List.cons.inj h
      obtain ⟨rfl, rfl⟩ := ih (fun hm => hx (List.mem_cons_of_mem a hm)) (fun hm => hy (List.mem_cons_of_mem a hm)) htl
      exact ⟨rfl, rfl⟩

theorem normKey_of_normContent {f g : NewsFields} (hf : NoBar T f) (hg : NoBar T g) (h : f.normContent T = g.normContent T) :
    f.normKey T = g.normKey T := by
  have hl := congrArg String.toList h
  simp only [NewsFields.normContent, String.toList_append, List.append_assoc] at hl
  have hbar : "|".toList = ['|'] := rfl
  simp only [hbar, List.singleton_append] at hl
  obtain ⟨hsource, hl⟩ := append_cons_inj hf.1 hg.1 hl
  obtain ⟨hheadline, hsummary⟩ := append_cons_inj hf.2 hg.2 hl
  simp only [NewsFields.normKey, Prod.mk.injEq]
  exact ⟨String.toList_inj.1 hsource, String.toList_inj.1 hheadline, String.toList_inj.1 hsummary⟩

theorem mem_of_mem_feed {hv : NewsHarvester} {xs : List (NewsArticle T)} {a : NewsArticle T}
    (h : a ∈ (hv.feed xs).1) : a ∈ xs := by
  induction xs generalizing hv with
  | nil => cases h
  | cons x xs ih =>
    rw [feed] at h
    split at h
    · rcases List.mem_cons.1 h with rfl | h
      · exact List.mem_cons_self
      · exact List.mem_cons_of_mem x (ih h)
    · exact List.mem_cons_of_mem x (ih h)

/-- Articles without a bar in their source and headline never meet another one of the same text. -/
theorem unambiguous_of_noBar {capacity : ℤ} {hv : NewsHarvester} (h : create capacity = .ok hv) (hcap : 1 ≤ capacity)
    {calls : List (List (NewsArticle T))} (hbar : ∀ a ∈ calls.flatten, NoBar T a.toNewsFields) : hv.Unambiguous
    capacity calls := by
  intro before xs a ys after hcalls e he htext
  have hpos : 0 < hv.ringBufferCapacity := by
    rw [create, if_neg (by omega)] at h
    rw [← Except.ok.inj h]
    change 0 < capacity.toNat
    omega
  have hmem : e ∈ (before ++ [xs]).flatten := by
    rw [(calls_eq_feed hpos _).1] at he
    exact mem_of_mem_feed (List.mem_of_mem_drop he)
  have hsub : ∀ x ∈ (before ++ [xs]).flatten, x ∈ calls.flatten := by
    intro x hx
    rw [hcalls]
    simp only [List.flatten_append, List.flatten_cons, List.mem_append] at hx ⊢
    rcases hx with hx | hx | hx
    · exact .inl hx
    · exact .inr (.inl (.inl hx))
    · cases hx
  have ha : a ∈ calls.flatten := by
    rw [hcalls]
    simp
  exact normKey_of_normContent (hbar e (hsub e hmem)) (hbar a ha) htext

/-! ## A bar in a headline -/

/-- ASCII texts in lower case, and a text as its own hash. -/
def asciiTexts : TextFns := { lower := fun s => String.ofList (s.toList.map Char.toLower), sha256 := id }

/-- What an article of the wire is made with. -/
def storyFields (headline summary : String) : NewsFields :=
  { headline := headline
    summary := summary
    url := "https://wire.example"
    source := "wire"
    publishedAt := { micros := 0 }
    availableAt := { micros := 1 } }

/-- An article of the wire. -/
def story (headline summary : String) (h : strip headline ≠ "") : NewsArticle asciiTexts :=
  { storyFields headline summary with
    articleHash := asciiTexts.sha256 ((storyFields headline summary).normContent asciiTexts)
    headline_notBlank := h
    publishedAt_hasTz := rfl
    availableAt_hasTz := rfl
    articleHash_eq := rfl }

def ratesStory : NewsArticle asciiTexts := story "Fed|rates" "up" (by decide +kernel)

def fedStory : NewsArticle asciiTexts := story "Fed" "rates|up" (by decide +kernel)

/-- Two articles of one text: the second one is held back. -/
theorem not_exactDedup_bar :
    ¬ ∀ (T : TextFns), Function.Injective T.sha256 → ∀ (capacity : ℤ) (hv : NewsHarvester),
      create capacity = .ok hv → 1 ≤ capacity →
      ∀ calls : List (List (NewsArticle T)), hv.ExactDedup capacity calls := by
  intro h
  have hinj : Function.Injective asciiTexts.sha256 := fun _ _ h => h
  have hcreate : create 10000 = .ok ({} : NewsHarvester) := rfl
  have hexact := (h asciiTexts hinj 10000 _ hcreate (by decide) [[ratesStory, fedStory]]).2 [] [ratesStory] fedStory [] [] rfl
  have hmem : ratesStory ∈ window 10000 (({} : NewsHarvester).emitted ([] ++ [[ratesStory]])) := by
    change ratesStory ∈ [ratesStory]
    exact List.mem_singleton_self _
  have hkey := (exactAt_iff hinj hcreate (by decide) [] [ratesStory] fedStory).1 hexact ratesStory hmem (by decide +kernel)
  revert hkey
  decide +kernel

/-- An article that a second wire repeats with other blanks and capitals. -/
def repeats : List (List (NewsArticle asciiTexts)) :=
  [[story "Fed raises rates" "up" (by decide +kernel)],
    [story "Oil falls" "" (by decide +kernel), story " FED raises rates" "Up " (by decide +kernel)]]

/-- Without bars the repeated article is held back and the others are passed on. -/
theorem exactDedup_repeats : ({} : NewsHarvester).ExactDedup 10000 repeats := by
  have hinj : Function.Injective asciiTexts.sha256 := fun _ _ h => h
  refine (exactDedup_iff hinj rfl (by decide) repeats).2 (unambiguous_of_noBar rfl (by decide) ?_)
  intro a ha
  simp only [repeats, List.flatten_cons, List.flatten_nil, List.cons_append, List.nil_append, List.append_nil, List.mem_cons,
    List.not_mem_nil, or_false] at ha
  rcases ha with rfl | rfl | rfl <;> exact ⟨by decide +kernel, by decide +kernel⟩

end NewsHarvester

end Quant
