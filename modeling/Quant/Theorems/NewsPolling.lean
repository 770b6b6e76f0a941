import Mathlib.Data.List.ReduceOption
import Quant.Pylib.Steps
import Quant.Theorems.NewsDedup

/-!
# Polling the news

A poll of all feeds against the entries of their documents. A future date or a title of nothing but markup raises in the loop over
the entries and takes the whole document with it, so an entry is heard exactly where some document of an enabled feed that holds
no such entry states it.
-/

namespace Quant

open Pylib

namespace Poll

variable (fns : FeedFns) (clockSkewTolerance : ℤ) (poll : Poll)

/-- The document of an enabled feed that is reached. -/
def document : Option XmlElement :=
  if poll.feed.enabled then
    match poll.response with
    | .ok (200, text) => if strip text = "" then none else (fns.fromstring text).toOption
    | _ => none
  else none

/-- The entries of that document. -/
def entries : List FeedEntry := ((poll.document fns).map feedEntries).getD []

/-- The publication time of an entry. -/
def published (entry : FeedEntry) : ℤ := parseDatetime fns entry.dateStr poll.nowUtc

/-- What an entry is known by: the hash of its source, title and summary. -/
def fingerprint (entry : FeedEntry) : String :=
  fns.sha256 ((NewsHarvester.articleFields fns poll.feed.name poll.nowUtc entry).normContent fns.toTextFns)

/-- An entry to be heard: its cleaned title is not blank, and it is not too far ahead of the clock. -/
def Acceptable (entry : FeedEntry) : Prop :=
  strip (sanitizeHtml fns entry.rawTitle) ≠ "" ∧ poll.published fns entry ≤ poll.nowUtc + clockSkewTolerance

/-- Every entry of the document that has a title is acceptable. -/
def Clean : Prop := ∀ entry ∈ poll.entries fns, entry.rawTitle ≠ "" → poll.Acceptable fns clockSkewTolerance entry

end Poll

namespace NewsHarvester

variable (fns : FeedFns) (clockSkewTolerance : ℤ)

/-- No feed is silenced: every acceptable entry that has not been seen is returned, by its fingerprint, and no article that is
returned is further ahead of the clock. -/
def HearsAll (hv : NewsHarvester) (polls : List Poll) : Prop :=
  (∀ poll ∈ polls, ∀ entry ∈ poll.entries fns, poll.Acceptable fns clockSkewTolerance entry →
    poll.fingerprint fns entry ∉ hv.hashRing →
    ∃ a ∈ (hv.pollAll fns clockSkewTolerance polls).1, a.articleHash = poll.fingerprint fns entry) ∧
  ∀ a ∈ (hv.pollAll fns clockSkewTolerance polls).1, a.publishedAt.micros ≤ a.availableAt.micros + clockSkewTolerance

/-- The ring has room, and every acceptable entry that has not been seen stands, with its content, in a document all of whose
titled entries are acceptable. -/
def Unspoiled (hv : NewsHarvester) (polls : List Poll) : Prop :=
  ∀ poll ∈ polls, ∀ entry ∈ poll.entries fns, poll.Acceptable fns clockSkewTolerance entry →
    poll.fingerprint fns entry ∉ hv.hashRing →
    0 < hv.ringBufferCapacity ∧ ∃ poll' ∈ polls, poll'.Clean fns clockSkewTolerance ∧
      ∃ entry' ∈ poll'.entries fns, entry'.rawTitle ≠ "" ∧ poll'.fingerprint fns entry' = poll.fingerprint fns entry

/-! ## One entry -/

section Entry

variable {fns} {clockSkewTolerance}

/-- The constructor takes fields with a headline and times with a zone. -/
theorem exists_create {T : TextFns} {f : NewsFields} (hheadline : strip f.headline ≠ "") (hpub : f.publishedAt.hasTz = true)
    (havail : f.availableAt.hasTz = true) :
    ∃ a, f.create T = .ok a ∧ a.toNewsFields = f ∧ a.articleHash = T.sha256 (f.normContent T) := by
  have htz : ¬ (f.publishedAt.hasTz = false ∨ f.availableAt.hasTz = false) := by simp [hpub, havail]
  rw [NewsFields.create, dif_neg hheadline, dif_neg htz]
  exact ⟨_, rfl, rfl, rfl⟩

/-- An entry with a title makes its article where it is acceptable, and raises otherwise. -/
theorem parseEntry_cases (poll : Poll) {entry : FeedEntry} (htitle : entry.rawTitle ≠ "") :
    (poll.Acceptable fns clockSkewTolerance entry ∧
        ∃ a, parseEntry fns clockSkewTolerance poll.feed.name poll.nowUtc entry = .ok (some a) ∧
        a.articleHash = poll.fingerprint fns entry ∧ a.publishedAt.micros ≤ a.availableAt.micros + clockSkewTolerance) ∨
      ¬ poll.Acceptable fns clockSkewTolerance entry ∧
        ∃ exc, parseEntry fns clockSkewTolerance poll.feed.name poll.nowUtc entry = .error exc := by
  rw [parseEntry, if_neg htitle, verifyCausalTimestamp]
  by_cases hahead : poll.nowUtc + clockSkewTolerance < parseDatetime fns entry.dateStr poll.nowUtc
  · rw [if_pos hahead]
    exact .inr ⟨fun h => hahead.not_ge h.2, _, rfl⟩
  rw [if_neg hahead]
  by_cases hblank : strip (articleFields fns poll.feed.name poll.nowUtc entry).headline = ""
  · refine .inr ⟨fun h => h.1 hblank, ?_⟩
    rw [Except.bind, NewsFields.create, dif_pos hblank]
    exact ⟨_, rfl⟩
  · obtain ⟨a, ha, hfields, hhash⟩ := exists_create (T := fns.toTextFns) hblank rfl rfl
    refine .inl ⟨⟨hblank, not_lt.1 hahead⟩, a, ?_, hhash, ?_⟩
    · rw [Except.bind, ha]
      rfl
    · rw [hfields]
      simp only [articleFields]
      exact not_lt.1 hahead

end Entry

/-! ## One document -/

/-- The articles of a document, none where an entry raises. -/
def parsed (poll : Poll) : List (NewsArticle fns.toTextFns) :=
  (((poll.entries fns).mapM (parseEntry fns clockSkewTolerance poll.feed.name poll.nowUtc)).toOption.getD []).reduceOption

section Document

variable {fns} {clockSkewTolerance} {poll : Poll}

/-- A document has articles only where it is clean, and each of them is of one of its entries. -/
theorem of_mem_parsed {a : NewsArticle fns.toTextFns} (h : a ∈ parsed fns clockSkewTolerance poll) :
    poll.Clean fns clockSkewTolerance ∧ a.publishedAt.micros ≤ a.availableAt.micros + clockSkewTolerance ∧
      ∃ entry ∈ poll.entries fns, entry.rawTitle ≠ "" ∧ poll.fingerprint fns entry = a.articleHash := by
  unfold parsed at h
  cases hrows : (poll.entries fns).mapM (parseEntry fns clockSkewTolerance poll.feed.name poll.nowUtc) with
  | error exc =>
    rw [hrows] at h
    cases h
  | ok rows =>
    rw [hrows] at h
    have hforall := forall₂_of_mapM_ok hrows
    have hclean : poll.Clean fns clockSkewTolerance := by
      intro entry hentry htitle
      obtain ⟨row, -, hrow⟩ := exists_of_forall₂_right hforall.flip hentry
      rcases parseEntry_cases poll htitle with ⟨hacc, -⟩ | ⟨-, exc, hexc⟩
      · exact hacc
      · cases hexc.symm.trans hrow
    obtain ⟨entry, hentry, hparse⟩ := (mem_iff_of_forall₂ hforall (some a)).1 (List.reduceOption_mem_iff.1 h)
    have htitle : entry.rawTitle ≠ "" := by
      intro hnil
      rw [parseEntry, if_pos hnil] at hparse
      cases hparse
    rcases parseEntry_cases poll htitle with ⟨-, a', ha', hhash, htime⟩ | ⟨-, exc, hexc⟩
    · cases ha'.symm.trans hparse
      exact ⟨hclean, htime, entry, hentry, htitle, hhash.symm⟩
    · cases hexc.symm.trans hparse

/-- In a clean document every entry with a title has its article. -/
theorem exists_mem_parsed (hclean : poll.Clean fns clockSkewTolerance) {entry : FeedEntry} (hentry : entry ∈ poll.entries fns)
    (htitle : entry.rawTitle ≠ "") : ∃ a ∈ parsed fns clockSkewTolerance poll, a.articleHash = poll.fingerprint fns entry := by
  have hpass : ∀ entry ∈ poll.entries fns, ∃ row, parseEntry fns clockSkewTolerance poll.feed.name poll.nowUtc
      entry = .ok row := by
    intro entry hentry
    by_cases htitle : entry.rawTitle = ""
    · exact ⟨none, by rw [parseEntry, if_pos htitle]⟩
    · rcases parseEntry_cases poll htitle with ⟨-, a, ha, -⟩ | ⟨hnot, -⟩
      · exact ⟨some a, ha⟩
      · exact absurd (hclean entry hentry htitle) hnot
  obtain ⟨rows, hrows⟩ := mapM_ok_of_forall hpass
  rcases parseEntry_cases poll htitle with ⟨-, a, ha, hhash, -⟩ | ⟨hnot, -⟩
  · refine ⟨a, ?_, hhash⟩
    rw [parsed, hrows]
    exact List.reduceOption_mem_iff.2 ((mem_iff_of_forall₂ (forall₂_of_mapM_ok hrows) (some a)).2 ⟨entry, hentry, ha⟩)
  · exact absurd (hclean entry hentry htitle) hnot

end Document

/-! ## All feeds -/

/-- The articles of all documents, feed by feed. -/
def allParsed (polls : List Poll) : List (NewsArticle fns.toTextFns) := polls.flatMap (parsed fns clockSkewTolerance)

variable {fns} {clockSkewTolerance}

theorem parsed_of_no_document {poll : Poll} (h : poll.document fns = none) : parsed fns clockSkewTolerance poll = [] := by
  rw [parsed, Poll.entries, h]
  rfl

/-- A poll of an enabled feed raises and has no articles, or it passes the articles of the document through the ring. -/
theorem pollFeed_cases (hv : NewsHarvester) {poll : Poll} (henabled : poll.feed.enabled = true) :
    (∃ exc, hv.pollFeed fns clockSkewTolerance poll = (.error exc, hv) ∧ parsed fns clockSkewTolerance poll = []) ∨
      (hv.pollFeed fns clockSkewTolerance poll).1.toOption =
        (hv.filterAndStoreUnique (parsed fns clockSkewTolerance poll)).1.toOption ∧
        (hv.pollFeed fns clockSkewTolerance poll).2 = (hv.filterAndStoreUnique (parsed fns clockSkewTolerance poll)).2 := by
  unfold pollFeed
  cases hresp : poll.response with
  | error e =>
    have hdoc : poll.document fns = none := by simp [Poll.document, henabled, hresp]
    exact .inl ⟨_, rfl, parsed_of_no_document hdoc⟩
  | ok resp =>
    obtain ⟨statusCode, text⟩ := resp
    dsimp only
    by_cases hstatus : statusCode = 200
    · subst hstatus
      rw [if_neg (by simp)]
      have hdoc : poll.document fns = if strip text = "" then none else (fns.fromstring text).toOption := by
        simp [Poll.document, henabled, hresp]
      unfold parseFeedXml
      by_cases hblank : strip text = ""
      · rw [if_pos hblank] at hdoc ⊢
        exact .inl ⟨_, rfl, parsed_of_no_document hdoc⟩
      rw [if_neg hblank] at hdoc ⊢
      cases hroot : fns.fromstring text with
      | error e =>
        rw [hroot] at hdoc
        exact .inl ⟨_, rfl, parsed_of_no_document hdoc⟩
      | ok root =>
        have hentries : poll.entries fns = feedEntries root := by
          rw [Poll.entries, hdoc, hroot]
          rfl
        dsimp only
        rw [← hentries]
        cases hrows : (poll.entries fns).mapM (parseEntry fns clockSkewTolerance poll.feed.name poll.nowUtc) with
        | error exc => exact .inl ⟨_, rfl, by rw [parsed, hrows]; rfl⟩
        | ok rows =>
          have hparsed : parsed fns clockSkewTolerance poll = rows.reduceOption := by rw [parsed, hrows]; rfl
          right
          rw [hparsed]
          simp only [Except.map]
          rcases hv.filterAndStoreUnique rows.reduceOption with ⟨_ | unique, hv'⟩
          · exact ⟨rfl, rfl⟩
          · exact ⟨rfl, rfl⟩
    · rw [if_pos hstatus]
      have hdoc : poll.document fns = none := by
        simp [Poll.document, henabled, hresp, hstatus]
      exact .inl ⟨_, rfl, parsed_of_no_document hdoc⟩

/-- Whatever becomes of a feed, its articles go through the ring before those of the others. -/
theorem pollAll_cons (hv : NewsHarvester) (poll : Poll) (polls : List Poll) :
    hv.pollAll fns clockSkewTolerance (poll :: polls) =
      let (unique, hv') := hv.filterAndStoreUnique (parsed fns clockSkewTolerance poll)
      (unique.toOption.getD [] ++ (hv'.pollAll fns clockSkewTolerance polls).1,
        (hv'.pollAll fns clockSkewTolerance polls).2) := by
  have hnothing : parsed fns clockSkewTolerance poll = [] → hv.pollAll fns clockSkewTolerance polls =
      let (unique, hv') := hv.filterAndStoreUnique (parsed fns clockSkewTolerance poll)
      (unique.toOption.getD [] ++ (hv'.pollAll fns clockSkewTolerance polls).1,
        (hv'.pollAll fns clockSkewTolerance polls).2) := by
    intro hnil
    rw [hnil]
    rfl
  rw [pollAll]
  cases henabled : poll.feed.enabled with
  | false =>
    have hdoc : poll.document fns = none := by simp [Poll.document, henabled]
    rw [if_neg Bool.false_ne_true]
    exact hnothing (parsed_of_no_document hdoc)
  | true =>
    rw [if_pos rfl]
    rcases @pollFeed_cases fns clockSkewTolerance hv poll henabled with ⟨exc, hexc, hnil⟩ | ⟨hres, hring⟩
    · rw [hexc]
      exact hnothing hnil
    · dsimp only
      rw [← hres, ← hring]
      rcases hv.pollFeed fns clockSkewTolerance poll with ⟨_ | articles, hv'⟩
      · rfl
      · rfl

/-- A ring with capacity sees the articles of all documents one after the other. -/
theorem pollAll_eq_feed {hv : NewsHarvester} (hpos : 0 < hv.ringBufferCapacity) (polls : List Poll) :
    hv.pollAll fns clockSkewTolerance polls = hv.feed (allParsed fns clockSkewTolerance polls) := by
  induction polls generalizing hv with
  | nil => rfl
  | cons poll polls ih =>
    obtain ⟨hfilter, hcap⟩ := filterAndStoreUnique_eq_feed hpos (parsed fns clockSkewTolerance poll)
    rw [pollAll_cons, hfilter, allParsed, List.flatMap_cons, feed_append]
    dsimp only
    rw [ih (hcap ▸ hpos)]
    rfl

/-- A ring without capacity passes nothing on. -/
theorem pollAll_of_no_capacity {hv : NewsHarvester} (hzero : hv.ringBufferCapacity = 0) (polls : List Poll) :
    (hv.pollAll fns clockSkewTolerance polls).1 = [] := by
  have hempty : hv.hashRing = [] := List.length_eq_zero_iff.1 (Nat.le_zero.1 (hzero ▸ hv.hashRing_length))
  have hfilter : ∀ articles : List (NewsArticle fns.toTextFns),
      (hv.filterAndStoreUnique articles).1.toOption.getD [] = [] ∧ (hv.filterAndStoreUnique articles).2 = hv := by
    intro articles
    cases articles with
    | nil => exact ⟨rfl, rfl⟩
    | cons a articles =>
      have hseen : a.articleHash ∉ hv.seenHashes := by
        rw [mem_seenHashes_iff, hempty]
        exact List.not_mem_nil
      have hoffer : hv.offer a.articleHash = .error ⟨.indexError, "pop from an empty deque", []⟩ := by
        unfold offer
        rw [dif_neg hseen, dif_pos (by omega), dif_pos hempty]
      rw [filterAndStoreUnique, hoffer]
      exact ⟨rfl, rfl⟩
  induction polls with
  | nil => rfl
  | cons poll polls ih =>
    obtain ⟨hnone, hsame⟩ := hfilter (parsed fns clockSkewTolerance poll)
    rw [pollAll_cons]
    dsimp only
    rw [hnone, hsame, ih]
    rfl

/-- Of every article in the list one of its hash is in the ring before or is passed on. -/
theorem mem_feed_or_seen {T : TextFns} {hv : NewsHarvester} (hpos : 0 < hv.ringBufferCapacity) {xs : List (NewsArticle T)}
    {a : NewsArticle T}
    (h : a ∈ xs) : a.articleHash ∈ hv.hashRing ∨ ∃ b ∈ (hv.feed xs).1, b.articleHash = a.articleHash := by
  induction xs generalizing hv with
  | nil => cases h
  | cons x xs ih =>
    rw [feed]
    rcases offer_cases hpos x.articleHash with ⟨hseen, hoffer⟩ | ⟨-, hv', hoffer, hcap, hring⟩
    · rw [hoffer]
      rcases List.mem_cons.1 h with rfl | hmem
      · exact .inl hseen
      · exact ih hpos hmem
    · rw [hoffer]
      rcases List.mem_cons.1 h with rfl | hmem
      · exact .inr ⟨a, List.mem_cons_self, rfl⟩
      · rcases ih (hcap ▸ hpos) hmem with hin | ⟨b, hb, hhash⟩
        · rw [hring, List.mem_append, List.mem_singleton] at hin
          rcases hin with hin | heq
          · left
            split at hin
            · exact List.mem_of_mem_tail hin
            · exact hin
          · exact .inr ⟨x, List.mem_cons_self, heq.symm⟩
        · exact .inr ⟨b, List.mem_cons_of_mem x hb, hhash⟩

/-- No feed is silenced exactly where every acceptable entry that has not been seen stands in a clean document. -/
theorem hearsAll_iff (fns : FeedFns) (clockSkewTolerance : ℤ) (hv : NewsHarvester) (polls : List Poll) :
    hv.HearsAll fns clockSkewTolerance polls ↔ hv.Unspoiled fns clockSkewTolerance polls := by
  rcases Nat.eq_zero_or_pos hv.ringBufferCapacity with hzero | hpos
  · rw [HearsAll, pollAll_of_no_capacity hzero]
    constructor
    · intro h poll hpoll entry hentry hacc hunseen
      obtain ⟨a, ha, -⟩ := h.1 poll hpoll entry hentry hacc hunseen
      cases ha
    · intro h
      refine ⟨fun poll hpoll entry hentry hacc hunseen => ?_, fun a ha => by cases ha⟩
      exact absurd (h poll hpoll entry hentry hacc hunseen).1 (by omega)
  · rw [HearsAll, pollAll_eq_feed hpos]
    constructor
    · intro h poll hpoll entry hentry hacc hunseen
      obtain ⟨a, ha, hhash⟩ := h.1 poll hpoll entry hentry hacc hunseen
      obtain ⟨poll', hpoll', ha'⟩ := List.mem_flatMap.1 (mem_of_mem_feed ha)
      obtain ⟨hclean, -, entry', hentry', htitle, hprint⟩ := of_mem_parsed ha'
      exact ⟨hpos, poll', hpoll', hclean, entry', hentry', htitle, hprint.trans hhash⟩
    · intro h
      refine ⟨fun poll hpoll entry hentry hacc hunseen => ?_, fun a ha => ?_⟩
      · obtain ⟨-, poll', hpoll', hclean, entry', hentry', htitle, hprint⟩ := h poll hpoll entry hentry hacc hunseen
        obtain ⟨a, ha, hhash⟩ := exists_mem_parsed hclean hentry' htitle
        rcases mem_feed_or_seen hpos (List.mem_flatMap.2 ⟨poll', hpoll', ha⟩) with hseen | ⟨b, hb, hbhash⟩
        · rw [hhash, hprint] at hseen
          exact absurd hseen hunseen
        · exact ⟨b, hb, hbhash.trans (hhash.trans hprint)⟩
      · obtain ⟨poll, -, ha'⟩ := List.mem_flatMap.1 (mem_of_mem_feed ha)
        exact (of_mem_parsed ha').2.1

/-! ### A headline of markup -/

/-- An item of RSS with a title. -/
def titledItem (title : String) : XmlElement := .mk "item" none [] [.mk "title" (some title) [] []]

/-- A document whose first title is a line break. -/
def brokenDocument : XmlElement :=
  .mk "rss" none [] [titledItem "<br/>", titledItem "Rates up"]

def brokenText : String :=
  "<rss>" ++ "<item><title>&lt;br/&gt;</title></item>" ++ "<item><title>Rates up</title></item>" ++ "</rss>"

theorem strip_brokenText : strip brokenText ≠ "" := by
  have hhead : brokenText.toList.head? = some '<' := by
    simp only [brokenText, String.toList_append]
    rfl
  exact strip_ne_empty hhead (by decide)

/-- ASCII texts without references, no dates, and the document above. -/
def asciiFeeds : FeedFns where
  toTextFns := asciiTexts
  unescape := id
  upper := fun s => String.ofList (s.toList.map Char.toUpper)
  isWord := fun c => c.isAlphanum || c = '_'
  parsedate := fun _ => none
  fromisoformat := fun _ => none
  fromstring := fun _ => .ok brokenDocument

def brokenPoll : Poll where
  feed := { name := "wire", url := "https://wire.example/rss" }
  response := .ok (200, brokenText)
  nowUtc := 0

/-- The line break takes the story behind it down. -/
theorem not_hearsAll_markup : ¬ ({} : NewsHarvester).HearsAll asciiFeeds 60000000 [brokenPoll] := by
  have hdoc : brokenPoll.document asciiFeeds = some brokenDocument := by
    simp [Poll.document, brokenPoll, strip_brokenText, asciiFeeds, Except.toOption]
  have hentries : brokenPoll.entries asciiFeeds = [⟨"<br/>", "", "", ""⟩, ⟨"Rates up", "", "", ""⟩] := by
    rw [Poll.entries, hdoc]
    rfl
  have hbreak : ¬ brokenPoll.Clean asciiFeeds 60000000 := by
    intro hclean
    have hacc := hclean ⟨"<br/>", "", "", ""⟩ (by simp [hentries]) (by simp)
    exact hacc.1 (by decide +kernel)
  have hstory : brokenPoll.Acceptable asciiFeeds 60000000 ⟨"Rates up", "", "", ""⟩ := ⟨by decide +kernel, by decide +kernel⟩
  intro h
  obtain ⟨a, ha, -⟩ := h.1 brokenPoll (List.mem_singleton_self _) _ (by simp [hentries]) hstory List.not_mem_nil
  rw [pollAll_eq_feed (by decide)] at ha
  obtain ⟨poll, hpoll, ha'⟩ := List.mem_flatMap.1 (mem_of_mem_feed ha)
  rw [List.mem_singleton.1 hpoll] at ha'
  exact hbreak (of_mem_parsed ha').1

end NewsHarvester

end Quant
