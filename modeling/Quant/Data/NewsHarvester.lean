import Mathlib.Data.Finset.Basic
import Mathlib.Data.Finset.Dedup
import Mathlib.Data.List.Sort
import Quant.Exceptions
import Quant.Pylib.Text

/-!
# The news harvester

`NewsArticle` and `NewsHarvester`, from `data/news_harvester.py`: an article is known by the hash of its source, headline and
summary joined to one text, and a bounded ring of the hashes passed on last, with a set of the same hashes beside it, holds back
what it knows. Then the parser of a feed and the polling: a document is the tree the XML parser makes of it, and times are
microseconds since the epoch, in UTC. `str.lower`, SHA-256, the XML parser, the clock and the functions on dates and on Unicode
texts are parameters.
-/

namespace Quant

open Pylib

/-- The functions of the standard library that the fingerprint of an article goes through. -/
structure TextFns where
  lower : String → String
  sha256 : String → String

/-- A `datetime` of an article: its microseconds since the epoch, and whether it has a time zone. -/
structure NewsTime where
  micros : ℤ
  hasTz : Bool := true
  deriving DecidableEq

/-- The fields a `NewsArticle` is made with. -/
structure NewsFields where
  headline : String
  summary : String
  url : String
  source : String
  publishedAt : NewsTime
  availableAt : NewsTime
  tickers : List String := []
  deriving DecidableEq

namespace NewsFields

variable (T : TextFns) (f : NewsFields)

/-- A text as the fingerprint takes it: `s.strip().lower()`. -/
def norm (s : String) : String := T.lower (strip s)

/-- The text that is hashed: the normalised source, headline and summary with a bar between them. -/
def normContent : String := norm T f.source ++ "|" ++ norm T f.headline ++ "|" ++ norm T f.summary

/-- What the text is made of. -/
def normKey : String × String × String := (norm T f.source, norm T f.headline, norm T f.summary)

end NewsFields

/-- An article its constructor accepted, with its fingerprint. -/
structure NewsArticle (T : TextFns) extends NewsFields where
  articleHash : String
  headline_notBlank : strip headline ≠ ""
  publishedAt_hasTz : publishedAt.hasTz = true
  availableAt_hasTz : availableAt.hasTz = true
  articleHash_eq : articleHash = T.sha256 (NewsFields.normContent T toNewsFields)

/-- `NewsArticle.__post_init__`. -/
def NewsFields.create (T : TextFns) (f : NewsFields) : Except Exc (NewsArticle T) :=
  if h1 : strip f.headline = "" then .error ⟨.corruptNewsPayload, "Headline cannot be empty or whitespace.", []⟩
  else if h2 : f.publishedAt.hasTz = false ∨ f.availableAt.hasTz = false then
    .error ⟨.corruptNewsPayload, "Timestamps must be timezone-aware UTC datetimes.", []⟩
  else .ok
    { f with
      articleHash := T.sha256 (f.normContent T)
      headline_notBlank := h1
      publishedAt_hasTz := by
        rw [not_or] at h2
        exact Bool.eq_true_of_not_eq_false h2.1
      availableAt_hasTz := by
        rw [not_or] at h2
        exact Bool.eq_true_of_not_eq_false h2.2
      articleHash_eq := rfl }

theorem emptyRing_toFinset : (∅ : Finset String) = ([] : List String).toFinset := List.toFinset_nil.symm

theorem emptyRing_nodup : ([] : List String).Nodup := List.nodup_nil

theorem emptyRing_length (capacity : ℕ) : ([] : List String).length ≤ capacity := Nat.zero_le capacity

/-- The ring of hashes and its set. The set holds what the ring holds, and the ring has no hash twice and respects its
capacity. -/
structure NewsHarvester where
  ringBufferCapacity : ℕ := 10000
  hashRing : List String := []
  seenHashes : Finset String := ∅
  seenHashes_eq : seenHashes = hashRing.toFinset := by exact emptyRing_toFinset
  hashRing_nodup : hashRing.Nodup := by exact emptyRing_nodup
  hashRing_length : hashRing.length ≤ ringBufferCapacity := by exact emptyRing_length _

namespace NewsHarvester

/-- The constructor, with the ring it makes: `deque` takes no negative length. -/
def create (ringBufferCapacity : ℤ) : Except Exc NewsHarvester :=
  if ringBufferCapacity < 0 then .error ⟨.valueError, "maxlen must be non-negative", []⟩
  else .ok { ringBufferCapacity := ringBufferCapacity.toNat }

theorem mem_seenHashes_iff (hv : NewsHarvester) (h : String) : h ∈ hv.seenHashes ↔ h ∈ hv.hashRing := by
  rw [hv.seenHashes_eq, List.mem_toFinset]

/-- Forget the oldest hash. -/
def popOldest (hv : NewsHarvester) : NewsHarvester :=
  { hv with
    hashRing := hv.hashRing.tail
    seenHashes := hv.hashRing.head?.elim hv.seenHashes hv.seenHashes.erase
    seenHashes_eq := by
      rw [hv.seenHashes_eq]
      have hn := hv.hashRing_nodup
      cases hr : hv.hashRing with
      | nil => rfl
      | cons x xs =>
        rw [hr, List.nodup_cons] at hn
        simp [Finset.erase_insert_eq_erase, Finset.erase_eq_of_notMem, hn.1]
    hashRing_nodup := hv.hashRing_nodup.tail
    hashRing_length := by
      rw [List.length_tail]
      exact (Nat.sub_le _ _).trans hv.hashRing_length }

/-- Keep a hash that is not known, where there is room for it. -/
def keep (hv : NewsHarvester) (h : String) (hnew : h ∉ hv.hashRing) (hroom : hv.hashRing.length < hv.ringBufferCapacity) :
    NewsHarvester :=
  { hv with
    hashRing := hv.hashRing ++ [h]
    seenHashes := insert h hv.seenHashes
    seenHashes_eq := by
      rw [hv.seenHashes_eq]
      ext x
      simp only [Finset.mem_insert, List.mem_toFinset, List.mem_append, List.mem_singleton]
      exact or_comm
    hashRing_nodup := by
      refine List.nodup_append.2 ⟨hv.hashRing_nodup, List.nodup_singleton h, ?_⟩
      intro a ha b hb hab
      rw [List.mem_singleton] at hb
      rw [hab, hb] at ha
      exact hnew ha
    hashRing_length := by
      rw [List.length_append, List.length_singleton]
      exact hroom }

/-- What the loop does with one hash: `none` when it is known, else the harvester that keeps it. A ring without capacity is full
and has nothing to forget. -/
def offer (hv : NewsHarvester) (h : String) : Except Exc (Option NewsHarvester) :=
  if hseen : h ∈ hv.seenHashes then .ok none
  else
    have hnew : h ∉ hv.hashRing := fun hm => hseen ((hv.mem_seenHashes_iff h).2 hm)
    if hfull : hv.ringBufferCapacity ≤ hv.hashRing.length then
      if hempty : hv.hashRing = [] then .error ⟨.indexError, "pop from an empty deque", []⟩
      else .ok (some (hv.popOldest.keep h (fun hm => hnew (List.mem_of_mem_tail hm)) (by
        have hpos := List.length_pos_iff.2 hempty
        have hlen := hv.hashRing_length
        simp only [popOldest, List.length_tail]
        omega)))
    else .ok (some (hv.keep h hnew (not_le.1 hfull)))

/-- `filter_and_store_unique`. -/
def filterAndStoreUnique {T : TextFns} (hv : NewsHarvester) :
    List (NewsArticle T) → Except Exc (List (NewsArticle T)) × NewsHarvester
  | [] => (.ok [], hv)
  | a :: articles =>
    match hv.offer a.articleHash with
    | .error exc => (.error exc, hv)
    | .ok none => hv.filterAndStoreUnique articles
    | .ok (some hv') =>
      let (unique, hv'') := hv'.filterAndStoreUnique articles
      (unique.map (a :: ·), hv'')

end NewsHarvester

/-! ## Documents -/

/-- An element of a document. -/
inductive XmlElement where
  | mk (tag : String) (text : Option String) (attrib : List (String × String)) (children : List XmlElement)

namespace XmlElement

def tag : XmlElement → String
  | mk tag _ _ _ => tag

def text : XmlElement → Option String
  | mk _ text _ _ => text

def attrib : XmlElement → List (String × String)
  | mk _ _ attrib _ => attrib

def children : XmlElement → List XmlElement
  | mk _ _ _ children => children

mutual

/-- The elements below an element, in the order of the document. -/
def descendants : XmlElement → List XmlElement
  | mk _ _ _ children => descendantsOf children

def descendantsOf : List XmlElement → List XmlElement
  | [] => []
  | e :: es => e :: (descendants e ++ descendantsOf es)

end

variable (e : XmlElement)

/-- `e.find(tag)`. -/
def find (tag : String) : Option XmlElement := e.children.find? (·.tag = tag)

/-- `e.findall(tag)`. -/
def findall (tag : String) : List XmlElement := e.children.filter (·.tag = tag)

/-- `e.findall(".//tag")`. -/
def findallBelow (tag : String) : List XmlElement := e.descendants.filter (·.tag = tag)

/-- `elem.text if elem is not None and elem.text else ""`. -/
def textOf (elem : Option XmlElement) : String := (elem.bind text).getD ""

end XmlElement

/-- What the parser of a feed takes from elsewhere: `html.unescape`, `str.upper`, the `\w` of a pattern, the two readings of a
date, `none` where they raise, and the XML parser, which raises with a text. -/
structure FeedFns extends TextFns where
  unescape : String → String
  upper : String → String
  isWord : Char → Bool
  parsedate : String → Option ℤ
  fromisoformat : String → Option ℤ
  fromstring : String → Except String XmlElement

/-! ## Texts -/

/-- `_TAG_RE.sub(" ", text)`; what follows a `<` that may open a tag is held until it is closed. -/
def subTags : Option (List Char) → List Char → List Char
  | none, [] => []
  | some opened, [] => '<' :: opened
  | none, c :: cs => if c = '<' then subTags (some []) cs else c :: subTags none cs
  | some opened, c :: cs =>
    if c = '>' then
      -- A tag holds at least one character, so `<>` is none.
      if opened = [] then '<' :: '>' :: subTags none cs else ' ' :: subTags none cs
    else subTags (some (opened ++ [c])) cs

/-- `text.split()`. -/
def splitBlanks (text : String) : List String := ((text.toList.splitOnP isspace).filter (· ≠ [])).map String.ofList

/-- `sanitize_html`. -/
def sanitizeHtml (fns : FeedFns) (text : String) : String :=
  if text = "" then ""
  else strip (" ".intercalate (splitBlanks (fns.unescape (String.ofList (subTags none text.toList)))))

/-- `COMPANY_TICKER_MAP`. -/
def companyTickerMap : List (String × String) :=
  [("APPLE", "AAPL"), ("MICROSOFT", "MSFT"), ("NVIDIA", "NVDA"), ("AMAZON", "AMZN"), ("ALPHABET", "GOOGL"), ("GOOGLE", "GOOGL"),
    ("TESLA", "TSLA"), ("META", "META"), ("JPMORGAN", "JPM"), ("BERKSHIRE", "BRK.B"), ("BROADCOM", "AVGO"), ("ELI LILLY", "LLY")]

/-- `_TICKER_RE.findall(text)`: the words of one to five capitals. -/
def tickerMatches (fns : FeedFns) (text : String) : List String :=
  ((text.toList.splitOnP fun c => !fns.isWord c).filter fun word =>
    1 ≤ word.length && word.length ≤ 5 && word.all fun c => 'A' ≤ c && c ≤ 'Z').map String.ofList

/-- `_extract_tickers`. -/
def extractTickers (fns : FeedFns) (text : String) : List String :=
  let upperText := fns.upper text
  let aliases := (companyTickerMap.filter fun company => contains upperText company.1).map Prod.snd
  let explicit := (tickerMatches fns text).filter (· ∈ companyTickerMap.map Prod.snd)
  (aliases ++ explicit).dedup.insertionSort (· ≤ ·)

/-! ## Entries -/

/-- The texts of an entry. -/
structure FeedEntry where
  rawTitle : String
  rawSummary : String
  url : String
  dateStr : String

/-- The namespace of Atom. -/
def atomNs : String := "\x7bhttp://www.w3.org/2005/Atom\x7d"

/-- An `<entry>` of Atom, whose elements may stand without the namespace. -/
def readAtomEntry (entry : XmlElement) : FeedEntry where
  rawTitle := XmlElement.textOf (entry.find (atomNs ++ "title") <|> entry.find "title")
  rawSummary := XmlElement.textOf (entry.find (atomNs ++ "summary") <|> entry.find (atomNs ++ "content") <|> entry.find "summary")
  url := ((entry.find (atomNs ++ "link") <|> entry.find "link").bind fun link => link.attrib.lookup "href").getD ""
  dateStr := XmlElement.textOf (entry.find (atomNs ++ "updated") <|> entry.find (atomNs ++ "published") <|> entry.find "updated")

/-- An `<item>` of RSS. -/
def readRssItem (item : XmlElement) : FeedEntry where
  rawTitle := XmlElement.textOf (item.find "title")
  rawSummary := XmlElement.textOf (item.find "description")
  url := XmlElement.textOf (item.find "link")
  dateStr := XmlElement.textOf (item.find "pubDate")

/-- The entries of a document, which is of Atom where the tag of its root ends with `feed`. -/
def feedEntries (root : XmlElement) : List FeedEntry :=
  if "feed".toList <:+ root.tag.toList then
    let entries := root.findall (atomNs ++ "entry")
    (if entries.isEmpty then root.findall "entry" else entries).map readAtomEntry
  else
    match root.find "channel" with
    | some channel => (channel.findall "item").map readRssItem
    | none => (root.findallBelow "item").map readRssItem

/-- `_parse_datetime`. -/
def parseDatetime (fns : FeedFns) (dateStr : String) (fallbackNow : ℤ) : ℤ :=
  if strip dateStr = "" then fallbackNow
  else
    match fns.parsedate (strip dateStr) with
    | some dt => dt
    | none => (fns.fromisoformat ((strip dateStr).replace "Z" "+00:00")).getD fallbackNow

namespace NewsHarvester

variable (fns : FeedFns) (clockSkewTolerance : ℤ)

/-- `_verify_causal_timestamp`; the message shows the two times and the seconds between them. -/
def verifyCausalTimestamp (pubTime nowUtc : ℤ) : Except Exc Unit :=
  if nowUtc + clockSkewTolerance < pubTime then
    .error ⟨.futureTimestamp, "Future publication timestamp detected (% leads local clock % by %s). Violates INV-NEWS-001.",
      [.num pubTime, .num nowUtc, .num ((pubTime - nowUtc) / 10 ^ 6)]⟩
  else .ok ()

/-- The fields of the article of an entry. -/
def articleFields (sourceName : String) (nowUtc : ℤ) (entry : FeedEntry) : NewsFields :=
  let cleanTitle := sanitizeHtml fns entry.rawTitle
  let cleanSummary := sanitizeHtml fns entry.rawSummary
  { headline := cleanTitle
    summary := cleanSummary
    url := entry.url
    source := sourceName
    publishedAt := { micros := parseDatetime fns entry.dateStr nowUtc }
    availableAt := { micros := nowUtc }
    tickers := extractTickers fns (cleanTitle ++ " " ++ cleanSummary) }

/-- A pass of the loop: the article it appends, if it appends one. -/
def parseEntry (sourceName : String) (nowUtc : ℤ) (entry : FeedEntry) : Except Exc (Option (NewsArticle fns.toTextFns)) :=
  if entry.rawTitle = "" then .ok none
  else
    (verifyCausalTimestamp clockSkewTolerance (parseDatetime fns entry.dateStr nowUtc) nowUtc).bind fun _ =>
    ((articleFields fns sourceName nowUtc entry).create fns.toTextFns).map some

/-- `parse_feed_xml`. -/
def parseFeedXml (xmlContent sourceName : String) (nowUtc : ℤ) : Except Exc (List (NewsArticle fns.toTextFns)) :=
  if strip xmlContent = "" then .error ⟨.corruptNewsPayload, "RSS/Atom XML payload is empty or whitespace.", []⟩
  else
    match fns.fromstring xmlContent with
    | .error e => .error ⟨.corruptNewsPayload, "XML parse error encountered: %", [.str e]⟩
    | .ok root => ((feedEntries root).mapM (parseEntry fns clockSkewTolerance sourceName nowUtc)).map List.reduceOption

/-! ## Polling -/

end NewsHarvester

/-- The part of a `NewsFeedConfig` that polling reads. -/
structure NewsFeedConfig where
  name : String
  url : String
  enabled : Bool := true

/-- A poll of a feed: what the request comes back with, which is the text of an exception or a status and a text, and the clock
when the text is parsed. -/
structure Poll where
  feed : NewsFeedConfig
  response : Except String (ℕ × String)
  nowUtc : ℤ

namespace NewsHarvester

variable (fns : FeedFns) (clockSkewTolerance : ℤ)

/-- The classes under `NewsHarvesterError`. -/
def isNewsHarvesterError : ExcClass → Bool
  | .newsFeedUnreachable | .corruptNewsPayload | .futureTimestamp => true
  | _ => false

/-- What is raised for an exception of another class. -/
def unreachable (feed : NewsFeedConfig) (e : String) : Exc :=
  ⟨.newsFeedUnreachable, "Failed to poll feed % at %: %", [.str feed.name, .str feed.url, .str e]⟩

/-- `poll_feed`. -/
def pollFeed (hv : NewsHarvester) (poll : Poll) : Except Exc (List (NewsArticle fns.toTextFns)) × NewsHarvester :=
  match poll.response with
  | .error e => (.error (unreachable poll.feed e), hv)
  | .ok (statusCode, text) =>
    if statusCode ≠ 200 then
      (.error ⟨.newsFeedUnreachable, "HTTP % returned for feed % at %",
        [.num statusCode, .str poll.feed.name, .str poll.feed.url]⟩, hv)
    else
      match parseFeedXml fns clockSkewTolerance text poll.feed.name poll.nowUtc with
      | .error exc => (.error (if isNewsHarvesterError exc.cls then exc else unreachable poll.feed exc.text), hv)
      | .ok articles =>
        match hv.filterAndStoreUnique articles with
        | (.ok unique, hv') => (.ok unique, hv')
        | (.error exc, hv') => (.error (if isNewsHarvesterError exc.cls then exc else unreachable poll.feed exc.text), hv')

/-- `poll_all`; a feed whose poll raises is logged and skipped. -/
def pollAll (hv : NewsHarvester) : List Poll → List (NewsArticle fns.toTextFns) × NewsHarvester
  | [] => ([], hv)
  | poll :: polls =>
    if poll.feed.enabled then
      match pollFeed fns clockSkewTolerance hv poll with
      | (.ok articles, hv') => (articles ++ (pollAll hv' polls).1, (pollAll hv' polls).2)
      | (.error _, hv') => pollAll hv' polls
    else pollAll hv polls

end NewsHarvester

end Quant
