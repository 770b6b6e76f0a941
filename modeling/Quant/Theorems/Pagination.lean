import Quant.Data.InstitutionalProviders
import Quant.Pylib.Cursor
import Quant.Pylib.Steps

/-!
# Pagination

The two paging loops over a finite set of pages follow the cursors of the pages. They end exactly where no page that is reached
leads back to itself, over another page in Polygon's case; the hub then returns a batch or reaches the Yahoo provider.
-/

namespace Quant

open Pylib

/-- A finite set of pages. Each has a list and a cursor, which is absent (left out, null or empty) or names a page of the set. -/
structure Site (κ ρ : Type) (key : String → κ) (first : κ) where
  pages : Finset κ
  results : κ → List ρ
  cursor : κ → JsonField String
  first_mem : first ∈ pages
  closed : ∀ k ∈ pages, ∀ s, (cursor k).cursor = some s → key s ∈ pages

namespace Site

variable {κ ρ : Type} {key : String → κ} {first : κ} (site : Site κ ρ key first)

/-- The page a page names. -/
def ref (k : κ) : Option κ := (site.cursor k).cursor.map key

/-- A paging loop has come to its end: it has requested every page that is reached from the first one, each of them once, and
nothing else, and passes on the results of all of them in that order. -/
def PagesThrough (loop : ℕ → Option (List κ × Except Exc (List ρ))) : Prop :=
  ∃ fuel requested, loop fuel = some (requested, .ok (requested.flatMap site.results)) ∧ requested.Nodup ∧
    ∀ k, k ∈ requested ↔ Reaches site.ref first k

theorem closed_ref {k k' : κ} (hk : k ∈ site.pages) (h : site.ref k = some k') : k' ∈ site.pages := by
  obtain ⟨s, hs, rfl⟩ := Option.map_eq_some_iff.1 h
  exact site.closed k hk s hs

/-- A loop that follows the pages of the site does so to the end where none leads back to itself. -/
theorem pagesThrough_iff {next : κ → Option κ} (hnext : ∀ k k', next k = some k' → site.ref k = some k')
    (hreaches : ∀ k, Reaches next first k ↔ Reaches site.ref first k) {loop : ℕ → Option (List κ × Except Exc (List ρ))}
    (hloop : ∀ fuel, loop fuel = (trail next fuel first).map fun l => (l, .ok (l.flatMap site.results))) :
    site.PagesThrough loop ↔ NoReturn next first := by
  constructor
  · rintro ⟨fuel, requested, hrun, -⟩
    rw [hloop, Option.map_eq_some_iff] at hrun
    obtain ⟨l, hl, -⟩ := hrun
    exact noReturn_of_trail hl
  · intro h
    obtain ⟨fuel, l, hl⟩ := exists_trail site.pages site.first_mem (fun k hk k' hk' => site.closed_ref hk (hnext k k' hk')) h
    refine ⟨fuel, l, ?_, nodup_trail hl, fun k => ?_⟩
    · rw [hloop, hl]
      rfl
    · rw [mem_trail hl, hreaches]

end Site

/-! ## The two loops -/

theorem cursor_ne {field : JsonField String} {s : String} (h : field.cursor = some s) : s ≠ "" := by
  simpa using (Option.filter_eq_some_iff.1 h).2

namespace PolygonHistoricalProvider

variable {first : String} (site : Site String (ProviderBar PyNumber) id first)

/-- A server with the pages of a site; it takes no notice of parameters. -/
def serve : PageClient Payload := fun request =>
  .ok { statusCode := 200, json := .ok { results := .value (site.results request.url), nextUrl := site.cursor request.url } }

theorem firstUrl_ne (query : BarQuery) : firstUrl query ≠ "" := by
  intro h
  have hlen := congrArg String.length h
  simp [firstUrl, baseUrl] at hlen

/-- On a site the loop follows the cursors to other pages. -/
theorem fetchPages_serve (self : PolygonHistoricalProvider) (fuel : ℕ) {url : String} (hurl : url ≠ "")
    (params : List (String × String))
    (requested : List String) (allResults : List (ProviderBar PyNumber)) :
    self.fetchPages (serve site) fuel url params requested allResults =
      (trail (nextOther site.ref) fuel url).map fun l => (requested ++ l, .ok (allResults ++ l.flatMap site.results)) := by
  induction fuel generalizing url params requested allResults with
  | zero => rfl
  | succ fuel ih =>
    have hread : (serve site ⟨url, if baseUrl.toList <+: url.toList then some params else none, self.headers⟩).bind readPage =
        .ok { results := .value (site.results url), nextUrl := site.cursor url } := rfl
    rw [fetchPages, if_neg hurl]
    simp only [hread, JsonField.items]
    cases hcursor : (site.cursor url).cursor with
    | none =>
      have hnext : nextOther site.ref url = none := by simp [nextOther, Site.ref, hcursor]
      rw [trail_of_none hnext]
      simp
    | some nextUrl =>
      have href : site.ref url = some nextUrl := by simp [Site.ref, hcursor]
      by_cases heq : nextUrl = url
      · have hnext : nextOther site.ref url = none := by simp [nextOther, href, heq]
        rw [trail_of_none hnext]
        simp [heq]
      · have hnext : nextOther site.ref url = some nextUrl := nextOther_eq_some_iff.2 ⟨href, heq⟩
        rw [trail_of_some hnext]
        simp only [if_neg heq]
        rw [ih (cursor_ne hcursor), Option.map_map]
        congr 1
        funext l
        simp [List.flatMap_cons]

end PolygonHistoricalProvider

namespace AlpacaHistoricalProvider

variable (site : Site (Option String) (ProviderBar TimeField) some none)

/-- What a server with the pages of a site answers, to each token and to none. -/
def page (query : BarQuery) (pageToken : Option String) : Payload where
  bars := .value [(query.symbol, .value (site.results pageToken))]
  nextPageToken := site.cursor pageToken

def serve (query : BarQuery) : PageClient Payload := fun request =>
  .ok { statusCode := 200, json := .ok (page site query (request.params.bind fun params => params.lookup "page_token")) }

theorem nextPageToken_page (query : BarQuery) (pageToken : Option String) :
    (page site query pageToken).nextPageToken = site.cursor pageToken := rfl

theorem symbolBars_page (query : BarQuery) (pageToken : Option String) :
    symbolBars query.symbol (page site query pageToken) = .ok (site.results pageToken) := by
  change Except.ok (((List.lookup query.symbol [(query.symbol, JsonField.value (site.results pageToken))]).getD
    (.value [])).items) = _
  rw [List.lookup_cons_self]
  rfl

theorem lookup_pageParams (query : BarQuery) (pageToken : Option String) :
    (pageParams query pageToken).lookup "page_token" = pageToken := by
  cases pageToken with
  | none => rfl
  | some token => rfl

/-- On a site the loop follows the cursors. -/
theorem fetchPages_serve (self : AlpacaHistoricalProvider) (query : BarQuery) (fuel : ℕ) (pageToken : Option String)
    (requested : List (Option String)) (allBars : List (ProviderBar TimeField)) :
    self.fetchPages (serve site query) query fuel pageToken requested allBars =
      (trail site.ref fuel pageToken).map fun l => (requested ++ l, .ok (allBars ++ l.flatMap site.results)) := by
  induction fuel generalizing pageToken requested allBars with
  | zero => rfl
  | succ fuel ih =>
    have hread : (serve site query ⟨self.baseUrl, some (pageParams query pageToken), self.headers⟩).bind readPage =
        .ok (page site query pageToken) := by
      rw [serve, Option.bind_some, lookup_pageParams]
      rfl
    rw [fetchPages]
    simp only [hread, symbolBars_page, nextPageToken_page]
    cases hcursor : (site.cursor pageToken).cursor with
    | none =>
      have hnext : site.ref pageToken = none := by simp [Site.ref, hcursor]
      rw [trail_of_none hnext]
      simp
    | some nextPageToken =>
      have hnext : site.ref pageToken = some (some nextPageToken) := by simp [Site.ref, hcursor]
      rw [trail_of_some hnext]
      dsimp only
      rw [ih, Option.map_map]
      congr 1
      funext l
      simp [List.flatMap_cons]

end AlpacaHistoricalProvider

/-! ## What the parsers raise

Nothing of it passes by `except Exception`. -/

theorem isException_of_toFloat {x : Option PyNumber} : ∀ exc, toFloat x = .error exc → exc.isException = true := by
  intro exc h
  unfold toFloat at h
  split at h
  · split at h
    · rw [← Except.error.inj h]
      rfl
    · cases h
  · rw [← Except.error.inj h]
    rfl

theorem isException_of_toInt {x : Option PyNumber} : ∀ exc, toInt x = .error exc → exc.isException = true := by
  intro exc h
  unfold toInt at h
  split at h <;> cases h <;> rfl

theorem isException_of_requireFinite {text : String} {x : PyFloat} :
    ∀ exc, requireFinite text x = .error exc → exc.isException = true := by
  intro exc h
  unfold requireFinite at h
  split at h <;> cases h
  rfl

theorem HistoricalBarFields.isException_of_create {f : HistoricalBarFields} :
    ∀ exc, f.create = .error exc → exc.isException = true := by
  intro exc h
  unfold create at h
  iterate 11
    rcases of_check_error h with rfl | ⟨_, h⟩
    · rfl
  cases h

theorem HistoricalBarBatch.isException_of_create {symbol : String} {resolution : Resolution} {bars : List HistoricalPriceBar} :
    ∀ exc, create symbol resolution bars = .error exc → exc.isException = true := by
  have hfault : ∀ (bars : List HistoricalPriceBar) (i : ℕ) (b : HistoricalPriceBar) (exc : Exc),
      monotonicFault symbol i b bars = some exc → exc.isException = true := by
    intro bars
    induction bars with
    | nil =>
      intro i b exc h
      cases h
    | cons b' bars ih =>
      intro i b exc h
      rw [monotonicFault] at h
      split at h
      · cases h
        rfl
      · exact ih (i + 1) b' exc h
  intro exc h
  cases bars with
  | nil =>
    rw [create] at h
    split at h <;> cases h <;> rfl
  | cons b bars =>
    simp only [create] at h
    split at h
    · cases h
      rfl
    · split at h
      · rename_i hexc
        rw [← Except.error.inj h]
        exact hfault bars 1 b _ hexc
      · cases h

namespace ProviderBar

variable {τ : Type} {symbol : String} {resolution : Resolution} {reader : Reader τ}

theorem isException_of_createBar {tsNs : ℤ} {q : Quote} :
    ∀ exc, createBar symbol resolution tsNs q = .error exc → exc.isException = true := by
  intro exc h
  unfold createBar at h
  rcases of_check_error h with rfl | ⟨_, h⟩
  · rfl
  rcases of_check_error h with rfl | ⟨_, h⟩
  · rfl
  refine error_of_bind (P := fun exc => exc.isException = true) isException_of_requireFinite (fun _ => ?_) exc h
  refine error_of_bind isException_of_requireFinite fun _ => error_of_bind isException_of_requireFinite fun _ => ?_
  refine error_of_bind isException_of_requireFinite fun _ => error_of_bind isException_of_requireFinite fun _ => ?_
  exact error_of_bind isException_of_requireFinite fun _ => HistoricalBarFields.isException_of_create

/-- A parser whose times raise nothing else raises only exceptions. -/
theorem isException_of_parseBars (hreader : ∀ t exc, reader.readTime t = some (.error exc) → exc.isException = true)
    {results : List (ProviderBar τ)} : ∀ exc, parseBars symbol resolution reader results = .error exc →
    exc.isException = true := by
  have hpass : ∀ r exc, parseBar symbol resolution reader r = .error exc → exc.isException = true := by
    intro r exc h
    unfold parseBar at h
    split at h
    · cases h
    · rename_i time htime
      refine error_of_bind (P := fun exc => exc.isException = true) ?_ (fun q exc h => ?_) exc h
      · exact error_of_bind isException_of_toFloat fun _ => error_of_bind isException_of_toFloat fun _ =>
          error_of_bind isException_of_toFloat fun _ => error_of_bind isException_of_toFloat fun _ =>
          error_of_bind isException_of_toFloat fun _ => error_of_map isException_of_toFloat
      · split at h
        · cases h
        · refine error_of_bind (P := fun exc => exc.isException = true) (fun exc h => hreader r.t exc ?_)
            (fun tsNs exc h => ?_) exc h
          · rw [htime, h]
          · unfold YahooFinanceHistoricalProvider.dropAnomaly at h
            split at h
            · cases h
            · rename_i exc' hbar
              split at h
              · cases h
              · rw [← Except.error.inj h]
                exact isException_of_createBar exc' hbar
  intro exc h
  unfold parseBars at h
  rcases of_check_error h with rfl | ⟨_, h⟩
  · rfl
  refine error_of_bind (P := fun exc => exc.isException = true) (fun exc h => ?_) (fun parsed exc h => ?_) exc h
  · obtain ⟨r, -, hr⟩ := exists_of_mapM_error h
    exact hpass r exc hr
  · rcases of_check_error h with rfl | ⟨_, h⟩
    · rfl
    · exact HistoricalBarBatch.isException_of_create exc h

end ProviderBar

theorem PolygonHistoricalProvider.isException_of_parse {symbol : String} {resolution : Resolution}
    {results : List (ProviderBar PyNumber)} :
    ∀ exc, parsePolygonResults symbol resolution results = .error exc → exc.isException = true := by
  refine ProviderBar.isException_of_parseBars fun t exc h => ?_
  unfold reader at h
  dsimp only at h
  split at h
  · cases h
  · split at h
    · cases h
    · exact error_of_map isException_of_toInt exc (Option.some_inj.1 h)

theorem AlpacaHistoricalProvider.isException_of_parse {isoNanoseconds : String → Option ℤ} {symbol : String}
    {resolution : Resolution}
    {barsList : List (ProviderBar TimeField)} :
    ∀ exc, parseAlpacaBars isoNanoseconds symbol resolution barsList = .error exc → exc.isException = true := by
  refine ProviderBar.isException_of_parseBars fun t exc h => ?_
  unfold reader at h
  dsimp only at h
  split at h
  · split at h
    · cases h
    · obtain ⟨ns, -, hns⟩ := Option.map_eq_some_iff.1 h
      cases hns
  · cases h

/-! ## The hub -/

theorem PolygonHistoricalProvider.exists_fetchHistoricalBars (self : PolygonHistoricalProvider) (query : BarQuery)
    (site : Site String (ProviderBar PyNumber) id (firstUrl query)) {fuel : ℕ} {l : List String}
    (h : trail (nextOther site.ref) fuel (firstUrl query) = some l) :
    ∃ r, self.fetchHistoricalBars (serve site) query fuel = some r ∧ ∀ exc, r = .error exc → exc.isException = true := by
  unfold fetchHistoricalBars
  split
  · rw [fetchPages_serve site self fuel (firstUrl_ne query), h]
    exact ⟨_, rfl, isException_of_parse⟩
  · refine ⟨_, rfl, fun exc hexc => ?_⟩
    rw [← Except.error.inj hexc]
    rfl

theorem AlpacaHistoricalProvider.exists_fetchHistoricalBars (self : AlpacaHistoricalProvider) (query : BarQuery)
    (isoNanoseconds : String → Option ℤ) (site : Site (Option String) (ProviderBar TimeField) some none) {fuel : ℕ}
    {l : List (Option String)} (h : trail site.ref fuel none = some l) :
    ∃ r, self.fetchHistoricalBars (serve site query) isoNanoseconds query fuel = some r ∧
      ∀ exc, r = .error exc → exc.isException = true := by
  unfold fetchHistoricalBars
  split
  · rw [fetchPages_serve, h]
    exact ⟨_, rfl, isException_of_parse⟩
  · refine ⟨_, rfl, fun exc hexc => ?_⟩
    rw [← Except.error.inj hexc]
    rfl

namespace HistoricalDataHub

/-- The hub has reached the Yahoo provider, whose answer is its own, or returned a batch. -/
def Answers (yahoo : Except Exc HistoricalBarBatch) (outcome : Option (Except Exc HistoricalBarBatch)) : Prop :=
  outcome = some yahoo ∨ ∃ batch, outcome = some (.ok batch)

theorem Answers.orElse {yahoo : Except Exc HistoricalBarBatch} {attempt rest : Option (Except Exc HistoricalBarBatch)}
    (hattempt : ∃ r, attempt = some r ∧ ∀ exc, r = .error exc → exc.isException = true) (hrest : Answers yahoo rest) :
    Answers yahoo (orElse attempt rest) := by
  obtain ⟨r, rfl, hr⟩ := hattempt
  cases r with
  | ok batch => exact .inr ⟨batch, rfl⟩
  | error exc =>
    rw [HistoricalDataHub.orElse, if_pos (hr exc rfl)]
    exact hrest

/-- Where both loops come to an end, the hub answers. -/
theorem answers_fetchBars (hub : HistoricalDataHub) (services : Services) (query : BarQuery) (fuel : ℕ)
    (hpolygon : ∃ r, hub.polygon.fetchHistoricalBars services.polygonClient query fuel = some r ∧
      ∀ exc, r = .error exc → exc.isException = true)
    (halpaca : ∃ r, hub.alpaca.fetchHistoricalBars services.alpacaClient services.isoNanoseconds query fuel = some r ∧
      ∀ exc, r = .error exc → exc.isException = true) :
    Answers services.yahoo (hub.fetchBars services query fuel) := by
  have hyahoo : Answers services.yahoo (some services.yahoo) := .inl rfl
  unfold fetchBars
  dsimp only
  split
  · refine Answers.orElse hpolygon ?_
    split
    · exact Answers.orElse halpaca hyahoo
    · exact hyahoo
  · split
    · exact Answers.orElse halpaca hyahoo
    · exact hyahoo

/-- A loop of Polygon's that never ends keeps a hub that asks Polygon from its fallback. -/
theorem fetchBars_eq_none (hub : HistoricalDataHub) (services : Services) (query : BarQuery) (fuel : ℕ)
    (hasks : hub.preferredProvider = "polygon" ∨ hub.preferredProvider = "auto") (hconfigured : hub.polygon.isConfigured = true)
    (hloop : hub.polygon.fetchPages services.polygonClient fuel (PolygonHistoricalProvider.firstUrl query)
      PolygonHistoricalProvider.firstParams [] [] = none) :
    hub.fetchBars services query fuel = none := by
  unfold fetchBars
  dsimp only
  rw [if_pos ⟨hasks, hconfigured⟩, PolygonHistoricalProvider.fetchHistoricalBars, if_pos hconfigured, hloop]
  rfl

end HistoricalDataHub

/-- What a hub meets where both services serve the pages of a site. -/
def siteServices (query : BarQuery)
    (polygonSite : Site String (ProviderBar PyNumber) id (PolygonHistoricalProvider.firstUrl query))
    (alpacaSite : Site (Option String) (ProviderBar AlpacaHistoricalProvider.TimeField) some none)
    (isoNanoseconds : String → Option ℤ)
    (yahoo : Except Exc HistoricalBarBatch) : Services where
  polygonClient := PolygonHistoricalProvider.serve polygonSite
  alpacaClient := AlpacaHistoricalProvider.serve alpacaSite query
  isoNanoseconds := isoNanoseconds
  yahoo := yahoo

/-- Both loops page through their sites, and the hub answers, exactly where no page that is reached leads back to itself; a page
of Polygon's may name itself. -/
theorem pagesThrough_iff_noReturn (hub : HistoricalDataHub) (query : BarQuery)
    (polygonSite : Site String (ProviderBar PyNumber) id (PolygonHistoricalProvider.firstUrl query))
    (alpacaSite : Site (Option String) (ProviderBar AlpacaHistoricalProvider.TimeField) some none)
    (isoNanoseconds : String → Option ℤ) (yahoo : Except Exc HistoricalBarBatch) :
    let services := siteServices query polygonSite alpacaSite isoNanoseconds yahoo
    (polygonSite.PagesThrough (fun fuel => hub.polygon.fetchPages services.polygonClient fuel
      (PolygonHistoricalProvider.firstUrl query)
        PolygonHistoricalProvider.firstParams [] []) ∧
      alpacaSite.PagesThrough (fun fuel => hub.alpaca.fetchPages services.alpacaClient query fuel none [] []) ∧
      ∃ fuel, HistoricalDataHub.Answers yahoo (hub.fetchBars services query fuel)) ↔
    NoReturn (nextOther polygonSite.ref) (PolygonHistoricalProvider.firstUrl query) ∧ NoReturn alpacaSite.ref none := by
  intro services
  have hpolygon := polygonSite.pagesThrough_iff (fun _ _ h => (nextOther_eq_some_iff.1 h).1) (fun _ => reaches_nextOther_iff)
    (PolygonHistoricalProvider.fetchPages_serve polygonSite hub.polygon · (PolygonHistoricalProvider.firstUrl_ne query)
      PolygonHistoricalProvider.firstParams [] [])
  have halpaca := alpacaSite.pagesThrough_iff (fun _ _ h => h) (fun _ => Iff.rfl)
    (AlpacaHistoricalProvider.fetchPages_serve alpacaSite hub.alpaca query · none [] [])
  constructor
  · rintro ⟨h, h', -⟩
    exact ⟨hpolygon.1 h, halpaca.1 h'⟩
  · rintro ⟨h, h'⟩
    refine ⟨hpolygon.2 h, halpaca.2 h', ?_⟩
    obtain ⟨fuel, l, hl⟩ := exists_trail polygonSite.pages polygonSite.first_mem
      (fun k hk k' hk' => polygonSite.closed_ref hk (nextOther_eq_some_iff.1 hk').1) h
    obtain ⟨fuel', l', hl'⟩ := exists_trail alpacaSite.pages alpacaSite.first_mem
      (fun k hk k' hk' => alpacaSite.closed_ref hk hk') h'
    refine ⟨max fuel fuel', hub.answers_fetchBars services query (max fuel fuel') ?_ ?_⟩
    · exact hub.polygon.exists_fetchHistoricalBars query polygonSite (trail_mono hl (le_max_left _ _))
    · exact hub.alpaca.exists_fetchHistoricalBars query isoNanoseconds alpacaSite (trail_mono hl' (le_max_right _ _))

/-! ### Two pages that name each other -/

/-- A hub that has a key for Polygon. -/
def polygonHub : HistoricalDataHub := ⟨⟨"key"⟩, ⟨"", "", ""⟩, "auto"⟩

def appleQuery : BarQuery where
  symbol := "AAPL"
  fromStr := "2024-01-01"
  toStr := "2024-06-30"
  startStr := "2024-01-01T00:00:00+00:00"
  endStr := "2024-06-30T00:00:00+00:00"

/-- A second page that names the first one again. -/
def returningSite (first : String) : Site String (ProviderBar PyNumber) id first where
  pages := {first, first ++ "?cursor=2"}
  results _ := []
  cursor url := .value (if url = first then first ++ "?cursor=2" else first)
  first_mem := Finset.mem_insert_self first _
  closed := by
    intro url _ s hs
    have hcursor := (Option.filter_eq_some_iff.1 hs).1
    rw [← Option.some_inj.1 hcursor, Finset.mem_insert, Finset.mem_singleton]
    by_cases h : url = first
    · exact .inr (if_pos h)
    · exact .inl (if_neg h)

/-- A site of one page. -/
def emptySite : Site (Option String) (ProviderBar AlpacaHistoricalProvider.TimeField) some none where
  pages := {none}
  results _ := []
  cursor _ := .missing
  first_mem := Finset.mem_singleton_self none
  closed := by
    intro k _ s hs
    cases hs

theorem returningSite_returns {first : String} (hfirst : first ≠ "") :
    ¬ NoReturn (nextOther (returningSite first).ref) first := by
  have hne : first ++ "?cursor=2" ≠ first := by
    intro h
    have hlen := congrArg String.length h
    rw [String.length_append, Nat.add_eq_left] at hlen
    exact absurd hlen (by decide)
  have hne' : first ++ "?cursor=2" ≠ "" := append_ne_empty hfirst
  have hthere : nextOther (returningSite first).ref first = some (first ++ "?cursor=2") := by
    rw [nextOther_eq_some_iff]
    simp [Site.ref, returningSite, JsonField.cursor, JsonField.get, hne', hne]
  have hback : nextOther (returningSite first).ref (first ++ "?cursor=2") = some first := by
    rw [nextOther_eq_some_iff]
    simp [Site.ref, returningSite, JsonField.cursor, JsonField.get, hne, hfirst, hne.symm]
  intro h
  exact h first _ Relation.ReflTransGen.refl hthere (Relation.ReflTransGen.single hback)

/-- The loop goes round for ever, and the hub does not get to its fallback. -/
theorem not_answers_returningSite :
    let site := returningSite (PolygonHistoricalProvider.firstUrl appleQuery)
    let services := siteServices appleQuery site emptySite (fun _ => none) (.error ⟨.yahooProvider, "", []⟩)
    ¬ site.PagesThrough (fun fuel => polygonHub.polygon.fetchPages services.polygonClient fuel
        (PolygonHistoricalProvider.firstUrl appleQuery) PolygonHistoricalProvider.firstParams [] []) ∧
      ∀ fuel, ¬ HistoricalDataHub.Answers services.yahoo (polygonHub.fetchBars services appleQuery fuel) := by
  intro site services
  have hnone : ∀ fuel, polygonHub.polygon.fetchPages services.polygonClient fuel (PolygonHistoricalProvider.firstUrl appleQuery)
      PolygonHistoricalProvider.firstParams [] [] = none := by
    intro fuel
    have hrun := PolygonHistoricalProvider.fetchPages_serve site polygonHub.polygon fuel
      (PolygonHistoricalProvider.firstUrl_ne appleQuery)
      PolygonHistoricalProvider.firstParams [] []
    rwa [trail_eq_none (returningSite_returns (PolygonHistoricalProvider.firstUrl_ne appleQuery))] at hrun
  constructor
  · rintro ⟨fuel, requested, hrun, -⟩
    cases (hnone fuel).symm.trans hrun
  · intro fuel hanswers
    have hconfigured : polygonHub.polygon.isConfigured = true := by decide
    rw [polygonHub.fetchBars_eq_none services appleQuery fuel (.inr rfl) hconfigured (hnone fuel)] at hanswers
    rcases hanswers with h | ⟨batch, h⟩ <;> cases h

end Quant
