import ResidencePortal.Proofs.Html.LayoutText
import ResidencePortal.Proofs.Registration
import ResidencePortal.Proofs.Web.Denial

/-!
# What a visitor gets who is admitted

A page and its data stand behind the guard of the page. What the visitor then gets is looked up by the
path of the request: the page by the whole path without the slashes in front, the collection by the last
segment. Both are those of the page whose guard admitted the visitor exactly if the path leads back to
its identifier. A page at `/id` is such a page; a page at another path need not be.

**Results.**
* `Collection.forPage?_inj`: no two pages share a collection.
* `pageDocument_shows`: the document of a page is always written, and holds its title and identifier.
* `reply_of_page`, `reply_of_pageData`: the whole reply to a visitor who is admitted.
* `content_follows_path`: when the content is that of the page whose guard admitted the visitor.
* `plain_page_content`: for a page at `/id` it always is.
* `misplaced_page_shows_accounts`: a guard for managers in front of the accounts, which are not open to
  them.
-/

namespace ResidencePortal

open Text

/-! ## Collections of pages -/

namespace Backend

/-- The pages with a collection, each with the path of its collection. -/
def Collection.ofPages : List (String × String) :=
  [("tai-khoan", "/tai-khoan"), ("khoan-thu", "/khoan-thu"), ("dot-thu", "/dot-thu"),
    ("phieu-thu", "/phieu-thu"), ("phuong-tien", "/phuong-tien"), ("can-ho", "/ho-gia-dinh"),
    ("danh-sach-dan-cu", "/nhan-khau")]

theorem Collection.mem_ofPages {page : String} {k : Collection} (h : forPage? page = some k) :
    (page, k.path) ∈ ofPages := by
  unfold forPage? at h
  split at h
  · rename_i hpage
    cases h
    simp only [List.mem_cons, List.not_mem_nil, or_false] at hpage
    rcases hpage with rfl | rfl | rfl | rfl | rfl <;> decide
  · split at h
    · rename_i hpage
      cases h
      rw [hpage]
      decide
    · split at h
      · rename_i hpage
        cases h
        rw [hpage]
        decide
      · cases h

/-- No two pages share a collection. -/
theorem Collection.forPage?_inj {page other : String} (h : (forPage? page).isSome = true)
    (heq : forPage? other = forPage? page) : other = page := by
  obtain ⟨k, hk⟩ := Option.isSome_iff_exists.1 h
  have hpaths : ∀ a ∈ ofPages, ∀ b ∈ ofPages, a.2 = b.2 → a.1 = b.1 := by decide
  exact hpaths _ (mem_ofPages (heq.trans hk)) _ (mem_ofPages hk) rfl

end Backend

namespace Web

open Session
open Backend (Collection)

/-! ## Identifiers in paths -/

theorem dropLeading_slash {id : String} (h : '/' ∉ id.toList) : dropLeading '/' ("/" ++ id) = id := by
  have hdrop : id.toList.dropWhile (· == '/') = id.toList := by
    cases hid : id.toList with
    | nil => rfl
    | cons c cs =>
      have hc : c ≠ '/' := fun e => h (by simp [hid, e])
      simp [hc]
  simp [dropLeading, hdrop]

theorem afterLast_slash (front : String) {id : String} (h : '/' ∉ id.toList) :
    afterLast '/' (front ++ "/" ++ id) = id := by
  have hall : ∀ c ∈ id.toList.reverse, (c != '/') = true := by
    intro c hc
    simpa using fun e : c = '/' => h (e ▸ List.mem_reverse.1 hc)
  simp [afterLast, List.takeWhile_append_of_pos hall]

/-! ## The document of a page -/

/-- The part of a page's document that is its own: its title, its identifier and the backend's address. -/
def pageBlock (config : Config) (page : Page) : String :=
  "\n<h1 id=\"page-title\">" ++ Html.escape page.title ++
    "</h1>\n<div id=\"page-root\" data-page=\"" ++ Html.escape page.id ++
    "\" data-api=\"" ++ Html.escape config.apiBaseUrl ++ "\"></div>\n"

/-- What the document of a page is written from. -/
def documentContext (site : Site) (config : Config) (access : Access) (session : CookieStore)
    (page : Page) : Html.Context :=
  ("page_id", .str page.id) :: pageContext site config access session page.title

theorem forLayout_pageContext (site : Site) (config : Config) (access : Access) (session : CookieStore)
    (title : String) : (pageContext site config access session title).ForLayout :=
  (Html.forLayout_accessContext ..).cons (by decide) _

theorem forLayout_documentContext (site : Site) (config : Config) (access : Access)
    (session : CookieStore) (page : Page) :
    (documentContext site config access session page).ForLayout :=
  (forLayout_pageContext site config access session page.title).cons (by decide) _

theorem eval_pageContent (site : Site) (config : Config) (access : Access) (session : CookieStore)
    (page : Page) :
    Html.pageContent.eval (documentContext site config access session page) =
      some (pageBlock config page) := by
  have hfind : ∀ e ∈ [("page_title", page.title), ("page_id", page.id),
      ("api_base_url", config.apiBaseUrl)],
      (documentContext site config access session page).find? [e.1] = some (.str e.2) := by
    simp [documentContext, pageContext, Html.accessContext, Html.Context.find?, Html.member?]
  simp only [List.mem_cons, List.not_mem_nil, or_false, forall_eq_or_imp, forall_eq] at hfind
  obtain ⟨htitle, hid, hurl⟩ := hfind
  simp only [Html.pageContent, Html.Template.ofParts, Html.Template.eval, Html.Template.lines,
    Html.Template.put, List.foldr, Html.Slot.fill, Html.slotText, htitle, hid, hurl, Option.map_some,
    Option.bind_eq_bind, Option.bind_some, joinWith, String.reduceAppend]
  -- The literals are joined already; only the brackets differ.
  rw [Option.some_inj]
  unfold pageBlock
  simp only [String.append_assoc]

/-- The document of a page is always written, and the part that is its own stands in it. -/
theorem pageDocument_shows (site : Site) (config : Config) (access : Access) (session : CookieStore)
    (page : Page) :
    ∃ front back, Html.render site.year .page (documentContext site config access session page) =
      ⟨200, front ++ pageBlock config page ++ back⟩ := by
  have hcontent := eval_pageContent site config access session page
  have hlayout := Html.isSome_eval_layout
    (forLayout_documentContext site config access session page)
    (Option.isSome_iff_exists.2 ⟨_, hcontent⟩)
  obtain ⟨body, hbody⟩ := Option.isSome_iff_exists.1 hlayout
  obtain ⟨inner, front, back, hinner, hparts⟩ := Html.eval_layout hbody
  rw [hcontent, Option.some_inj] at hinner
  refine ⟨front, back, ?_⟩
  rw [Html.render, Html.Document.template, hbody, hinner, ← hparts]

/-! ## Behind the guard -/

/-- The page that is shown for a request. -/
def shownPage? (site : Site) (request : Request) : Option Page :=
  site.registry.find? (dropLeading '/' request.path)

/-- The collection that is listed for a request. -/
def listedCollection? (request : Request) : Option Collection :=
  Collection.forPage? (afterLast '/' request.path)

/-- The client of a visitor. -/
def clientOf (config : Config) (session : CookieStore) : Backend.Client :=
  (Backend.Client.ofUrl config.apiBaseUrl).withBearer (Store.visitor session none).bearer?

/-- A GET request meets the guard of a page, which admits the visitor. -/
structure Admitted (site : Site) (cookie : Cookie) (request : Request) (page : Page) (route : Route)
    (access : Access) : Prop where
  registered : page ∈ site.registry.pages
  mounted : route ∈ Route.ofPage page
  taken : findRoute? site.routes request = some route
  isGet : request.method = "GET"
  admits : Guard.decide (Store.visitor cookie.session request.loaded) page.allowed site.destinations =
    .allowed access

variable {site : Site} {config : Config} {cookie : Cookie} {request : Request} {page : Page}
  {route : Route} {access : Access}

/-- A route of a page stands for all methods behind the guard of the page. -/
theorem guard_of_mem_ofPage (h : route ∈ Route.ofPage page) :
    route.guard = some page.allowed ∧ route.method = none := by
  rcases mem_ofPage h with rfl | ⟨rfl, -⟩ <;> exact ⟨rfl, rfl⟩

/-- The data of a page is there only if the backend has a collection for the page. -/
theorem isSome_forPage?_of_mounted (h : route ∈ Route.ofPage page)
    (hhandler : route.handler = .pageData) : (Collection.forPage? page.id).isSome = true := by
  rcases mem_ofPage h with rfl | ⟨-, hcollection⟩
  · cases hhandler
  · exact hcollection

/-- A visitor who is admitted gets what the handler behind the guard gives. -/
theorem serve_of_admitted (h : Admitted site cookie request page route access)
    (line : Backend.Line) :
    serve site.routes site request cookie.session line =
      route.handler.run site request (some access) cookie.session line := by
  obtain ⟨hguard, hmethod⟩ := guard_of_mem_ofPage h.mounted
  have hadmits := h.admits
  unfold Site.destinations at hadmits
  simp [serve, h.taken, Route.serve, hguard, hadmits, Route.handle, hmethod, h.isGet]

/-- **A page.** The reply shows the page of the path, or says that there is none. -/
theorem reply_of_page (h : Admitted site cookie request page route access)
    (hshared : site.shared = some config) (hhandler : route.handler = .page) (line : Backend.Line) :
    (∀ shown, shownPage? site request = some shown →
      ∃ front back, reply site.routes site cookie request line =
        ⟨⟨200, none, .html (front ++ pageBlock config shown ++ back)⟩, none, cookie.session, line⟩) ∧
    (shownPage? site request = none → reply site.routes site cookie request line =
      ⟨.document (Html.notFound site.year), none, cookie.session, line⟩) := by
  have hreply : reply site.routes site cookie request line =
      ⟨pageResponse site config access cookie.session request.path, none, cookie.session, line⟩ := by
    rw [reply, serve_of_admitted h, hhandler]
    simp only [Handler.run, hshared, settle_untouched]
  rw [hreply]
  refine ⟨fun shown hshown => ?_, fun hshown => ?_⟩ <;> unfold shownPage? at hshown
  · obtain ⟨front, back, hdocument⟩ :=
      pageDocument_shows site config access cookie.session shown
    unfold documentContext at hdocument
    exact ⟨front, back, by rw [pageResponse, hshown]; simp only [hdocument, Response.document]⟩
  · rw [pageResponse, hshown]

/-- **The data of a page.** The collection of the path is asked for by one request, or nothing is sent. -/
theorem reply_of_pageData (h : Admitted site cookie request page route access)
    (hshared : site.shared = some config) (hhandler : route.handler = .pageData)
    (line : Backend.Line) :
    (∀ collection, listedCollection? request = some collection →
      ∃ result line', (collection.list (clientOf config cookie.session)).run line = (result, line') ∧
        line'.sent = line.sent ++ [⟨.get, dropTrailing '/' config.apiBaseUrl ++ collection.path, none,
          (Store.visitor cookie.session none).bearer?⟩] ∧
        reply site.routes site cookie request line =
          ⟨dataResponse result, none, cookie.session, line'⟩) ∧
    (listedCollection? request = none → reply site.routes site cookie request line =
      ⟨.fault .notFound, none, cookie.session, line⟩) := by
  rw [reply, serve_of_admitted h, hhandler]
  refine ⟨fun collection hlisted => ?_, fun hlisted => ?_⟩ <;> unfold listedCollection? at hlisted
  · have hsent := Backend.Call.sent_run (collection.list (clientOf config cookie.session)) line
    cases hrun : (collection.list (clientOf config cookie.session)).run line with
    | mk result line' =>
      rw [hrun] at hsent
      refine ⟨result, line', rfl, hsent, ?_⟩
      unfold clientOf at hrun
      simp only [Handler.run, hshared, hlisted, hrun, settle_untouched]
  · simp only [Handler.run, hshared, hlisted, settle_untouched]

/-! ## Guard and content -/

/-- **Guard and content.** The visitor was admitted by the guard of a page. At the page, the reply shows
the page that the path names, which is the page of the guard exactly if the path without its slashes in
front is its identifier. At the data, one request goes to the collection that the last segment of the path
names, which is the collection of the page exactly if the segment is its identifier. Where the path names
nothing, nothing is shown or sent. -/
theorem content_follows_path (site : Site) (config : Config) (cookie : Cookie) (request : Request)
    (page : Page) (route : Route) (access : Access) (line : Backend.Line)
    (hshared : site.shared = some config) (hdistinct : site.registry.Distinct)
    (h : Admitted site cookie request page route access) :
    (route.handler = .page →
      (shownPage? site request = some page ↔ dropLeading '/' request.path = page.id) ∧
      (∀ shown, shownPage? site request = some shown →
        ∃ front back, reply site.routes site cookie request line =
          ⟨⟨200, none, .html (front ++ pageBlock config shown ++ back)⟩, none, cookie.session, line⟩) ∧
      (shownPage? site request = none → reply site.routes site cookie request line =
        ⟨.document (Html.notFound site.year), none, cookie.session, line⟩)) ∧
    (route.handler = .pageData →
      (listedCollection? request = Collection.forPage? page.id ↔
        afterLast '/' request.path = page.id) ∧
      (∀ collection, listedCollection? request = some collection →
        ∃ result line', (collection.list (clientOf config cookie.session)).run line = (result, line') ∧
          line'.sent = line.sent ++ [⟨.get, dropTrailing '/' config.apiBaseUrl ++ collection.path, none,
            (Store.visitor cookie.session none).bearer?⟩] ∧
          reply site.routes site cookie request line =
            ⟨dataResponse result, none, cookie.session, line'⟩) ∧
      (listedCollection? request = none → reply site.routes site cookie request line =
        ⟨.fault .notFound, none, cookie.session, line⟩)) := by
  refine ⟨fun hhandler => ?_, fun hhandler => ?_⟩
  · exact ⟨hdistinct.find?_eq_some_iff h.registered, reply_of_page h hshared hhandler line⟩
  · refine ⟨⟨fun hlisted => ?_, fun hid => ?_⟩, reply_of_pageData h hshared hhandler line⟩
    · -- The page has a collection, or its data would not be mounted; so equal collections are one page's.
      exact Collection.forPage?_inj (isSome_forPage?_of_mounted h.mounted hhandler) hlisted
    · rw [listedCollection?, hid]

/-- The cookie of a manager. -/
def managerCookie : Cookie := some (.ofList [("role", .str "BanQuanLy")])

/-- The built-in page of households. -/
def householdsPage : Page := Page.grouped "can-ho" "Hộ gia đình" "Dân cư" .roomMenu "home" 10

theorem distinct_siteOf (config : Config) (pages : List Page) :
    (siteOf config pages).registry.Distinct :=
  Registry.distinct_empty.registerAll pages

/-- A manager who asks for the households gets the households. -/
theorem households_shown_to_manager :
    ∃ front back, reply (siteOf .standard Page.standard).routes (siteOf .standard Page.standard)
        managerCookie householdsRequest (.ofDeliveries []) =
      ⟨⟨200, none, .html (front ++ pageBlock .standard householdsPage ++ back)⟩, none,
        managerCookie.session, .ofDeliveries []⟩ := by
  have htaken : findRoute? (siteOf .standard Page.standard).routes householdsRequest =
      some (Route.resource householdsPage.path (some householdsPage.allowed) .page) := by
    simp only [findRoute?, decoded_householdsRequest]
    rfl
  have hadmitted : Admitted (siteOf .standard Page.standard) managerCookie householdsRequest
      householdsPage (Route.resource householdsPage.path (some householdsPage.allowed) .page)
      (.ofRole .management) :=
    ⟨by decide +kernel, List.mem_cons_self, htaken, rfl, by decide +kernel⟩
  obtain ⟨hown, hshows, -⟩ :=
    (content_follows_path (siteOf .standard Page.standard) .standard managerCookie householdsRequest
      householdsPage _ (.ofRole .management) (.ofDeliveries []) rfl (distinct_siteOf _ _)
      hadmitted).1 rfl
  exact hshows householdsPage (hown.2 (by decide +kernel))

/-- The page of households at the path of the accounts. -/
def misplacedPage : Page := { Page.ofId "can-ho" "Hộ gia đình" with path := "/tai-khoan" }

/-- The page of accounts, which is for administrators, at a path of its own. -/
def movedPage : Page := { Page.ofId "tai-khoan" "Tài khoản" with path := "/accounts" }

/-- The site with these two pages. -/
def misplacedSite : Site := siteOf .standard [misplacedPage, movedPage]

/-- A request for the page of households where it is misplaced. -/
def misplacedRequest : Request := ⟨"GET", "/tai-khoan", none, "", none⟩

/-- A request for the data of the households where they are misplaced. -/
def misplacedDataRequest : Request := ⟨"GET", "/api/data/tai-khoan", none, "", none⟩

theorem decoded_misplacedRequest : Path.decoded misplacedRequest.path = "/tai-khoan" :=
  Request.decoded_path (by decide +kernel) (by decide +kernel)

theorem decoded_misplacedDataRequest :
    Path.decoded misplacedDataRequest.path = "/api/data/tai-khoan" :=
  Request.decoded_path (by decide +kernel) (by decide +kernel)

/-- A manager is admitted by the guard of the households and gets the accounts: the page is that of the
accounts, which is not open to managers, and the accounts are listed in place of the households. -/
theorem misplaced_page_shows_accounts :
    Admitted misplacedSite managerCookie misplacedRequest misplacedPage
        (.resource misplacedPage.path (some misplacedPage.allowed) .page) (.ofRole .management) ∧
      (∃ front back, reply misplacedSite.routes misplacedSite managerCookie misplacedRequest
          (.ofDeliveries []) =
        ⟨⟨200, none, .html (front ++ pageBlock .standard movedPage ++ back)⟩, none,
          managerCookie.session, .ofDeliveries []⟩) ∧
      movedPage.allowed.admits .management = false ∧
      Admitted misplacedSite managerCookie misplacedDataRequest misplacedPage
        (.resource ("/api/data" ++ misplacedPage.path) (some misplacedPage.allowed) .pageData)
        (.ofRole .management) ∧
      (reply misplacedSite.routes misplacedSite managerCookie misplacedDataRequest
        (.ofDeliveries [])).line.sent.map Backend.Request.url =
        ["http://localhost:7070/api/tai-khoan"] ∧
      Collection.forPage? misplacedPage.id = some ⟨"/ho-gia-dinh"⟩ := by
  have htaken : findRoute? misplacedSite.routes misplacedRequest =
      some (.resource misplacedPage.path (some misplacedPage.allowed) .page) := by
    simp only [findRoute?, decoded_misplacedRequest]
    rfl
  have hadmitted : Admitted misplacedSite managerCookie misplacedRequest misplacedPage
      (.resource misplacedPage.path (some misplacedPage.allowed) .page) (.ofRole .management) :=
    ⟨by decide +kernel, List.mem_cons_self, htaken, rfl, by decide +kernel⟩
  have htakenData : findRoute? misplacedSite.routes misplacedDataRequest = some
      (.resource ("/api/data" ++ misplacedPage.path) (some misplacedPage.allowed) .pageData) := by
    simp only [findRoute?, decoded_misplacedDataRequest]
    rfl
  have hadmittedData : Admitted misplacedSite managerCookie misplacedDataRequest misplacedPage
      (.resource ("/api/data" ++ misplacedPage.path) (some misplacedPage.allowed) .pageData)
      (.ofRole .management) :=
    ⟨by decide +kernel, List.mem_cons_of_mem _ List.mem_cons_self, htakenData, rfl,
      by decide +kernel⟩
  obtain ⟨result, line, -, hsent, hreply⟩ :=
    (reply_of_pageData hadmittedData rfl rfl (.ofDeliveries [])).1 ⟨"/tai-khoan"⟩ (by decide +kernel)
  refine ⟨hadmitted, (reply_of_page hadmitted rfl rfl _).1 movedPage (by decide +kernel),
    by decide +kernel, hadmittedData, ?_, by decide +kernel⟩
  rw [hreply]
  simp only [hsent]
  decide +kernel

/-- **Pages at their identifier.** At the path of a page whose path is a slash and its identifier, the
page itself is shown, and at the path of its data its own collection is listed. -/
theorem plain_page_content (hshared : site.shared = some config)
    (hdistinct : site.registry.Distinct) (h : Admitted site cookie request page route access)
    (hplain : page.path = "/" ++ page.id) (hid : '/' ∉ page.id.toList) (line : Backend.Line) :
    (route.handler = .page → request.path = page.path →
      ∃ front back, reply site.routes site cookie request line =
        ⟨⟨200, none, .html (front ++ pageBlock config page ++ back)⟩, none, cookie.session, line⟩) ∧
    (route.handler = .pageData → request.path = "/api/data" ++ page.path →
      ∃ collection result line', Collection.forPage? page.id = some collection ∧
        (collection.list (clientOf config cookie.session)).run line = (result, line') ∧
        reply site.routes site cookie request line =
          ⟨dataResponse result, none, cookie.session, line'⟩) := by
  refine ⟨fun hhandler hpath => ?_, fun hhandler hpath => ?_⟩
  · refine (reply_of_page h hshared hhandler line).1 page ?_
    rw [shownPage?, hdistinct.find?_eq_some_iff h.registered, hpath, hplain, dropLeading_slash hid]
  · obtain ⟨collection, hcollection⟩ :=
      Option.isSome_iff_exists.1 (isSome_forPage?_of_mounted h.mounted hhandler)
    have hlisted : listedCollection? request = some collection := by
      rw [listedCollection?, hpath, hplain, ← String.append_assoc, afterLast_slash _ hid, hcollection]
    obtain ⟨result, line', hrun, -, hreply⟩ :=
      (reply_of_pageData h hshared hhandler line).1 collection hlisted
    exact ⟨collection, result, line', hcollection, hrun, hreply⟩

/-- The built-in pages are at their identifiers. -/
example : ∀ page ∈ Page.standard, page.path = "/" ++ page.id ∧ '/' ∉ page.id.toList := by decide

end Web

end ResidencePortal
