import ResidencePortal.Proofs.Web.PlainPath
import ResidencePortal.Proofs.Web.SessionEvent

/-!
# What a visitor learns who is turned away

A request to a guarded route whose guard does not admit the visitor ends at the guard. The reply tells
the reason and where to go, and nothing else: two sites with the same configuration answer alike,
whatever pages they have and whatever the backend would have said.

**Results.**
* `decide_eq_denied`: the reason determines the denial.
* `reply_of_denied`: the whole reply to a visitor who is turned away, as a function of the reason and the
  destinations.
* `reply_mapHandlers`: behind a guard that denies, it does not matter which handler stands there.
* `denial_tells_reason_only`: two runs that are denied for the same reason have the same response, and
  nothing else happens in either.
* `unwritable_loginPath`: a login path that no header can carry.
-/

namespace ResidencePortal

namespace Guard

/-- The denial of a verdict. -/
def Verdict.denial? : Verdict → Option Denial
  | .allowed _ => none
  | .denied denial => some denial

/-- The denial for a reason. -/
def denialFor (places : Destinations) : Reason → Denial
  | .noSession => ⟨.noSession, places.login, none⟩
  | .insufficientPrivilege => ⟨.insufficientPrivilege, places.home, some (.warning noPermission)⟩

/-- The reason determines the denial: neither the role nor the allow list shows in it. -/
theorem decide_eq_denied {visitor : Session.Visitor} {allow : AllowList} {places : Destinations}
    {denial : Denial} (h : decide visitor allow places = .denied denial) :
    denial = denialFor places denial.reason := by
  unfold decide judge at h
  split at h
  · cases h; rfl
  · split at h
    · cases h
    · cases h; rfl

end Guard

namespace Web

open Session

/-! ## One run -/

/-- Where the guards of a site send visitors. -/
def Site.destinations (site : Site) : Destinations :=
  (site.shared.map Config.destinations).getD .standard

/-- The routes of a site. -/
def Site.routes (site : Site) : List Route := Route.portal site.config site.registry

/-- The guard that a request meets. -/
def guardOf? (routes : List Route) (request : Request) : Option AllowList :=
  (findRoute? routes request).bind Route.guard

/-- How a visitor is turned away by the guard that a request meets, if so. -/
def denialOf? (site : Site) (cookie : Cookie) (request : Request) : Option Guard.Denial :=
  (guardOf? site.routes request).bind fun allow =>
    (Guard.decide (Store.visitor cookie.session request.loaded) allow site.destinations).denial?

theorem denialOf?_eq_some {site : Site} {cookie : Cookie} {request : Request} {denial : Guard.Denial}
    (h : denialOf? site cookie request = some denial) :
    ∃ route allow, findRoute? site.routes request = some route ∧ route.guard = some allow ∧
      Guard.decide (Store.visitor cookie.session request.loaded) allow site.destinations =
        .denied denial := by
  obtain ⟨allow, hallow, hdenial⟩ := Option.bind_eq_some_iff.1 h
  obtain ⟨route, hroute, hguard⟩ := Option.bind_eq_some_iff.1 hallow
  refine ⟨route, allow, hroute, hguard, ?_⟩
  cases hverdict : Guard.decide (Store.visitor cookie.session request.loaded) allow
      site.destinations with
  | allowed access => rw [hverdict] at hdenial; cases hdenial
  | denied denial' => rw [hverdict] at hdenial; cases hdenial; rfl

/-- A route whose guard denies does nothing but turn the visitor away. -/
theorem Route.serve_of_denied {route : Route} {site : Site} {request : Request}
    {session : CookieStore} {allow : AllowList} {denial : Guard.Denial}
    (hguard : route.guard = some allow)
    (h : Guard.decide (Store.visitor session request.loaded) allow site.destinations =
      .denied denial) (line : Backend.Line) :
    route.serve site request session line = ⟨turnAway denial, session, false, line⟩ := by
  unfold Site.destinations at h
  simp only [Route.serve, hguard, h]

/-- Nothing is put into a cookie for a session that was only read. -/
theorem settle_untouched (cookie : Cookie) (response : Response) (line : Backend.Line) :
    settle cookie ⟨response, cookie.session, false, line⟩ =
      ⟨response, none, cookie.session, line⟩ := by
  cases cookie with
  | none => rfl
  | some session => rfl

/-- **One run.** The reply to a visitor who is turned away. -/
theorem reply_of_denied {site : Site} {cookie : Cookie} {request : Request}
    {denial : Guard.Denial} (h : denialOf? site cookie request = some denial)
    (line : Backend.Line) :
    reply site.routes site cookie request line =
      ⟨Route.turnAway (Guard.denialFor site.destinations denial.reason), none, cookie.session,
        line⟩ := by
  obtain ⟨route, allow, hroute, hguard, hdecide⟩ := denialOf?_eq_some h
  rw [reply, serve, hroute]
  simp only [Route.serve_of_denied hguard hdecide line, settle_untouched]
  rw [← Guard.decide_eq_denied hdecide]

/-! ## The handler behind the guard -/

/-- A route with another handler. -/
def Route.withHandler (f : Handler → Handler) (r : Route) : Route := { r with handler := f r.handler }

theorem findRoute?_mapHandlers (f : Handler → Handler) (routes : List Route) (request : Request) :
    findRoute? (routes.map (Route.withHandler f)) request =
      (findRoute? routes request).map (Route.withHandler f) := by
  unfold findRoute?
  rw [List.find?_map]
  rfl

/-- **The handler is not run.** Other handlers behind the guards make no difference to a visitor who is
turned away. -/
theorem reply_mapHandlers {site : Site} {cookie : Cookie} {request : Request}
    {denial : Guard.Denial} (h : denialOf? site cookie request = some denial)
    (f : Handler → Handler) (line : Backend.Line) :
    reply (site.routes.map (Route.withHandler f)) site cookie request line =
      reply site.routes site cookie request line := by
  obtain ⟨route, allow, hroute, hguard, hdecide⟩ := denialOf?_eq_some h
  have hguard' : (route.withHandler f).guard = some allow := hguard
  simp only [reply, serve, findRoute?_mapHandlers, hroute, Option.map_some,
    Route.serve_of_denied hguard hdecide line, Route.serve_of_denied hguard' hdecide line]

/-! ## What is shown -/

/-- The notice can always be written. -/
theorem deniedPage_eval (notice destination : String) :
    ∃ page, Html.deniedPage.eval
      [("notice", .str notice), ("destination", .str destination)] = some page := by
  simp [Html.deniedPage, Html.Template.ofParts, Html.Template.eval, Html.Template.lines,
    Html.Template.put, Html.Slot.fill, Html.Context.find?, Html.member?]

theorem turnAway_noSession (places : Destinations) :
    Route.turnAway (Guard.denialFor places .noSession) =
      if places.login.toList.any Text.breaksHeader then .plain 500
      else ⟨302, some places.login, .empty⟩ := rfl

theorem turnAway_insufficientPrivilege (places : Destinations) :
    ∃ page, Html.deniedPage.eval
        [("notice", .str Guard.noPermission), ("destination", .str places.home)] = some page ∧
      Route.turnAway (Guard.denialFor places .insufficientPrivilege) = ⟨403, none, .html page⟩ := by
  obtain ⟨page, hpage⟩ := deniedPage_eval Guard.noPermission places.home
  refine ⟨page, hpage, ?_⟩
  simp only [Guard.denialFor, Route.turnAway, Html.denied, Option.map_some, Option.getD_some,
    Notice.warning, hpage, Response.document]

/-! ## Two runs -/

/-- **Two runs.** Two sites with the same configuration turn visitors away for the same reason. Their
pages, their visitors and what the backend holds ready may differ in any way. The responses are the same
and no more than that happens in either run: no cookie is set, the session and the line to the backend
stay as they were, and the handlers make no difference. A visitor without a session is sent to the login
path, as far as it can be written into a header; a visitor without the privilege gets the notice, which
leads to the home path. -/
theorem denial_tells_reason_only (config : Config) (reason : Guard.Reason) (site₁ site₂ : Site)
    (cookie₁ cookie₂ : Cookie) (request₁ request₂ : Request) (line₁ line₂ : Backend.Line)
    (hshared₁ : site₁.shared = some config) (hshared₂ : site₂.shared = some config)
    (hdenied₁ : (denialOf? site₁ cookie₁ request₁).map Guard.Denial.reason = some reason)
    (hdenied₂ : (denialOf? site₂ cookie₂ request₂).map Guard.Denial.reason = some reason) :
    ∃ response,
      reply site₁.routes site₁ cookie₁ request₁ line₁ = ⟨response, none, cookie₁.session, line₁⟩ ∧
      reply site₂.routes site₂ cookie₂ request₂ line₂ = ⟨response, none, cookie₂.session, line₂⟩ ∧
      (∀ f, reply (site₁.routes.map (Route.withHandler f)) site₁ cookie₁ request₁ line₁ =
        ⟨response, none, cookie₁.session, line₁⟩) ∧
      (∀ f, reply (site₂.routes.map (Route.withHandler f)) site₂ cookie₂ request₂ line₂ =
        ⟨response, none, cookie₂.session, line₂⟩) ∧
      match reason with
      | .noSession =>
        response = if config.loginPath.toList.any Text.breaksHeader then .plain 500
          else ⟨302, some config.loginPath, .empty⟩
      | .insufficientPrivilege =>
        ∃ page, Html.deniedPage.eval
            [("notice", .str Guard.noPermission), ("destination", .str config.homePath)] = some page ∧
          response = ⟨403, none, .html page⟩ := by
  have hrun : ∀ {site : Site} {cookie : Cookie} {request : Request} (line : Backend.Line),
      site.shared = some config →
      (denialOf? site cookie request).map Guard.Denial.reason = some reason →
      reply site.routes site cookie request line =
          ⟨Route.turnAway (Guard.denialFor config.destinations reason), none, cookie.session, line⟩ ∧
        ∀ f, reply (site.routes.map (Route.withHandler f)) site cookie request line =
          ⟨Route.turnAway (Guard.denialFor config.destinations reason), none, cookie.session,
            line⟩ := by
    intro site cookie request line hshared hdenied
    obtain ⟨denial, hdenial, rfl⟩ := Option.map_eq_some_iff.1 hdenied
    have hplaces : site.destinations = config.destinations := by rw [Site.destinations, hshared]; rfl
    have hreply := reply_of_denied hdenial line
    rw [hplaces] at hreply
    exact ⟨hreply, fun f => (reply_mapHandlers hdenial f line).trans hreply⟩
  obtain ⟨hreply₁, hhandlers₁⟩ := hrun line₁ hshared₁ hdenied₁
  obtain ⟨hreply₂, hhandlers₂⟩ := hrun line₂ hshared₂ hdenied₂
  refine ⟨_, hreply₁, hreply₂, hhandlers₁, hhandlers₂, ?_⟩
  cases reason with
  | noSession => exact turnAway_noSession config.destinations
  | insufficientPrivilege => exact turnAway_insufficientPrivilege config.destinations

/-- A site with the given pages. -/
def siteOf (config : Config) (pages : List Page) : Site :=
  ⟨config, some config, Registry.empty.registerAll pages, 2025, "noon"⟩

/-- A request for the page of households. -/
def householdsRequest : Request := ⟨"GET", "/can-ho", none, "", none⟩

theorem decoded_householdsRequest : Path.decoded householdsRequest.path = "/can-ho" :=
  Request.decoded_path (by decide +kernel) (by decide +kernel)

/-- The cookie of an accountant. -/
def accountantCookie : Cookie := some (.ofList [("role", .str "KeToan")])

/-- A page of another kind at the path of the households. -/
def secretPage : Page := { Page.ofId "secret" "Secret" with path := "/can-ho" }

/-- An accountant gets the same notice for the households as for a secret page in their place. -/
theorem denial_of_accountant :
    ∃ response,
      reply (siteOf .standard Page.standard).routes (siteOf .standard Page.standard)
          accountantCookie householdsRequest (.ofDeliveries []) =
        ⟨response, none, accountantCookie.session, .ofDeliveries []⟩ ∧
      reply (siteOf .standard [secretPage]).routes (siteOf .standard [secretPage])
          accountantCookie householdsRequest (.ofDeliveries [.error "down"]) =
        ⟨response, none, accountantCookie.session, .ofDeliveries [.error "down"]⟩ ∧
      response.status = 403 := by
  have hdenied₁ : (denialOf? (siteOf .standard Page.standard) accountantCookie householdsRequest).map
      Guard.Denial.reason = some .insufficientPrivilege := by
    simp only [denialOf?, guardOf?, findRoute?, decoded_householdsRequest]
    decide +kernel
  have hdenied₂ : (denialOf? (siteOf .standard [secretPage]) accountantCookie householdsRequest).map
      Guard.Denial.reason = some .insufficientPrivilege := by
    simp only [denialOf?, guardOf?, findRoute?, decoded_householdsRequest]
    decide +kernel
  obtain ⟨response, hreply₁, hreply₂, -, -, page, -, hresponse⟩ :=
    denial_tells_reason_only .standard .insufficientPrivilege (siteOf .standard Page.standard)
      (siteOf .standard [secretPage]) accountantCookie accountantCookie householdsRequest
      householdsRequest (.ofDeliveries []) (.ofDeliveries [.error "down"]) rfl rfl hdenied₁ hdenied₂
  exact ⟨response, hreply₁, hreply₂, by rw [hresponse]⟩

/-- A login path with a control character in it, which no header can carry. -/
def unwritableConfig : Config := { Config.standard with loginPath := "/a\x01" }

/-- Without a session the visitor is turned away there too, but is not sent to the login path. -/
theorem unwritable_loginPath :
    denialOf? (siteOf unwritableConfig Page.standard) none householdsRequest =
        some (Guard.denialFor unwritableConfig.destinations .noSession) ∧
      (reply (siteOf unwritableConfig Page.standard).routes (siteOf unwritableConfig Page.standard)
        none householdsRequest (.ofDeliveries [])).response = .plain 500 := by
  have hdenied : denialOf? (siteOf unwritableConfig Page.standard) none householdsRequest =
      some (Guard.denialFor unwritableConfig.destinations .noSession) := by
    simp only [denialOf?, guardOf?, findRoute?, decoded_householdsRequest]
    decide +kernel
  have haway : Route.turnAway (Guard.denialFor unwritableConfig.destinations .noSession) =
      .plain 500 := by
    rw [turnAway_noSession, if_pos (by decide +kernel)]
  refine ⟨hdenied, ?_⟩
  rw [reply_of_denied hdenied]
  exact haway

end Web

end ResidencePortal
