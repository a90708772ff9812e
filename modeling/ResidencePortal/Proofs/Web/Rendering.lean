import ResidencePortal.Proofs.Html.Markup
import ResidencePortal.Proofs.Web.PageContent

/-!
# Documents for visitors

The portal writes three documents that show texts from outside: the login page with what was typed and what
went wrong, the dashboard, and the pages of the registry. They can always be written. Their tags and
attributes do not depend on the texts in them: names, titles, paths and messages are confined to where the
document shows them.

**Results.**
* `Rendering.response_eq`: every rendering gives a document with status 200.
* `rendering_of_reply`: every document that the portal sends with status 200 is a rendering.
* `renderings_share_markup`: two renderings with the same outline have the same markup.
-/

namespace ResidencePortal.Web

open Session

/-- A document for a visitor, with all that it is written from. -/
inductive Rendering where
  | login (site : Site) (config : Config) (error : Option String) (username : String)
  | dashboard (site : Site) (config : Config) (access : Access) (session : CookieStore)
    (title : String)
  | page (site : Site) (config : Config) (access : Access) (session : CookieStore) (shown : Page)

/-- What the login page is written from. -/
def loginContext (site : Site) (config : Config) (error : Option String) (username : String) :
    Html.Context :=
  [("login_path", .str config.loginPath), ("username", .str username),
    ("error", Json.ofText? (error.map fun e => (Notice.error e).message))] ++
    Html.baseContext site.year

/-- The menu that is shown under an access. -/
def shownMenu (site : Site) (access : Access) : List MenuItem :=
  Menu.visible access.hidden (site.registry.menuFor access.role)

/-- What the tags and attributes of a document depend on: whether there is an error to show, the shape of
the menu, and the regions whose panels are there. -/
inductive Outline where
  | login (error : Bool)
  | dashboard (menu : List Html.MenuShape) (regions : List Region)
  | page (menu : List Html.MenuShape)

namespace Rendering

/-- The year of the site. -/
def year : Rendering → Nat
  | login site .. => site.year
  | dashboard site .. => site.year
  | page site .. => site.year

/-- The document that is written. -/
def document : Rendering → Html.Document
  | login .. => .login
  | dashboard .. => .dashboard
  | page .. => .page

/-- What the document is written from. -/
def context : Rendering → Html.Context
  | login site config error username => loginContext site config error username
  | dashboard site config access session title => pageContext site config access session title
  | page site config access session shown => documentContext site config access session shown

/-- The response with the document. -/
def response (r : Rendering) : Response := .document (Html.render r.year r.document r.context)

/-- The outline of the document. -/
def outline : Rendering → Outline
  | login _ _ error _ => .login error.isSome
  | dashboard site _ access _ _ =>
    .dashboard (Html.MenuShape.ofItems (shownMenu site access)) (Region.visible access.hidden)
  | page site _ access _ _ => .page (Html.MenuShape.ofItems (shownMenu site access))

end Rendering

/-! ## Contexts -/

section Contexts

variable (site : Site) (config : Config) (access : Access) (session : CookieStore) (title : String)
  (page : Page) (error : Option String) (username : String)

theorem find?_visible_regions :
    (pageContext site config access session title).find? ["visible_regions"] =
      some (.arr ((Region.visible access.hidden).map fun r => .str r.id)) := by
  rw [pageContext, Html.Context.find?_cons_of_ne (by decide), Html.find?_visible_regions_accessContext]

theorem find?_menus_pageContext :
    (pageContext site config access session title).find? ["menus"] =
      some (.arr (MenuItem.listToJson (shownMenu site access))) := by
  rw [pageContext, Html.Context.find?_cons_of_ne (by decide), Html.find?_menus_accessContext, shownMenu]

theorem find?_menus_documentContext :
    (documentContext site config access session page).find? ["menus"] =
      some (.arr (MenuItem.listToJson (shownMenu site access))) := by
  rw [documentContext, Html.Context.find?_cons_of_ne (by decide), find?_menus_pageContext]

/-- An error to show is never empty: it begins with a word that says that it is one. -/
theorem isTruthy_error :
    ((loginContext site config error username).find? ["error"]).any Html.isTruthy = error.isSome := by
  cases error <;>
    simp [loginContext, Html.Context.find?, Html.member?, Json.ofText?, Html.isTruthy, Notice.error]

end Contexts

namespace Rendering

theorem quiet_context (r : Rendering) : r.context.Quiet := by
  cases r with
  | login site config error username =>
    simp [Html.Context.Quiet, context, loginContext, Html.baseContext]
  | dashboard => exact (Html.quiet_accessContext _ _ _ _ _ _).cons _ _
  | page => exact ((Html.quiet_accessContext _ _ _ _ _ _).cons _ _).cons _ _

/-! ## Every rendering is a document -/

theorem isSome_eval (r : Rendering) : (r.document.template.eval r.context).isSome = true := by
  cases r with
  | login site config error username =>
    apply Html.isSome_eval_loginPage <;>
      simp [context, loginContext, Html.baseContext, Html.Context.find?, Html.member?]
  | dashboard site config access session title =>
    exact Html.isSome_eval_layout (forLayout_pageContext site config access session title)
      (Html.isSome_eval_dashboardContent (find?_visible_regions site config access session title))
  | page site config access session shown =>
    have hcontent := eval_pageContent site config access session shown
    exact Html.isSome_eval_layout (forLayout_documentContext site config access session shown)
      (Option.isSome_iff_exists.2 ⟨_, hcontent⟩)

/-- A rendering gives a document with status 200. -/
theorem response_eq (r : Rendering) :
    ∃ body, r.document.template.eval r.context = some body ∧ r.response = ⟨200, none, .html body⟩ := by
  obtain ⟨body, hbody⟩ := Option.isSome_iff_exists.1 r.isSome_eval
  exact ⟨body, hbody, by rw [response, Html.render, hbody]; rfl⟩

end Rendering

/-! ## Every document is a rendering -/

section Documents

variable {site : Site} {request : Request} {session : CookieStore} {line : Backend.Line}
  {location : Option String} {body : String}

theorem redirect_ne_html (place : String) : Response.redirect place ≠ ⟨200, location, .html body⟩ := by
  unfold Response.redirect
  split <;> simp [Response.plain]

theorem rendering_of_pageResponse {config : Config} {access : Access} {path : String}
    (h : pageResponse site config access session path = ⟨200, location, .html body⟩) :
    ∃ r : Rendering, r.response = ⟨200, location, .html body⟩ := by
  unfold pageResponse at h
  split at h
  · exact ⟨.page site config access session _, h⟩
  · cases h

theorem rendering_of_dashboardResponse {config : Config}
    (h : dashboardResponse site config session = ⟨200, location, .html body⟩) :
    ∃ r : Rendering, r.response = ⟨200, location, .html body⟩ := by
  unfold dashboardResponse at h
  split at h
  · exact ⟨.dashboard site config _ session "Dashboard", h⟩
  · exact absurd h (redirect_ne_html _)

theorem rendering_of_loginView {config : Config} {error : Option String} {username : String}
    (h : loginView site config error username = ⟨200, location, .html body⟩) :
    ∃ r : Rendering, r.response = ⟨200, location, .html body⟩ :=
  ⟨.login site config error username, h⟩

theorem rendering_of_loginResponse {config : Config} {username : String} {result : Except String User}
    (h : loginResponse site config username result = ⟨200, location, .html body⟩) :
    ∃ r : Rendering, r.response = ⟨200, location, .html body⟩ := by
  cases result with
  | ok user => exact absurd h (redirect_ne_html _)
  | error message => exact rendering_of_loginView h

/-- The documents of the handlers are renderings. -/
theorem rendering_of_run {handler : Handler} {access : Option Access}
    (h : (handler.run site request access session line).response = ⟨200, location, .html body⟩) :
    ∃ r : Rendering, r.response = ⟨200, location, .html body⟩ := by
  cases hshared : site.shared with
  | none =>
    cases handler <;> simp only [Handler.run, hshared] at h
    all_goals first | cases h | (split at h <;> cases h)
  | some config =>
    cases handler <;> simp only [Handler.run, hshared] at h
    case loginForm =>
      split at h
      · exact absurd h (redirect_ne_html _)
      · exact rendering_of_loginView h
    case login =>
      split at h
      · cases h
      · dsimp only at h
        exact rendering_of_loginResponse h
    case jsonLogin =>
      split at h
      · cases h
      · unfold jsonLoginResponse at h
        split at h <;> cases h
    case logout => exact absurd h (redirect_ne_html _)
    case dashboard => exact rendering_of_dashboardResponse h
    case health => cases h
    case authStatus => cases h
    case page =>
      split at h
      · exact rendering_of_pageResponse h
      · exact absurd h (redirect_ne_html _)
    case pageData =>
      split at h
      · cases h
      · unfold dataResponse at h
        split at h <;> cases h

theorem turnAway_ne_html (denial : Guard.Denial) :
    Route.turnAway denial ≠ ⟨200, location, .html body⟩ := by
  unfold Route.turnAway
  split
  · exact redirect_ne_html _
  · simp [Response.document, Html.denied]

theorem rendering_of_route {route : Route}
    (h : (route.serve site request session line).response = ⟨200, location, .html body⟩) :
    ∃ r : Rendering, r.response = ⟨200, location, .html body⟩ := by
  have hhandle : ∀ access,
      (route.handle site request access session line).response = ⟨200, location, .html body⟩ →
      ∃ r : Rendering, r.response = ⟨200, location, .html body⟩ := by
    intro access hresponse
    unfold Route.handle at hresponse
    split at hresponse
    · cases hresponse
    · exact rendering_of_run hresponse
  unfold Route.serve at h
  split at h
  · exact hhandle none h
  · simp only at h
    split at h
    · exact absurd h (turnAway_ne_html _)
    · exact hhandle _ h

/-- **Every document is a rendering.** Whatever routes there are, a document that is sent with status 200
is the login page, the dashboard or a page. -/
theorem rendering_of_reply {routes : List Route} {cookie : Cookie}
    (h : (reply routes site cookie request line).response = ⟨200, location, .html body⟩) :
    ∃ r : Rendering, r.response = ⟨200, location, .html body⟩ := by
  have hserve : (serve routes site request cookie.session line).response =
      ⟨200, location, .html body⟩ := by
    unfold reply settle at h
    split at h
    · split at h
      · exact h
      · cases h
    · exact h
  unfold serve at hserve
  split at hserve
  · exact rendering_of_route hserve
  · cases hserve

end Documents

/-! ## Two renderings -/

/-- Renderings with the same outline are of one document, and their contexts are alike for it. -/
theorem Rendering.alike {r s : Rendering} (h : r.outline = s.outline) :
    r.document = s.document ∧ r.document.template.Alike r.context s.context := by
  have hr := r.quiet_context
  have hs := s.quiet_context
  -- Renderings of different documents have outlines of different kinds.
  cases r <;> cases s <;> simp only [outline, reduceCtorEq, Outline.login.injEq,
    Outline.dashboard.injEq, Outline.page.injEq] at h
  case login.login =>
    refine ⟨rfl, Html.alike_loginPage hr hs ?_⟩
    simpa only [context, isTruthy_error] using h
  case dashboard.dashboard =>
    obtain ⟨hshape, hvisible⟩ := h
    refine ⟨rfl, Html.alike_layout hr hs (find?_menus_pageContext ..) (find?_menus_pageContext ..)
      hshape (Html.alike_dashboardContent ?_)⟩
    simp only [context, find?_visible_regions, hvisible]
  case page.page =>
    exact ⟨rfl, Html.alike_layout hr hs (find?_menus_documentContext ..)
      (find?_menus_documentContext ..) h (Html.alike_pageContent hr hs)⟩

/-- **Two renderings** with the same outline are documents with the same markup. The texts in them may
differ in any way: the name that was tried, the error, the name and the role of the visitor, titles and
identifiers of pages, titles and paths in the menu, and the paths of the configuration. -/
theorem renderings_share_markup (r s : Rendering) (h : r.outline = s.outline) :
    ∃ a b, r.response = ⟨200, none, .html a⟩ ∧ s.response = ⟨200, none, .html b⟩ ∧
      Html.markup a = Html.markup b := by
  obtain ⟨a, ha, hra⟩ := r.response_eq
  obtain ⟨b, hb, hsb⟩ := s.response_eq
  obtain ⟨hdocument, halike⟩ := Rendering.alike h
  rw [← hdocument] at hb
  exact ⟨a, b, hra, hsb, halike.markup_eval ha hb⟩

/-- A text that would leave an attribute and open a tag if it were written as it is. -/
def hostileText : String := "\"><script>alert('x')</script>"

/-- The page of households with hostile texts in all places, open to a role whose token is one too. -/
def hostilePage : Page :=
  { householdsPage with
    id := hostileText, title := hostileText, path := hostileText, group := some hostileText
    allowed := .ofList [.other hostileText] }

/-- A configuration with hostile paths. -/
def hostileConfig : Config :=
  { Config.standard with homePath := hostileText, loginPath := hostileText, apiBaseUrl := hostileText }

/-- A session whose user has a hostile name. -/
def hostileSession : CookieStore :=
  .ofList [(Key.currentUser, .str { User.blank with fullName := some hostileText }.encode)]

/-- A page full of hostile texts has the tags and attributes of the plain one. -/
theorem hostile_page_markup :
    ∃ a b,
      (Rendering.page (siteOf .standard [householdsPage]) .standard (.ofRole .management) .empty
        householdsPage).response = ⟨200, none, .html a⟩ ∧
      (Rendering.page (siteOf hostileConfig [hostilePage]) hostileConfig (.ofRole (.other hostileText))
        hostileSession hostilePage).response = ⟨200, none, .html b⟩ ∧
      Html.markup a = Html.markup b := by
  refine renderings_share_markup _ _ ?_
  -- Sorting the menus does not compute by default.
  with_unfolding_all rfl

end ResidencePortal.Web
