import ResidencePortal.Backend.Endpoint
import ResidencePortal.Charset.Decoder
import ResidencePortal.Config
import ResidencePortal.Web.Form
import ResidencePortal.Web.MediaType
import ResidencePortal.Web.Message

/-!
# Handlers

What the portal does with a request once it is routed. Only a login and a logout write to the session,
and only a login and the data of a page call the backend.
-/

namespace ResidencePortal.Web

open Text Session

/-- What the handlers work with. -/
structure Site where
  /-- What the portal was assembled with. -/
  config : Config
  /-- The configuration that handlers find; without it those that need it fail. -/
  shared : Option Config
  registry : Registry
  year : Nat
  /-- The time, as the health report shows it. -/
  now : String

/-- What handles a request: one constructor for each handler that a route can name. -/
inductive Handler where
  /-- The login page (`login_form`). -/
  | loginForm
  /-- A login by form (`login_action`). -/
  | login
  /-- A login by JSON (`api_login_action`). -/
  | jsonLogin
  /-- The end of a login (`logout_action`). -/
  | logout
  /-- The dashboard (`dashboard_view`). -/
  | dashboard
  /-- The report about the portal (`health_check`). -/
  | health
  /-- The report about the visitor (`check_auth_status`). -/
  | authStatus
  /-- A registered page (`page_view`). -/
  | page
  /-- The records of a registered page (`page_data`). -/
  | pageData
deriving Repr, DecidableEq

/-- The access of a visitor by the session alone (`session_access`). -/
def accessOf (session : CookieStore) : Option Access :=
  (Store.visitor session none).role?.map Access.ofRole

/-! ## Reading the body -/

/-- The most bytes of a form. -/
def formLimit : Nat := 16384

/-- The most bytes of a JSON body. -/
def jsonLimit : Nat := 2097152

/-- The credentials in a form, or the status of the refusal. -/
def formCredentials (r : Request) : Except Nat Credentials :=
  match r.contentType.bind MediaType.formCharset? with
  | none => .error 415
  | some charset =>
    if formLimit < (utf8Bytes r.body).length then .error 413
    else
      match (charset.text? r.body).bind Form.credentials? with
      | some c => .ok c
      | none => .error 400

/-- The credentials in a JSON body, or the status of the refusal. -/
def jsonCredentials (r : Request) : Except Nat Credentials :=
  if !(r.contentType.any MediaType.isJson) then .error 400
  else if jsonLimit < (utf8Bytes r.body).length then .error 413
  else
    match Credentials.ofText? r.body with
    | some c => .ok c
    | none => .error 400

/-! ## Logging in -/

/-- What an attempt to log in leaves. -/
structure Attempt where
  result : Except String User
  session : CookieStore
  touched : Bool
  line : Backend.Line

/-- What a visitor is told who leaves a field blank. -/
def blankCredentials : String := "Vui lòng nhập tên đăng nhập và mật khẩu"

/-- What a visitor is told whose session cannot be written. -/
def sessionFailed : String := "Không thể tạo phiên đăng nhập"

/-- Logs in with the backend and stores the login in the session. Nothing is written before the
backend has accepted (`authenticate`). -/
def authenticate (client : Backend.Client) (credentials : Credentials) (session : CookieStore)
    (line : Backend.Line) : Attempt :=
  let credentials : Credentials := ⟨trim credentials.username, trim credentials.password⟩
  if credentials.username.isEmpty || credentials.password.isEmpty then
    ⟨.error blankCredentials, session, false, line⟩
  else
    match (client.login credentials).run line with
    | (.error failure, line) => ⟨.error failure.message, session, false, line⟩
    | (.ok login, line) =>
      let stored := storeLogin session login.user login.token
      match stored.fault with
      | none => ⟨.ok login.user, stored.store, true, line⟩
      | some _ => ⟨.error sessionFailed, stored.store, true, line⟩

/-- The login page, with what went wrong and the name that was tried (`render_login`). -/
def loginView (site : Site) (config : Config) (error : Option String) (username : String) : Response :=
  .document (Html.render site.year .login
    ([("login_path", .str config.loginPath), ("username", .str username),
      ("error", Json.ofText? (error.map fun e => (Notice.error e).message))] ++
      Html.baseContext site.year))

/-- The response to an attempt by form (`login_action`). -/
def loginResponse (site : Site) (config : Config) (username : String) : Except String User → Response
  | .ok _ => .redirect config.homePath
  | .error message => loginView site config (some message) username

/-- The response to an attempt by JSON (`api_login_action`). -/
def jsonLoginResponse : Except String User → Response
  | .ok user => .json 200 (envelopeOk user.toJson)
  | .error message => .json 401 (envelopeError message)

/-! ## Pages -/

/-- What a page knows about a visitor with access (`create_context_for_access`). -/
def pageContext (site : Site) (config : Config) (access : Access) (session : CookieStore)
    (title : String) : Html.Context :=
  ("api_base_url", .str config.apiBaseUrl) ::
    Html.accessContext site.year site.registry access (Store.visitor session none).currentUser? title
      config.homePath

/-- The page whose identifier is the path without the slashes in front (`page_view`). -/
def pageResponse (site : Site) (config : Config) (access : Access) (session : CookieStore)
    (path : String) : Response :=
  match site.registry.find? (dropLeading '/' path) with
  | some page =>
    .document (Html.render site.year .page
      (("page_id", .str page.id) :: pageContext site config access session page.title))
  | none => .document (Html.notFound site.year)

/-- The dashboard, for any visitor with a role (`dashboard_view`). -/
def dashboardResponse (site : Site) (config : Config) (session : CookieStore) : Response :=
  match accessOf session with
  | some access =>
    .document (Html.render site.year .dashboard
      (pageContext site config access session "Dashboard"))
  | none => .redirect config.loginPath

/-- The response with the records of a collection (`page_data`). -/
def dataResponse : Except Backend.Failure (List Json) → Response
  | .ok items => .json 200 (envelopeOk (.arr items))
  | .error failure => .fault (.backend failure.message)

/-! ## Reports -/

/-- Who is logged in, as JSON (`AuthStatus`). -/
def statusReport (access : Option Access) (displayName : Option String) : Json :=
  Json.object
    [("authenticated", .bool access.isSome),
      ("role", Json.ofText? (access.map fun a => a.role.name)),
      ("displayName", Json.ofText? displayName),
      ("hiddenRegions", .arr ((access.map Access.hidden).getD [] |>.map fun r => .str r.id))]

/-- The report about nobody (`AuthStatus.anonymous`). -/
def anonymousReport : Json := statusReport none none

/-- The report about the visitor of a session (`check_auth_status`). -/
def authReport (session : CookieStore) : Json :=
  match accessOf session with
  | some access =>
    let user := (Store.visitor session none).currentUser?
    statusReport (some access) (some ((user.map User.displayName).getD User.defaultDisplayName))
  | none => anonymousReport

/-- The report about the portal (`health_check`). -/
def healthReport (site : Site) : Json :=
  Json.object
    [("status", .str "healthy"), ("name", .str "bluemoon-rbac"), ("version", .str Html.appVersion),
      ("pages", .ofNat site.registry.count), ("timestamp", .str site.now)]

/-! ## Running a handler -/

namespace Handler

/-- Handles a request; `access` is what the guard gave, if there was one. -/
def run (h : Handler) (site : Site) (request : Request) (access : Option Access)
    (session : CookieStore) (line : Backend.Line) : Served :=
  let reading (response : Response) : Served := ⟨response, session, false, line⟩
  let withConfig (f : Config → Served) : Served :=
    match site.shared with
    | some config => f config
    | none => reading (.plain 500)
  match h with
  | loginForm =>
    withConfig fun config =>
      reading (if (accessOf session).isSome then .redirect config.homePath
        else loginView site config none "")
  | login =>
    match formCredentials request with
    | .error status => reading (.plain status)
    | .ok credentials =>
      withConfig fun config =>
        let a := authenticate (.ofUrl config.apiBaseUrl) credentials session line
        ⟨loginResponse site config (trim credentials.username) a.result, a.session, a.touched, a.line⟩
  | jsonLogin =>
    match jsonCredentials request with
    | .error status => reading (.plain status)
    | .ok credentials =>
      withConfig fun config =>
        let a := authenticate (.ofUrl config.apiBaseUrl) credentials session line
        ⟨jsonLoginResponse a.result, a.session, a.touched, a.line⟩
  | logout =>
    withConfig fun config =>
      ⟨.redirect config.loginPath, (Store.clear session).store, true, line⟩
  | dashboard => withConfig fun config => reading (dashboardResponse site config session)
  | health => reading (.json 200 (healthReport site))
  | authStatus => reading (.json 200 (authReport session))
  | page =>
    withConfig fun config =>
      reading (match access with
        | some access => pageResponse site config access session request.path
        | none => .redirect config.loginPath)
  | pageData =>
    withConfig fun config =>
      match Backend.Collection.forPage? (afterLast '/' request.path) with
      | none => reading (.fault .notFound)
      | some collection =>
        let bearer := (Store.visitor session none).bearer?
        let client := (Backend.Client.ofUrl config.apiBaseUrl).withBearer bearer
        let (result, line) := (collection.list client).run line
        ⟨dataResponse result, session, false, line⟩

end Handler

end ResidencePortal.Web
