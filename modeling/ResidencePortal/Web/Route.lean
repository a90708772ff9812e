import ResidencePortal.Web.Handler

/-!
# Routes

The routes of the portal in the order in which they are tried. A route for one method is passed over
by requests of other methods. A route for all methods stands before a page: its guard comes first, and
then any method but GET is refused.
-/

namespace ResidencePortal.Web

open Session

/-- A route. -/
structure Route where
  /-- The paths of its requests; a route without a readable pattern takes none. -/
  pattern : Option Pattern
  /-- The method of its requests; without one it takes requests of every method. -/
  method : Option String
  guard : Option AllowList
  handler : Handler

namespace Route

/-- The route takes a request with the given decoded path. -/
def takes (r : Route) (method : String) (path : List Char) : Bool :=
  (r.method.isNone || r.method == some method) && r.pattern.any fun p => p.covers path

/-- A route for one method, open to all. -/
def ofMethod (method path : String) (handler : Handler) : Route :=
  ⟨Pattern.ofPath? path, some method, none, handler⟩

/-- A route for all methods behind a guard, or open. -/
def resource (path : String) (guard : Option AllowList) (handler : Handler) : Route :=
  ⟨Pattern.ofPath? path, none, guard, handler⟩

/-- The routes that do not depend on pages (`register_auth_routes_only`). -/
def entrance (config : Config) : List Route :=
  [ofMethod "GET" config.loginPath .loginForm,
    ofMethod "POST" config.loginPath .login,
    ofMethod "GET" "/logout" .logout,
    ofMethod "POST" "/logout" .logout,
    ofMethod "GET" config.homePath .dashboard,
    ofMethod "GET" "/health" .health,
    ofMethod "POST" "/api/login" .jsonLogin,
    ofMethod "GET" "/api/auth/status" .authStatus]

/-- The routes of a page: the page, and its data if the backend has a collection for it
(`register_all_bluemoon_routes`). -/
def ofPage (page : Page) : List Route :=
  resource page.path (some page.allowed) .page ::
    if (Backend.Collection.forPage? page.id).isSome then
      [resource ("/api/data" ++ page.path) (some page.allowed) .pageData]
    else []

/-- All routes of the portal (`register_all_bluemoon_routes`). -/
def portal (config : Config) (registry : Registry) : List Route :=
  entrance config ++ registry.pages.flatMap ofPage

/-- Handles a request behind the guard; a route for all methods serves GET only. -/
def handle (r : Route) (site : Site) (request : Request) (access : Option Access)
    (session : CookieStore) (line : Backend.Line) : Served :=
  if r.method.isNone && request.method != "GET" then ⟨.empty 405, session, false, line⟩
  else r.handler.run site request access session line

/-- The response to a visitor who is turned away (`PageGuardMiddleware.call`). -/
def turnAway (denial : Guard.Denial) : Response :=
  match denial.reason with
  | .noSession => .redirect denial.destination
  | .insufficientPrivilege => .document (Html.denied denial)

/-- Serves a request: the guard first, then the handler (`PageGuardMiddleware.call`). -/
def serve (r : Route) (site : Site) (request : Request) (session : CookieStore)
    (line : Backend.Line) : Served :=
  match r.guard with
  | none => r.handle site request none session line
  | some allow =>
    let destinations := (site.shared.map Config.destinations).getD .standard
    match Guard.decide (Store.visitor session request.loaded) allow destinations with
    | .denied denial => ⟨turnAway denial, session, false, line⟩
    | .allowed access => r.handle site request (some access) session line

end Route

/-- The first route that takes a request. -/
def findRoute? (routes : List Route) (request : Request) : Option Route :=
  let path := (Path.decoded request.path).toList
  routes.find? fun r => r.takes request.method path

/-- Serves a request by the first route that takes it. -/
def serve (routes : List Route) (site : Site) (request : Request) (session : CookieStore)
    (line : Backend.Line) : Served :=
  match findRoute? routes request with
  | some route => route.serve site request session line
  | none => ⟨.empty 404, session, false, line⟩

end ResidencePortal.Web
