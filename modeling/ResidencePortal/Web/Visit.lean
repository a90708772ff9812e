import ResidencePortal.Web.Route

/-!
# Visits

A visitor's session lives in a cookie: each request brings it along, and a response may set a new one.

* Without a valid cookie, one is set if the session ends with values in it.
* With a valid cookie, one is set if the session was written to.
* A session that does not fit into a cookie turns the response into an empty error.
-/

namespace ResidencePortal.Web

open Text Session

/-- What a cookie carries; nothing if there is none, or none that can be read. -/
abbrev Cookie : Type := Option CookieStore

namespace Cookie

/-- The name of the cookie. -/
def name : String := "bluemoon_session"

/-- The most bytes that a cookie carries. -/
def capacity : Nat := 4064

/-- The text that a cookie carries: every value as a text of its own. -/
def payload (s : CookieStore) : String :=
  Json.compact (.obj (s.values.entries.map fun e => (e.1, .str e.2.compact)))

/-- The session fits into a cookie. -/
def fits (s : CookieStore) : Bool := (utf8Bytes (payload s)).length ≤ capacity

/-- The attributes of the cookie (`create_session_middleware`). -/
def attributes (config : Config) : String :=
  "HttpOnly; " ++ (if config.isProduction then "SameSite=Strict; Secure; " else "SameSite=Lax; ") ++
    "Path=/; Max-Age=" ++ intText config.sessionTimeout.toInt64.toInt

end Cookie

/-- What a visitor gets for a request. -/
structure Reply where
  response : Response
  /-- The session that the response sets, if it sets a cookie. -/
  setCookie : Option CookieStore
  /-- The session as the handler left it. -/
  session : CookieStore
  line : Backend.Line

/-- A cookie has to be set for what a handler leaves. -/
def needsCookie (cookie : Cookie) (served : Served) : Bool :=
  if cookie.isSome then served.touched else !served.session.values.isEmpty

/-- The reply for what a handler leaves. -/
def settle (cookie : Cookie) (served : Served) : Reply :=
  if needsCookie cookie served then
    if Cookie.fits served.session then
      ⟨served.response, some served.session, served.session, served.line⟩
    else ⟨.empty 500, none, served.session, served.line⟩
  else ⟨served.response, none, served.session, served.line⟩

/-- What becomes of the cookie does not change the line. -/
theorem line_settle (cookie : Cookie) (served : Served) : (settle cookie served).line = served.line := by
  unfold settle
  split
  · split <;> rfl
  · rfl

/-- The session that a cookie brings. -/
def Cookie.session (cookie : Cookie) : CookieStore := cookie.getD .empty

/-- The reply to a request that brings a cookie. -/
def reply (routes : List Route) (site : Site) (cookie : Cookie) (request : Request)
    (line : Backend.Line) : Reply :=
  settle cookie (serve routes site request cookie.session line)

/-- The reply when the session is replaced by given values. -/
def reseed (cookie : Cookie) (values : List (String × Json)) (line : Backend.Line) : Reply :=
  settle cookie ⟨.empty 200, .ofList values, true, line⟩

/-- The cookie that a visitor holds after a reply. -/
def Reply.held (r : Reply) (before : Cookie) : Cookie := r.setCookie.orElse fun _ => before

end ResidencePortal.Web
