import ResidencePortal.Proofs.Session.LoginImage
import ResidencePortal.Proofs.Text.Trimming
import ResidencePortal.Web.Visit

/-!
# What a request means for the session

A request logs a visitor in, logs the visitor out, or does neither. `eventOf` reads this off the request
and the next delivery of the backend, without a look at the session; `Event.apply` says what becomes of
the session then.

**Results.**
* `authenticate_eq`: an attempt succeeds exactly if a login is granted, and what it leaves then.
* `authenticate_applies`, `Handler.run_applies`, `serve_applies`: an attempt, a handler and the whole
  portal do to the session exactly what the event of the request says, and mark the session as written
  to exactly if the event is a login or a logout.
* `eventOf_get`: a GET is a logout or neither.
-/

namespace ResidencePortal.Web

open Text Session

/-- What a request means for the login of a visitor. -/
inductive Event where
  | login (granted : Backend.Login)
  | logout
  | neither
deriving DecidableEq

namespace Event

/-- The login of a login. -/
def login? : Event → Option Backend.Login
  | login granted => some granted
  | logout => none
  | neither => none

/-- An attempt to log in is a login if one was granted. -/
def ofGrant : Option Backend.Login → Event
  | some granted => login granted
  | none => neither

/-- What becomes of the session. -/
def apply : Event → CookieStore → CookieStore
  | login granted, _ => loginSession granted.user granted.token
  | logout, _ => .empty
  | neither, session => session

/-- The session is written to. -/
def writes : Event → Bool
  | neither => false
  | _ => true

end Event

/-- The login that the backend grants: both credentials must say something, and the next delivery must
be an answer that is accepted and holds a user record. -/
def granted? (line : Backend.Line) (credentials : Credentials) : Option Backend.Login :=
  if allBlank credentials.username || allBlank credentials.password then none
  else
    match line.pending with
    | .ok answer :: _ => (answer.normalize >>= Backend.Login.ofJson).toOption
    | _ => none

/-- The event of a request that reaches a handler; without a configuration nothing happens. -/
def Handler.event (h : Handler) (site : Site) (request : Request) (line : Backend.Line) : Event :=
  match site.shared, h with
  | some _, .logout => .logout
  | some _, .login => .ofGrant ((formCredentials request).toOption.bind (granted? line))
  | some _, .jsonLogin => .ofGrant ((jsonCredentials request).toOption.bind (granted? line))
  | _, _ => .neither

/-- The handler that the portal picks for a request. -/
def handlerOf? (site : Site) (request : Request) : Option Handler :=
  (findRoute? (Route.portal site.config site.registry) request).map Route.handler

/-- The event of a request to the portal. -/
def eventOf (site : Site) (request : Request) (line : Backend.Line) : Event :=
  match handlerOf? site request with
  | some h => h.event site request line
  | none => .neither

/-- The session was left as the event says, and marked as written to if it says so. -/
def Event.Applied (e : Event) (before after : CookieStore) (touched : Bool) : Prop :=
  after = e.apply before ∧ touched = e.writes

theorem applied_neither (session : CookieStore) : Event.neither.Applied session session false :=
  ⟨rfl, rfl⟩

/-! ## Logging in -/

/-- What the login call gives on a line: the answer's login, or some failure. -/
theorem login_run_toOption (client : Backend.Client) (credentials : Credentials)
    (line : Backend.Line) :
    ((client.login credentials).run line).1.toOption =
      match line.pending with
      | .ok answer :: _ => (answer.normalize >>= Backend.Login.ofJson).toOption
      | _ => none := by
  unfold Backend.Call.run Backend.Line.send
  cases line.pending with
  | nil => rfl
  | cons delivery rest =>
    cases delivery with
    | error reason => rfl
    | ok answer => rfl

/-- **What an attempt does.** It succeeds exactly if the backend grants a login, and then the session
holds the image of that login and nothing else. An attempt that fails leaves the session alone. It takes one
delivery if both credentials say something, and none otherwise. -/
theorem authenticate_eq (client : Backend.Client) (credentials : Credentials)
    (session : CookieStore) (line : Backend.Line) :
    ∃ message left, left.pending =
        (if allBlank credentials.username || allBlank credentials.password then line.pending
          else line.pending.tail) ∧
      authenticate client credentials session line =
        match granted? line credentials with
        | some login => ⟨.ok login.user, loginSession login.user login.token, true, left⟩
        | none => ⟨.error message, session, false, left⟩ := by
  unfold authenticate granted?
  simp only [trim_isEmpty]
  by_cases hblank : (allBlank credentials.username || allBlank credentials.password) = true
  · rw [if_pos hblank, if_pos hblank, if_pos hblank]
    exact ⟨blankCredentials, line, rfl, rfl⟩
  · have hpending := (client.login ⟨trim credentials.username, trim credentials.password⟩).pending_run line
    rw [if_neg hblank, if_neg hblank, if_neg hblank,
      ← login_run_toOption client ⟨trim credentials.username, trim credentials.password⟩ line]
    cases hrun : (client.login ⟨trim credentials.username, trim credentials.password⟩).run line with
    | mk result left =>
      rw [hrun] at hpending
      cases result with
      | error failure => exact ⟨failure.message, left, hpending, rfl⟩
      | ok login => exact ⟨blankCredentials, left, hpending, by simp only [storeLogin_cookie]; rfl⟩

theorem authenticate_applies (client : Backend.Client) (credentials : Credentials)
    (session : CookieStore) (line : Backend.Line) :
    (Event.ofGrant (granted? line credentials)).Applied session
      (authenticate client credentials session line).session
      (authenticate client credentials session line).touched := by
  obtain ⟨message, left, -, hattempt⟩ := authenticate_eq client credentials session line
  rw [hattempt]
  cases granted? line credentials with
  | some login => exact ⟨rfl, rfl⟩
  | none => exact applied_neither session

/-- The user of a granted login is what the attempt answers. -/
theorem authenticate_result (client : Backend.Client) (credentials : Credentials)
    (session : CookieStore) (line : Backend.Line) :
    (authenticate client credentials session line).result.toOption =
      (granted? line credentials).map Backend.Login.user := by
  obtain ⟨message, left, -, hattempt⟩ := authenticate_eq client credentials session line
  rw [hattempt]
  cases granted? line credentials with
  | some login => rfl
  | none => rfl

/-- An attempt takes one delivery if both credentials say something, and none otherwise. -/
theorem pending_authenticate (client : Backend.Client) (credentials : Credentials)
    (session : CookieStore) (line : Backend.Line) :
    (authenticate client credentials session line).line.pending =
      if allBlank credentials.username || allBlank credentials.password then line.pending
      else line.pending.tail := by
  obtain ⟨message, left, hpending, hattempt⟩ := authenticate_eq client credentials session line
  rw [hattempt, ← hpending]
  cases granted? line credentials <;> rfl

/-! ## Handlers -/

theorem Handler.run_applies (h : Handler) (site : Site) (request : Request) (access : Option Access)
    (session : CookieStore) (line : Backend.Line) :
    (h.event site request line).Applied session (h.run site request access session line).session
      (h.run site request access session line).touched := by
  unfold Handler.run Handler.event
  cases site.shared with
  | none =>
    cases h with
    | login => cases formCredentials request <;> exact applied_neither session
    | jsonLogin => cases jsonCredentials request <;> exact applied_neither session
    | _ => exact applied_neither session
  | some config =>
    cases h with
    | login =>
      cases formCredentials request with
      | error status => exact applied_neither session
      | ok credentials =>
        simp only [Except.toOption, Option.bind_some]
        exact authenticate_applies (.ofUrl config.apiBaseUrl) credentials session line
    | jsonLogin =>
      cases jsonCredentials request with
      | error status => exact applied_neither session
      | ok credentials =>
        simp only [Except.toOption, Option.bind_some]
        exact authenticate_applies (.ofUrl config.apiBaseUrl) credentials session line
    | logout => exact ⟨rfl, rfl⟩
    | pageData =>
      simp only
      cases Backend.Collection.forPage? (afterLast '/' request.path) with
      | none => exact applied_neither session
      | some collection => exact applied_neither session
    | _ => exact applied_neither session

/-! ## The portal -/

/-- The routes of a page: the page itself, and its data if the backend has a collection for it. -/
theorem mem_ofPage {page : Page} {r : Route} (h : r ∈ Route.ofPage page) :
    r = Route.resource page.path (some page.allowed) .page ∨
      r = Route.resource ("/api/data" ++ page.path) (some page.allowed) .pageData ∧
        (Backend.Collection.forPage? page.id).isSome := by
  unfold Route.ofPage at h
  rcases List.mem_cons.1 h with hr | hdata
  · exact Or.inl hr
  · split at hdata
    · rename_i hcollection
      exact Or.inr ⟨List.mem_singleton.1 hdata, hcollection⟩
    · cases hdata

/-- The routes of the portal: the entrance, and for each page the page itself and perhaps its data. -/
theorem mem_portal {config : Config} {registry : Registry} {r : Route}
    (h : r ∈ Route.portal config registry) :
    r ∈ Route.entrance config ∨ ∃ page ∈ registry.pages,
      r = Route.resource page.path (some page.allowed) .page ∨
      r = Route.resource ("/api/data" ++ page.path) (some page.allowed) .pageData ∧
        (Backend.Collection.forPage? page.id).isSome := by
  unfold Route.portal at h
  rcases List.mem_append.1 h with hentrance | hpage
  · exact Or.inl hentrance
  · obtain ⟨page, hpages, hr⟩ := List.mem_flatMap.1 hpage
    exact Or.inr ⟨page, hpages, mem_ofPage hr⟩

theorem mem_entrance {config : Config} {r : Route} (h : r ∈ Route.entrance config) :
    r.guard = none ∧ r.method.isSome ∧
      (r.handler = .login ∨ r.handler = .jsonLogin → r.method = some "POST") := by
  have hall : ∀ q ∈ Route.entrance config, q.guard = none ∧ q.method.isSome ∧
      (q.handler = .login ∨ q.handler = .jsonLogin → q.method = some "POST") := by
    simp [Route.entrance, Route.ofMethod]
  exact hall r h

/-- A route of the portal that is not in the entrance leads to a page or its data. -/
theorem handler_of_mem_portal {config : Config} {registry : Registry} {r : Route}
    (h : r ∈ Route.portal config registry) :
    r ∈ Route.entrance config ∨ r.handler = .page ∨ r.handler = .pageData := by
  rcases mem_portal h with hentrance | ⟨page, -, rfl | ⟨rfl, -⟩⟩
  · exact Or.inl hentrance
  · exact Or.inr (Or.inl rfl)
  · exact Or.inr (Or.inr rfl)

theorem findRoute?_some {routes : List Route} {request : Request} {r : Route}
    (h : findRoute? routes request = some r) :
    r ∈ routes ∧ r.takes request.method (Path.decoded request.path).toList = true :=
  ⟨List.mem_of_find?_eq_some h, by simpa using List.find?_some h⟩

/-- The event of a page's handler: nothing happens to the session. -/
theorem Handler.event_page {h : Handler} (hpage : h = .page ∨ h = .pageData) (site : Site)
    (request : Request) (line : Backend.Line) : h.event site request line = .neither := by
  unfold Handler.event
  rcases hpage with rfl | rfl <;> cases site.shared <;> rfl

theorem Route.handle_applies (r : Route) (site : Site) (request : Request) (access : Option Access)
    (session : CookieStore) (line : Backend.Line)
    (h : r.method.isSome ∨ r.handler.event site request line = .neither) :
    (r.handler.event site request line).Applied session
      (r.handle site request access session line).session
      (r.handle site request access session line).touched := by
  unfold Route.handle
  split
  · rename_i hrefused
    rcases h with hmethod | hneither
    · simp [Option.isNone_iff_eq_none.1 (Bool.and_eq_true_iff.1 hrefused).1] at hmethod
    · rw [hneither]
      exact applied_neither session
  · exact r.handler.run_applies site request access session line

theorem Route.serve_applies {site : Site} {r : Route}
    (h : r ∈ Route.portal site.config site.registry) (request : Request) (session : CookieStore)
    (line : Backend.Line) :
    (r.handler.event site request line).Applied session
      (r.serve site request session line).session (r.serve site request session line).touched := by
  unfold Route.serve
  rcases handler_of_mem_portal h with hentrance | hpage
  · obtain ⟨hguard, hmethod, -⟩ := mem_entrance hentrance
    rw [hguard]
    exact r.handle_applies site request none session line (Or.inl hmethod)
  · have hneither := Handler.event_page hpage site request line
    cases r.guard with
    | none => exact r.handle_applies site request none session line (Or.inr hneither)
    | some allow =>
      simp only
      split
      · rw [hneither]
        exact applied_neither session
      · exact r.handle_applies site request _ session line (Or.inr hneither)

/-- **One request.** The portal does to the session what the event of the request says. -/
theorem serve_applies (site : Site) (request : Request) (session : CookieStore)
    (line : Backend.Line) :
    (eventOf site request line).Applied session
      (serve (Route.portal site.config site.registry) site request session line).session
      (serve (Route.portal site.config site.registry) site request session line).touched := by
  unfold eventOf handlerOf? serve
  cases hroute : findRoute? (Route.portal site.config site.registry) request with
  | none => exact applied_neither session
  | some r => exact Route.serve_applies (findRoute?_some hroute).1 request session line

/-- No guard stands before a handler that is not for pages: the portal runs it. -/
theorem serve_of_handlerOf? {site : Site} {request : Request} {h : Handler}
    (hhandler : handlerOf? site request = some h) (hpage : ¬ (h = .page ∨ h = .pageData))
    (session : CookieStore) (line : Backend.Line) :
    serve (Route.portal site.config site.registry) site request session line =
      h.run site request none session line := by
  obtain ⟨r, hroute, rfl⟩ := Option.map_eq_some_iff.1 hhandler
  have hentrance : r ∈ Route.entrance site.config :=
    (handler_of_mem_portal (findRoute?_some hroute).1).resolve_right hpage
  obtain ⟨hguard, hmethod, -⟩ := mem_entrance hentrance
  have hserved : r.method.isNone = false := by simpa [← Option.not_isSome] using hmethod
  simp [serve, hroute, Route.serve, hguard, Route.handle, hserved]

/-! ## Attempts to log in -/

/-- The request is an attempt to log in with credentials, by form or by JSON. -/
def Attempts (site : Site) (request : Request) (credentials : Credentials) : Prop :=
  (handlerOf? site request = some .login ∧ formCredentials request = .ok credentials) ∨
  (handlerOf? site request = some .jsonLogin ∧ jsonCredentials request = .ok credentials)

/-- An attempt is a login if one is granted. -/
theorem eventOf_attempt {site : Site} {request : Request} {credentials : Credentials} {config : Config}
    (h : Attempts site request credentials) (hshared : site.shared = some config) (line : Backend.Line) :
    eventOf site request line = .ofGrant (granted? line credentials) := by
  rcases h with ⟨hhandler, hcredentials⟩ | ⟨hhandler, hcredentials⟩
  · simp [eventOf, hhandler, Handler.event, hshared, hcredentials, Except.toOption]
  · simp [eventOf, hhandler, Handler.event, hshared, hcredentials, Except.toOption]

/-- An attempt takes one delivery if both credentials say something, and none otherwise. -/
theorem pending_attempt {site : Site} {request : Request} {credentials : Credentials} {config : Config}
    (h : Attempts site request credentials) (hshared : site.shared = some config) (session : CookieStore)
    (line : Backend.Line) :
    (serve (Route.portal site.config site.registry) site request session line).line.pending =
      if allBlank credentials.username || allBlank credentials.password then line.pending
      else line.pending.tail := by
  rcases h with ⟨hhandler, hcredentials⟩ | ⟨hhandler, hcredentials⟩
  · rw [serve_of_handlerOf? hhandler (by decide), ← pending_authenticate (.ofUrl config.apiBaseUrl) credentials session]
    simp only [Handler.run, hcredentials, hshared]
  · rw [serve_of_handlerOf? hhandler (by decide), ← pending_authenticate (.ofUrl config.apiBaseUrl) credentials session]
    simp only [Handler.run, hcredentials, hshared]

/-- A GET that is no logout leaves the session alone: logging in takes a POST. -/
theorem eventOf_get {site : Site} {request : Request} (hget : request.method = "GET")
    (hlogout : handlerOf? site request ≠ some .logout) (line : Backend.Line) :
    eventOf site request line = .neither := by
  unfold handlerOf? at hlogout
  unfold eventOf handlerOf?
  cases hroute : findRoute? (Route.portal site.config site.registry) request with
  | none => rfl
  | some r =>
    obtain ⟨hmem, htakes⟩ := findRoute?_some hroute
    rw [hroute, Option.map_some] at hlogout
    rcases handler_of_mem_portal hmem with hentrance | hpage
    · obtain ⟨-, hmethod, hpost⟩ := mem_entrance hentrance
      have hlogin : ¬ (r.handler = .login ∨ r.handler = .jsonLogin) := by
        intro hlogin
        simp [Route.takes, hget, hpost hlogin] at htakes
      simp only [Option.map_some, Handler.event]
      cases site.shared with
      | none => rfl
      | some config => cases hh : r.handler <;> simp_all
    · exact Handler.event_page hpage site request line

end ResidencePortal.Web
