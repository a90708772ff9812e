import ResidencePortal.Proofs.Web.PlainPath
import ResidencePortal.Proofs.Web.SessionEvent

/-!
# The session of a visitor over many requests

A visitor sends requests one after the other and brings along the cookie of the last reply that set one.
Whatever is requested and whatever the backend answers, the session holds the image of the most recent
login since the last logout, and nothing at all if there was none. What the image of a login is, `ImageOf`
says key by key.

**Runs.** `Visit.run` sends requests to the portal, each to the site as it is at that moment, and threads
the cookie and the line to the backend through. `Visit.events` lists what each request meant.

**Results.**
* `held_settle`: a reply that fits into a cookie hands the visitor the session as the handler left it.
* `Visit.session_step`, `Visit.session_run`: one request applies its event, a run applies all of them.
* `session_holds_last_login`: the session after a run.
-/

namespace ResidencePortal.Web

open Text Session

/-- A visit under way: the cookie that the visitor holds and the line to the backend. -/
structure Visit where
  cookie : Cookie
  line : Backend.Line

namespace Visit

/-- The session that the visitor brings along. -/
def session (v : Visit) : CookieStore := v.cookie.session

/-- The reply of the portal to a request. -/
def answer (v : Visit) (site : Site) (request : Request) : Reply :=
  reply (Route.portal site.config site.registry) site v.cookie request v.line

/-- The visit after a request. -/
def step (v : Visit) (site : Site) (request : Request) : Visit :=
  ⟨(v.answer site request).held v.cookie, (v.answer site request).line⟩

/-- The visit after many requests, each to the site as it is at that moment. -/
def run : Visit → List (Site × Request) → Visit
  | v, [] => v
  | v, (site, request) :: rest => (v.step site request).run rest

/-- What each of the requests meant. -/
def events : Visit → List (Site × Request) → List Event
  | _, [] => []
  | v, (site, request) :: rest => eventOf site request v.line :: (v.step site request).events rest

end Visit

/-- The most recent login since the last logout. -/
def lastLogin? (events : List Event) : Option Backend.Login :=
  (events.reverse.takeWhile fun e => e ≠ .logout).findSome? Event.login?

/-! ## Cookies -/

theorem fits_empty : Cookie.fits .empty = true := by decide

theorem eq_empty_of_isEmpty {s : CookieStore} (h : s.values.isEmpty = true) : s = .empty := by
  obtain ⟨⟨entries, increasing⟩⟩ := s
  have hnil : entries = [] := List.isEmpty_iff.1 h
  subst hnil
  rfl

/-- The visitor then holds the session as it was left, provided that it fits into the cookie and that a
session which was not written to was not changed. -/
theorem held_settle {cookie : Cookie} {served : Served}
    (hfits : needsCookie cookie served = true → Cookie.fits served.session = true)
    (hkept : served.touched = false → served.session = cookie.session) :
    ((settle cookie served).held cookie).session = served.session := by
  unfold settle
  by_cases hneeds : needsCookie cookie served = true
  · rw [if_pos hneeds, if_pos (hfits hneeds)]
    rfl
  · rw [if_neg hneeds]
    unfold needsCookie at hneeds
    cases cookie with
    | some held =>
      have htouched : served.touched = false := by simpa using hneeds
      exact (hkept htouched).symm
    | none =>
      have hempty : served.session.values.isEmpty = true := by simpa using hneeds
      exact (eq_empty_of_isEmpty hempty).symm

/-- Only a login can outgrow the cookie. -/
theorem fits_of_applied {e : Event} {cookie : Cookie} {served : Served}
    (h : e.Applied cookie.session served.session served.touched)
    (hlogin : ∀ login, e = .login login → Cookie.fits (loginSession login.user login.token) = true)
    (hneeds : needsCookie cookie served = true) : Cookie.fits served.session = true := by
  obtain ⟨hsession, htouched⟩ := h
  cases e with
  | login login => rw [hsession]; exact hlogin login rfl
  | logout => rw [hsession]; exact fits_empty
  | neither =>
    -- without a cookie the session was empty, so that no cookie is needed
    unfold needsCookie at hneeds
    cases cookie with
    | some held => simp [htouched, Event.writes] at hneeds
    | none => rw [hsession]; exact fits_empty

/-! ## One request -/

namespace Visit

/-- **One request** applies its event to the session of the visitor. -/
theorem session_step (v : Visit) (site : Site) (request : Request)
    (hlogin : ∀ login, eventOf site request v.line = .login login →
      Cookie.fits (loginSession login.user login.token) = true) :
    (v.step site request).session = (eventOf site request v.line).apply v.session := by
  have happlied := serve_applies site request v.cookie.session v.line
  refine (held_settle (fits_of_applied happlied hlogin) ?_).trans happlied.1
  intro huntouched
  rw [happlied.2] at huntouched
  rw [happlied.1]
  cases he : eventOf site request v.line with
  | neither => rfl
  | login login => rw [he] at huntouched; cases huntouched
  | logout => rw [he] at huntouched; cases huntouched

/-- An attempt to log in takes one delivery if both credentials say something, and none otherwise. -/
theorem pending_step (v : Visit) {site : Site} {request : Request} {credentials : Credentials} {config : Config}
    (h : Attempts site request credentials) (hshared : site.shared = some config) :
    (v.step site request).line.pending =
      if allBlank credentials.username || allBlank credentials.password then v.line.pending
      else v.line.pending.tail := by
  rw [step, answer, reply, line_settle]
  exact pending_attempt h hshared v.cookie.session v.line

/-! ## Many requests -/

theorem events_take (v : Visit) (steps : List (Site × Request)) (n : Nat) :
    v.events (steps.take n) = (v.events steps).take n := by
  induction steps generalizing v n with
  | nil => simp [events]
  | cons first rest ih =>
    obtain ⟨site, request⟩ := first
    cases n with
    | zero => rfl
    | succ n => rw [List.take_succ_cons, events, events, List.take_succ_cons, ih]

theorem session_run (v : Visit) (steps : List (Site × Request))
    (hlogin : ∀ login, .login login ∈ v.events steps →
      Cookie.fits (loginSession login.user login.token) = true) :
    (v.run steps).session = (v.events steps).foldl (fun s e => e.apply s) v.session := by
  induction steps generalizing v with
  | nil => rfl
  | cons first rest ih =>
    obtain ⟨site, request⟩ := first
    rw [run, events, List.foldl_cons, ← v.session_step site request]
    · apply ih
      intro login hmem
      exact hlogin login (List.mem_cons_of_mem _ hmem)
    · intro login heq
      apply hlogin login
      rw [events, heq]
      exact List.mem_cons_self

end Visit

/-- Events seen from the last one back: what a logout wiped out and what a login replaced does not
matter. -/
theorem foldr_apply (events : List Event) :
    events.foldr (fun e s => e.apply s) .empty =
      ((events.takeWhile fun e => e ≠ .logout).findSome? Event.login?).elim .empty
        fun login => loginSession login.user login.token := by
  induction events with
  | nil => rfl
  | cons e rest ih =>
    rw [List.foldr_cons, ih]
    cases e with
    | login login => rfl
    | logout => rfl
    | neither => rfl

theorem foldl_apply (events : List Event) :
    events.foldl (fun s e => e.apply s) .empty =
      (lastLogin? events).elim .empty fun login => loginSession login.user login.token := by
  rw [← List.foldr_reverse, foldr_apply, lastLogin?]

/-- **The session after any run.** A visitor starts with an empty session and sends any requests, and
the backend delivers whatever it likes; no login outgrows the cookie. Then the session holds the image of the
most recent login since the last logout, and nothing if there was no such login. A login is one that
succeeded: an attempt answers a user exactly if it is granted. In particular a request that is neither a
login nor a logout leaves any session as it was, and so does every GET but the logout. -/
theorem session_holds_last_login (start : Visit) (steps : List (Site × Request))
    (hempty : start.session = .empty)
    (hfits : ∀ login, .login login ∈ start.events steps →
      Cookie.fits (loginSession login.user login.token) = true) :
    (match lastLogin? (start.events steps) with
      | some login => ImageOf login.user login.token (start.run steps).session.values
      | none => (start.run steps).session.values.entries = []) ∧
    (∀ (client : Backend.Client) (credentials : Credentials) (session : CookieStore)
      (line : Backend.Line), (authenticate client credentials session line).result.toOption =
        (granted? line credentials).map Backend.Login.user) ∧
    (∀ (v : Visit) (site : Site) (request : Request), eventOf site request v.line = .neither →
      (v.step site request).session = v.session) ∧
    (∀ (v : Visit) (site : Site) (request : Request), request.method = "GET" →
      handlerOf? site request ≠ some .logout → (v.step site request).session = v.session) := by
  have hneither : ∀ (v : Visit) (site : Site) (request : Request),
      eventOf site request v.line = .neither → (v.step site request).session = v.session := by
    intro v site request hevent
    rw [v.session_step site request (fun login heq => by rw [hevent] at heq; cases heq), hevent]
    rfl
  refine ⟨?_, authenticate_result, hneither, ?_⟩
  · rw [start.session_run steps hfits, hempty, foldl_apply]
    cases lastLogin? (start.events steps) with
    | some login => exact imageOf_loginSession login.user login.token
    | none => rfl
  · intro v site request hget hlogout
    exact hneither v site request (eventOf_get hget hlogout v.line)

/-- A portal without pages. -/
def bareSite : Site := ⟨.standard, some .standard, .empty, 2025, "noon"⟩

/-- A login by form. -/
def formLogin : Request :=
  ⟨"POST", "/login", some "application/x-www-form-urlencoded", "username=an&password=secret", none⟩

/-- A login by JSON, with a name of blanks. -/
def blankLogin : Request := ⟨"POST", "/api/login", some "application/json", "[\" \",\"secret\"]", none⟩

/-- A login by JSON of someone else. -/
def jsonLogin : Request := ⟨"POST", "/api/login", some "application/json", "[\"binh\",\"secret\"]", none⟩

/-- A question for the health of the portal. -/
def healthCheck : Request := ⟨"GET", "/health", none, "", none⟩

/-- A logout. -/
def plainLogout : Request := ⟨"GET", "/logout", none, "", none⟩

/-- The answer that grants the login by form. -/
def formAnswer : Backend.Reply := ⟨200, some "application/json",
  "\x7b\"data\":\x7b\"id\":7,\"hoTen\":\"An\",\"role\":\" Admin \"\x7d,\"token\":\"t\"\x7d"⟩

/-- An answer that grants nothing. -/
def refusal : Backend.Reply := ⟨401, some "application/json", "\x7b\"message\":\"wrong\"\x7d"⟩

/-- The answer that grants the login by JSON: a record with a name alone, and no token. -/
def jsonAnswer : Backend.Reply := ⟨200, some "application/json", "\x7b\"tenDangNhap\":\"binh\"\x7d"⟩

/-- What is granted for the form. -/
def formGrant : Backend.Login := ⟨⟨some 7, none, some "An", none, some " Admin ", none⟩, some "t"⟩

/-- What is granted for the JSON. -/
def jsonGrant : Backend.Login := ⟨⟨none, some "binh", none, none, none, none⟩, none⟩

/-- A visit before the first request, with the answers of the backend still to come. -/
def freshVisit : Visit := ⟨none, .ofDeliveries [.ok formAnswer, .ok refusal, .ok jsonAnswer]⟩

/-- Two failed logins after a successful one, another login, a question and the logout. -/
def visitSteps : List (Site × Request) :=
  [formLogin, blankLogin, jsonLogin, jsonLogin, healthCheck, plainLogout].map fun request =>
    (bareSite, request)

/-- Where the requests lead. -/
theorem handlerOf?_bareSite :
    handlerOf? bareSite formLogin = some .login ∧ handlerOf? bareSite blankLogin = some .jsonLogin ∧
    handlerOf? bareSite jsonLogin = some .jsonLogin ∧ handlerOf? bareSite healthCheck = some .health ∧
    handlerOf? bareSite plainLogout = some .logout := by
  have hhandler : ∀ {request : Request} {path : String} {h : Handler}, request.path = path →
      Path.isPlain path = true →
      ((Route.portal bareSite.config bareSite.registry).find? fun r => r.takes request.method path.toList).map
        Route.handler = some h → handlerOf? bareSite request = some h := by
    intro request path h hpath hplain hfind
    rw [handlerOf?, findRoute?, Request.decoded_path hpath hplain, hfind]
  refine ⟨hhandler rfl ?_ ?_, hhandler rfl ?_ ?_, hhandler rfl ?_ ?_, hhandler rfl ?_ ?_, hhandler rfl ?_ ?_⟩ <;>
    decide +kernel

/-- The form is read as it is written. -/
theorem credentials_formLogin : formCredentials formLogin = .ok ⟨"an", "secret"⟩ := by
  have hcharset : formLogin.contentType.bind MediaType.formCharset? = some .utf8 := by decide +kernel
  have hpieces : (splitOn '&' formLogin.body.toList).filter (fun piece => !piece.isEmpty) =
      ["username=an".toList, "password=secret".toList] := by decide +kernel
  have hplain : ∀ text ∈ ["username", "an", "password", "secret"], Form.decode text.toList = text := by
    have hall : ∀ text ∈ ["username", "an", "password", "secret"],
        Path.isPlain text = true ∧ '+' ∉ text.toList := by decide +kernel
    exact fun text htext => Form.decode_of_isPlain (hall text htext).1 (hall text htext).2
  have hpairs : Form.pairs formLogin.body = [("username", "an"), ("password", "secret")] := by
    have hname : Form.pair "username=an".toList = (Form.decode "username".toList, Form.decode "an".toList) := rfl
    have hword : Form.pair "password=secret".toList =
        (Form.decode "password".toList, Form.decode "secret".toList) := rfl
    simp only [Form.pairs, hpieces, List.map_cons, List.map_nil, hname, hword]
    rw [hplain "username" (by decide), hplain "an" (by decide), hplain "password" (by decide),
      hplain "secret" (by decide)]
  have hcredentials : Form.credentials? formLogin.body = some ⟨"an", "secret"⟩ := by
    simp [Form.credentials?, hpairs, Form.field?]
  have hsize : ¬ formLimit < (utf8Bytes formLogin.body).length := by decide +kernel
  simp [formCredentials, hcharset, hsize, Charset.text?, hcredentials]

/-- What the requests mean. -/
theorem events_visitSteps : freshVisit.events visitSteps =
    [.login formGrant, .neither, .neither, .login jsonGrant, .neither, .logout] := by
  obtain ⟨hform, hblank, hjson, hhealth, hlogout⟩ := handlerOf?_bareSite
  have hfirst : Attempts bareSite formLogin ⟨"an", "secret"⟩ := Or.inl ⟨hform, credentials_formLogin⟩
  have hsecond : Attempts bareSite blankLogin ⟨" ", "secret"⟩ := Or.inr ⟨hblank, rfl⟩
  have hthird : Attempts bareSite jsonLogin ⟨"binh", "secret"⟩ := Or.inr ⟨hjson, rfl⟩
  let v₁ := freshVisit.step bareSite formLogin
  let v₂ := v₁.step bareSite blankLogin
  let v₃ := v₂.step bareSite jsonLogin
  -- Each attempt but the one without a name takes a delivery.
  have hleft₁ : v₁.line.pending = [.ok refusal, .ok jsonAnswer] := freshVisit.pending_step hfirst rfl
  have hleft₂ : v₂.line.pending = [.ok refusal, .ok jsonAnswer] := (v₁.pending_step hsecond rfl).trans hleft₁
  have hleft₃ : v₃.line.pending = [.ok jsonAnswer] := by
    rw [v₂.pending_step hthird rfl, hleft₂]
    rfl
  have hgranted : ∀ (line : Backend.Line) (credentials : Credentials),
      granted? line credentials = granted? (.ofDeliveries line.pending) credentials := fun _ _ => rfl
  have hevents : freshVisit.events visitSteps =
      [eventOf bareSite formLogin freshVisit.line, eventOf bareSite blankLogin v₁.line,
        eventOf bareSite jsonLogin v₂.line, eventOf bareSite jsonLogin v₃.line,
        eventOf bareSite healthCheck (v₃.step bareSite jsonLogin).line,
        eventOf bareSite plainLogout ((v₃.step bareSite jsonLogin).step bareSite healthCheck).line] := rfl
  rw [hevents, eventOf_attempt hfirst rfl, eventOf_attempt hsecond rfl, eventOf_attempt hthird rfl,
    eventOf_attempt hthird rfl, hgranted v₁.line, hleft₁, hgranted v₂.line, hleft₂, hgranted v₃.line, hleft₃,
    eventOf_get rfl (by rw [hhealth]; decide), eventOf, hlogout]
  decide +kernel

/-- The first login stays through two failed ones; the next leaves nothing of it, and the logout nothing at
all. -/
theorem session_through_logins :
    freshVisit.events visitSteps =
      [.login formGrant, .neither, .neither, .login jsonGrant, .neither, .logout] ∧
    (∀ key, (freshVisit.run (visitSteps.take 3)).session.values.find? key =
      (Entries.find? key [("currentUser", "\x7b\"id\":7,\"hoTen\":\"An\",\"role\":\" Admin \"\x7d"),
        ("isLoggedIn", "true"), ("role", "Admin"), ("accessToken", "t")]).map .str) ∧
    (∀ key, (freshVisit.run (visitSteps.take 5)).session.values.find? key =
      (Entries.find? key [("currentUser", "\x7b\"tenDangNhap\":\"binh\"\x7d"), ("isLoggedIn", "true")]).map .str) ∧
    (freshVisit.run visitSteps).session.values.entries = [] := by
  have hevents := events_visitSteps
  have hfits : ∀ n login, .login login ∈ freshVisit.events (visitSteps.take n) →
      Cookie.fits (loginSession login.user login.token) = true := by
    intro n login hmem
    rw [Visit.events_take] at hmem
    have hlogin : login = formGrant ∨ login = jsonGrant := by simpa [hevents] using List.mem_of_mem_take hmem
    rcases hlogin with rfl | rfl <;> decide +kernel
  have himage := fun n => (session_holds_last_login freshVisit (visitSteps.take n) rfl (hfits n)).1
  simp only [Visit.events_take, hevents] at himage
  have hfirst : ImageOf formGrant.user formGrant.token (freshVisit.run (visitSteps.take 3)).session.values := himage 3
  have hsecond : ImageOf jsonGrant.user jsonGrant.token (freshVisit.run (visitSteps.take 5)).session.values :=
    himage 5
  refine ⟨hevents, fun key => ?_, fun key => ?_, himage 6⟩
  · rw [hfirst.find?_eq]
    have hentries : loginEntries formGrant.user formGrant.token =
        [("currentUser", "\x7b\"id\":7,\"hoTen\":\"An\",\"role\":\" Admin \"\x7d"), ("isLoggedIn", "true"),
          ("role", "Admin"), ("accessToken", "t")] := by decide +kernel
    rw [hentries]
  · rw [hsecond.find?_eq]
    have hentries : loginEntries jsonGrant.user jsonGrant.token =
        [("currentUser", "\x7b\"tenDangNhap\":\"binh\"\x7d"), ("isLoggedIn", "true")] := by decide +kernel
    rw [hentries]

end ResidencePortal.Web
