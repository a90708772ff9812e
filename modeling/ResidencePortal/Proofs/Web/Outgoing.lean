import ResidencePortal.Proofs.RoleResolution
import ResidencePortal.Proofs.Web.PageContent

/-!
# What is asked of the backend

A request of a visitor makes the portal send at most one request to the backend: a login asks with the
credentials and nothing else, and the data of a page is asked for with the token of the session. All other
requests, and those that a guard turns away, send nothing. What is sent is fixed before anything comes back.

**Results.**
* `Handler.sent_run`, `Route.sent_serve`, `sent_reply`: what a handler, a route and the portal send, on every
  line to the backend.
* `bearer?_stored`: the token of a visitor stands in the session of that visitor.
* `outgoing_login`, `outgoing_cases`: logins carry no token, and nothing is sent but by logins and fetches.
* `response_of_fetch`: what a fetch answers, for every delivery.
-/

namespace ResidencePortal.Web

open Text Session
open Backend (Collection)

/-! ## Handlers -/

/-- The request by which credentials are checked; blank ones are not. -/
def loginRequests (config : Config) (credentials : Credentials) : List Backend.Request :=
  if (trim credentials.username).isEmpty || (trim credentials.password).isEmpty then []
  else
    [((Backend.Client.ofUrl config.apiBaseUrl).login
      ⟨trim credentials.username, trim credentials.password⟩).request]

/-- The request by which a collection is listed for the visitor of a session. -/
def fetchRequest (config : Config) (session : CookieStore) (collection : Collection) :
    Backend.Request :=
  (collection.list (clientOf config session)).request

/-- What a handler sends. -/
def Handler.outgoing (h : Handler) (site : Site) (request : Request) (session : CookieStore) :
    List Backend.Request :=
  match site.shared with
  | none => []
  | some config =>
    match h with
    | .login => ((formCredentials request).toOption.map (loginRequests config)).getD []
    | .jsonLogin => ((jsonCredentials request).toOption.map (loginRequests config)).getD []
    | .pageData => ((listedCollection? request).map (fetchRequest config session)).toList
    | _ => []

theorem sent_authenticate (config : Config) (credentials : Credentials) (session : CookieStore)
    (line : Backend.Line) :
    (authenticate (.ofUrl config.apiBaseUrl) credentials session line).line.sent =
      line.sent ++ loginRequests config credentials := by
  unfold authenticate loginRequests
  simp only
  split
  · simp
  · have hsent := Backend.Call.sent_run ((Backend.Client.ofUrl config.apiBaseUrl).login
      ⟨trim credentials.username, trim credentials.password⟩) line
    rw [← hsent]
    cases ((Backend.Client.ofUrl config.apiBaseUrl).login
      ⟨trim credentials.username, trim credentials.password⟩).run line with
    | mk result line' =>
      cases result with
      | error failure => rfl
      | ok login =>
        simp only
        split <;> rfl

/-- **A handler** sends what `outgoing` says, whatever the line to the backend holds. -/
theorem Handler.sent_run (h : Handler) (site : Site) (request : Request) (access : Option Access)
    (session : CookieStore) (line : Backend.Line) :
    (h.run site request access session line).line.sent =
      line.sent ++ h.outgoing site request session := by
  unfold Handler.run Handler.outgoing
  cases site.shared with
  | none =>
    cases h with
    | login => cases formCredentials request <;> simp
    | jsonLogin => cases jsonCredentials request <;> simp
    | _ => simp
  | some config =>
    cases h with
    | login =>
      cases formCredentials request with
      | error status => simp [Except.toOption]
      | ok credentials =>
        simp only [Except.toOption, Option.map_some, Option.getD_some]
        exact sent_authenticate config credentials session line
    | jsonLogin =>
      cases jsonCredentials request with
      | error status => simp [Except.toOption]
      | ok credentials =>
        simp only [Except.toOption, Option.map_some, Option.getD_some]
        exact sent_authenticate config credentials session line
    | pageData =>
      simp only [← listedCollection?.eq_def]
      cases listedCollection? request with
      | none => simp
      | some collection =>
        simp only [Option.map_some, Option.toList_some, fetchRequest,
          ← Backend.Call.sent_run (collection.list (clientOf config session)) line]
        rfl
    | _ => simp

/-! ## The portal -/

/-- What a route sends: nothing if its guard denies or the method is refused. -/
def Route.outgoing (r : Route) (site : Site) (request : Request) (session : CookieStore) :
    List Backend.Request :=
  match r.guard.bind fun allow =>
      (Guard.decide (Store.visitor session request.loaded) allow site.destinations).denial? with
  | some _ => []
  | none =>
    if r.method.isNone && request.method != "GET" then [] else r.handler.outgoing site request session

/-- What the portal sends for a request. -/
def outgoing (site : Site) (cookie : Cookie) (request : Request) : List Backend.Request :=
  match findRoute? site.routes request with
  | some route => route.outgoing site request cookie.session
  | none => []

theorem Route.sent_serve (r : Route) (site : Site) (request : Request) (session : CookieStore)
    (line : Backend.Line) :
    (r.serve site request session line).line.sent = line.sent ++ r.outgoing site request session := by
  have hhandle : ∀ access, (r.handle site request access session line).line.sent = line.sent ++
      if r.method.isNone && request.method != "GET" then []
      else r.handler.outgoing site request session := by
    intro access
    unfold Route.handle
    split
    · simp
    · exact r.handler.sent_run site request access session line
  unfold Route.serve Route.outgoing Site.destinations
  cases r.guard with
  | none => exact hhandle none
  | some allow =>
    simp only [Option.bind_some]
    cases Guard.decide (Store.visitor session request.loaded) allow
        ((site.shared.map Config.destinations).getD .standard) with
    | denied denial => simp [Guard.Verdict.denial?]
    | allowed access => exact hhandle (some access)

/-- **The portal** sends what `outgoing` says, whatever the line to the backend holds. -/
theorem sent_reply (site : Site) (cookie : Cookie) (request : Request) (line : Backend.Line) :
    (reply site.routes site cookie request line).line.sent =
      line.sent ++ outgoing site cookie request := by
  rw [reply, line_settle]
  unfold serve outgoing
  cases findRoute? site.routes request with
  | none => simp
  | some route => exact route.sent_serve site request cookie.session line

/-! ## Tokens -/

/-- The token of a visitor stands in the session under one of its two names. -/
theorem bearer?_stored {session : CookieStore} {token : String}
    (h : (Store.visitor session none).bearer? = some token) :
    session.values.find? Key.accessToken = some (.str token) ∨
      session.values.find? Key.token = some (.str token) := by
  have hstored : ∀ key, (Store.visitor session none).text? key = some token →
      session.values.find? key = some (.str token) := by
    intro key hkey
    rw [CookieStore.text?_visitor] at hkey
    obtain ⟨v, hv, htext⟩ := Option.bind_eq_some_iff.1 hkey
    cases v <;> cases htext
    exact hv
  unfold Visitor.bearer? unlessBlank at h
  have hread := (Option.filter_eq_some_iff.1 h).1
  cases haccess : (Store.visitor session none).text? Key.accessToken with
  | some text =>
    rw [haccess] at hread
    exact Or.inl (hstored _ (haccess.trans hread))
  | none =>
    rw [haccess] at hread
    exact Or.inr (hstored _ hread)

/-! ## Logins and fetches -/

/-- The request is a login, by form or by JSON. -/
def LogsIn (site : Site) (request : Request) : Prop :=
  handlerOf? site request = some .login ∨ handlerOf? site request = some .jsonLogin

/-- The request fetches a collection: the guard of a page admits the visitor to its data, and the last
segment of the path names the collection. -/
def Fetches (site : Site) (cookie : Cookie) (request : Request) (collection : Collection) : Prop :=
  ∃ page route access, Admitted site cookie request page route access ∧ route.handler = .pageData ∧
    listedCollection? request = some collection

variable {site : Site} {config : Config} {cookie : Cookie} {request : Request}
  {collection : Collection}

/-- The portal sends nothing, or what the handler of a route sends whose guard admits the visitor and
whose method is met. -/
theorem outgoing_eq (site : Site) (cookie : Cookie) (request : Request) :
    outgoing site cookie request = [] ∨
      ∃ route, findRoute? site.routes request = some route ∧
        outgoing site cookie request = route.handler.outgoing site request cookie.session ∧
        (∀ allow, route.guard = some allow → ∃ access,
          Guard.decide (Store.visitor cookie.session request.loaded) allow site.destinations =
            .allowed access) ∧
        (route.method = none → request.method = "GET") := by
  unfold outgoing
  cases findRoute? site.routes request with
  | none => exact Or.inl rfl
  | some route =>
    simp only [Route.outgoing]
    split
    · exact Or.inl rfl
    · rename_i hguard
      split
      · exact Or.inl rfl
      · rename_i hmethod
        refine Or.inr ⟨route, rfl, rfl, fun allow hallow => ?_, fun hnone => ?_⟩
        · rw [hallow, Option.bind_some] at hguard
          cases hverdict : Guard.decide (Store.visitor cookie.session request.loaded) allow
              site.destinations with
          | allowed access => exact ⟨access, rfl⟩
          | denied denial =>
            rw [hverdict] at hguard
            cases hguard
        · simpa [hnone] using hmethod

/-- A login asks the backend at most once, with a POST that carries no token. -/
theorem outgoing_login (h : LogsIn site request) (hshared : site.shared = some config) :
    (outgoing site cookie request).length ≤ 1 ∧
      ∀ asked ∈ outgoing site cookie request, asked.method = .post ∧
        asked.url = dropTrailing '/' config.apiBaseUrl ++ "/login" ∧ asked.bearer = none := by
  have hrequests : ∀ credentials : Option Credentials,
      ((credentials.map (loginRequests config)).getD []).length ≤ 1 ∧
      ∀ asked ∈ (credentials.map (loginRequests config)).getD [], asked.method = .post ∧
        asked.url = dropTrailing '/' config.apiBaseUrl ++ "/login" ∧ asked.bearer = none := by
    intro credentials
    cases credentials with
    | none => simp
    | some credentials =>
      rw [Option.map_some, Option.getD_some, loginRequests]
      split
      · simp
      · simp [Backend.Client.login, Backend.Client.call, Backend.Client.request,
          Backend.Call.andThen, Backend.Client.ofUrl]
  rcases outgoing_eq site cookie request with hnothing | ⟨route, htaken, hsent, -, -⟩
  · simp [hnothing]
  · rw [LogsIn, handlerOf?, ← Site.routes, htaken, Option.map_some, Option.some_inj,
      Option.some_inj] at h
    rcases h with hlogin | hlogin
    · rw [hsent, hlogin]
      simp only [Handler.outgoing, hshared]
      exact hrequests _
    · rw [hsent, hlogin]
      simp only [Handler.outgoing, hshared]
      exact hrequests _

/-- The data of a page is mounted for the page only. -/
theorem mounted_of_pageData {route : Route} (h : route ∈ site.routes) (hhandler : route.handler = .pageData) :
    ∃ page ∈ site.registry.pages, route ∈ Route.ofPage page := by
  rcases List.mem_append.1 h with hentrance | hpage
  · have hother : ∀ q ∈ Route.entrance site.config, q.handler ≠ .pageData := by
      simp [Route.entrance, Route.ofMethod]
    exact absurd hhandler (hother route hentrance)
  · exact List.mem_flatMap.1 hpage

/-- Nothing is sent but by logins and fetches. -/
theorem outgoing_cases (h : outgoing site cookie request ≠ []) :
    LogsIn site request ∨ ∃ collection, Fetches site cookie request collection := by
  rcases outgoing_eq site cookie request with hnothing | ⟨route, htaken, hsent, hguard, hmethod⟩
  · exact absurd hnothing h
  · rw [hsent] at h
    unfold Handler.outgoing at h
    split at h
    · exact absurd rfl h
    · split at h
      · rename_i hlogin
        exact Or.inl (Or.inl (by rw [handlerOf?, ← Site.routes, htaken, Option.map_some, hlogin]))
      · rename_i hlogin
        exact Or.inl (Or.inr (by rw [handlerOf?, ← Site.routes, htaken, Option.map_some, hlogin]))
      · rename_i hhandler
        obtain ⟨page, hpage, hmounted⟩ := mounted_of_pageData (findRoute?_some htaken).1 hhandler
        obtain ⟨hallow, hnone⟩ := guard_of_mem_ofPage hmounted
        obtain ⟨access, hadmits⟩ := hguard page.allowed hallow
        cases hlisted : listedCollection? request with
        | none => simp [hlisted] at h
        | some collection =>
          exact Or.inr ⟨collection, page, route, access,
            ⟨hpage, hmounted, htaken, hmethod hnone, hadmits⟩, hhandler, hlisted⟩
      · exact absurd rfl h

/-- A fetch sends the request that lists its collection. -/
theorem outgoing_fetch (h : Fetches site cookie request collection)
    (hshared : site.shared = some config) :
    outgoing site cookie request = [⟨.get, dropTrailing '/' config.apiBaseUrl ++ collection.path, none,
      (Store.visitor cookie.session none).bearer?⟩] := by
  obtain ⟨page, route, access, hadmitted, hhandler, hlisted⟩ := h
  obtain ⟨result, line, -, hsent, hreply⟩ :=
    (reply_of_pageData hadmitted hshared hhandler (.ofDeliveries [])).1 collection hlisted
  have hall := sent_reply site cookie request (.ofDeliveries [])
  rw [hreply] at hall
  exact (List.append_cancel_left (hsent.symm.trans hall)).symm

/-! ## What a fetch answers -/

/-- The value lists these items: it is the list itself, or has the list under `data`, or holds no list in
either place and lists nothing. -/
def Lists (v : Json) (items : List Json) : Prop :=
  v = .arr items ∨ v.get? "data" = some (.arr items) ∨
    items = [] ∧ ∀ other, v ≠ .arr other ∧ v.get? "data" ≠ some (.arr other)

/-- A value lists the items of one list only, those that a fetch takes from it. -/
theorem lists_iff {v : Json} {items : List Json} : Lists v items ↔ Backend.listItems v = items := by
  unfold Lists Backend.listItems
  split
  · simp [Json.get?]
  · rename_i hbare
    have hbare : ∀ other, ¬ v = .arr other := hbare
    split
    · rename_i found hdata
      simp [hbare, hdata]
    · rename_i hdata
      have hdata : ∀ other, ¬ v.get? "data" = some (.arr other) := hdata
      simp [hbare, hdata, @eq_comm _ []]

/-- The envelope of a result, its members in order. -/
theorem envelopeOk_eq (data : Json) :
    envelopeOk data = .obj [("data", data), ("message", .null), ("success", .bool true)] := by
  have hdata : "data" < "success" := by decide
  have hmessage : "message" < "success" ∧ ¬ "message" < "data" := by decide
  simp [envelopeOk, envelope, Json.object, Entries.insert, hdata, hmessage]

/-- **A fetch** answers with the items of an answer that is accepted, and with status 502 if there is no
answer or it is not accepted. -/
theorem response_of_fetch (h : Fetches site cookie request collection)
    (hshared : site.shared = some config) (delivery : Backend.Delivery) :
    (∀ answer v, delivery = .ok answer → answer.normalize = .ok v → ∃ items, Lists v items ∧
      (reply site.routes site cookie request (.ofDeliveries [delivery])).response =
        ⟨200, none, .json (.obj [("data", .arr items), ("message", .null), ("success", .bool true)])⟩) ∧
    ((∀ answer v, delivery = .ok answer → answer.normalize ≠ .ok v) →
      (reply site.routes site cookie request (.ofDeliveries [delivery])).response.status = 502) := by
  obtain ⟨page, route, access, hadmitted, hhandler, hlisted⟩ := h
  obtain ⟨result, line, hrun, -, hreply⟩ :=
    (reply_of_pageData hadmitted hshared hhandler (.ofDeliveries [delivery])).1 collection hlisted
  have hresult : result = (collection.list (clientOf config cookie.session)).receive delivery :=
    (congrArg Prod.fst hrun).symm
  rw [hreply]
  refine ⟨fun answer v hdelivery hv => ⟨Backend.listItems v, lists_iff.2 rfl, ?_⟩, fun hrefused => ?_⟩
  · have hitems : result = .ok (Backend.listItems v) := by
      rw [hresult, hdelivery]
      simp only [Backend.Call.receive, Collection.list, Backend.Call.andThen, Backend.Client.call, hv]
      rfl
    rw [hitems, dataResponse, envelopeOk_eq]
    rfl
  · have hfailed : ∃ failure, result = .error failure := by
      rw [hresult]
      cases delivery with
      | error reason => exact ⟨.transport reason, rfl⟩
      | ok answer =>
        cases hanswer : answer.normalize with
        | ok v => exact absurd hanswer (hrefused answer v rfl)
        | error failure =>
          refine ⟨failure, ?_⟩
          simp only [Backend.Call.receive, Collection.list, Backend.Call.andThen, Backend.Client.call,
            hanswer]
          rfl
    obtain ⟨failure, hfailure⟩ := hfailed
    rw [hfailure]
    rfl

end ResidencePortal.Web
