import ResidencePortal.Proofs.Backend.WordAddress
import ResidencePortal.Proofs.Web.Outgoing

/-!
# Many visitors at once

Visitors send requests whenever they like, also while others or they themselves still wait for a reply. All
share one portal and one line to the backend, and the backend answers in any order, with anything. A token
is only ever sent for the visitor in whose session it stands.

**Runs.** A visitor asks: the request takes along the cookie that the visitor holds at that moment, and what
it asks of the backend is sent. Later one of the requests under way is answered with what the backend
delivers: the visitor gets the reply and holds the cookie that it sets. `Traffic.run` makes such moves in the
order in which they happen; the portal may change between them.

**Results.**
* `Exchange.Sound`, `Traffic.sound_step`, `Traffic.sound_run`: every exchange of a run was asked at a moment
  of the run, with the cookie of that visitor at that moment, and was sent and replied as the portal does.
* `Traffic.asks_run`: every request that was asked is an exchange.
* `tokens_stay_with_visitors`: what is sent and replied in a run.
-/

namespace ResidencePortal.Web

open Text Session
open Backend (Collection)

variable {ι : Type}

/-! ## Runs -/

/-- A request of a visitor and what has come of it. -/
structure Exchange (ι : Type) where
  who : ι
  /-- The portal as it was when the request was made. -/
  site : Site
  request : Request
  /-- The cookie that the request took along. -/
  cookie : Cookie
  /-- What was sent to the backend for it. -/
  sent : List Backend.Request
  /-- What the backend delivered and what the visitor got, once it is so. -/
  outcome : Option (Backend.Delivery × Reply)

/-- What visitors hold, and their requests so far. -/
structure Traffic (ι : Type) where
  cookies : ι → Cookie
  exchanges : List (Exchange ι)

/-- What happens next. -/
inductive Move (ι : Type) where
  /-- A visitor makes a request. -/
  | ask (who : ι) (site : Site) (request : Request)
  /-- The request at a place, counted from the first, gets its reply. The delivery is what the backend has
  for it; if nothing was asked of the backend, it does not matter. -/
  | answer (place : Nat) (delivery : Backend.Delivery)

/-- The request of a move. -/
def Move.asked? : Move ι → Option (ι × Site × Request)
  | ask who site request => some (who, site, request)
  | answer _ _ => none

/-- The request of an exchange. -/
def Exchange.asked (e : Exchange ι) : ι × Site × Request := (e.who, e.site, e.request)

/-- The reply of an exchange if the backend delivers so. -/
def Exchange.replyTo (e : Exchange ι) (delivery : Backend.Delivery) : Reply :=
  reply e.site.routes e.site e.cookie e.request (.ofDeliveries [delivery])

namespace Traffic

/-- The start: nobody has asked for anything. -/
def start (cookies : ι → Cookie) : Traffic ι := ⟨cookies, []⟩

/-- The traffic after a request. The handler runs up to the point where it waits for a delivery. -/
def ask (t : Traffic ι) (who : ι) (site : Site) (request : Request) : Traffic ι :=
  let sent := (reply site.routes site (t.cookies who) request (.ofDeliveries [])).line.sent
  { t with exchanges := t.exchanges ++ [⟨who, site, request, t.cookies who, sent, none⟩] }

variable [DecidableEq ι]

/-- The traffic after a delivery. One for a request that is not under way is lost. -/
def answer (t : Traffic ι) (place : Nat) (delivery : Backend.Delivery) : Traffic ι :=
  match t.exchanges[place]? with
  | none => t
  | some e =>
    if e.outcome.isSome then t
    else
      { cookies := fun who =>
          if who = e.who then (e.replyTo delivery).held (t.cookies who) else t.cookies who
        exchanges := t.exchanges.set place { e with outcome := some (delivery, e.replyTo delivery) } }

/-- The traffic after a move. -/
def step (t : Traffic ι) : Move ι → Traffic ι
  | .ask who site request => t.ask who site request
  | .answer place delivery => t.answer place delivery

/-- The traffic after many moves. -/
def run (t : Traffic ι) (moves : List (Move ι)) : Traffic ι := moves.foldl step t

theorem run_concat (t : Traffic ι) (moves : List (Move ι)) (move : Move ι) :
    t.run (moves ++ [move]) = (t.run moves).step move := by
  simp [run]

end Traffic

variable [DecidableEq ι]

/-! ## What holds of every exchange -/

/-- The exchange belongs to a run: it was asked at some moment of the run with the cookie of its visitor at
that moment, and what was sent and replied is what the portal sends and replies. -/
structure Exchange.Sound (cookies : ι → Cookie) (moves : List (Move ι)) (e : Exchange ι) : Prop where
  asked : ∃ before after, moves = before ++ .ask e.who e.site e.request :: after ∧
    e.cookie = ((Traffic.start cookies).run before).cookies e.who
  sent : e.sent = outgoing e.site e.cookie e.request
  replied : ∀ delivery r, e.outcome = some (delivery, r) → r = e.replyTo delivery

/-- What happens later changes nothing about it. -/
theorem Exchange.Sound.concat {cookies : ι → Cookie} {moves : List (Move ι)} {e : Exchange ι}
    (h : e.Sound cookies moves) (move : Move ι) : e.Sound cookies (moves ++ [move]) := by
  obtain ⟨before, after, rfl, hcookie⟩ := h.asked
  exact ⟨⟨before, after ++ [move], by simp, hcookie⟩, h.sent, h.replied⟩

namespace Traffic

/-- **One move** keeps every exchange sound. -/
theorem sound_step {cookies : ι → Cookie} {moves : List (Move ι)}
    (h : ∀ e ∈ ((start cookies).run moves).exchanges, e.Sound cookies moves) (move : Move ι) :
    ∀ e ∈ (((start cookies).run moves).step move).exchanges, e.Sound cookies (moves ++ [move]) := by
  intro e he
  cases move with
  | ask who site request =>
    rcases List.mem_append.1 he with hold | hnew
    · exact (h e hold).concat _
    · rw [List.mem_singleton.1 hnew]
      refine ⟨⟨moves, [], rfl, rfl⟩, sent_reply site _ request (.ofDeliveries []), ?_⟩
      rintro _ _ ⟨⟩
  | answer place delivery =>
    simp only [step, answer] at he
    split at he
    · exact (h e he).concat _
    · rename_i waiting hwaiting
      split at he
      · exact (h e he).concat _
      · rcases List.mem_or_eq_of_mem_set he with hold | rfl
        · exact (h e hold).concat _
        · -- Only the outcome is new, and it is the reply to the delivery.
          have hsound := (h waiting (List.mem_of_getElem? hwaiting)).concat (.answer place delivery)
          refine ⟨hsound.asked, hsound.sent, ?_⟩
          rintro _ _ ⟨⟩
          rfl

/-- **Many moves.** Every exchange of a run is sound. -/
theorem sound_run (cookies : ι → Cookie) (moves : List (Move ι)) :
    ∀ e ∈ ((start cookies).run moves).exchanges, e.Sound cookies moves := by
  induction moves using List.reverseRecOn with
  | nil => simp [run, start]
  | append_singleton moves move ih =>
    rw [run_concat]
    exact sound_step ih move

theorem asks_answer (t : Traffic ι) (place : Nat) (delivery : Backend.Delivery) :
    (t.answer place delivery).exchanges.map Exchange.asked = t.exchanges.map Exchange.asked := by
  unfold answer
  split
  · rfl
  · rename_i e he
    split
    · rfl
    · rw [List.map_set]
      refine List.ext_getElem? fun n => ?_
      by_cases hn : place = n
      · subst hn
        simp [List.getElem?_set_self', he, Exchange.asked]
      · rw [List.getElem?_set_ne hn]

/-- The exchanges of a run are the requests that were made, in order. -/
theorem asks_run (cookies : ι → Cookie) (moves : List (Move ι)) :
    ((start cookies).run moves).exchanges.map Exchange.asked = moves.filterMap Move.asked? := by
  induction moves using List.reverseRecOn with
  | nil => rfl
  | append_singleton moves move ih =>
    rw [run_concat, List.filterMap_append, ← ih]
    cases move with
    | ask who site request => simp [step, ask, Move.asked?, Exchange.asked]
    | answer place delivery => simp [step, asks_answer, Move.asked?]

end Traffic

/-! ## Tokens in traffic -/

/-- **Tokens stay with their visitors.** Any visitors start with any cookies; they make requests to a portal
of one configuration, and the backend delivers, in any order. Every request is an exchange of the run, made
with the cookie that its visitor held at that moment.

* A fetch sends one request to the backend, a GET for its collection without a body. A token in it stands in
  the session of the same visitor at that moment. Whatever is then delivered, the fetch answers with the
  items of an answer that is accepted, and with status 502 in every other case.
* A login sends at most one request, which carries no token.
* Nothing else sends anything, and nothing is sent later on. -/
theorem tokens_stay_with_visitors (config : Config) (cookies : ι → Cookie) (moves : List (Move ι))
    (hshared : ∀ who site request, .ask who site request ∈ moves → site.shared = some config) :
    ((Traffic.start cookies).run moves).exchanges.map Exchange.asked = moves.filterMap Move.asked? ∧
    ∃ base, Backend.IsStem base config.apiBaseUrl ∧
    ∀ e ∈ ((Traffic.start cookies).run moves).exchanges,
      (∃ before after, moves = before ++ .ask e.who e.site e.request :: after ∧
        e.cookie = ((Traffic.start cookies).run before).cookies e.who) ∧
      (∀ collection, Fetches e.site e.cookie e.request collection →
        (∃ bearer, e.sent = [⟨.get, base ++ collection.path, none, bearer⟩] ∧
          ∀ token, bearer = some token →
            e.cookie.session.values.find? "accessToken" = some (.str token) ∨
            e.cookie.session.values.find? "token" = some (.str token)) ∧
        ∀ delivery,
          (∀ answer v, delivery = .ok answer → answer.normalize = .ok v →
            ∃ items, Lists v items ∧ (e.replyTo delivery).response = ⟨200, none,
              .json (.obj [("data", .arr items), ("message", .null), ("success", .bool true)])⟩) ∧
          ((∀ answer v, delivery = .ok answer → answer.normalize ≠ .ok v) →
            (e.replyTo delivery).response.status = 502)) ∧
      (LogsIn e.site e.request → e.sent.length ≤ 1 ∧ ∀ asked ∈ e.sent, asked.method = .post ∧
        asked.url = base ++ "/login" ∧ asked.bearer = none) ∧
      (¬ LogsIn e.site e.request →
        (∀ collection, ¬ Fetches e.site e.cookie e.request collection) → e.sent = []) ∧
      (∀ delivery r, e.outcome = some (delivery, r) →
        r = e.replyTo delivery ∧ r.line.sent = e.sent) := by
  refine ⟨Traffic.asks_run cookies moves, _, Backend.isStem_dropTrailing config.apiBaseUrl, fun e he => ?_⟩
  have hsound := Traffic.sound_run cookies moves e he
  obtain ⟨before, after, hmoves, hcookie⟩ := hsound.asked
  have hconfig : e.site.shared = some config :=
    hshared e.who e.site e.request (by simp [hmoves])
  rw [hsound.sent]
  refine ⟨⟨before, after, hmoves, hcookie⟩, fun collection hfetch => ⟨?_, ?_⟩,
    fun hlogin => outgoing_login hlogin hconfig, fun hlogin hfetch => ?_, fun delivery r hr => ?_⟩
  · exact ⟨_, outgoing_fetch hfetch hconfig, fun token htoken => bearer?_stored htoken⟩
  · exact response_of_fetch hfetch hconfig
  · by_contra hsent
    rcases outgoing_cases hsent with hlogs | ⟨collection, hcollection⟩
    · exact hlogin hlogs
    · exact hfetch collection hcollection
  · have hreplied := hsound.replied delivery r hr
    refine ⟨hreplied, ?_⟩
    rw [hreplied]
    exact sent_reply e.site e.cookie e.request (.ofDeliveries [delivery])

/-- The cookies of two managers, each with a token of its own. -/
def managerCookies (second : Bool) : Cookie :=
  some (.ofList [(Key.role, .str "BanQuanLy"),
    (if second then Key.token else Key.accessToken, .str (if second then "second" else "first"))])

/-- A request for the data of the households. -/
def householdsDataRequest : Request := ⟨"GET", "/api/data/can-ho", none, "", none⟩

/-- Two households, as the backend lists them. -/
def householdsAnswer : Backend.Reply := ⟨200, some "application/json", "\x7b\"data\":[2,1]\x7d"⟩

/-- Both managers ask for the households before the backend delivers, first for the second of them. -/
def crossedMoves : List (Move Bool) :=
  [.ask false (siteOf .standard Page.standard) householdsDataRequest,
    .ask true (siteOf .standard Page.standard) householdsDataRequest,
    .answer 1 (.ok householdsAnswer),
    .answer 0 (.error "down")]

theorem fetches_households (second : Bool) :
    Fetches (siteOf .standard Page.standard) (managerCookies second) householdsDataRequest
      ⟨"/ho-gia-dinh"⟩ := by
  have hdecoded : Path.decoded householdsDataRequest.path = "/api/data/can-ho" :=
    Request.decoded_path (by decide +kernel) (by decide +kernel)
  have htaken : findRoute? (siteOf .standard Page.standard).routes householdsDataRequest = some
      (.resource ("/api/data" ++ householdsPage.path) (some householdsPage.allowed) .pageData) := by
    simp only [findRoute?, hdecoded]
    rfl
  have hadmits : Guard.decide (Store.visitor (managerCookies second).session
      householdsDataRequest.loaded) householdsPage.allowed
      (siteOf .standard Page.standard).destinations = .allowed (.ofRole .management) := by
    revert second
    decide +kernel
  exact ⟨householdsPage, _, _, ⟨by decide +kernel, List.mem_cons_of_mem _ List.mem_cons_self, htaken, rfl,
    hadmits⟩, rfl, by decide +kernel⟩

/-- Each of the two managers asks the backend once, with the own token if with any. The second gets the
households in the order of the backend, the first learns that there is no answer. -/
theorem crossed_fetches_keep_tokens :
    ∃ first second,
      ((Traffic.start managerCookies).run crossedMoves).exchanges = [first, second] ∧
      (∃ bearer, first.sent = [⟨.get, "http://localhost:7070/api/ho-gia-dinh", none, bearer⟩] ∧
        (bearer = none ∨ bearer = some "first")) ∧
      (∃ bearer, second.sent = [⟨.get, "http://localhost:7070/api/ho-gia-dinh", none, bearer⟩] ∧
        (bearer = none ∨ bearer = some "second")) ∧
      (∃ failed, first.outcome = some (.error "down", failed) ∧ failed.response.status = 502) ∧
      ∃ listed, second.outcome = some (.ok householdsAnswer, listed) ∧
        listed.response = ⟨200, none, .json (.obj [("data", .arr [.num (.int 2), .num (.int 1)]),
          ("message", .null), ("success", .bool true)])⟩ := by
  have hshared : ∀ who site request, .ask who site request ∈ crossedMoves →
      site.shared = some .standard := by
    simp [crossedMoves, siteOf]
  obtain ⟨-, base, hstem, hall⟩ :=
    tokens_stay_with_visitors .standard managerCookies crossedMoves hshared
  have hurl : base ++ "/ho-gia-dinh" = "http://localhost:7070/api/ho-gia-dinh" := by
    rw [hstem.eq_dropTrailing]
    decide +kernel
  have hown : ∀ second, ∀ e ∈ ((Traffic.start managerCookies).run crossedMoves).exchanges,
      e.asked = (second, siteOf .standard Page.standard, householdsDataRequest) →
      e.cookie = managerCookies second →
      (∃ bearer, e.sent = [⟨.get, "http://localhost:7070/api/ho-gia-dinh", none, bearer⟩] ∧
        (bearer = none ∨ bearer = some (if second then "second" else "first"))) ∧
      (e.replyTo (.error "down")).response.status = 502 ∧
      ∃ items, Lists (.obj [("data", .arr [.num (.int 2), .num (.int 1)])]) items ∧
        (e.replyTo (.ok householdsAnswer)).response = ⟨200, none,
          .json (.obj [("data", .arr items), ("message", .null), ("success", .bool true)])⟩ := by
    intro second e he hasked hcookie
    obtain ⟨-, hfetch, -⟩ := hall e he
    obtain ⟨-, hsite, hrequest⟩ : e.who = second ∧ e.site = siteOf .standard Page.standard ∧
        e.request = householdsDataRequest := by simpa [Exchange.asked] using hasked
    have hfetches := fetches_households second
    rw [← hsite, ← hcookie, ← hrequest] at hfetches
    obtain ⟨⟨bearer, hsent, hstored⟩, hreplies⟩ := hfetch _ hfetches
    refine ⟨⟨bearer, by rw [hsent, hurl], ?_⟩, (hreplies (.error "down")).2 (by simp),
      (hreplies (.ok householdsAnswer)).1 _ _ rfl (by rfl)⟩
    cases bearer with
    | none => exact Or.inl rfl
    | some token =>
      -- Each session holds one token, under one of the two names.
      rw [hcookie] at hstored
      cases second <;> rcases hstored token rfl with h | h <;> cases h <;> exact Or.inr rfl
  refine ⟨_, _, rfl, ?_, ?_, ⟨_, rfl, ?_⟩, ⟨_, rfl, ?_⟩⟩
  · exact (hown false _ List.mem_cons_self rfl rfl).1
  · exact (hown true _ (List.mem_cons_of_mem _ List.mem_cons_self) rfl rfl).1
  · exact (hown false _ List.mem_cons_self rfl rfl).2.1
  · obtain ⟨items, hitems, hresponse⟩ :=
      (hown true _ (List.mem_cons_of_mem _ List.mem_cons_self) rfl rfl).2.2
    obtain rfl := lists_iff.1 hitems
    exact hresponse

end ResidencePortal.Web
