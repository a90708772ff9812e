import ResidencePortal.Proofs.RoleResolution
import ResidencePortal.Proofs.Web.Rendering

/-!
# Who is logged in

Four parts of the portal ask who is logged in: the report on the visitor, the login form, the dashboard and
the guards of pages. None of them looks at the mark of a complete login; each asks for the role of the
session. So they agree on every session, also on one that is half written or holds values that cannot be
read, and a visitor is never sent back and forth between the login form and the dashboard.

**Results.**
* `answer_loginForm`, `answer_dashboard`: the login form and the dashboard as functions of the role.
* `get?_authReport`: the report as a function of the role.
* `Guard.decide_eq_allowed_iff`: whom a guard admits, and with which access.
* `handlers_agree_on_login`: all four agree.
* `unwritable_homePath`: a home path that no header can carry.
-/

namespace ResidencePortal

@[simp] theorem Access.hidden_ofRole (role : Role) :
    (Access.ofRole role).hidden = Policy.hiddenRegions role := rfl

namespace Guard

/-- A guard admits administrators and the roles of its list, with the access of the role. -/
theorem decide_eq_allowed_iff {visitor : Session.Visitor} {allow : AllowList} {places : Destinations}
    {access : Access} :
    decide visitor allow places = .allowed access ↔
      ∃ role, visitor.role? = some role ∧ (role = .admin ∨ role ∈ allow) ∧ access = .ofRole role := by
  unfold decide
  cases visitor.role? with
  | none => simp [judge]
  | some role =>
    rw [judge_some]
    split
    · rename_i hadmitted
      simp [hadmitted, Access.ofRole, eq_comm]
    · rename_i hrefused
      simp [hrefused]

end Guard

namespace Web

open Session

/-! ## One role, four answers -/

/-- The role of a session. -/
def roleOf? (session : CookieStore) : Option Role := (Store.visitor session none).role?

/-- What a handler answers to a visitor who has met no guard. -/
def Handler.answer (h : Handler) (site : Site) (request : Request) (session : CookieStore)
    (line : Backend.Line) : Response :=
  (h.run site request none session line).response

section Answers

variable {site : Site} {config : Config} (hshared : site.shared = some config) (request : Request)
  (session : CookieStore) (line : Backend.Line)

include hshared

theorem answer_loginForm :
    Handler.loginForm.answer site request session line =
      match roleOf? session with
      | some _ => .redirect config.homePath
      | none => (Rendering.login site config none "").response := by
  unfold Handler.answer
  simp only [Handler.run, hshared, accessOf, ← roleOf?.eq_def]
  cases roleOf? session <;> rfl

theorem answer_dashboard :
    Handler.dashboard.answer site request session line =
      match roleOf? session with
      | some role => (Rendering.dashboard site config (.ofRole role) session "Dashboard").response
      | none => .redirect config.loginPath := by
  unfold Handler.answer
  simp only [Handler.run, hshared, dashboardResponse, accessOf, ← roleOf?.eq_def]
  cases roleOf? session <;> rfl

end Answers

/-- What the report says about a session. -/
theorem get?_authReport (session : CookieStore) :
    (authReport session).get? "authenticated" = some (.bool (roleOf? session).isSome) ∧
      (authReport session).get? "role" = some (Json.ofText? ((roleOf? session).map Role.name)) ∧
      (authReport session).get? "hiddenRegions" = some (.arr
        (((roleOf? session).map Policy.hiddenRegions).getD [] |>.map fun r => .str r.id)) := by
  have hreport : ∀ access displayName key, (statusReport access displayName).get? key =
      Entries.find? key
        [("authenticated", .bool access.isSome),
          ("role", Json.ofText? (access.map fun a => a.role.name)),
          ("displayName", Json.ofText? displayName),
          ("hiddenRegions", .arr ((access.map Access.hidden).getD [] |>.map fun r => .str r.id))] :=
    fun access displayName key => Json.get?_object key (by simp [Entries.Distinct])
  unfold authReport accessOf
  rw [← roleOf?.eq_def]
  cases roleOf? session <;>
    simp [anonymousReport, hreport, Entries.find?, Access.ofRole]

/-! ## Agreement -/

/-- The response that sends a visitor to a place, as far as the place can be written into a header. -/
theorem redirect_eq (place : String) :
    Response.redirect place =
      if place.toList.any Text.breaksHeader then .plain 500 else ⟨302, some place, .empty⟩ := rfl

/-- **All agree on who is logged in.** On every session, and for every request without a user record of its
own, these are the same: the report says that the visitor is logged in, the login form sends the visitor
home, the dashboard is shown and not refused, and the session has a role. If it has one, the report names
it, a guard admits the visitor exactly if the role is the administrator's or in its list, and the report
lists the regions that the guard hides. A visitor is sent home, and from the dashboard to the login form,
by a header, and gets an error where the path cannot be written into one; never by both. -/
theorem handlers_agree_on_login (site : Site) (config : Config) (session : CookieStore)
    (request : Request) (line : Backend.Line) (hshared : site.shared = some config)
    (hloaded : request.loaded = none) :
    ∃ report,
      Handler.authStatus.answer site request session line = .json 200 report ∧
      (report.get? "authenticated" = some (.bool true) ↔ (roleOf? session).isSome = true) ∧
      (Handler.loginForm.answer site request session line =
          (if config.homePath.toList.any Text.breaksHeader then .plain 500
            else ⟨302, some config.homePath, .empty⟩) ↔
        (roleOf? session).isSome = true) ∧
      ((∃ body, Handler.dashboard.answer site request session line = ⟨200, none, .html body⟩) ↔
        (roleOf? session).isSome = true) ∧
      (Handler.dashboard.answer site request session line =
          (if config.loginPath.toList.any Text.breaksHeader then .plain 500
            else ⟨302, some config.loginPath, .empty⟩) ↔
        (roleOf? session).isSome = false) ∧
      (∀ role, roleOf? session = some role →
        report.get? "role" = some (.str role.name) ∧
        ∀ allow,
          ((∃ access, Guard.decide (Store.visitor session request.loaded) allow site.destinations =
              .allowed access) ↔ role = .admin ∨ role ∈ allow) ∧
          ∀ access, Guard.decide (Store.visitor session request.loaded) allow site.destinations =
              .allowed access →
            report.get? "hiddenRegions" = some (.arr (access.hidden.map fun r => .str r.id))) ∧
      ¬ ((Handler.loginForm.answer site request session line).location.isSome = true ∧
        (Handler.dashboard.answer site request session line).location.isSome = true) := by
  obtain ⟨hauthenticated, hrole, hhidden⟩ := get?_authReport session
  rw [← redirect_eq, ← redirect_eq, answer_loginForm hshared, answer_dashboard hshared, hloaded]
  refine ⟨authReport session, rfl, ?_⟩
  simp only [Guard.decide_eq_allowed_iff, ← roleOf?.eq_def]
  cases hsession : roleOf? session with
  | none =>
    obtain ⟨body, -, hform⟩ := (Rendering.login site config none "").response_eq
    have hstays : (⟨200, none, .html body⟩ : Response) ≠ .redirect config.homePath :=
      (redirect_ne_html _).symm
    simp [hauthenticated, hsession, hform, hstays, redirect_ne_html]
  | some role =>
    obtain ⟨body, -, hshown⟩ :=
      (Rendering.dashboard site config (.ofRole role) session "Dashboard").response_eq
    have hstays : (⟨200, none, .html body⟩ : Response) ≠ .redirect config.loginPath :=
      (redirect_ne_html _).symm
    simp [hauthenticated, hrole, hhidden, hsession, hshown, hstays, Json.ofText?]

/-- A session that is half written: its user record is no record and it is not marked as a login, but it
has a role. -/
def halfWrittenSession : CookieStore :=
  .ofList [(Key.currentUser, .ofNat 5), (Key.isLoggedIn, .bool false), (Key.role, .str "KeToan")]

/-- The accountant of the half-written session is logged in for all: sent home by the login form, shown the
dashboard, and not admitted to the households. -/
theorem halfWrittenSession_logged_in :
    ∃ report,
      Handler.authStatus.answer (siteOf .standard Page.standard) householdsRequest halfWrittenSession
        (.ofDeliveries []) = .json 200 report ∧
      report.get? "authenticated" = some (.bool true) ∧
      report.get? "role" = some (.str Role.accountant.name) ∧
      Handler.loginForm.answer (siteOf .standard Page.standard) householdsRequest halfWrittenSession
        (.ofDeliveries []) = ⟨302, some "/", .empty⟩ ∧
      (∃ body, Handler.dashboard.answer (siteOf .standard Page.standard) householdsRequest
        halfWrittenSession (.ofDeliveries []) = ⟨200, none, .html body⟩) ∧
      ¬ ∃ access, Guard.decide (Store.visitor halfWrittenSession householdsRequest.loaded)
        householdsPage.allowed (siteOf .standard Page.standard).destinations = .allowed access := by
  obtain ⟨report, hreport, hstatus, hform, hdashboard, -, hguard, -⟩ :=
    handlers_agree_on_login (siteOf .standard Page.standard) .standard halfWrittenSession
      householdsRequest (.ofDeliveries []) rfl rfl
  have hrole : roleOf? halfWrittenSession = some .accountant := by decide +kernel
  have hsome : (roleOf? halfWrittenSession).isSome = true := by rw [hrole]; rfl
  obtain ⟨hname, hadmits⟩ := hguard .accountant hrole
  have hform := hform.2 hsome
  refine ⟨report, hreport, hstatus.2 hsome, hname, ?_, hdashboard.2 hsome, ?_⟩
  · rw [hform]
    exact if_neg (by decide +kernel)
  · rw [(hadmits householdsPage.allowed).1]
    decide +kernel

/-- A home path with a control character in it, which no header can carry. -/
def unwritableHomeConfig : Config := { Config.standard with homePath := "/a\x01" }

/-- The session of an administrator. -/
def adminSession : CookieStore := .ofList [(Key.role, .str "Admin")]

/-- An administrator is logged in there too, but the login form does not lead home. -/
theorem unwritable_homePath :
    (∃ report, Handler.authStatus.answer (siteOf unwritableHomeConfig Page.standard) householdsRequest
        adminSession (.ofDeliveries []) = .json 200 report ∧
      report.get? "authenticated" = some (.bool true)) ∧
    Handler.loginForm.answer (siteOf unwritableHomeConfig Page.standard) householdsRequest adminSession
        (.ofDeliveries []) = .plain 500 ∧
    (Handler.loginForm.answer (siteOf unwritableHomeConfig Page.standard) householdsRequest adminSession
        (.ofDeliveries [])).location ≠ some unwritableHomeConfig.homePath := by
  have hrole : roleOf? adminSession = some .admin := by decide +kernel
  have hform : Handler.loginForm.answer (siteOf unwritableHomeConfig Page.standard) householdsRequest
      adminSession (.ofDeliveries []) = .plain 500 := by
    rw [answer_loginForm rfl, hrole]
    exact if_pos (by decide +kernel)
  refine ⟨⟨authReport adminSession, rfl, ?_⟩, hform, ?_⟩
  · rw [(get?_authReport adminSession).1, hrole]
    rfl
  · rw [hform]
    exact nofun

end Web

end ResidencePortal
