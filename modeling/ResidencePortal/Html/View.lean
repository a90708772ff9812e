import ResidencePortal.Guard
import ResidencePortal.Html.Document
import ResidencePortal.Registry

/-!
# Views

The contexts in which documents are evaluated, and the documents as answers with a status. A document
that cannot be evaluated becomes the page for an error inside the portal.
-/

namespace ResidencePortal.Html

/-- A document with its status. -/
structure Answer where
  status : Nat
  body : String
deriving Repr, DecidableEq

/-- The name of the portal (`NAME`). -/
def appName : String := "BlueMoon"

/-- The version of the portal (`VERSION`). -/
def appVersion : String := "0.1.0"

/-- What every page knows: the portal and the year (`create_base_context`). -/
def baseContext (year : Nat) : Context :=
  [("app_name", .str appName), ("app_version", .str appVersion), ("current_year", .ofNat year)]

/-- What a page knows about the visitor: the menu of the role, the regions that are visible, the role
and the name (`create_access_context`). -/
def accessContext (year : Nat) (registry : Registry) (access : Access) (user : Option User)
    (pageTitle homePath : String) : Context :=
  [("page_title", .str pageTitle),
    ("home_path", .str homePath),
    ("menus", .arr (MenuItem.listToJson (Menu.visible access.hidden (registry.menuFor access.role)))),
    ("visible_regions", .arr ((Region.visible access.hidden).map fun r => .str r.id)),
    ("user_role", .str access.role.name),
    ("role_display_name", .str access.role.displayName),
    ("display_name", .str ((user.map User.displayName).getD User.defaultDisplayName))] ++
  baseContext year

/-- The page for an error inside the portal (`render_500`). -/
def failure (year : Nat) (message : Option String) : Answer :=
  let text := message.getD "An internal server error occurred."
  ⟨500, (errorPage.eval (("error_message", .str text) :: baseContext year)).getD
    "<h1>500 - Internal Server Error</h1>"⟩

/-- The page for an address that leads nowhere (`render_404`). -/
def notFound (year : Nat) : Answer :=
  ⟨404, (notFoundPage.eval (baseContext year)).getD "<h1>404 - Page Not Found</h1>"⟩

/-- The notice for a visitor who is turned away (`render_denied`). -/
def denied (denial : Guard.Denial) : Answer :=
  let notice := (denial.notice.map Notice.message).getD Guard.noPermission
  ⟨403, (deniedPage.eval [("notice", .str notice), ("destination", .str denial.destination)]).getD
    ("<p>" ++ notice ++ "</p>")⟩

/-- The page that reports a document that could not be evaluated (`render_template`). -/
def renderFailure (year : Nat) (name : String) : Answer :=
  failure year (some ("Failed to render template: " ++ name))

/-- A document in a context (`render_template`). -/
def render (year : Nat) (d : Document) (ctx : Context) : Answer :=
  match d.template.eval ctx with
  | some body => ⟨200, body⟩
  | none => renderFailure year d.name

/-- The document with a name in a context; no document has an unknown name. -/
def renderNamed (year : Nat) (name : String) (ctx : Context) : Answer :=
  match Document.ofName? name with
  | some d => render year d ctx
  | none => renderFailure year name

end ResidencePortal.Html
