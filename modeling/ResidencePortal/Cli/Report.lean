import ResidencePortal.Cli.Command
import ResidencePortal.Config
import ResidencePortal.Html.View
import ResidencePortal.Session.TextStore

/-!
# Running commands

What a command prints and how it ends. Reports come as a table of lines or as JSON over several lines.
-/

namespace ResidencePortal.Cli

open Text

/-- How a command line ended. -/
structure Outcome where
  exit : Nat
  stdout : String
  /-- What went wrong, if the command ran and failed. -/
  error : Option String
deriving Repr, DecidableEq

/-- The command printed lines. -/
def Outcome.ofLines (ls : List String) : Outcome := ⟨0, String.join (ls.map (· ++ "\n")), none⟩

/-- The command failed. -/
def Outcome.failed (reason : String) : Outcome := ⟨1, "", some ("Error: " ++ reason ++ "\n")⟩

/-- A JSON report. -/
def Outcome.ofJson (v : Json) : Outcome := .ofLines [v.pretty]

/-- The texts with commas, a word if there are none. -/
def listOr (none : String) (texts : List String) : String :=
  if texts.isEmpty then none else joinWith ", " texts

/-- The name of a role that may be missing (`role_name`). -/
def roleName (role : Option Role) : String := (role.map Role.name).getD "(none)"

/-- The report on a role text (`show_role`). -/
def roleReport (raw : String) (format : Format) : Outcome :=
  let role := Role.normalize? raw
  let hidden := ((role.map Policy.hiddenRegions).getD []).map Region.id
  match format with
  | .json =>
    .ofJson (Json.object
      [("raw", .str raw), ("role", Json.ofText? (role.map Role.name)),
        ("code", Json.ofText? (role.bind Role.code?)),
        ("displayName", Json.ofText? (role.map Role.displayName)),
        ("hiddenRegions", .arr (hidden.map .str))])
  | .table =>
    let details := match role with
      | some role =>
        ["Code:           " ++ role.code?.getD "-", "Display name:   " ++ role.displayName]
      | none => []
    .ofLines (["Raw role:       " ++ raw, "Canonical role: " ++ roleName role] ++ details ++
      ["Hidden regions: " ++ listOr "-" hidden])

/-- The allow list of role texts, none of which may be blank (`parse_allow_list`). -/
def allowListOf? (texts : List String) : Option AllowList :=
  (texts.mapM Role.normalize?).map AllowList.ofList

/-- The report on a role and a page with its allow list (`show_access`). -/
def accessReport (raw page : String) (allow : AllowList) (format : Format) : Outcome :=
  let store : Session.TextStore := ⟨KeyMap.empty.insert Session.Key.role raw, .none⟩
  let visitor := Session.Store.visitor store none
  let (granted, outcome) := match Guard.decide visitor allow .standard with
    | .allowed _ => (true, "allowed")
    | .denied denial => (false, "denied, redirect to " ++ denial.destination)
  match format with
  | .json =>
    .ofJson (Json.object
      [("role", Json.ofText? (visitor.role?.map Role.name)), ("page", .str page),
        ("allowed", .arr (allow.names.map .str)), ("granted", .bool granted),
        ("outcome", .str outcome)])
  | .table =>
    .ofLines
      ["Role:     " ++ roleName visitor.role?,
        "Page:     " ++ page,
        "Allowed:  " ++ joinWith ", " ("ADMIN" :: allow.names),
        "Outcome:  " ++ outcome]

/-- The widths of the columns of the page table. -/
def columnWidths : List Nat := [18, 20, 14, 26, 30]

/-- A row of the page table. -/
def tableRow (cells : List String) : String :=
  joinWith " " (List.zipWith padRight columnWidths cells)

/-- The row of a page. -/
def pageRow (p : Page) : String :=
  tableRow [p.id, p.title, p.group.getD "-", (p.region.map Region.id).getD "-",
    listOr "admin only" p.allowed.names]

/-- The list of pages (`list_pages`). -/
def pagesReport (pages : List Page) (format : Format) : Outcome :=
  match format with
  | .json => .ofJson (.arr (pages.map Page.toJson))
  | .table =>
    .ofLines ([tableRow ["ID", "Title", "Group", "Region", "Allowed"],
      String.ofList (List.replicate 110 '-')] ++ pages.map pageRow)

/-! ## Starting the portal -/

/-- What is wrong with an address to listen on: it has a colon and then a port. -/
def bindProblem? (address : String) : Option String :=
  if !address.toList.contains ':' then some "invalid socket address"
  else
    let port := (afterLast ':' address).toList
    let digits := match port with
      | '+' :: rest => rest
      | cs => cs
    if digits.isEmpty || !digits.all isDigit || 65535 < ofDigits digits then some "invalid port value"
    else none

/-- What the portal is started with. -/
structure Launch where
  config : Config
  registry : Registry
  key : Config.SessionKey

/-- Gets ready to start the portal (`serve`). -/
def launch (env : String → Option String) (bind apiBase : Option String) :
    Except Config.Problem Launch := do
  let config ← Config.ofEnv env
  let config := { config with
    bindAddress := bind.getD config.bindAddress
    apiBaseUrl := apiBase.getD config.apiBaseUrl }
  let registry ← config.prepare .empty
  let key ← config.sessionKey
  return ⟨config, registry, key⟩

/-- Starts the portal, as far as the address to listen on (`serve`). -/
def serveOutcome (env : String → Option String) (bind apiBase : Option String) : Outcome :=
  match launch env bind apiBase with
  | .error problem => .failed problem.message
  | .ok launch =>
    let address := launch.config.bindAddress
    match bindProblem? address with
    | some problem => .failed ("cannot bind " ++ address ++ ": " ++ problem)
    | none => ⟨0, "", none⟩

/-! ## Command lines -/

/-- Runs a command in an environment of named texts. -/
def Invocation.run (i : Invocation) (env : String → Option String) : Outcome :=
  match i.command with
  | .serve bind apiBase => serveOutcome env bind apiBase
  | .role raw => roleReport raw i.format
  | .access role allow page =>
    let page := page.getD "custom"
    if allow.isEmpty then accessReport role page (Policy.allowListFor page) i.format
    else
      match allowListOf? allow with
      | some list => accessReport role page list i.format
      | none => .failed "empty role in --allow"
  | .pages => pagesReport Registry.empty.registerStandard.pages i.format

/-- Runs a command line in an environment of named texts. -/
def run (args : List String) (env : String → Option String) : Outcome :=
  match parse args with
  | .ok invocation => invocation.run env
  | .error .version => .ofLines ["bluemoon " ++ Html.appVersion]
  | .error .usage => ⟨2, "", none⟩

end ResidencePortal.Cli
