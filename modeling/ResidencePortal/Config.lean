import ResidencePortal.Guard
import ResidencePortal.Registry
import ResidencePortal.Text.Utf8

/-!
# Configuration

What the portal is run with, read from an environment of named texts, and the checks before it starts:

* `Config.validate`: a session secret, if there is one, has at least 64 bytes, and the login and home
  paths differ;
* `Config.sessionKey`: in production a secret is required; elsewhere a key may be generated;
* `Config.prepare`: the built-in pages are registered if no page is.
-/

namespace ResidencePortal

open Text

/-- What the portal is run with (`BluemoonConfig`). -/
structure Config where
  sessionSecret : String
  environment : String
  logLevel : String
  /-- How long a session lasts, in seconds. -/
  sessionTimeout : UInt64
  apiBaseUrl : String
  /-- How long the backend may take, in seconds. -/
  apiTimeout : UInt64
  loginPath : String
  homePath : String
  bindAddress : String
deriving Repr, DecidableEq

namespace Config

/-- What is wrong with a configuration. -/
inductive Problem where
  /-- No secret is set in production. -/
  | secretMissing
  /-- The secret in production is empty. -/
  | secretEmpty
  | secretTooShort
  | pathsEqual
deriving Repr, DecidableEq

/-- The sentence for a problem. -/
def Problem.message : Problem → String
  | .secretMissing => "SESSION_SECRET is required in production"
  | .secretEmpty => "SESSION_SECRET environment variable is required in production"
  | .secretTooShort => "SESSION_SECRET must be at least 64 characters long"
  | .pathsEqual => "login and home paths must differ"

/-- The configuration unless told otherwise (`BluemoonConfig.default`). -/
def standard : Config where
  sessionSecret := ""
  environment := "development"
  logLevel := "info"
  sessionTimeout := 86400
  apiBaseUrl := "http://localhost:7070/api"
  apiTimeout := 30
  loginPath := "/login"
  homePath := "/"
  bindAddress := "127.0.0.1:8080"

/-- The number of seconds in a text: digits, perhaps behind a plus sign, within 64 bits (`env_secs`). -/
def seconds? (text : String) : Option UInt64 :=
  let digits := match text.toList with
    | '+' :: rest => rest
    | cs => cs
  if digits.isEmpty || !digits.all isDigit then none
  else
    let n := ofDigits digits
    if n < UInt64.size then some (UInt64.ofNat n) else none

/-- The secret in an environment; only outside production it may be missing (`BluemoonConfig.from_env`). -/
def secretOf (environment : String) : Option String → Except Problem String
  | some secret => .ok secret
  | none => if environment = "production" then .error .secretMissing else .ok ""

/-- The configuration in an environment of named texts (`BluemoonConfig.from_env`). -/
def ofEnv (env : String → Option String) : Except Problem Config := do
  let text (name default : String) := (env name).getD default
  let seconds (name : String) (default : UInt64) := ((env name).bind seconds?).getD default
  let environment := text "ENVIRONMENT" standard.environment
  let secret ← secretOf environment (env "SESSION_SECRET")
  return {
    sessionSecret := secret
    environment := environment
    logLevel := text "RUST_LOG" standard.logLevel
    sessionTimeout := seconds "SESSION_TIMEOUT" standard.sessionTimeout
    apiBaseUrl := text "BLUEMOON_API_BASE" standard.apiBaseUrl
    apiTimeout := seconds "BLUEMOON_API_TIMEOUT" standard.apiTimeout
    loginPath := text "BLUEMOON_LOGIN_PATH" standard.loginPath
    homePath := text "BLUEMOON_HOME_PATH" standard.homePath
    bindAddress := text "BLUEMOON_BIND" standard.bindAddress }

/-- The portal runs in production (`BluemoonConfig.is_production`). -/
def isProduction (c : Config) : Bool := c.environment = "production"

/-- Where visitors are sent (`BluemoonConfig.destinations`). -/
def destinations (c : Config) : Destinations := ⟨c.loginPath, c.homePath⟩

/-- The least number of bytes of a secret. -/
def minSecretBytes : Nat := 64

/-- Checks the secret and the paths (`BluemoonConfig.validate`). -/
def validate (c : Config) : Except Problem Unit :=
  if c.sessionSecret ≠ "" ∧ (utf8Bytes c.sessionSecret).length < minSecretBytes then
    .error .secretTooShort
  else if c.loginPath = c.homePath then .error .pathsEqual
  else .ok ()

/-- Where the key of the session cookie comes from. -/
inductive SessionKey where
  | generated
  | derived (secret : List UInt8)
deriving Repr, DecidableEq

/-- The key of the session cookie (`load_session_key`). -/
def sessionKey (c : Config) : Except Problem SessionKey :=
  if c.sessionSecret = "" then
    if c.isProduction then .error .secretEmpty else .ok .generated
  else do
    c.validate
    return .derived (utf8Bytes c.sessionSecret)

/-- The registry to start with (`bluemoon_initialize`). -/
def prepare (c : Config) (registry : Registry) : Except Problem Registry := do
  c.validate
  return if registry.pages.isEmpty then registry.registerStandard else registry

end Config

end ResidencePortal
