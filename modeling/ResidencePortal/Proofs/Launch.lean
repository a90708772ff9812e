import Mathlib.Tactic.SplitIfs
import ResidencePortal.Cli.Report

/-!
# What the portal starts with

A start reads the configuration from the environment, validates it and makes the key of the session cookie.
Each step checks a part only. The reading refuses production without a secret, but takes an empty one. The
validation wants different paths, but lets an empty secret pass. The key is where an empty secret in
production is refused, without a look at the paths. Together they leave no gap.

An environment gives no text for a variable that is not set, nor for one whose value is not a text.

**Results.**
* `Config.validate_eq_ok_iff`, `Config.sessionKey_eq_ok_iff`: what passes the validation, and which key a
  configuration gives.
* `Config.FromEnv.start_iff`: a configuration read from an environment is valid and gives a key just when
  its paths differ and the environment permits the key.
* `launched_with_permitted_key`: the same of a start, and no key is made from fewer than 64 bytes.
-/

namespace ResidencePortal

open Text

/-- Two steps succeed if the first does and the second does with its result. -/
theorem bind_eq_ok_iff {ε α β : Type} {x : Except ε α} {f : α → Except ε β} {b : β} :
    (x >>= f) = .ok b ↔ ∃ a, x = .ok a ∧ f a = .ok b := by
  cases x with
  | error e => simp [bind, Except.bind]
  | ok a => simp [bind, Except.bind]

namespace Config

variable {env : String → Option String} {c : Config} {key : SessionKey}

/-! ## The steps -/

/-- A valid secret is empty or long enough. -/
theorem validate_eq_ok_iff :
    c.validate = .ok () ↔
      (c.sessionSecret = "" ∨ 64 ≤ c.sessionSecret.utf8ByteSize) ∧ c.loginPath ≠ c.homePath := by
  unfold validate minSecretBytes
  rw [length_utf8Bytes]
  split_ifs with hshort hpaths
  · simp only [false_iff, not_and]
    rintro (hempty | hlong) _
    · exact hshort.1 hempty
    · omega
  · simp [hpaths]
  · have hsecret : c.sessionSecret = "" ∨ 64 ≤ c.sessionSecret.utf8ByteSize := by
      by_cases hempty : c.sessionSecret = ""
      · exact Or.inl hempty
      · exact Or.inr (Nat.le_of_not_lt fun hlt => hshort ⟨hempty, hlt⟩)
    simp [hsecret, hpaths]

/-- **The key of a configuration** is generated or made from the secret. The paths are looked at only in
the second case. -/
theorem sessionKey_eq_ok_iff :
    c.sessionKey = .ok key ↔
      (c.sessionSecret = "" ∧ c.environment ≠ "production" ∧ key = .generated) ∨
      (64 ≤ c.sessionSecret.utf8ByteSize ∧ c.loginPath ≠ c.homePath ∧
        key = .derived (utf8Bytes c.sessionSecret)) := by
  unfold sessionKey
  by_cases hempty : c.sessionSecret = ""
  · have hshort : ¬ 64 ≤ c.sessionSecret.utf8ByteSize := by
      rw [hempty]
      decide
    rw [if_pos hempty]
    by_cases hplace : c.environment = "production"
    · simp [isProduction, hplace, hshort]
    · simp [isProduction, hempty, hplace, eq_comm]
  · rw [if_neg hempty, bind_eq_ok_iff]
    constructor
    · rintro ⟨_, hvalid, hkey⟩
      obtain ⟨hsecret, hpaths⟩ := validate_eq_ok_iff.1 hvalid
      exact Or.inr ⟨hsecret.resolve_left hempty, hpaths, (Except.ok.inj hkey).symm⟩
    · rintro (⟨hsecret, -, -⟩ | ⟨hlong, hpaths, rfl⟩)
      · exact absurd hsecret hempty
      · exact ⟨(), validate_eq_ok_iff.2 ⟨Or.inr hlong, hpaths⟩, rfl⟩

theorem secretOf_eq_ok_iff {place secret : String} {given : Option String} :
    secretOf place given = .ok secret ↔
      given = some secret ∨ given = none ∧ place ≠ "production" ∧ secret = "" := by
  cases given with
  | some text => simp [secretOf]
  | none => by_cases hplace : place = "production" <;> simp [secretOf, hplace, eq_comm]

/-! ## Configurations and keys of an environment -/

/-- What the checks look at is what the environment says. -/
structure FromEnv (env : String → Option String) (c : Config) : Prop where
  environment : c.environment = (env "ENVIRONMENT").getD "development"
  sessionSecret : c.sessionSecret = (env "SESSION_SECRET").getD ""
  loginPath : c.loginPath = (env "BLUEMOON_LOGIN_PATH").getD "/login"
  homePath : c.homePath = (env "BLUEMOON_HOME_PATH").getD "/"

/-- The keys that an environment permits. -/
inductive Permits (env : String → Option String) : SessionKey → Prop where
  /-- Without a secret, or with an empty one, a key is generated, but not in production. -/
  | generated (hsecret : (env "SESSION_SECRET").getD "" = "")
      (hplace : env "ENVIRONMENT" ≠ some "production") : Permits env .generated
  /-- A secret of 64 bytes or more makes a key. -/
  | derived (secret : String) (hsecret : env "SESSION_SECRET" = some secret)
      (hlong : 64 ≤ secret.utf8ByteSize) : Permits env (.derived (utf8Bytes secret))

theorem place_ne_production_iff :
    (env "ENVIRONMENT").getD "development" ≠ "production" ↔ env "ENVIRONMENT" ≠ some "production" := by
  cases env "ENVIRONMENT" <;> simp

theorem fromEnv_of_ofEnv (h : ofEnv env = .ok c) : FromEnv env c := by
  unfold ofEnv at h
  obtain ⟨secret, hsecret, hc⟩ := bind_eq_ok_iff.1 h
  obtain rfl := Except.ok.inj hc
  refine ⟨rfl, ?_, rfl, rfl⟩
  rcases secretOf_eq_ok_iff.1 hsecret with hgiven | ⟨hgiven, -, hempty⟩
  · rw [hgiven, Option.getD_some]
  · rw [hgiven, hempty, Option.getD_none]

/-- The addresses play no part in the checks. -/
theorem FromEnv.readdress (h : FromEnv env c) (bindAddress apiBaseUrl : String) :
    FromEnv env { c with bindAddress := bindAddress, apiBaseUrl := apiBaseUrl } :=
  ⟨h.environment, h.sessionSecret, h.loginPath, h.homePath⟩

/-- Where a key is permitted, the reading misses no secret. -/
theorem exists_ofEnv (h : Permits env key) : ∃ c, ofEnv env = .ok c := by
  have hread : ∃ secret,
      secretOf ((env "ENVIRONMENT").getD "development") (env "SESSION_SECRET") = .ok secret := by
    cases hgiven : env "SESSION_SECRET" with
    | some secret => exact ⟨secret, rfl⟩
    | none =>
      cases h with
      | derived secret hsecret _ => cases hgiven.symm.trans hsecret
      | generated _ hplace =>
        exact ⟨"", secretOf_eq_ok_iff.2 (Or.inr ⟨rfl, place_ne_production_iff.2 hplace, rfl⟩)⟩
  obtain ⟨secret, hsecret⟩ := hread
  exact ⟨_, bind_eq_ok_iff.2 ⟨secret, hsecret, rfl⟩⟩

/-- **Validation and key** of a configuration that was read from an environment. -/
theorem FromEnv.start_iff (h : FromEnv env c) :
    c.validate = .ok () ∧ c.sessionKey = .ok key ↔ c.loginPath ≠ c.homePath ∧ Permits env key := by
  rw [validate_eq_ok_iff, sessionKey_eq_ok_iff, h.environment, place_ne_production_iff]
  constructor
  · rintro ⟨⟨-, hpaths⟩, ⟨hempty, hplace, rfl⟩ | ⟨hlong, -, rfl⟩⟩
    · exact ⟨hpaths, .generated (h.sessionSecret ▸ hempty) hplace⟩
    · -- A secret that is not empty is the one that is set.
      have hsecret : env "SESSION_SECRET" = some c.sessionSecret := by
        cases hgiven : env "SESSION_SECRET" with
        | some secret => rw [h.sessionSecret, hgiven, Option.getD_some]
        | none =>
          rw [h.sessionSecret, hgiven] at hlong
          exact absurd hlong (by decide)
      exact ⟨hpaths, .derived _ hsecret hlong⟩
  · rintro ⟨hpaths, hkey⟩
    cases hkey with
    | generated hsecret hplace =>
      have hempty : c.sessionSecret = "" := h.sessionSecret.trans hsecret
      exact ⟨⟨Or.inl hempty, hpaths⟩, Or.inl ⟨hempty, hplace, rfl⟩⟩
    | derived secret hsecret hlong =>
      obtain rfl : c.sessionSecret = secret := by rw [h.sessionSecret, hsecret, Option.getD_some]
      exact ⟨⟨Or.inr hlong, hpaths⟩, Or.inr ⟨hlong, hpaths, rfl⟩⟩

end Config

namespace Cli

open Config

variable {env : String → Option String} {bind apiBase : Option String}

/-- **A start** reads a configuration, puts in what the command line says, and passes both checks. -/
theorem launch_eq_ok_iff {started : Launch} :
    launch env bind apiBase = .ok started ↔
      ∃ read, ofEnv env = .ok read ∧
        started.config = { read with
          bindAddress := bind.getD read.bindAddress
          apiBaseUrl := apiBase.getD read.apiBaseUrl } ∧
        started.registry = Registry.empty.registerStandard ∧
        started.config.validate = .ok () ∧ started.config.sessionKey = .ok started.key := by
  simp only [launch, prepare, bind_eq_ok_iff]
  constructor
  · rintro ⟨read, hread, registry, ⟨_, hvalid, hregistry⟩, key, hkey, hstarted⟩
    obtain rfl := Except.ok.inj hregistry
    obtain rfl := Except.ok.inj hstarted
    exact ⟨read, hread, rfl, rfl, hvalid, hkey⟩
  · rintro ⟨read, hread, hconfig, hregistry, hvalid, hkey⟩
    obtain ⟨config, registry, key⟩ := started
    dsimp only at hconfig hregistry hvalid hkey
    subst hconfig hregistry
    exact ⟨read, hread, _, ⟨(), hvalid, rfl⟩, key, hkey, rfl⟩

/-- An empty secret in production is read and found valid, and no key is made. -/
example :
    launch (fun name => Entries.find? name [("ENVIRONMENT", "production"), ("SESSION_SECRET", "")])
      none none = .error .secretEmpty := rfl

theorem secured_of_launch {started : Launch} (h : launch env bind apiBase = .ok started) :
    FromEnv env started.config ∧ started.config.loginPath ≠ started.config.homePath ∧
      Permits env started.key := by
  obtain ⟨read, hread, hconfig, -, hpassed⟩ := launch_eq_ok_iff.1 h
  have hfrom : FromEnv env started.config := hconfig ▸ (fromEnv_of_ofEnv hread).readdress _ _
  exact ⟨hfrom, hfrom.start_iff.1 hpassed⟩

/-- A permitted key is the key of a start. -/
theorem exists_launch {key : SessionKey} (hkey : Permits env key)
    (hpaths : (env "BLUEMOON_LOGIN_PATH").getD "/login" ≠ (env "BLUEMOON_HOME_PATH").getD "/") :
    ∃ started, launch env bind apiBase = .ok started ∧ started.key = key := by
  obtain ⟨read, hread⟩ := exists_ofEnv hkey
  have hfrom := (fromEnv_of_ofEnv hread).readdress
    (bind.getD read.bindAddress) (apiBase.getD read.apiBaseUrl)
  rw [← hfrom.loginPath, ← hfrom.homePath] at hpaths
  have hpassed := hfrom.start_iff.2 ⟨hpaths, hkey⟩
  exact ⟨⟨_, _, key⟩, launch_eq_ok_iff.2 ⟨read, hread, rfl, rfl, hpassed⟩, rfl⟩

/-- **Starting.** The portal starts just when its login path and its home path differ and the environment
permits a key, which it then has. So a key is generated only where the environment is not exactly production,
and every other one is made from a secret of 64 bytes or more. Whatever the configuration, also one that no
start has validated, no key is made from fewer bytes. -/
theorem launched_with_permitted_key (env : String → Option String) (bind apiBase : Option String) :
    (∀ started, launch env bind apiBase = .ok started →
      started.config.loginPath ≠ started.config.homePath ∧ Permits env started.key) ∧
    (∀ key, (∃ started, launch env bind apiBase = .ok started ∧ started.key = key) ↔
      (env "BLUEMOON_LOGIN_PATH").getD "/login" ≠ (env "BLUEMOON_HOME_PATH").getD "/" ∧
        Permits env key) ∧
    ∀ (config : Config) (bytes : List UInt8), config.sessionKey = .ok (.derived bytes) →
      64 ≤ bytes.length := by
  refine ⟨fun started hstarted => (secured_of_launch hstarted).2, fun key => ⟨?_, ?_⟩,
    fun config bytes hkey => ?_⟩
  · rintro ⟨started, hstarted, rfl⟩
    obtain ⟨hfrom, hpaths, hkey⟩ := secured_of_launch hstarted
    rw [hfrom.loginPath, hfrom.homePath] at hpaths
    exact ⟨hpaths, hkey⟩
  · rintro ⟨hpaths, hkey⟩
    exact exists_launch hkey hpaths
  · rcases sessionKey_eq_ok_iff.1 hkey with ⟨-, -, hmade⟩ | ⟨hlong, -, hmade⟩
    · cases hmade
    · cases hmade
      rwa [length_utf8Bytes]

/-- A secret of 32 characters and 64 bytes. -/
def shortestSecret : String := "éééééééééééééééééééééééééééééééé"

/-- Production with that secret and a home path of its own. -/
def productionEnv (name : String) : Option String :=
  Entries.find? name [("ENVIRONMENT", "production"), ("SESSION_SECRET", shortestSecret),
    ("BLUEMOON_HOME_PATH", "/trang-chu")]

/-- What it starts with at another address. -/
def productionLaunch : Launch where
  config := { Config.standard with
    sessionSecret := shortestSecret
    environment := "production"
    homePath := "/trang-chu"
    bindAddress := "0.0.0.0:80" }
  registry := Registry.empty.registerStandard
  key := .derived (utf8Bytes shortestSecret)

/-- The portal in production starts with the key made from its secret. -/
theorem production_launched_with_secret :
    launch productionEnv (some "0.0.0.0:80") none = .ok productionLaunch ∧
      productionLaunch.config.loginPath ≠ productionLaunch.config.homePath ∧
      Permits productionEnv productionLaunch.key ∧
      { Config.standard with sessionSecret := shortestSecret }.sessionKey =
        .ok (.derived (utf8Bytes shortestSecret)) ∧
      64 ≤ (utf8Bytes shortestSecret).length := by
  obtain ⟨hsecured, -, hbytes⟩ := launched_with_permitted_key productionEnv (some "0.0.0.0:80") none
  have hstarted : launch productionEnv (some "0.0.0.0:80") none = .ok productionLaunch := rfl
  have hmade : { Config.standard with sessionSecret := shortestSecret }.sessionKey =
      .ok (.derived (utf8Bytes shortestSecret)) := rfl
  obtain ⟨hpaths, hkey⟩ := hsecured _ hstarted
  exact ⟨hstarted, hpaths, hkey, hmade, hbytes _ _ hmade⟩

end Cli

end ResidencePortal
