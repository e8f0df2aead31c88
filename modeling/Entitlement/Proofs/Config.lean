import Entitlement.Config.Build

/-!
# Valid configurations

What a configuration is checked for and what is made of it are separate steps, with names that are
compared in one way here and in another there, and a region that the environment may have to give.

* `SigningRegion` : the region of the configuration, or else of the environment
  (`DatabaseSettings.region_eq_ok_iff`);
* `Config.Valid` : all that is checked; `Config.validate_eq_ok_iff` : a configuration without a
  fault is valid;
* `DatabaseSettings.poolSettings_of_name`, `Config.exists_passwordSource`,
  `Config.service_of_parts` : when each step succeeds, and with what;
* `Config.Serves` : a service and the parts that it is made of; `Config.valid_serves` : **a valid
  configuration gives a service that works.**
-/

namespace Entitlement

/-! ## Names of modes -/

namespace SslMode

theorem named?_eq_some_iff {name : String} {m : SslMode} : named? name = some m ↔ m.name = name := by
  constructor
  · intro h
    simpa using List.find?_some h
  · rintro rfl
    cases m <;> rfl

/-- The names are in lower case already. -/
theorem lowered_name (m : SslMode) : ConfigError.lowered m.name = m.name := by
  cases m <;> rfl

end SslMode

/-! ## Regions -/

theorem Environment.filled?_eq_some_iff {env : Environment} {name value : String} :
    env.filled? name = some value ↔ env.find? name = some value ∧ value ≠ "" := by
  rw [filled?, Option.filter_eq_some_iff, decide_eq_true_eq]

/-- The region that the configuration names, or else the one that the environment names. An empty
name is none. -/
inductive SigningRegion (named : Option String) (env : Environment) (region : String) : Prop where
  | configured (h : named = some region) (hne : region ≠ "")
  | fromEnvironment (h : named = none ∨ named = some "")
      (henv : env.find? "AWS_REGION" = some region) (hne : region ≠ "")

theorem signingRegion_iff {named : Option String} {env : Environment} {region : String} :
    SigningRegion named env region ↔
      (named.filter (· ≠ "")).or (env.filled? "AWS_REGION") = some region := by
  rw [Option.or_eq_some_iff, Environment.filled?_eq_some_iff, Option.filter_eq_some_iff,
    decide_eq_true_eq]
  have hnone : named.filter (· ≠ "") = none ↔ named = none ∨ named = some "" := by
    cases named with
    | none => simp
    | some r => simp
  rw [hnone]
  constructor
  · rintro (⟨h, hne⟩ | ⟨h, henv, hne⟩)
    · exact .inl ⟨h, hne⟩
    · exact .inr ⟨h, henv, hne⟩
  · rintro (⟨h, hne⟩ | ⟨h, henv, hne⟩)
    · exact .configured h hne
    · exact .fromEnvironment h henv hne

namespace DatabaseSettings
variable {db : DatabaseSettings} {env : Environment} {named : Option String} {region : String}

theorem region_eq_ok_iff (h : db.auth = .iam named) :
    db.region env = .ok region ↔ SigningRegion named env region := by
  rw [signingRegion_iff, DatabaseSettings.region, namedRegion?, h]
  dsimp only
  split
  · next r hr => rw [hr, Except.ok.injEq, Option.some.injEq]
  · next hr => rw [hr]; exact iff_of_false nofun nofun

/-! ## What is made of settings -/

theorem poolSettings_of_name {m : SslMode} (h : db.sslMode = m.name) :
    db.poolSettings = .ok ⟨db.host, db.port, db.user, m, db.applicationName, db.maxConnections,
      .ofMillis db.acquireTimeoutMillis, seconds? db.idleTimeout, seconds? db.maxLifetime⟩ := by
  rw [poolSettings, h, SslMode.lowered_name, SslMode.named?_eq_some_iff.2 rfl]

/-- Tokens that are signed for a region, none of them fetched yet. -/
def signing (db : DatabaseSettings) (env : Environment) (region : String) : PasswordSource :=
  .cached (.signer ⟨db.host, db.port, db.user, region, none⟩ env) .empty

theorem passwordSource_of_region (h : db.auth = .iam named) (hregion : db.region env = .ok region) :
    db.passwordSource env = .ok (db.signing env region) := by
  rw [passwordSource, h]
  dsimp only
  rw [hregion]
  rfl

end DatabaseSettings

namespace Config
variable {c : Config} {env : Environment}

/-! ## What is checked -/

/-- What is left for authentication. -/
def ValidAuth (env : Environment) : Auth → Prop
  | .iam named => ∃ region, SigningRegion named env region
  | .password password => password ≠ ""

structure Valid (c : Config) (env : Environment) : Prop where
  serverPort : c.server.port ≠ 0
  host : c.database.host ≠ ""
  user : c.database.user ≠ ""
  sslMode : ∃ m : SslMode, m.name = c.database.sslMode
  maxConnections : c.database.maxConnections ≠ 0
  auth : ValidAuth env c.database.auth

theorem validateAuth_eq_ok_iff :
    c.validateAuth env = .ok () ↔ ValidAuth env c.database.auth := by
  unfold validateAuth
  cases hauth : c.database.auth with
  | iam named =>
    simp only [ValidAuth, ← DatabaseSettings.region_eq_ok_iff hauth]
    cases c.database.region env with
    | error e => exact iff_of_false nofun nofun
    | ok region => exact iff_of_true rfl ⟨region, rfl⟩
  | password password =>
    dsimp only [ValidAuth]
    split
    · next h => exact iff_of_false nofun fun hne => hne h
    · next h => exact iff_of_true rfl h

/-- One check before the others. -/
theorem ite_error_eq_ok_iff {p : Prop} [Decidable p] {e : ConfigError}
    {rest : Except ConfigError Unit} :
    (if p then .error e else rest) = .ok () ↔ ¬ p ∧ rest = .ok () := by
  by_cases h : p
  · rw [if_pos h]
    exact iff_of_false nofun fun h' => h'.1 h
  · rw [if_neg h, and_iff_right h]

/-- A configuration without a fault is valid. -/
theorem validate_eq_ok_iff : c.validate env = .ok () ↔ c.Valid env := by
  have hmode : ¬ (SslMode.named? c.database.sslMode).isNone = true ↔
      ∃ m : SslMode, m.name = c.database.sslMode := by
    rw [Option.isNone_iff_eq_none, ← ne_eq, Option.ne_none_iff_exists']
    exact exists_congr fun _ => SslMode.named?_eq_some_iff
  simp only [validate, ite_error_eq_ok_iff, hmode, validateAuth_eq_ok_iff]
  exact ⟨fun ⟨hp, hh, hu, hm, hc, ha⟩ => ⟨hp, hh, hu, hm, hc, ha⟩,
    fun h => ⟨h.serverPort, h.host, h.user, h.sslMode, h.maxConnections, h.auth⟩⟩

/-! ## What is made -/

theorem requestTimeout_eq_none_iff : c.requestTimeout = none ↔ c.timeoutMillis = 0 := by
  unfold requestTimeout
  split
  · next h => exact iff_of_true rfl h
  · next h => exact iff_of_false nofun h

theorem service_of_parts {settings : PoolSettings} {source : PasswordSource}
    (hsettings : c.database.poolSettings = .ok settings)
    (hsource : c.database.passwordSource env = .ok source) (now : Moment) (db : Database)
    (defaults : ConnectOptions) : c.service env now db defaults =
      .ok (⟨db.store, c.requestTimeout⟩, .ofPools (.start settings source now defaults)) := by
  rw [service, pools, hsettings, hsource]
  rfl

/-- The pool settings and the password source of a configuration, and the service that is made of
them without an error. -/
structure Serves (c : Config) (env : Environment) (settings : PoolSettings)
    (source : PasswordSource) : Prop where
  poolSettings : c.database.poolSettings = .ok settings
  passwordSource : c.database.passwordSource env = .ok source
  /-- Whenever it is started, and over whatever databases and defaults of the driver. -/
  service : ∀ now db defaults, ∃ service backend,
    c.service env now db defaults = .ok (service, backend) ∧
    service.store = db.store ∧ service.timeout = c.requestTimeout ∧
    backend.pools = .start settings source now defaults
  timeout : c.requestTimeout = none ↔ c.timeoutMillis = 0
  sslMode : settings.sslMode.name = c.database.sslMode
  connects : ∀ tenant defaults, ∃ pool, TenantPool.connect settings tenant defaults = .ok pool
  signs : ∀ named, c.database.auth = .iam named → ∃ region, SigningRegion named env region ∧
    source = c.database.signing env region

/-- Authentication for which nothing is left has a password source. -/
theorem exists_passwordSource (h : ValidAuth env c.database.auth) :
    ∃ source, c.database.passwordSource env = .ok source ∧
      ∀ named, c.database.auth = .iam named → ∃ region, SigningRegion named env region ∧
        source = c.database.signing env region := by
  cases hauth : c.database.auth with
  | iam named =>
    rw [hauth] at h
    obtain ⟨region, hregion⟩ := h
    refine ⟨c.database.signing env region, DatabaseSettings.passwordSource_of_region hauth
      ((DatabaseSettings.region_eq_ok_iff hauth).2 hregion), ?_⟩
    rintro _ ⟨⟩
    exact ⟨region, hregion, rfl⟩
  | password password =>
    refine ⟨.fixed password, by rw [DatabaseSettings.passwordSource, hauth], ?_⟩
    exact fun _ h => nomatch h

theorem connect_of_ne_zero {settings : PoolSettings} (h : settings.maxConnections ≠ 0)
    (tenant : TenantId) (defaults : ConnectOptions) :
    ∃ pool, TenantPool.connect settings tenant defaults = .ok pool :=
  ⟨_, if_neg h⟩

/-- **A configuration that passes its checks gives a service that works**, in the same
environment. -/
theorem valid_serves (h : c.validate env = .ok ()) :
    ∃ settings source, c.Serves env settings source := by
  have hvalid := validate_eq_ok_iff.1 h
  obtain ⟨m, hm⟩ := hvalid.sslMode
  have hsettings := DatabaseSettings.poolSettings_of_name hm.symm
  obtain ⟨source, hsource, hsigns⟩ := exists_passwordSource hvalid.auth
  refine ⟨_, source, hsettings, hsource, fun now db defaults => ?_, requestTimeout_eq_none_iff, hm,
    connect_of_ne_zero hvalid.maxConnections, hsigns⟩
  exact ⟨_, _, service_of_parts hsettings hsource now db defaults, rfl, rfl, rfl⟩

/-- Tokens for a region that only the environment names, and no limit of time. -/
def harbour : Config :=
  ⟨.standard, ⟨"db.internal", 5432, "permissions", "verify-full", "tenant-permissions", 1, 3000, 0,
    0, .iam (some "")⟩, 0⟩

theorem valid_serves_harbour :
    harbour.validate ⟨[("AWS_REGION", "eu-west-2")]⟩ = .ok () ∧
      ∃ settings source, harbour.Serves ⟨[("AWS_REGION", "eu-west-2")]⟩ settings source :=
  have h : harbour.validate ⟨[("AWS_REGION", "eu-west-2")]⟩ = .ok () := rfl
  ⟨h, valid_serves h⟩

end Config

end Entitlement
