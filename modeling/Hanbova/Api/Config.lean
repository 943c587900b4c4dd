import Hanbova.Library.Table
import Hanbova.Library.Text

/-! The configuration of the API server: `config.rs`. Every check gives the value that it settles on
and the problems that it finds. -/
namespace Hanbova

open Library Library.Text

inductive Environment
  | development
  | test
  | production
  deriving DecidableEq

inductive ProviderMode
  | mock
  | production
  deriving DecidableEq

structure ConfigError where
  problems : String
  deriving DecidableEq

structure AppConfig where
  environment : Environment
  host : String
  port : UInt16
  databaseUrl : Option String
  appVersion : String
  jwtSecret : String
  mintUrl : String
  providerMode : ProviderMode
  corsAllowedOrigins : List String
  deriving DecidableEq

/-- The parts of a parsed URI that the checks read. -/
structure Uri where
  schemeStr : Option String
  host : Option String
  authority : Option String
  pathAndQuery : Option String
  deriving DecidableEq

/-- What the HTTP library makes of texts: the URI that one parses to, and whether it is a valid
header value. -/
structure Http where
  parseUri : String → Option Uri
  isHeaderValue : String → Bool

/-- The environment variables, each with one value. -/
abbrev Vars := Table String String

namespace AppConfig

/-- `collect` into a map: of several values the last one stays. -/
def collectVars (vars : List (String × String)) : Vars :=
  vars.foldl (fun m kv => m.insert kv.1 kv.2) ∅

def requiredOrDefault (vars : Vars) (name default : String) (required : Bool) :
    String × List String :=
  match ((vars.lookup name).map trim).filter (· ≠ "") with
  | some value => (value, [])
  | none => (default, if required then [s!"{name} is required in production"] else [])

/-- `parse::<u16>()`: decimal digits, perhaps after a plus sign, up to 65535. -/
def parseU16 (s : String) : Option UInt16 :=
  let digits := match s.toList with
    | '+' :: cs => cs
    | cs => cs
  if digits = [] ∨ !digits.all Char.isDigit then none
  else
    let n := digits.foldl (fun n d => n * 10 + (d.toNat - 48)) 0
    if n ≤ 65535 then some (UInt16.ofNat n) else none

def readEnvironment (vars : Vars) : Environment × List String :=
  match vars.lookup "HANBOVA_ENV" with
  | some value =>
    if value = "development" then (.development, [])
    else if value = "test" then (.test, [])
    else if value = "production" then (.production, [])
    else (.development,
      [s!"HANBOVA_ENV must be development, test, or production (got {value})"])
  | none => (.development, ["HANBOVA_ENV must be set explicitly"])

def readHost (vars : Vars) (production : Bool) : String × List String :=
  requiredOrDefault vars "HANBOVA_API_HOST" "127.0.0.1" production

def readPort (vars : Vars) (production : Bool) : UInt16 × List String :=
  let (portValue, problems) := requiredOrDefault vars "HANBOVA_API_PORT" "8080" production
  match parseU16 portValue with
  | some port => (port, problems)
  | none => (8080, problems ++ ["HANBOVA_API_PORT must be a valid TCP port"])

def readDatabaseUrl (vars : Vars) (production : Bool) : Option String × List String :=
  let databaseUrl := ((vars.lookup "DATABASE_URL").map trim).filter (· ≠ "")
  (databaseUrl, if production && databaseUrl.isNone then
    ["DATABASE_URL is required in production"] else [])

def readJwtSecret (vars : Vars) (production : Bool) : String × List String :=
  let (jwtSecret, problems) := requiredOrDefault vars "JWT_SECRET"
    "hanbova-development-only-jwt-secret-change-me" production
  (jwtSecret, problems ++
    (if production && len jwtSecret < 32 then
      ["JWT_SECRET must be at least 32 bytes in production"] else []) ++
    (if production && containsText jwtSecret "development" then
      ["JWT_SECRET must not use the development default"] else []))

def readMintUrl (vars : Vars) (production : Bool) : String × List String :=
  let (mintUrl, problems) := requiredOrDefault vars "MINT_URL" "http://127.0.0.1:3338" production
  (mintUrl, problems ++ (if production && !startsWith mintUrl "https://" then
    ["MINT_URL must use HTTPS in production"] else []))

def parseProviderMode (vars : Vars) (production : Bool) : ProviderMode × List String :=
  match vars.lookup "PROVIDER_MODE" with
  | some value =>
    if value = "mock" then (.mock, [])
    else if value = "production" then (.production, [])
    else (.mock, [s!"PROVIDER_MODE must be mock or production (got {value})"])
  | none => (.mock, if production then ["PROVIDER_MODE is required in production"] else [])

def readProviderMode (vars : Vars) (production : Bool) : ProviderMode × List String :=
  let (providerMode, problems) := parseProviderMode vars production
  (providerMode, problems ++ (if production && providerMode == .mock then
    ["mock providers are forbidden in production"] else []))

/-- The check of one allowed origin. -/
def isValidOrigin (http : Http) (origin : String) : Bool :=
  (http.parseUri origin).any fun uri =>
    (uri.schemeStr == some "http" || uri.schemeStr == some "https") &&
      uri.host.any (fun host => host ≠ "") &&
      uri.authority.any (fun authority => !contains authority '@') &&
      uri.pathAndQuery.all (fun path => path == "/") &&
      origin.toList.getLast? != some '/' && http.isHeaderValue origin

/-- The entries of the list, less the blank ones. -/
def parseOrigins (vars : Vars) : List String :=
  match vars.lookup "CORS_ALLOWED_ORIGINS" with
  | some origins =>
    ((origins.toList.splitOn ',').map fun origin => trim (String.ofList origin)).filter (· ≠ "")
  | none => []

def readCorsAllowedOrigins (http : Http) (vars : Vars) (production : Bool) :
    List String × List String :=
  let origins := parseOrigins vars
  (origins,
    (if production && origins.isEmpty then ["CORS_ALLOWED_ORIGINS is required in production"]
      else []) ++
    origins.flatMap (fun origin =>
      if origin == "*" && !production then []
      else if isValidOrigin http origin then []
      else ["CORS_ALLOWED_ORIGINS must contain valid HTTP origins without paths, " ++
        "credentials or queries"]) ++
    (if production && origins.any (fun origin => origin == "*") then
      ["CORS_ALLOWED_ORIGINS must not contain a wildcard in production"] else []) ++
    (if production && origins.any (fun origin => !startsWith origin "https://") then
      ["CORS_ALLOWED_ORIGINS must use HTTPS in production"] else []))

/-- `AppConfig::from_iter`. -/
def fromIter (http : Http) (vars : List (String × String)) : Except ConfigError AppConfig :=
  let vars := collectVars vars
  let environment := readEnvironment vars
  let production := environment.1 == .production
  let host := readHost vars production
  let port := readPort vars production
  let databaseUrl := readDatabaseUrl vars production
  let jwtSecret := readJwtSecret vars production
  let mintUrl := readMintUrl vars production
  let providerMode := readProviderMode vars production
  let corsAllowedOrigins := readCorsAllowedOrigins http vars production
  let problems := environment.2 ++ host.2 ++ port.2 ++ databaseUrl.2 ++ jwtSecret.2 ++ mintUrl.2 ++
    providerMode.2 ++ corsAllowedOrigins.2
  if problems ≠ [] then .error ⟨String.intercalate "; " problems⟩
  else
    .ok
      { environment := environment.1
        host := host.1
        port := port.1
        databaseUrl := databaseUrl.1
        appVersion := "0.1.0"
        jwtSecret := jwtSecret.1
        mintUrl := mintUrl.1
        providerMode := providerMode.1
        corsAllowedOrigins := corsAllowedOrigins.1 }

/-! ### What the checks ensure in production -/

variable {http : Http} {vars : Vars} {name default value origin : String}

/-- The last of several values stays. -/
theorem lookup_collectVars (vars : List (String × String)) (key : String) :
    (collectVars vars).lookup key = (vars.reverse.find? fun kv => kv.1 == key).map Prod.snd := by
  unfold collectVars
  induction vars using List.reverseRecOn with
  | nil => rfl
  | append_singleton vars kv ih =>
    rw [List.foldl_append, List.reverse_append]
    by_cases hk : kv.1 = key
    · rw [List.foldl_cons, List.foldl_nil, Table.setAt_insert, if_pos hk.symm]
      simp [hk]
    · rw [List.foldl_cons, List.foldl_nil, Table.setAt_insert, if_neg (Ne.symm hk), ih]
      simp [hk]

/-- The variable has a value that is not blank. -/
def Given (vars : Vars) (name value : String) : Prop :=
  ∃ given, vars.lookup name = some given ∧ trim given = value ∧ value ≠ ""

theorem given_of_filter
    (h : ((vars.lookup name).map trim).filter (· ≠ "") = some value) :
    Given vars name value := by
  obtain ⟨hmap, hne⟩ := Option.filter_eq_some_iff.mp h
  obtain ⟨given, hg, ht⟩ := Option.map_eq_some_iff.mp hmap
  exact ⟨given, hg, ht, by simpa using hne⟩

/-- A required variable without problems has been given. -/
theorem given_of_required (h : requiredOrDefault vars name default true = (value, [])) :
    Given vars name value := by
  unfold requiredOrDefault at h
  cases hf : ((vars.lookup name).map trim).filter (· ≠ "") with
  | some v =>
    simp only [hf, Prod.mk.injEq] at h
    rw [← h.1]
    exact given_of_filter hf
  | none =>
    simp only [hf] at h
    simp at h

theorem readHost_ok {host : String} (h : readHost vars true = (host, [])) :
    Given vars "HANBOVA_API_HOST" host := given_of_required h

theorem readPort_ok {port : UInt16} (h : readPort vars true = (port, [])) :
    ∃ value, Given vars "HANBOVA_API_PORT" value ∧ parseU16 value = some port := by
  unfold readPort at h
  match hr : requiredOrDefault vars "HANBOVA_API_PORT" "8080" true with
  | (value, problems) =>
    cases hp : parseU16 value with
    | none => simp [hr, hp] at h
    | some n =>
      simp only [hr, hp, Prod.mk.injEq] at h
      obtain ⟨rfl, rfl⟩ := h
      exact ⟨value, given_of_required hr, hp⟩

theorem readDatabaseUrl_ok {databaseUrl : Option String}
    (h : readDatabaseUrl vars true = (databaseUrl, [])) :
    ∃ value, Given vars "DATABASE_URL" value ∧ databaseUrl = some value := by
  simp only [readDatabaseUrl, Prod.mk.injEq] at h
  obtain ⟨rfl, h⟩ := h
  cases hf : ((vars.lookup "DATABASE_URL").map trim).filter (· ≠ "") with
  | none =>
    simp only [hf] at h
    simp at h
  | some value => exact ⟨value, given_of_filter hf, rfl⟩

theorem readJwtSecret_ok {jwtSecret : String} (h : readJwtSecret vars true = (jwtSecret, [])) :
    Given vars "JWT_SECRET" jwtSecret ∧ 32 ≤ len jwtSecret ∧
      containsText jwtSecret "development" = false := by
  unfold readJwtSecret at h
  match hr : requiredOrDefault vars "JWT_SECRET" "hanbova-development-only-jwt-secret-change-me"
      true with
  | (value, problems) =>
    simp only [hr, Prod.mk.injEq, List.append_eq_nil_iff] at h
    obtain ⟨rfl, ⟨rfl, hlen⟩, hdev⟩ := h
    refine ⟨given_of_required hr, ?_, ?_⟩
    · by_contra hshort
      simp [Nat.not_le.mp hshort] at hlen
    · by_contra hcontains
      simp [Bool.not_eq_false _ ▸ hcontains] at hdev

theorem readMintUrl_ok {mintUrl : String} (h : readMintUrl vars true = (mintUrl, [])) :
    Given vars "MINT_URL" mintUrl ∧ startsWith mintUrl "https://" = true := by
  unfold readMintUrl at h
  match hr : requiredOrDefault vars "MINT_URL" "http://127.0.0.1:3338" true with
  | (value, problems) =>
    simp only [hr, Prod.mk.injEq, List.append_eq_nil_iff] at h
    obtain ⟨rfl, rfl, hhttps⟩ := h
    refine ⟨given_of_required hr, ?_⟩
    by_contra hplain
    simp [hplain] at hhttps

theorem readProviderMode_ok {mode : ProviderMode} (h : readProviderMode vars true = (mode, [])) :
    mode = .production := by
  unfold readProviderMode at h
  match hr : parseProviderMode vars true with
  | (.production, problems) =>
    simp only [hr, Prod.mk.injEq] at h
    exact h.1.symm
  | (.mock, problems) => simp [hr] at h

theorem readEnvironment_ok (h : (readEnvironment vars).1 = .production) :
    vars.lookup "HANBOVA_ENV" = some "production" := by
  unfold readEnvironment at h
  cases hl : vars.lookup "HANBOVA_ENV" with
  | none => simp [hl] at h
  | some value =>
    simp only [hl] at h
    split_ifs at h with h₁ h₂ h₃
    rw [h₃]

/-- A valid origin that is reached by HTTPS. -/
structure HttpsOrigin (http : Http) (origin : String) : Prop where
  not_wildcard : origin ≠ "*"
  https : startsWith origin "https://" = true
  no_slash : origin.toList.getLast? ≠ some '/'
  header : http.isHeaderValue origin = true
  uri : ∃ uri, http.parseUri origin = some uri ∧
    (uri.schemeStr = some "http" ∨ uri.schemeStr = some "https") ∧
    (∃ host, uri.host = some host ∧ host ≠ "") ∧
    (∃ authority, uri.authority = some authority ∧ contains authority '@' = false) ∧
    ∀ path, uri.pathAndQuery = some path → path = "/"

theorem isValidOrigin_iff : isValidOrigin http origin = true ↔
    origin.toList.getLast? ≠ some '/' ∧ http.isHeaderValue origin = true ∧
    ∃ uri, http.parseUri origin = some uri ∧
      (uri.schemeStr = some "http" ∨ uri.schemeStr = some "https") ∧
      (∃ host, uri.host = some host ∧ host ≠ "") ∧
      (∃ authority, uri.authority = some authority ∧ contains authority '@' = false) ∧
      ∀ path, uri.pathAndQuery = some path → path = "/" := by
  unfold isValidOrigin
  simp only [Option.any_eq_true, Option.all_eq_true, Bool.and_eq_true, Bool.or_eq_true, beq_iff_eq,
    bne_iff_ne, decide_eq_true_eq, Bool.not_eq_true']
  constructor
  · rintro ⟨uri, hu, ⟨⟨⟨⟨hs, hh⟩, ha⟩, hp⟩, hl⟩, hv⟩
    exact ⟨hl, hv, uri, hu, hs, hh, ha, hp⟩
  · rintro ⟨hl, hv, uri, hu, hs, hh, ha, hp⟩
    exact ⟨uri, hu, ⟨⟨⟨⟨hs, hh⟩, ha⟩, hp⟩, hl⟩, hv⟩

/-- In production the allowed origins are valid ones, and there are some. -/
theorem readCorsAllowedOrigins_ok {origins : List String}
    (h : readCorsAllowedOrigins http vars true = (origins, [])) :
    origins ≠ [] ∧ ∀ origin ∈ origins, HttpsOrigin http origin := by
  simp only [readCorsAllowedOrigins, Prod.mk.injEq, List.append_eq_nil_iff,
    List.flatMap_eq_nil_iff] at h
  obtain ⟨rfl, ⟨⟨hsome, hvalid⟩, hwild⟩, hhttps⟩ := h
  have nonempty : parseOrigins vars ≠ [] := by
    intro he
    simp [he] at hsome
  have noWildcard : ∀ origin ∈ parseOrigins vars, origin ≠ "*" := by
    rintro origin ho rfl
    have hmem : "*" ∉ parseOrigins vars := by simpa using hwild
    exact hmem ho
  have https : ∀ origin ∈ parseOrigins vars, startsWith origin "https://" = true := by
    simpa using hhttps
  refine ⟨nonempty, fun origin ho => ?_⟩
  have valid : isValidOrigin http origin = true := by
    by_contra hinvalid
    have hproblem := hvalid origin ho
    rw [if_neg (by rw [Bool.not_true, Bool.and_false]; decide), if_neg hinvalid] at hproblem
    cases hproblem
  obtain ⟨hslash, hheader, huri⟩ := isValidOrigin_iff.mp valid
  exact ⟨noWildcard origin ho, https origin ho, hslash, hheader, huri⟩

/-- What a configuration for production has been checked for. -/
structure ProductionReady (http : Http) (vars : Vars) (config : AppConfig) : Prop where
  environment : vars.lookup "HANBOVA_ENV" = some "production"
  host : Given vars "HANBOVA_API_HOST" config.host
  port : ∃ value, Given vars "HANBOVA_API_PORT" value ∧ parseU16 value = some config.port
  databaseUrl : ∃ value, Given vars "DATABASE_URL" value ∧ config.databaseUrl = some value
  jwtSecret : Given vars "JWT_SECRET" config.jwtSecret ∧ 32 ≤ len config.jwtSecret ∧
    containsText config.jwtSecret "development" = false
  mintUrl : Given vars "MINT_URL" config.mintUrl ∧ startsWith config.mintUrl "https://" = true
  providerMode : config.providerMode = .production
  origins : config.corsAllowedOrigins ≠ [] ∧
    ∀ origin ∈ config.corsAllowedOrigins, HttpsOrigin http origin

theorem productionReady_of_ok {vars : List (String × String)} {config : AppConfig}
    (h : fromIter http vars = .ok config) (hp : config.environment = .production) :
    ProductionReady http (collectVars vars) config := by
  have clean : ∀ {α : Type} {x : α × List String}, x.2 = [] → x = (x.1, []) :=
    fun hx => Prod.ext rfl hx
  simp only [fromIter] at h
  split_ifs at h with hproblems
  rw [not_not] at hproblems
  simp only [List.append_eq_nil_iff] at hproblems
  obtain rfl := Except.ok.inj h
  rw [show (readEnvironment (collectVars vars)).1 = .production from hp] at hproblems ⊢
  obtain ⟨⟨⟨⟨⟨⟨⟨-, hhost⟩, hport⟩, hdatabase⟩, hsecret⟩, hmint⟩, hmode⟩, hcors⟩ := hproblems
  exact ⟨readEnvironment_ok hp, readHost_ok (clean hhost), readPort_ok (clean hport),
    readDatabaseUrl_ok (clean hdatabase), readJwtSecret_ok (clean hsecret),
    readMintUrl_ok (clean hmint), readProviderMode_ok (clean hmode),
    readCorsAllowedOrigins_ok (clean hcors)⟩

def isProduction (config : AppConfig) : Bool := config.environment == .production

end AppConfig
end Hanbova
