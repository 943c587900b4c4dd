import Hanbova.Api.Config
import Hanbova.Escrow.Mock

/-! The state that the server is started with: `state.rs`. -/
namespace Hanbova

open Library Library.Text

inductive StateError
  | missingDatabase
  | productionProvidersUnavailable
  deriving DecidableEq

/-- The server's state over database pools of the type `π`. Its provider of protected payments is
the mock. -/
structure AppState (π : Type) where
  config : AppConfig
  dbPool : Option π
  protectedProvider : MockProtectedPaymentProvider.Intents

namespace AppState
variable {π : Type}

def new (config : AppConfig) (pool : Option π) : AppState π where
  config := config
  dbPool := pool
  protectedProvider := ∅

def tryNew (config : AppConfig) (pool : Option π) : Except StateError (AppState π) :=
  if config.isProduction && pool.isNone then .error .missingDatabase
  else if config.providerMode = .production then .error .productionProvidersUnavailable
  else .ok (new config pool)

/-- A state is made of configurations for the mock providers only. -/
theorem tryNew_ok {config : AppConfig} {pool : Option π} {state : AppState π}
    (h : tryNew config pool = .ok state) : config.providerMode = .mock := by
  unfold tryNew at h
  split_ifs at h with _ hmode
  cases hm : config.providerMode with
  | mock => rfl
  | production => exact absurd hm hmode

end AppState

/-- A configuration for production has passed every check, and no state with its mock providers is
made of a configuration for production or for the production providers. -/
theorem production_fails_closed (http : Http) (vars : List (String × String)) (config : AppConfig)
    (h : AppConfig.fromIter http vars = .ok config) :
    (config.environment = .production →
      AppConfig.ProductionReady http (AppConfig.collectVars vars) config) ∧
    ∀ (π : Type) (pool : Option π) (state : AppState π),
      config.environment = .production ∨ config.providerMode = .production →
      AppState.tryNew config pool ≠ .ok state := by
  refine ⟨AppConfig.productionReady_of_ok h, ?_⟩
  intro π pool state hproduction hstate
  have hmode : config.providerMode = .production := by
    rcases hproduction with hp | hm
    · exact (AppConfig.productionReady_of_ok h hp).providerMode
    · exact hm
  rw [AppState.tryNew_ok hstate] at hmode
  cases hmode

def sampleHttp : Http where
  parseUri s :=
    if s = "https://app.example.com" then
      some ⟨some "https", some "app.example.com", some "app.example.com", some "/"⟩
    else none
  isHeaderValue s := s.toList.all fun c => 32 ≤ c.toNat && c.toNat < 127

def sampleVars : List (String × String) :=
  [("HANBOVA_ENV", "test"), ("HANBOVA_ENV", "production"), ("HANBOVA_API_HOST", "0.0.0.0"),
    ("HANBOVA_API_PORT", "8080"), ("DATABASE_URL", "postgres://hanbova:secret@db/hanbova"),
    ("JWT_SECRET", "production-secret-that-is-at-least-32-bytes"),
    ("MINT_URL", "https://mint.example.com"), ("PROVIDER_MODE", "production"),
    ("CORS_ALLOWED_ORIGINS", "https://app.example.com")]

def sampleConfig : AppConfig where
  environment := .production
  host := "0.0.0.0"
  port := 8080
  databaseUrl := some "postgres://hanbova:secret@db/hanbova"
  appVersion := "0.1.0"
  jwtSecret := "production-secret-that-is-at-least-32-bytes"
  mintUrl := "https://mint.example.com"
  providerMode := .production
  corsAllowedOrigins := ["https://app.example.com"]

theorem production_fails_closed_sample :
    AppConfig.ProductionReady sampleHttp (AppConfig.collectVars sampleVars) sampleConfig ∧
    ∀ state, AppState.tryNew sampleConfig (some ()) ≠ .ok state := by
  have h := production_fails_closed sampleHttp sampleVars sampleConfig (by decide +kernel)
  exact ⟨h.1 rfl, fun state => h.2 Unit (some ()) state (.inl rfl)⟩

end Hanbova
