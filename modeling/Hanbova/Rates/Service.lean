import Hanbova.Library.Chrono
import Hanbova.Library.Table
import Hanbova.Library.Uppercase

/-! Indicative rates and the cache of the rate service: `rate.rs`, `providers/mod.rs`,
`providers/rates.rs`, `rate_service.rs`. -/
namespace Hanbova

open Library Library.Text

/-- A rate of a provider. Its number is kept as the bits of the source's `f64`, with which nothing
here computes. -/
structure HanbovaRate where
  market : String
  base : String
  quote : String
  display : String
  settlementAsset : String
  rate : BitVec 64
  provider : String
  environment : String
  isLive : Bool
  isStale : Bool
  updatedAt : DateTime
  expiresAt : Option DateTime
  deriving DecidableEq

inductive ProviderError
  | notConfigured (message : String)
  | unavailable (message : String)
  | unsupportedCountry (message : String)
  | unsupportedService (message : String)
  | validationFailed (message : String)
  | rateLimit (message : String)
  | internal (message : String)
  deriving DecidableEq

abbrev ProviderResult := Except ProviderError HanbovaRate

/-- A market, its settlement asset, and its currency. -/
abbrev MarketKey := String × String × String

def allMarkets : List MarketKey :=
  [("NG", "USDT", "NGN"), ("KE", "USDT", "KES"), ("GH", "USDT", "GHS"), ("ZA", "USDT", "ZAR"),
    ("UG", "USDT", "UGX"), ("RW", "USDT", "RWF"), ("TZ", "USDT", "TZS"), ("US", "USDT", "USD")]

structure CachedRateEntry where
  rate : HanbovaRate
  cachedAt : DateTime
  deriving DecidableEq

abbrev RateCache := Table MarketKey CachedRateEntry

/-- A standard duration, in nanoseconds. -/
abbrev Duration := ℕ

/-- `ChronoDuration::from_std`, which fails beyond `i64::MAX` milliseconds. -/
def chronoFromStd (d : Duration) : Option TimeDelta :=
  if d ≤ 9223372036854775807 * 1000000 then some d else none

structure HanbovaRateService where
  freshTtl : Duration
  staleTtl : Duration

namespace HanbovaRateService

def freshDuration (service : HanbovaRateService) : TimeDelta :=
  (chronoFromStd service.freshTtl).getD (45 * 1000000000)

def staleDuration (service : HanbovaRateService) : TimeDelta :=
  (chronoFromStd service.staleTtl).getD (600 * 1000000000)

/-- `now.signed_duration_since(entry.cached_at)`. -/
def age (now : DateTime) (entry : CachedRateEntry) : TimeDelta :=
  now.nanos - entry.cachedAt.nanos

variable (U : UpperTable) (service : HanbovaRateService)

/-- The key that `get_rate` makes of its arguments. -/
def requestKey (market settlementAsset targetCurrency : String) : MarketKey :=
  (U.toUppercase (trim market), U.toUppercase (trim settlementAsset),
    U.toUppercase (trim targetCurrency))

/-- The key that `get_all_rates` makes of a market. -/
def marketKey (m : MarketKey) : MarketKey :=
  (U.toUppercase m.1, U.toUppercase m.2.1, U.toUppercase m.2.2)

/-- The check of the fresh cache in `get_rate`. -/
def freshRate (cache : RateCache) (key : MarketKey) (now : DateTime) : Option HanbovaRate :=
  match cache.lookup key with
  | some entry =>
    if age now entry < service.freshDuration then some { entry.rate with isStale := false }
    else none
  | none => none

def store (cache : RateCache) (key : MarketKey) (rate : HanbovaRate) (now : DateTime) : RateCache :=
  cache.insert key ⟨rate, now⟩

/-- The answer of `get_rate` after its provider has failed. -/
def staleRate (cache : RateCache) (key : MarketKey) (now : DateTime) : ProviderResult :=
  match cache.lookup key with
  | some entry =>
    if age now entry < service.staleDuration then .ok { entry.rate with isStale := true }
    else .error (.unavailable "Rate temporarily unavailable")
  | none => .error (.unavailable "Rate temporarily unavailable")

def marketsToFetch (cache : RateCache) (now : DateTime) : List MarketKey :=
  allMarkets.filter fun m =>
    match cache.lookup (marketKey U m) with
    | some e => service.freshDuration ≤ age now e
    | none => true

/-- The successful fetches are written back in the order of the markets. -/
def storeAll (cache : RateCache) (now : DateTime) (results : List (MarketKey × ProviderResult)) :
    RateCache :=
  results.foldl (fun cache result =>
    match result with
    | (m, .ok rate) => store cache (marketKey U m) rate now
    | (_, .error _) => cache) cache

/-- What `get_all_rates` makes of the entry of one market. -/
def listedRate (cache : RateCache) (now : DateTime) (m : MarketKey) : Option HanbovaRate :=
  match cache.lookup (marketKey U m) with
  | some entry =>
    if age now entry < service.staleDuration then
      some { entry.rate with isStale := service.freshDuration ≤ age now entry }
    else none
  | none => none

def listRates (cache : RateCache) (now : DateTime) : List (Option HanbovaRate) :=
  allMarkets.map (service.listedRate U cache now)

/-! ### Spec lemmas -/

variable {U service} {cache : RateCache} {key m : MarketKey} {now : DateTime} {rate : HanbovaRate}

theorem freshRate_some (h : service.freshRate cache key now = some rate) :
    ∃ e, cache.lookup key = some e ∧ age now e < service.freshDuration ∧
      rate = { e.rate with isStale := false } := by
  unfold freshRate at h
  cases hl : cache.lookup key with
  | none => simp [hl] at h
  | some e =>
    simp only [hl] at h
    split_ifs at h with hage
    exact ⟨e, rfl, hage, (Option.some.inj h).symm⟩

theorem staleRate_ok (h : service.staleRate cache key now = .ok rate) :
    ∃ e, cache.lookup key = some e ∧ age now e < service.staleDuration ∧
      rate = { e.rate with isStale := true } := by
  unfold staleRate at h
  cases hl : cache.lookup key with
  | none => simp [hl] at h
  | some e =>
    simp only [hl] at h
    split_ifs at h with hage
    exact ⟨e, rfl, hage, (Except.ok.inj h).symm⟩

theorem listedRate_some (h : service.listedRate U cache now m = some rate) :
    ∃ e, cache.lookup (marketKey U m) = some e ∧ age now e < service.staleDuration ∧
      rate = { e.rate with isStale := service.freshDuration ≤ age now e } := by
  unfold listedRate at h
  cases hl : cache.lookup (marketKey U m) with
  | none => simp [hl] at h
  | some e =>
    simp only [hl] at h
    split_ifs at h with hage
    exact ⟨e, rfl, hage, (Option.some.inj h).symm⟩

theorem setAt_store (cache : RateCache) (key : MarketKey) (rate : HanbovaRate) (now : DateTime) :
    Table.SetAt cache key ⟨rate, now⟩ (store cache key rate now) := Table.setAt_insert _ _ _

/-- The known markets are written in capitals. -/
theorem marketKey_of_mem (U : UpperTable) (h : m ∈ allMarkets) : marketKey U m = m := by
  have capital : (allMarkets.all fun m => [m.1, m.2.1, m.2.2].all fun s =>
      s.toList.all fun c => c.toNat < 128 ∧ c.toUpper = c) = true := by decide +kernel
  simp only [List.all_eq_true, decide_eq_true_eq] at capital
  have hm := capital m h
  rw [marketKey, U.toUppercase_of_capitals (hm _ (by simp)),
    U.toUppercase_of_capitals (hm _ (by simp)), U.toUppercase_of_capitals (hm _ (by simp))]

end HanbovaRateService
end Hanbova
