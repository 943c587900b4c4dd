import Hanbova.Library.Pool
import Hanbova.Rates.Service

/-! Concurrent calls of the rate service over one cache. Every await of the source separates two
steps of a call. -/
namespace Hanbova

open Library Library.Text

/-- Where a call stands; `now` is the time that it has read at its start. -/
inductive RateCall
  | looking (key : MarketKey) (now : DateTime)
  | fetching (key : MarketKey) (now : DateTime)
  | writing (key : MarketKey) (now : DateTime) (rate : HanbovaRate)
  | fallingBack (key : MarketKey) (now : DateTime)
  | listing (now : DateTime)
  | fetchingAll (now : DateTime) (slots : List (MarketKey × Option ProviderResult))
  | building (now : DateTime)

inductive RateEvent
  | started (market settlementAsset targetCurrency : String) (now : DateTime)
  | missed (key : MarketKey) (now : DateTime)
  | fetched (key : MarketKey) (now : DateTime) (answer : ProviderResult)
  | stored (key : MarketKey) (now : DateTime) (rate : HanbovaRate)
  | answered (key : MarketKey) (now : DateTime) (answer : ProviderResult)
  | allStarted (now : DateTime)
  | allRead (now : DateTime)
  | allStored (now : DateTime) (results : List (MarketKey × ProviderResult))
  | allAnswered (now : DateTime) (rates : List (Option HanbovaRate))

namespace RateEvent

/-- The rates that a call returns in this step, each with its key and the start of the call. -/
def served : RateEvent → List (MarketKey × DateTime × HanbovaRate)
  | stored key now rate => [(key, now, rate)]
  | answered key now (.ok rate) => [(key, now, rate)]
  | allAnswered now rates =>
    (allMarkets.zip rates).filterMap fun p => p.2.map fun rate => (p.1, now, rate)
  | _ => []

/-- The entries that a call writes to the cache in this step. -/
def written (U : UpperTable) : RateEvent → List (MarketKey × CachedRateEntry)
  | stored key now rate => [(key, ⟨rate, now⟩)]
  | allStored now results => results.filterMap fun p =>
    p.2.toOption.map fun rate => (HanbovaRateService.marketKey U p.1, ⟨rate, now⟩)
  | _ => []

/-- Each call reads the clock once, at its start. -/
def clock : RateEvent → List DateTime
  | started _ _ _ now => [now]
  | allStarted now => [now]
  | _ => []

end RateEvent

namespace RateCall
variable (U : UpperTable) (service : HanbovaRateService)

inductive Start : RateEvent → RateCall → Prop
  | started (market settlementAsset targetCurrency : String) (now : DateTime) :
      Start (.started market settlementAsset targetCurrency now)
        (.looking (HanbovaRateService.requestKey U market settlementAsset targetCurrency) now)
  | allStarted (now : DateTime) : Start (.allStarted now) (.listing now)

inductive Step : RateCache → RateCall → RateEvent → RateCache → Option RateCall → Prop
  | hit {cache : RateCache} {key : MarketKey} {now : DateTime} {rate : HanbovaRate}
      (h : service.freshRate cache key now = some rate) :
      Step cache (.looking key now) (.answered key now (.ok rate)) cache none
  | missed {cache : RateCache} {key : MarketKey} {now : DateTime}
      (h : service.freshRate cache key now = none) :
      Step cache (.looking key now) (.missed key now) cache (some (.fetching key now))
  | fetched (cache : RateCache) (key : MarketKey) (now : DateTime) (rate : HanbovaRate) :
      Step cache (.fetching key now) (.fetched key now (.ok rate)) cache
        (some (.writing key now rate))
  | failed (cache : RateCache) (key : MarketKey) (now : DateTime) (err : ProviderError) :
      Step cache (.fetching key now) (.fetched key now (.error err)) cache
        (some (.fallingBack key now))
  | stored (cache : RateCache) (key : MarketKey) (now : DateTime) (rate : HanbovaRate) :
      Step cache (.writing key now rate) (.stored key now rate)
        (HanbovaRateService.store cache key rate now) none
  | fellBack (cache : RateCache) (key : MarketKey) (now : DateTime) :
      Step cache (.fallingBack key now) (.answered key now (service.staleRate cache key now))
        cache none
  | allRead (cache : RateCache) (now : DateTime) :
      Step cache (.listing now) (.allRead now) cache
        (some (.fetchingAll now ((service.marketsToFetch U cache now).map fun m => (m, none))))
  -- the markets are fetched side by side and answer in any order
  | allFetched (cache : RateCache) (now : DateTime) (answer : ProviderResult) (m : MarketKey)
      (before after : List (MarketKey × Option ProviderResult)) :
      Step cache (.fetchingAll now (before ++ (m, none) :: after)) (.fetched m now answer) cache
        (some (.fetchingAll now (before ++ (m, some answer) :: after)))
  | allStored (cache : RateCache) (now : DateTime) (results : List (MarketKey × ProviderResult)) :
      Step cache (.fetchingAll now (results.map fun p => (p.1, some p.2))) (.allStored now results)
        (HanbovaRateService.storeAll U cache now results) (some (.building now))
  | allAnswered (cache : RateCache) (now : DateTime) :
      Step cache (.building now) (.allAnswered now (service.listRates U cache now)) cache none

end RateCall

abbrev RateState := Pool RateCache RateCall

/-- The service starts with an empty cache. -/
def rateSystem (U : UpperTable) (service : HanbovaRateService) : System RateState RateEvent :=
  Pool.system (fun cache => cache = ∅) (RateCall.Start U) (RateCall.Step U service)

namespace RateCall
variable {U : UpperTable} {service : HanbovaRateService} {cache cache' : RateCache} {c : RateCall}
  {next : Option RateCall} {l : RateEvent} {key : MarketKey} {e : CachedRateEntry}

/-- A step does to the cache what it says that it writes. -/
theorem Step.cache_eq (h : Step U service cache c l cache' next) :
    cache' = cache.insertAll (l.written U) := by
  cases h with
  | allStored now results =>
    simp only [HanbovaRateService.storeAll, RateEvent.written, Table.insertAll,
      List.foldl_filterMap]
    congr 1
    funext cache p
    obtain ⟨m, answer⟩ := p
    cases answer <;> rfl
  | _ => rfl

/-- Only the known markets are fetched by a call for all of them. -/
theorem mem_allMarkets_of_toFetch {now : DateTime} {m : MarketKey}
    (h : m ∈ service.marketsToFetch U cache now) : m ∈ allMarkets := (List.mem_filter.mp h).1

end RateCall
end Hanbova
