import Hanbova.Rates.Staleness

/-! Calls of the rate service that run alone: `get_all_rates` agrees with `get_rate`. -/
namespace Hanbova

open Library Library.Text Library.System

namespace HanbovaRateService

section
variable (U : UpperTable) (service : HanbovaRateService) (provider : MarketKey → ProviderResult)
  (cache : RateCache)

/-- `get_rate` from beginning to end. -/
def getRate (market settlementAsset targetCurrency : String) (now : DateTime) :
    ProviderResult × RateCache :=
  let key := requestKey U market settlementAsset targetCurrency
  match service.freshRate cache key now with
  | some rate => (.ok rate, cache)
  | none =>
    match provider key with
    | .ok rate => (.ok rate, store cache key rate now)
    | .error _ => (service.staleRate cache key now, cache)

/-- `get_all_rates` from beginning to end. -/
def getAllRates (now : DateTime) : List (Option HanbovaRate) × RateCache :=
  let results := (service.marketsToFetch U cache now).map fun m => (m, provider m)
  let cache := storeAll U cache now results
  (service.listRates U cache now, cache)

/-- The cache after `get_rate` for one market after the other. -/
def getEach (now : DateTime) (ms : List MarketKey) : RateCache :=
  ms.foldl (fun cache m => (service.getRate U provider cache m.1 m.2.1 m.2.2 now).2) cache

/-- The entry of a key once it is fresh, or the provider has been asked for it. -/
def refreshed (now : DateTime) (key : MarketKey) : Option CachedRateEntry :=
  if service.freshRate cache key now = none then
    ((provider key).toOption.map fun rate => ⟨rate, now⟩).or (cache.lookup key)
  else cache.lookup key

end

variable {U : UpperTable} {service : HanbovaRateService} {provider : MarketKey → ProviderResult}
  {cache cache' : RateCache} {key m : MarketKey} {now : DateTime} {rate : HanbovaRate}
  {ms : List MarketKey}

/-- The known markets have nothing around them to trim. -/
theorem requestKey_of_mem (U : UpperTable) (h : m ∈ allMarkets) :
    requestKey U m.1 m.2.1 m.2.2 = m := by
  have trimmed : (allMarkets.all fun m => trim m.1 = m.1 ∧ trim m.2.1 = m.2.1 ∧
      trim m.2.2 = m.2.2) = true := by decide +kernel
  simp only [List.all_eq_true, decide_eq_true_eq] at trimmed
  obtain ⟨hmarket, hasset, hcurrency⟩ := trimmed m h
  rw [requestKey, hmarket, hasset, hcurrency]
  exact marketKey_of_mem U h

/-! ### The cache after a call -/

theorem lookup_getRate (U : UpperTable) (service : HanbovaRateService)
    (provider : MarketKey → ProviderResult) (cache : RateCache) (now : DateTime)
    (h : m ∈ allMarkets) (k : MarketKey) :
    (service.getRate U provider cache m.1 m.2.1 m.2.2 now).2.lookup k =
      if k = m then service.refreshed provider cache now m else cache.lookup k := by
  have hsame : cache.lookup k = if k = m then cache.lookup m else cache.lookup k := by
    split_ifs with hk
    · rw [hk]
    · rfl
  unfold getRate refreshed
  simp only [requestKey_of_mem U h]
  cases hfresh : service.freshRate cache m now with
  | some rate => simpa using hsame
  | none =>
    cases hanswer : provider m with
    | ok rate => exact setAt_store cache m rate now k
    | error err => simpa [Except.toOption] using hsame

theorem freshRate_congr (h : cache'.lookup key = cache.lookup key) :
    service.freshRate cache' key now = service.freshRate cache key now := by
  unfold freshRate
  rw [h]

theorem staleRate_congr (h : cache'.lookup key = cache.lookup key) :
    service.staleRate cache' key now = service.staleRate cache key now := by
  unfold staleRate
  rw [h]

theorem freshRate_eq_none_iff : service.freshRate cache key now = none ↔
    ∀ e ∈ cache.lookup key, service.freshDuration ≤ age now e := by
  unfold freshRate
  cases cache.lookup key with
  | none => simp
  | some e => simp

theorem mem_marketsToFetch : m ∈ service.marketsToFetch U cache now ↔
    m ∈ allMarkets ∧ service.freshRate cache m now = none := by
  rw [marketsToFetch, List.mem_filter]
  refine and_congr_right fun hm => ?_
  rw [marketKey_of_mem U hm, freshRate_eq_none_iff]
  cases cache.lookup m with
  | none => simp
  | some e => simp

/-- The answers are written back one after the other. -/
theorem lookup_storeAll (hms : ∀ m ∈ ms, m ∈ allMarkets) (k : MarketKey) :
    (storeAll U cache now (ms.map fun m => (m, provider m))).lookup k =
      if k ∈ ms then ((provider k).toOption.map fun rate => ⟨rate, now⟩).or (cache.lookup k)
      else cache.lookup k := by
  induction ms generalizing cache with
  | nil => rfl
  | cons m ms ih =>
    have hkey := marketKey_of_mem U (hms m List.mem_cons_self)
    have hrest := fun n hn => hms n (List.mem_cons_of_mem m hn)
    simp only [storeAll, List.map_cons, List.foldl_cons] at ih ⊢
    rw [ih hrest]
    cases hanswer : provider m with
    | error err =>
      by_cases hk : k = m
      · subst hk
        simp [hanswer, Except.toOption]
      · simp [hk]
    | ok rate =>
      simp only [hkey]
      rw [setAt_store cache m rate now k]
      by_cases hk : k = m
      · subst hk
        simp [hanswer, Except.toOption]
      · simp [hk]

theorem lookup_getAllRates (U : UpperTable) (service : HanbovaRateService)
    (provider : MarketKey → ProviderResult) (cache : RateCache) (now : DateTime) (k : MarketKey) :
    (service.getAllRates U provider cache now).2.lookup k =
      if k ∈ allMarkets then service.refreshed provider cache now k else cache.lookup k := by
  show (storeAll U cache now _).lookup k = _
  rw [lookup_storeAll fun m hm => (mem_marketsToFetch.mp hm).1]
  unfold refreshed
  by_cases hk : k ∈ allMarkets
  · by_cases hfresh : service.freshRate cache k now = none
    · rw [if_pos (mem_marketsToFetch.mpr ⟨hk, hfresh⟩), if_pos hk, if_pos hfresh]
    · rw [if_neg fun h => hfresh (mem_marketsToFetch.mp h).2, if_pos hk, if_neg hfresh]
  · rw [if_neg fun h => hk (mem_marketsToFetch.mp h).1, if_neg hk]

/-- What becomes of an entry depends on this entry and on the answer for it. -/
theorem refreshed_congr {provider' : MarketKey → ProviderResult}
    (hcache : cache'.lookup key = cache.lookup key) (hanswer : provider' key = provider key) :
    service.refreshed provider' cache' now key = service.refreshed provider cache now key := by
  unfold refreshed
  rw [freshRate_congr hcache, hcache, hanswer]

/-- A rate that has just been stored is fresh, so that it is not fetched again. -/
theorem refreshed_of_refreshed (hpos : 0 < service.freshDuration)
    (h : cache'.lookup key = service.refreshed provider cache now key) :
    service.refreshed provider cache' now key = service.refreshed provider cache now key := by
  by_cases hsame : service.refreshed provider cache now key = cache.lookup key
  · exact refreshed_congr (h.trans hsame) rfl
  · have hfresh : service.freshRate cache key now = none := by
      by_contra hfresh
      exact hsame (if_neg hfresh)
    cases hanswer : provider key with
    | error err =>
      refine absurd ?_ hsame
      rw [refreshed, if_pos hfresh, hanswer]
      rfl
    | ok rate =>
      have hnew : service.refreshed provider cache now key = some ⟨rate, now⟩ := by
        rw [refreshed, if_pos hfresh, hanswer]
        rfl
      have hage : age now ⟨rate, now⟩ = 0 := sub_self now.nanos
      have hkept : service.freshRate cache' key now ≠ none := by
        rw [Ne, freshRate_eq_none_iff, h, hnew]
        intro hold
        have hle : service.freshDuration ≤ age now ⟨rate, now⟩ := hold _ rfl
        rw [hage] at hle
        exact absurd hpos (not_lt.mpr hle)
      rw [refreshed, if_neg hkept, h]

theorem lookup_getEach (U : UpperTable) (hpos : 0 < service.freshDuration)
    (hms : ∀ m ∈ ms, m ∈ allMarkets) (k : MarketKey) :
    (service.getEach U provider cache now ms).lookup k =
      if k ∈ ms then service.refreshed provider cache now k else cache.lookup k := by
  induction ms generalizing cache with
  | nil => rfl
  | cons m ms ih =>
    have hm := lookup_getRate U service provider cache now (hms m List.mem_cons_self)
    have hself := (hm m).trans (if_pos rfl)
    have hcons : service.getEach U provider cache now (m :: ms) = service.getEach U provider
      (service.getRate U provider cache m.1 m.2.1 m.2.2 now).2 now ms := rfl
    rw [hcons, ih fun n hn => hms n (List.mem_cons_of_mem m hn)]
    by_cases hk : k = m
    · subst hk
      rw [hself, refreshed_of_refreshed hpos hself, ite_self, if_pos List.mem_cons_self]
    · have hother := (hm k).trans (if_neg hk)
      rw [hother, refreshed_congr hother rfl]
      simp only [List.mem_cons, hk, false_or]

/-! ### The answers -/

/-- What a provider answers is never marked as stale. -/
def AnswersFresh (provider : MarketKey → ProviderResult) : Prop :=
  ∀ key rate, provider key = .ok rate → rate.isStale = false

/-- The batch marks a rate after it has been written back, and the single call before. -/
theorem listedRate_of_refreshed (hpos : 0 < service.freshDuration)
    (hle : service.freshDuration ≤ service.staleDuration) (hprovider : AnswersFresh provider)
    (hm : m ∈ allMarkets) (h : cache'.lookup m = service.refreshed provider cache now m) :
    service.listedRate U cache' now m =
      (service.getRate U provider cache m.1 m.2.1 m.2.2 now).1.toOption := by
  rw [listedRate, marketKey_of_mem U hm, h, refreshed, getRate]
  simp only [requestKey_of_mem U hm]
  cases hfresh : service.freshRate cache m now with
  | some rate =>
    obtain ⟨e, he, hage, rfl⟩ := freshRate_some hfresh
    have hlive : age now e < service.staleDuration := lt_of_lt_of_le hage hle
    simp [he, hlive, hage, Except.toOption]
  | none =>
    cases hanswer : provider m with
    | ok rate =>
      have hage : age now ⟨rate, now⟩ = 0 := sub_self now.nanos
      have hyoung : decide (service.freshDuration ≤ 0) = false :=
        decide_eq_false (not_le.mpr hpos)
      have hmark : { rate with isStale := decide (service.freshDuration ≤ 0) } = rate := by
        rw [hyoung, ← hprovider m rate hanswer]
      have hlive : 0 < service.staleDuration := lt_of_lt_of_le hpos hle
      simp [Except.toOption, hage, hlive, hmark]
    | error err =>
      unfold staleRate
      cases he : cache.lookup m with
      | none => simp [Except.toOption]
      | some e =>
        have hold : service.freshDuration ≤ age now e := freshRate_eq_none_iff.mp hfresh e he
        by_cases hage : age now e < service.staleDuration
        · simp [Except.toOption, hage, hold]
        · simp [Except.toOption, hage]

/-- What `get_rate` returns depends on the entry of its market and on the answer for it. -/
theorem getRate_congr {provider' : MarketKey → ProviderResult} (hm : m ∈ allMarkets)
    (hanswer : provider' m = provider m) (hcache : cache'.lookup m = cache.lookup m) :
    (service.getRate U provider' cache' m.1 m.2.1 m.2.2 now).1 =
      (service.getRate U provider cache m.1 m.2.1 m.2.2 now).1 := by
  unfold getRate
  simp only [requestKey_of_mem U hm, freshRate_congr hcache, staleRate_congr hcache, hanswer]
  cases service.freshRate cache m now with
  | some rate => rfl
  | none => cases provider m <;> rfl

/-- For every market, the call for all of them returns what a call for this one returns, and the
cache is left as if the markets had been asked for one by one, in any order. Nothing that concerns
another market matters. -/
theorem getAllRates_eq (U : UpperTable) (service : HanbovaRateService)
    (provider : MarketKey → ProviderResult) (hprovider : AnswersFresh provider)
    (hpos : 0 < service.freshTtl) (hle : service.freshTtl ≤ service.staleTtl)
    (hconv : chronoFromStd service.staleTtl ≠ none) (cache : RateCache) (now : DateTime) :
    (service.getAllRates U provider cache now).1 = allMarkets.map (fun m =>
      (service.getRate U provider cache m.1 m.2.1 m.2.2 now).1.toOption) ∧
    (∀ ms : List MarketKey, (∀ m, m ∈ ms ↔ m ∈ allMarkets) → ∀ key,
      (service.getEach U provider cache now ms).lookup key =
        (service.getAllRates U provider cache now).2.lookup key) ∧
    ∀ (provider' : MarketKey → ProviderResult) (cache' : RateCache) (i : ℕ) (m : MarketKey),
      AnswersFresh provider' → allMarkets[i]? = some m → provider' m = provider m →
      cache'.lookup m = cache.lookup m →
      (service.getAllRates U provider' cache' now).1[i]? =
        (service.getAllRates U provider cache now).1[i]? := by
  have hfresh := freshDuration_of_convertible hconv hle
  have hstale := staleDuration_of_convertible hconv
  have hpos' : 0 < service.freshDuration := by
    rw [hfresh]
    exact_mod_cast hpos
  have hle' : service.freshDuration ≤ service.staleDuration := by
    rw [hfresh, hstale]
    exact_mod_cast hle
  have hslots : ∀ (provider : MarketKey → ProviderResult) (cache : RateCache),
      AnswersFresh provider → (service.getAllRates U provider cache now).1 = allMarkets.map
        (fun m => (service.getRate U provider cache m.1 m.2.1 m.2.2 now).1.toOption) := by
    intro provider cache hprovider
    refine List.map_congr_left fun m hm => ?_
    apply listedRate_of_refreshed hpos' hle' hprovider hm
    exact (lookup_getAllRates U service provider cache now m).trans (if_pos hm)
  refine ⟨hslots provider cache hprovider, ?_, ?_⟩
  · intro ms hms key
    rw [lookup_getEach U hpos' fun m hm => (hms m).mp hm, lookup_getAllRates]
    simp only [hms]
  · intro provider' cache' i m hprovider' hi hanswer hcache
    rw [hslots provider cache hprovider, hslots provider' cache' hprovider', List.getElem?_map,
      List.getElem?_map, hi, Option.map_some, Option.map_some,
      getRate_congr (List.mem_of_getElem? hi) hanswer hcache]

/-- One market is fetched, the stale rate of another one is used, and the others have none. -/
theorem getAllRates_eq_sample :
    let provider : MarketKey → ProviderResult := fun m =>
      if m = sampleRateKey then .ok sampleRate else .error (.internal "")
    let stale : HanbovaRate := { sampleRate with isStale := true }
    let cache := store ∅ ("KE", "USDT", "KES") sampleRate .epoch
    (sampleService.getAllRates .ascii provider cache sampleLater).1 =
      [some sampleRate, some stale] ++ List.replicate 6 none ∧
    (sampleService.getAllRates .ascii provider cache sampleLater).1 = allMarkets.map (fun m =>
      (sampleService.getRate .ascii provider cache m.1 m.2.1 m.2.2 sampleLater).1.toOption) := by
  intro provider stale cache
  have hprovider : AnswersFresh provider := by
    intro key rate hanswer
    by_cases hkey : key = sampleRateKey
    · have hrate : provider key = .ok sampleRate := if_pos hkey
      rw [← Except.ok.inj (hrate.symm.trans hanswer)]
      rfl
    · have herr : provider key = .error (.internal "") := if_neg hkey
      rw [herr] at hanswer
      cases hanswer
  obtain ⟨hslots, -, -⟩ := getAllRates_eq .ascii sampleService provider hprovider (by decide)
    (by decide) (by decide) cache sampleLater
  exact ⟨by decide +kernel, hslots⟩

end HanbovaRateService

/-! ### A call that runs alone -/

/-- What a call of `get_rate` returns in this step. -/
def RateEvent.answer : RateEvent → Option ProviderResult
  | .stored _ _ rate => some (.ok rate)
  | .answered _ _ answer => some answer
  | _ => none

/-- What is fetched in this step. -/
def RateEvent.asked : RateEvent → List (MarketKey × ProviderResult)
  | .fetched key _ answer => [(key, answer)]
  | _ => []

/-- The fetches of a run are answered by `provider`. -/
def AnsweredBy (provider : MarketKey → ProviderResult) (tr : RateTrace) : Prop :=
  ∀ p ∈ (labels tr).flatMap RateEvent.asked, p.2 = provider p.1

variable {U : UpperTable} {service : HanbovaRateService} {provider : MarketKey → ProviderResult}
  {cache cache' : RateCache} {now : DateTime}

theorem answeredBy_append {tr tr' : RateTrace} :
    AnsweredBy provider (tr ++ tr') ↔ AnsweredBy provider tr ∧ AnsweredBy provider tr' := by
  unfold AnsweredBy
  rw [labels_append, List.flatMap_append, List.forall_mem_append]

/-- A run of a single call of `get_rate`, from its start to its answer. -/
theorem run_getRate {market settlementAsset targetCurrency : String} {answer : ProviderResult}
    (h : service.getRate U provider cache market settlementAsset targetCurrency now =
      (answer, cache')) :
    ∃ tr x, (rateSystem U service).Run ⟨cache, []⟩ (tr ++ [x]) ⟨cache', []⟩ ∧
      AnsweredBy provider (tr ++ [x]) ∧ x.label.answer = some answer := by
  have h₁ := Run.nil.snoc (T := rateSystem U service) (s := ⟨cache, []⟩)
    (.started (.started market settlementAsset targetCurrency now))
  unfold HanbovaRateService.getRate at h
  generalize HanbovaRateService.requestKey U market settlementAsset targetCurrency = key at *
  cases hfresh : service.freshRate cache key now with
  | some rate =>
    simp only [hfresh] at h
    obtain ⟨rfl, rfl⟩ := Prod.mk.inj h
    have h₂ := h₁.snoc (.moved [] [] (.hit hfresh))
    exact ⟨_, _, h₂, by simp [AnsweredBy, labels, RateEvent.asked], rfl⟩
  | none =>
    simp only [hfresh] at h
    have h₂ := h₁.snoc (.moved [] [] (.missed hfresh))
    cases hanswer : provider key with
    | ok rate =>
      simp only [hanswer] at h
      obtain ⟨rfl, rfl⟩ := Prod.mk.inj h
      have h₃ := h₂.snoc (.moved [] [] (.fetched cache key now rate))
      have h₄ := h₃.snoc (.moved [] [] (.stored cache key now rate))
      exact ⟨_, _, h₄, by simp [AnsweredBy, labels, RateEvent.asked, hanswer], rfl⟩
    | error err =>
      simp only [hanswer] at h
      obtain ⟨rfl, rfl⟩ := Prod.mk.inj h
      have h₃ := h₂.snoc (.moved [] [] (.failed cache key now err))
      have h₄ := h₃.snoc (.moved [] [] (.fellBack cache key now))
      exact ⟨_, _, h₄, by simp [AnsweredBy, labels, RateEvent.asked, hanswer], rfl⟩

/-- The markets that are still to be fetched answer one after the other. -/
theorem run_fetches (U : UpperTable) (service : HanbovaRateService)
    (provider : MarketKey → ProviderResult) (cache : RateCache) (now : DateTime)
    (ms : List MarketKey) (before : List (MarketKey × Option ProviderResult)) :
    ∃ tr, (rateSystem U service).Run
        ⟨cache, [.fetchingAll now (before ++ ms.map fun m => (m, none))]⟩ tr
        ⟨cache, [.fetchingAll now (before ++ ms.map fun m => (m, some (provider m)))]⟩ ∧
      AnsweredBy provider tr := by
  induction ms generalizing before with
  | nil => exact ⟨[], .nil, fun p hp => (List.not_mem_nil hp).elim⟩
  | cons m ms ih =>
    have h₁ := Run.single (T := rateSystem U service) (.moved [] [] (.allFetched cache now
      (provider m) m before (ms.map fun m => (m, none))))
    obtain ⟨tr, h₂, hanswered⟩ := ih (before ++ [(m, some (provider m))])
    rw [List.append_assoc, List.append_assoc] at h₂
    exact ⟨_, h₁.append h₂, answeredBy_append.mpr ⟨by simp [AnsweredBy, labels, RateEvent.asked],
      hanswered⟩⟩

/-- A run of a single call of `get_all_rates`, from its start to its answer. -/
theorem run_getAllRates {rates : List (Option HanbovaRate)}
    (h : service.getAllRates U provider cache now = (rates, cache')) :
    ∃ tr x, (rateSystem U service).Run ⟨cache, []⟩ (tr ++ [x]) ⟨cache', []⟩ ∧
      AnsweredBy provider (tr ++ [x]) ∧ x.label = .allAnswered now rates := by
  obtain ⟨rfl, rfl⟩ := Prod.mk.inj h
  have h₁ := Run.nil.snoc (T := rateSystem U service) (s := ⟨cache, []⟩)
    (.started (.allStarted now))
  have h₂ := h₁.snoc (.moved [] [] (.allRead cache now))
  obtain ⟨tr, h₃, hanswered⟩ := run_fetches U service provider cache now
    (service.marketsToFetch U cache now) []
  have hresults : ([] ++ (service.marketsToFetch U cache now).map fun m => (m, some (provider m))) =
      ((service.marketsToFetch U cache now).map fun m => (m, provider m)).map
        fun p => (p.1, some p.2) := by
    rw [List.nil_append, List.map_map]
    rfl
  rw [hresults] at h₃
  have h₄ := (h₂.append h₃).snoc (.moved [] [] (.allStored cache now _))
  have h₅ := h₄.snoc (.moved [] [] (.allAnswered _ now))
  refine ⟨_, _, h₅, ?_, rfl⟩
  simp only [answeredBy_append]
  simpa [AnsweredBy, labels, RateEvent.asked] using hanswered

end Hanbova
