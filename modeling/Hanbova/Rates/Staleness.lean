import Hanbova.Rates.System

/-! Every rate that is served has been fetched for its key, and not too long before. -/
namespace Hanbova

open Library Library.Text

abbrev RateTrace := List (Transition RateState RateEvent)

/-- A call for all markets has started at `t`. -/
def AskedAll (tr : RateTrace) (t : DateTime) : Prop := ∃ y ∈ tr, y.label = .allStarted t

/-- A call for this key has started at `t`: for the key that the market, the asset and the currency
of its request make, or for all markets, which the key is one of. -/
def Asked (U : UpperTable) (tr : RateTrace) (key : MarketKey) (t : DateTime) : Prop :=
  (∃ y ∈ tr, ∃ market settlementAsset targetCurrency,
    y.label = .started market settlementAsset targetCurrency t ∧
      key = HanbovaRateService.requestKey U market settlementAsset targetCurrency) ∨
    key ∈ allMarkets ∧ AskedAll tr t

/-- A call that asked for this key at `t` has been given `rate` by the provider for it. -/
def Fetched (U : UpperTable) (tr : RateTrace) (key : MarketKey) (t : DateTime)
    (rate : HanbovaRate) : Prop :=
  Asked U tr key t ∧ ∃ y ∈ tr, y.label = .fetched key t (.ok rate)

/-- A call stands for what it was asked, and what it has been given so far comes from the
provider. -/
def RateCall.Sourced (U : UpperTable) (tr : RateTrace) : RateCall → Prop
  | .looking key now | .fetching key now | .fallingBack key now => Asked U tr key now
  | .writing key now rate => Fetched U tr key now rate
  | .listing now | .building now => AskedAll tr now
  | .fetchingAll now slots => AskedAll tr now ∧ ∀ p ∈ slots, p.1 ∈ allMarkets ∧
    ∀ rate, p.2 = some (.ok rate) → Fetched U tr p.1 now rate

/-- What the cache holds comes from the provider, and is stamped with the start of its fetch. -/
def RateCache.Sourced (U : UpperTable) (tr : RateTrace) (cache : RateCache) : Prop :=
  ∀ key e, cache.lookup key = some e → Fetched U tr key e.cachedAt e.rate

variable {U : UpperTable} {service : HanbovaRateService} {tr tr₁ : RateTrace} {s p q : RateState}
  {cache cache' : RateCache} {c : RateCall} {next : Option RateCall} {l : RateEvent}
  {key : MarketKey} {t : DateTime} {rate : HanbovaRate} {x : Transition RateState RateEvent}

theorem AskedAll.mono (h : AskedAll tr t) (hp : tr <+: tr₁) : AskedAll tr₁ t := by
  obtain ⟨y, hy, hl⟩ := h
  exact ⟨y, hp.subset hy, hl⟩

theorem Asked.mono (h : Asked U tr key t) (hp : tr <+: tr₁) : Asked U tr₁ key t := by
  rcases h with ⟨y, hy, hl⟩ | ⟨hkey, hall⟩
  · exact .inl ⟨y, hp.subset hy, hl⟩
  · exact .inr ⟨hkey, hall.mono hp⟩

theorem Fetched.mono (h : Fetched U tr key t rate) (hp : tr <+: tr₁) :
    Fetched U tr₁ key t rate := by
  obtain ⟨hasked, y, hy, hl⟩ := h
  exact ⟨hasked.mono hp, y, hp.subset hy, hl⟩

theorem RateCache.Sourced.mono (h : cache.Sourced U tr) (hp : tr <+: tr₁) :
    cache.Sourced U tr₁ :=
  fun key e he => (h key e he).mono hp

theorem RateCall.Sourced.mono (h : c.Sourced U tr) (hp : tr <+: tr₁) : c.Sourced U tr₁ := by
  cases c with
  | looking key now => exact Asked.mono h hp
  | fetching key now => exact Asked.mono h hp
  | fallingBack key now => exact Asked.mono h hp
  | writing key now rate => exact Fetched.mono h hp
  | listing now => exact AskedAll.mono h hp
  | building now => exact AskedAll.mono h hp
  | fetchingAll now slots =>
    obtain ⟨hall, hslots⟩ := h
    refine ⟨hall.mono hp, fun p hmem => ?_⟩
    obtain ⟨hm, hf⟩ := hslots p hmem
    exact ⟨hm, fun rate hr => (hf rate hr).mono hp⟩

/-- A call that starts has been asked for its key in this very step. -/
theorem RateCall.Start.sourced (h : RateCall.Start U l c) :
    c.Sourced U (tr ++ [⟨p, l, q⟩]) := by
  have hmem : (⟨p, l, q⟩ : Transition RateState RateEvent) ∈ tr ++ [⟨p, l, q⟩] :=
    List.mem_append_right _ (List.mem_singleton_self _)
  cases h with
  | started market settlementAsset targetCurrency now =>
    exact .inl ⟨_, hmem, market, settlementAsset, targetCurrency, rfl, rfl⟩
  | allStarted now => exact ⟨_, hmem, rfl⟩

/-- What a step writes to the cache has been fetched for that key. -/
theorem RateCall.Step.written_sourced (h : RateCall.Step U service cache c l cache' next)
    (hc : c.Sourced U tr) {e : CachedRateEntry} (he : (key, e) ∈ l.written U) :
    Fetched U tr key e.cachedAt e.rate := by
  cases h with
  | stored key' now rate =>
    obtain ⟨rfl, rfl⟩ := Prod.mk.inj (List.mem_singleton.mp he)
    exact hc
  | allStored now results =>
    obtain ⟨⟨m, answer⟩, hp, hans⟩ := List.mem_filterMap.mp he
    cases answer with
    | error err => cases hans
    | ok rate =>
      obtain ⟨rfl, rfl⟩ := Prod.mk.inj (Option.some.inj hans)
      have hslot := hc.2 (m, some (.ok rate)) (List.mem_map.mpr ⟨_, hp, rfl⟩)
      rw [HanbovaRateService.marketKey_of_mem U hslot.1]
      exact hslot.2 rate rfl
  | _ => cases he

theorem RateCall.Step.sourced (h : RateCall.Step U service p.shared c l q.shared next)
    (hp : RateCache.Sourced U tr p.shared) (hc : c.Sourced U tr) :
    RateCache.Sourced U (tr ++ [⟨p, l, q⟩]) q.shared ∧
      ∀ c' ∈ next, c'.Sourced U (tr ++ [⟨p, l, q⟩]) := by
  have hmono : tr <+: tr ++ [⟨p, l, q⟩] := List.prefix_append _ _
  have hmem : (⟨p, l, q⟩ : Transition RateState RateEvent) ∈ tr ++ [⟨p, l, q⟩] :=
    List.mem_append_right _ (List.mem_singleton_self _)
  constructor
  · intro key e he
    rw [h.cache_eq] at he
    rcases Table.insertAll_some he with hw | hold
    · exact (h.written_sourced hc hw).mono hmono
    · exact (hp key e hold).mono hmono
  · intro c' hc'
    replace hc := hc.mono hmono
    generalize p.shared = cache, q.shared = cache' at h
    cases h with
    | fetched key now rate =>
      obtain rfl := Option.some.inj hc'
      exact ⟨hc, _, hmem, rfl⟩
    | allRead now =>
      obtain rfl := Option.some.inj hc'
      refine ⟨hc, fun slot hslot => ?_⟩
      obtain ⟨m, hm, rfl⟩ := List.mem_map.mp hslot
      exact ⟨RateCall.mem_allMarkets_of_toFetch hm, fun rate hr => by cases hr⟩
    | allFetched now answer m before after =>
      obtain rfl := Option.some.inj hc'
      obtain ⟨hall, hslots⟩ := hc
      have hm := (hslots (m, none) (List.mem_append_right _ List.mem_cons_self)).1
      refine ⟨hall, fun slot hslot => ?_⟩
      rcases List.mem_append.mp hslot with hs | hs
      · exact hslots slot (List.mem_append_left _ hs)
      · rcases List.mem_cons.mp hs with rfl | hs
        · refine ⟨hm, fun rate hr => ?_⟩
          obtain rfl := Option.some.inj hr
          exact ⟨.inr ⟨hm, hall⟩, _, hmem, rfl⟩
        · exact hslots slot (List.mem_append_right _ (List.mem_cons_of_mem _ hs))
    | missed _ => obtain rfl := Option.some.inj hc'; exact hc
    | failed key now err => obtain rfl := Option.some.inj hc'; exact hc
    | allStored now results => obtain rfl := Option.some.inj hc'; exact hc.1
    | hit _ => cases hc'
    | stored key now rate => cases hc'
    | fellBack key now => cases hc'
    | allAnswered now => cases hc'

theorem sourced_of_trace (h : (rateSystem U service).Trace tr s) :
    RateCache.Sourced U tr s.shared ∧ ∀ c ∈ s.calls, c.Sourced U tr := by
  refine Pool.trace_induct h ?_ ?_ ?_ ?_ ?_
  · rintro cache rfl key e he
    simp at he
  · exact fun tr x cache hc => hc.mono (List.prefix_append _ _)
  · exact fun tr x c hc => hc.mono (List.prefix_append _ _)
  · exact fun tr p l q c hstart => hstart.sourced
  · exact fun tr p l q c next hp hc hs => hs.sourced hp hc

/-! ### Serving -/

namespace HanbovaRateService

theorem staleDuration_of_convertible (h : chronoFromStd service.staleTtl ≠ none) :
    service.staleDuration = service.staleTtl := by
  unfold chronoFromStd at h
  unfold staleDuration chronoFromStd
  split_ifs at h ⊢ with hle
  · rfl
  · exact absurd rfl h

theorem freshDuration_of_convertible (h : chronoFromStd service.staleTtl ≠ none)
    (hle : service.freshTtl ≤ service.staleTtl) : service.freshDuration = service.freshTtl := by
  unfold chronoFromStd at h
  unfold freshDuration chronoFromStd
  split_ifs at h with hs
  · rw [if_pos (hle.trans hs)]
    rfl
  · exact absurd rfl h

end HanbovaRateService

/-- The rate has been fetched for the key by a call that asked for it within the stale window before
`t`, and within the fresh window where the rate is not marked as stale. -/
def Within (U : UpperTable) (service : HanbovaRateService) (tr : RateTrace) (key : MarketKey)
    (t : DateTime) (rate : HanbovaRate) : Prop :=
  ∃ t' v, Fetched U tr key t' v ∧ rate = { v with isStale := rate.isStale } ∧
    t.nanos - service.staleTtl ≤ t'.nanos ∧
    (rate.isStale = false → t.nanos - service.freshTtl ≤ t'.nanos)

/-- A call returns the rate that it has stored itself, or an entry of the cache: one that is younger
than the fresh window and not marked as stale, or younger than the stale window and marked. -/
theorem RateCall.Step.served_cases (h : RateCall.Step U service cache c l cache' next)
    (hserved : (key, t, rate) ∈ l.served) :
    c = .writing key t rate ∨
    (c = .looking key t ∨ c = .fallingBack key t ∨ key ∈ allMarkets ∧ c = .building t) ∧
      ∃ e, cache.lookup key = some e ∧ rate = { e.rate with isStale := rate.isStale } ∧
        (rate.isStale = false → HanbovaRateService.age t e < service.freshDuration) ∧
        (rate.isStale = true → HanbovaRateService.age t e < service.staleDuration) := by
  cases h with
  | @hit key' now rate' hr =>
    obtain ⟨rfl, rfl, rfl⟩ : key = key' ∧ t = now ∧ rate = rate' := by
      simpa [RateEvent.served] using hserved
    obtain ⟨e, he, hage, rfl⟩ := HanbovaRateService.freshRate_some hr
    exact .inr ⟨.inl rfl, e, he, rfl, fun _ => hage, (fun hs => by cases hs)⟩
  | stored key' now rate' =>
    obtain ⟨rfl, rfl, rfl⟩ : key = key' ∧ t = now ∧ rate = rate' := by
      simpa [RateEvent.served] using hserved
    exact .inl rfl
  | fellBack key' now =>
    cases hr : service.staleRate cache key' now with
    | error err => simp [RateEvent.served, hr] at hserved
    | ok rate' =>
      obtain ⟨rfl, rfl, rfl⟩ : key = key' ∧ t = now ∧ rate = rate' := by
        simpa [RateEvent.served, hr] using hserved
      obtain ⟨e, he, hage, rfl⟩ := HanbovaRateService.staleRate_ok hr
      exact .inr ⟨.inr (.inl rfl), e, he, rfl, (fun hs => by cases hs), fun _ => hage⟩
  | allAnswered now =>
    simp only [RateEvent.served, HanbovaRateService.listRates, ← List.map_prod_left_eq_zip,
      List.mem_filterMap, List.mem_map] at hserved
    obtain ⟨_, ⟨m, hm, rfl⟩, hr⟩ := hserved
    obtain ⟨rate', hl, heq⟩ := Option.map_eq_some_iff.mp hr
    obtain ⟨rfl, rfl, rfl⟩ : m = key ∧ now = t ∧ rate' = rate := by simpa using heq
    obtain ⟨e, he, hage, rfl⟩ := HanbovaRateService.listedRate_some hl
    rw [HanbovaRateService.marketKey_of_mem U hm] at he
    exact .inr ⟨.inr (.inr ⟨hm, rfl⟩), e, he, rfl,
      fun hs => by simpa using hs, fun _ => hage⟩
  | _ => cases hserved

/-- What a call returns is for a key that it was asked for. -/
theorem RateCall.Step.served_asked (h : RateCall.Step U service cache c l cache' next)
    (hc : c.Sourced U tr) (hserved : (key, t, rate) ∈ l.served) : Asked U tr key t := by
  rcases h.served_cases hserved with rfl | ⟨rfl | rfl | ⟨hm, rfl⟩, -⟩
  · exact hc.1
  · exact hc
  · exact hc
  · exact .inr ⟨hm, hc⟩

/-- What a call returns has been fetched for its key, but for the mark that it is stale. -/
theorem RateCall.Step.served_fetched (h : RateCall.Step U service cache c l cache' next)
    (hcache : cache.Sourced U tr) (hc : c.Sourced U tr) (hserved : (key, t, rate) ∈ l.served) :
    ∃ t' v, Fetched U tr key t' v ∧ rate = { v with isStale := rate.isStale } := by
  rcases h.served_cases hserved with rfl | ⟨-, e, he, hrate, -⟩
  · exact ⟨t, rate, hc, rfl⟩
  · exact ⟨e.cachedAt, e.rate, hcache key e he, hrate⟩

theorem RateCall.Step.served_within (hconv : chronoFromStd service.staleTtl ≠ none)
    (hle : service.freshTtl ≤ service.staleTtl)
    (h : RateCall.Step U service cache c l cache' next)
    (hcache : cache.Sourced U tr) (hc : c.Sourced U tr) (hserved : (key, t, rate) ∈ l.served) :
    Within U service tr key t rate := by
  have hle : (service.freshTtl : ℤ) ≤ service.staleTtl := Int.ofNat_le.mpr hle
  rcases h.served_cases hserved with rfl | ⟨-, e, he, hrate, hyoung, hold⟩
  · exact ⟨t, rate, hc, rfl, by omega, fun _ => by omega⟩
  · rw [HanbovaRateService.freshDuration_of_convertible hconv (Int.ofNat_le.mp hle)] at hyoung
    rw [HanbovaRateService.staleDuration_of_convertible hconv] at hold
    have hfresh (hs : rate.isStale = false) : t.nanos - e.cachedAt.nanos < service.freshTtl :=
      hyoung hs
    have hstale (hs : rate.isStale = true) : t.nanos - e.cachedAt.nanos < service.staleTtl :=
      hold hs
    refine ⟨e.cachedAt, e.rate, hcache key e he, hrate, ?_, fun hs => ?_⟩
    · cases hs : rate.isStale with
      | false =>
        have := hfresh hs
        omega
      | true =>
        have := hstale hs
        omega
    · have := hfresh hs
      omega

/-- Whatever calls run side by side and whenever the provider answers them, a rate that a call
returns is for the key that it asked for, and has been fetched for that key within the windows. -/
theorem served_within_ttl (U : UpperTable) (service : HanbovaRateService)
    (hle : service.freshTtl ≤ service.staleTtl) (hconv : chronoFromStd service.staleTtl ≠ none)
    (tr : RateTrace) (s : RateState) (h : (rateSystem U service).Trace tr s)
    (tr₁ : RateTrace) (x : Transition RateState RateEvent) (hx : tr₁ ++ [x] <+: tr)
    (key : MarketKey) (t : DateTime) (rate : HanbovaRate)
    (hserved : (key, t, rate) ∈ x.label.served) :
    Asked U tr₁ key t ∧ Within U service tr₁ key t rate := by
  obtain ⟨tr₂, rfl⟩ := hx
  obtain ⟨s₀, h₀, hr⟩ := h
  rw [List.append_assoc, List.singleton_append] at hr
  obtain ⟨hr₁, hl, -⟩ := hr.cut_cons
  obtain ⟨hcache, hcalls⟩ := sourced_of_trace ⟨s₀, h₀, hr₁⟩
  generalize x.pre = p, x.label = l, x.post = q at *
  cases hl with
  | started hstart => cases hstart <;> cases hserved
  | moved xs ys hstep =>
    have hc := hcalls _ (List.mem_append_right _ List.mem_cons_self)
    exact ⟨hstep.served_asked hc hserved, hstep.served_within hconv hle hcache hc hserved⟩

def sampleService : HanbovaRateService := ⟨45 * 1000000000, 600 * 1000000000⟩

def sampleRate : HanbovaRate :=
  { market := "NG", base := "USDT", quote := "NGN", display := "1 USDT", settlementAsset := "USDT"
    rate := 0x4095540000000000#64, provider := "mock", environment := "test", isLive := false
    isStale := false, updatedAt := .epoch, expiresAt := none }

def sampleRateKey : MarketKey := HanbovaRateService.requestKey .ascii " ng" "usdt" "ngn"

/-- Some time between the two windows. -/
def sampleLater : DateTime := .ofSeconds 100 (by decide)

theorem trace_sampleRates : (rateSystem .ascii sampleService).Trace [] ⟨∅, []⟩ :=
  ⟨⟨∅, []⟩, ⟨rfl, rfl⟩, .nil⟩

theorem missed_sampleRates (now : DateTime) :
    sampleService.freshRate ∅ sampleRateKey now = none := by
  have hempty : (∅ : RateCache).lookup sampleRateKey = none := rfl
  rw [HanbovaRateService.freshRate, hempty]

theorem sampleRateKey_eq : sampleRateKey = ("NG", "USDT", "NGN") := by decide +kernel

/-- A rate is fetched and cached; later the provider fails, and the cached rate is returned to a
request that spells the key in its own way. -/
theorem served_within_ttl_sample : ∃ tr s x,
    (rateSystem .ascii sampleService).Trace (tr ++ [x]) s ∧
    x.label = .answered ("NG", "USDT", "NGN") sampleLater
      (.ok { sampleRate with isStale := true }) ∧
    Asked .ascii tr ("NG", "USDT", "NGN") sampleLater ∧
    Within .ascii sampleService tr ("NG", "USDT", "NGN") sampleLater
      { sampleRate with isStale := true } := by
  have hcached : (HanbovaRateService.store ∅ sampleRateKey sampleRate .epoch).lookup sampleRateKey =
      some ⟨sampleRate, .epoch⟩ := (HanbovaRateService.setAt_store _ _ _ _).lookup_self
  have holder : sampleService.freshRate (HanbovaRateService.store ∅ sampleRateKey sampleRate .epoch)
      sampleRateKey sampleLater = none := by
    rw [HanbovaRateService.freshRate, hcached]
    exact if_neg (by decide)
  have hstale : sampleService.staleRate (HanbovaRateService.store ∅ sampleRateKey sampleRate .epoch)
      sampleRateKey sampleLater = .ok { sampleRate with isStale := true } := by
    rw [HanbovaRateService.staleRate, hcached]
    exact if_pos (by decide)
  have h₁ := trace_sampleRates.snoc (.started (.started " ng" "usdt" "ngn" .epoch))
  rw [show HanbovaRateService.requestKey .ascii " ng" "usdt" "ngn" = sampleRateKey from rfl] at h₁
  have h₂ := h₁.snoc (.moved [] [] (.missed (missed_sampleRates _)))
  have h₃ := h₂.snoc (.moved [] [] (.fetched _ _ _ sampleRate))
  have h₄ := h₃.snoc (.moved [] [] (.stored _ _ _ _))
  have h₅ := h₄.snoc (.started (.started "NG" "usdt " "NGN" sampleLater))
  have hkey : HanbovaRateService.requestKey .ascii "NG" "usdt " "NGN" = sampleRateKey := by
    decide +kernel
  rw [hkey] at h₅
  have h₆ := h₅.snoc (.moved [] [] (.missed holder))
  have h₇ := h₆.snoc (.moved [] [] (.failed _ _ _ (.internal "")))
  have h₈ := h₇.snoc (.moved [] [] (.fellBack _ _ _))
  rw [hstale] at h₈
  have hserved := served_within_ttl .ascii sampleService (by decide) (by decide) _ _ h₈ _ _
    (List.prefix_refl _) sampleRateKey sampleLater { sampleRate with isStale := true }
    (List.mem_singleton_self _)
  rw [← sampleRateKey_eq]
  exact ⟨_, _, _, h₈, rfl, hserved⟩

end Hanbova
