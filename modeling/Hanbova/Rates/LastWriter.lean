import Hanbova.Rates.Staleness
import Mathlib.Data.List.Chain

/-! The entry of a key is the one that was written last, however late its fetch has answered. -/
namespace Hanbova

open Library Library.Text Library.System

section
variable (U : UpperTable) (key : MarketKey)

/-- The entries that are written to a key in the course of a run, in order. -/
def writesOf (tr : RateTrace) : List CachedRateEntry :=
  Table.writesTo key ((labels tr).flatMap fun l => l.written U)

/-- No step replaces the entry of the key by one with an earlier stamp. -/
def NeverDecreases (tr : RateTrace) : Prop :=
  ∀ x ∈ tr, ∀ e ∈ x.pre.shared.lookup key, ∀ e' ∈ x.post.shared.lookup key,
    e.cachedAt ≤ e'.cachedAt

namespace RateCall

/-- The start of the call. -/
def startedAt : RateCall → DateTime
  | looking _ now | fetching _ now | writing _ now _ | fallingBack _ now => now
  | listing now | fetchingAll now _ | building now => now

/-- The call may still write to the key. -/
def MayWrite : RateCall → Prop
  | looking k _ | fetching k _ | writing k _ _ => k = key
  | listing _ => key ∈ allMarkets
  | fetchingAll _ slots => ∃ p ∈ slots, HanbovaRateService.marketKey U p.1 = key
  | fallingBack _ _ | building _ => False

end RateCall

/-- No two calls in flight may write to the key. -/
def Alone (s : RateState) : Prop :=
  s.calls.Pairwise fun c c' => ¬ (c.MayWrite U key ∧ c'.MayWrite U key)

end

variable {U : UpperTable} {service : HanbovaRateService} {tr : RateTrace} {s p q : RateState}
  {cache cache' : RateCache} {c c' : RateCall} {next : Option RateCall} {l : RateEvent}
  {key : MarketKey} {e : CachedRateEntry} {x : Transition RateState RateEvent}

/-! ### One step -/

/-- A step that writes to a key is one of a call that may, and that will not do it again. The entry
has the start of the call for its stamp. -/
theorem RateCall.Step.written (h : RateCall.Step U service cache c l cache' next)
    (he : (key, e) ∈ l.written U) :
    c.MayWrite U key ∧ e.cachedAt = c.startedAt ∧ ∀ c' ∈ next, ¬ c'.MayWrite U key := by
  cases h with
  | stored key' now rate =>
    obtain ⟨rfl, rfl⟩ := Prod.mk.inj (List.mem_singleton.mp he)
    exact ⟨rfl, rfl, fun c' hc' => by cases hc'⟩
  | allStored now results =>
    obtain ⟨⟨m, answer⟩, hp, hans⟩ := List.mem_filterMap.mp he
    obtain ⟨rate, -, heq⟩ := Option.map_eq_some_iff.mp hans
    obtain ⟨rfl, rfl⟩ := Prod.mk.inj heq
    refine ⟨⟨(m, some answer), List.mem_map.mpr ⟨_, hp, rfl⟩, rfl⟩, rfl,
      fun c' hc' => ?_⟩
    obtain rfl := Option.some.inj hc'
    exact id
  | _ => cases he

/-- A call keeps its start, and what it may write after a step it might have written before. -/
theorem RateCall.Step.goesOn (h : RateCall.Step U service cache c l cache' (some c'))
    (key : MarketKey) :
    c'.startedAt = c.startedAt ∧ (c'.MayWrite U key → c.MayWrite U key) := by
  cases h with
  | missed _ => exact ⟨rfl, id⟩
  | fetched key now rate => exact ⟨rfl, id⟩
  | failed key now err => exact ⟨rfl, False.elim⟩
  | allRead now =>
    refine ⟨rfl, ?_⟩
    rintro ⟨p, hp, hk⟩
    obtain ⟨m, hm, rfl⟩ := List.mem_map.mp hp
    have hmem := RateCall.mem_allMarkets_of_toFetch hm
    rw [HanbovaRateService.marketKey_of_mem U hmem] at hk
    rw [← hk]
    exact hmem
  | allFetched now answer m before after =>
    refine ⟨rfl, ?_⟩
    rintro ⟨p, hp, hk⟩
    rcases List.mem_append.mp hp with hp | hp
    · exact ⟨p, List.mem_append_left _ hp, hk⟩
    · rcases List.mem_cons.mp hp with rfl | hp
      · exact ⟨(m, none), List.mem_append_right _ List.mem_cons_self, hk⟩
      · exact ⟨p, List.mem_append_right _ (List.mem_cons_of_mem _ hp), hk⟩
  | allStored now results => exact ⟨rfl, False.elim⟩

theorem RateCall.Start.startedAt (h : RateCall.Start U l c) :
    c.startedAt ∈ l.clock ∧ l.written U = [] := by
  cases h <;> exact ⟨List.mem_singleton_self _, rfl⟩

/-- What a step does to the cache. -/
theorem insertAll_of_step (h : (rateSystem U service).step p l q) :
    q.shared = p.shared.insertAll (l.written U) := by
  cases h with
  | started h =>
    rw [h.startedAt.2]
    rfl
  | moved _ _ h => exact h.cache_eq

/-- All that a step writes has one stamp. -/
theorem stamps_of_step (h : (rateSystem U service).step p l q) (key : MarketKey) :
    ∃ t, ∀ e ∈ Table.writesTo key (l.written U), e.cachedAt = t := by
  cases h with
  | @started s cs l c h =>
    refine ⟨c.startedAt, fun e he => ?_⟩
    rw [h.startedAt.2] at he
    cases he
  | @moved s s' l c next xs ys h =>
    exact ⟨c.startedAt, fun e he => (h.written (Table.mem_writesTo.mp he)).2.1⟩

/-! ### The last writer -/

theorem writesOf_snoc (tr : RateTrace) (x : Transition RateState RateEvent) :
    writesOf U key (tr ++ [x]) = writesOf U key tr ++ Table.writesTo key (x.label.written U) := by
  have hx : labels [x] = [x.label] := rfl
  simp only [writesOf, labels_append, List.flatMap_append, Table.writesTo_append, hx,
    List.flatMap_cons, List.flatMap_nil, List.append_nil]

theorem lookup_eq_last (h : (rateSystem U service).Trace tr s) :
    s.shared.lookup key = (writesOf U key tr).getLast? := by
  refine h.induct (P := fun tr s => s.shared.lookup key = (writesOf U key tr).getLast?) ?_ ?_
  · rintro s ⟨hs, -⟩
    rw [hs]
    rfl
  · intro tr p l q _ ih hl
    rw [insertAll_of_step hl, Table.lookup_insertAll, ih, writesOf_snoc, List.getLast?_append]

/-- Further writes with one stamp are in order if that stamp is no earlier than the last one. -/
theorem stamps_append {es es' : List CachedRateEntry} {t : DateTime}
    (ht : ∀ e ∈ es', e.cachedAt = t) :
    ((es ++ es').map CachedRateEntry.cachedAt).Pairwise (· ≤ ·) ↔
      (es.map CachedRateEntry.cachedAt).Pairwise (· ≤ ·) ∧
        ∀ e ∈ es.getLast?, ∀ e' ∈ es'.getLast?, e.cachedAt ≤ e'.cachedAt := by
  have hsame : (es'.map CachedRateEntry.cachedAt).IsChain (· ≤ ·) := by
    refine List.Pairwise.isChain (List.pairwise_map.mpr (List.pairwise_of_forall_mem_list ?_))
    intro a ha b hb
    rw [ht a ha, ht b hb]
  rw [List.map_append, ← List.isChain_iff_pairwise, ← List.isChain_iff_pairwise,
    List.isChain_append]
  refine and_congr_right fun _ => ?_
  simp only [hsame, true_and, List.getLast?_map, List.head?_map, Option.mem_def,
    Option.map_eq_some_iff]
  constructor
  · intro hall e he e' he'
    have hne : es' ≠ [] := by rintro rfl; cases he'
    have hhead : es'.head hne ∈ es' := List.head_mem hne
    have hle := hall _ ⟨e, he, rfl⟩ _ ⟨es'.head hne, List.head?_eq_some_head hne, rfl⟩
    rw [ht _ hhead, ← ht e' (List.mem_of_getLast? he')] at hle
    exact hle
  · rintro hall _ ⟨e, he, rfl⟩ _ ⟨e', he', rfl⟩
    have hne : es' ≠ [] := by rintro rfl; cases he'
    have hlast : es'.getLast hne ∈ es' := List.getLast_mem hne
    have hle := hall e he (es'.getLast hne) (List.getLast?_eq_some_getLast hne)
    rw [ht _ hlast, ← ht e' (List.mem_of_mem_head? he')] at hle
    exact hle

theorem neverDecreases_snoc (tr : RateTrace) (x : Transition RateState RateEvent) :
    NeverDecreases key (tr ++ [x]) ↔ NeverDecreases key tr ∧
      ∀ e ∈ x.pre.shared.lookup key, ∀ e' ∈ x.post.shared.lookup key,
        e.cachedAt ≤ e'.cachedAt := by
  unfold NeverDecreases
  rw [List.forall_mem_append, List.forall_mem_singleton]

theorem neverDecreases_iff (h : (rateSystem U service).Trace tr s) :
    NeverDecreases key tr ↔
      ((writesOf U key tr).map CachedRateEntry.cachedAt).Pairwise (· ≤ ·) := by
  refine h.induct (P := fun tr _ => NeverDecreases key tr ↔
      ((writesOf U key tr).map CachedRateEntry.cachedAt).Pairwise (· ≤ ·)) ?_ ?_
  · intro s _
    exact ⟨fun _ => List.Pairwise.nil, fun _ x hx => by cases hx⟩
  · intro tr p l q htr ih hl
    obtain ⟨t, ht⟩ := stamps_of_step hl key
    have hpost : q.shared.lookup key =
        (Table.writesTo key (l.written U)).getLast?.or (p.shared.lookup key) := by
      rw [insertAll_of_step hl, Table.lookup_insertAll]
    have hlast : (∀ e ∈ p.shared.lookup key, ∀ e' ∈ q.shared.lookup key,
        e.cachedAt ≤ e'.cachedAt) ↔ ∀ e ∈ (writesOf U key tr).getLast?,
          ∀ e' ∈ (Table.writesTo key (l.written U)).getLast?, e.cachedAt ≤ e'.cachedAt := by
      rw [← lookup_eq_last htr, hpost]
      cases hw : (Table.writesTo key (l.written U)).getLast? with
      | some e' => rfl
      | none =>
        constructor
        · intro _ e _ e' he'
          cases he'
        · intro _ e he e' he'
          obtain rfl : e = e' := Option.some.inj (he.symm.trans he')
          exact le_rfl
    rw [writesOf_snoc, stamps_append ht, ← ih, ← hlast, neverDecreases_snoc]

/-! ### Calls that do not overlap -/

/-- Every stamp and every start of a call has been read from the clock. -/
theorem stamps_read (h : (rateSystem U service).Trace tr s) :
    (∀ key e, s.shared.lookup key = some e → e.cachedAt ∈ readings RateEvent.clock tr) ∧
      ∀ c ∈ s.calls, c.startedAt ∈ readings RateEvent.clock tr := by
  have hmono : ∀ {tr : RateTrace} {x t}, t ∈ readings RateEvent.clock tr →
      t ∈ readings RateEvent.clock (tr ++ [x]) := by
    intro tr x t ht
    rw [readings_append]
    exact List.mem_append_left _ ht
  refine Pool.trace_induct (I := fun tr cache => ∀ key e, cache.lookup key = some e →
    e.cachedAt ∈ readings RateEvent.clock tr) (J := fun tr c => c.startedAt ∈ readings
    RateEvent.clock tr) h ?_ ?_ ?_ ?_ ?_
  · rintro cache rfl key e he
    simp at he
  · exact fun tr x cache hc key e he => hmono (hc key e he)
  · exact fun tr x c hc => hmono hc
  · intro tr p l q c hc
    exact mem_readings (List.mem_append_right _ (List.mem_singleton_self _)) hc.startedAt.1
  · intro tr p l q c next hp hc hs
    constructor
    · intro key e he
      rw [hs.cache_eq] at he
      rcases Table.insertAll_some he with hw | hold
      · rw [(hs.written hw).2.1]
        exact hmono hc
      · exact hmono (hp key e hold)
    · intro c' hc'
      obtain rfl : next = some c' := hc'
      rw [(hs.goesOn ("", "", "")).1]
      exact hmono hc

/-- The entry of the key is no later than the calls that may still replace it. -/
def Behind (U : UpperTable) (key : MarketKey) (s : RateState) : Prop :=
  ∀ c ∈ s.calls, c.MayWrite U key → ∀ e ∈ s.shared.lookup key, e.cachedAt ≤ c.startedAt

theorem stamp_le_of_eq (h : cache'.lookup key = cache.lookup key) :
    ∀ e ∈ cache.lookup key, ∀ e' ∈ cache'.lookup key, e.cachedAt ≤ e'.cachedAt := by
  intro e he e' he'
  obtain rfl : e = e' := Option.some.inj (he.symm.trans (h.symm.trans he'))
  exact le_rfl

/-- A step of the only call that may write to the key keeps the stamps in order. -/
theorem behind_of_step {xs ys : List RateCall} (halone : Alone U key ⟨cache, xs ++ c :: ys⟩)
    (hbehind : Behind U key ⟨cache, xs ++ c :: ys⟩)
    (h : RateCall.Step U service cache c l cache' next) :
    (∀ e ∈ cache.lookup key, ∀ e' ∈ cache'.lookup key, e.cachedAt ≤ e'.cachedAt) ∧
      Behind U key ⟨cache', xs ++ next.toList ++ ys⟩ := by
  have hc : c ∈ xs ++ c :: ys := List.mem_append_right _ List.mem_cons_self
  have hpost : cache'.lookup key =
      (Table.writesTo key (l.written U)).getLast?.or (cache.lookup key) := by
    rw [h.cache_eq, Table.lookup_insertAll]
  cases hw : (Table.writesTo key (l.written U)).getLast? with
  | some e₀ =>
    obtain ⟨hmay, hstamp, hnext⟩ := h.written (Table.mem_writesTo.mp (List.mem_of_getLast? hw))
    rw [hw] at hpost
    constructor
    · intro e he e' he'
      obtain rfl : e₀ = e' := Option.some.inj (hpost.symm.trans he')
      rw [hstamp]
      exact hbehind c hc hmay e he
    · intro c' hc' hmay'
      exfalso
      obtain ⟨-, hrest, hbefore⟩ := List.pairwise_append.mp halone
      simp only [List.mem_append] at hc'
      rcases hc' with (hx | hn) | hy
      · exact hbefore c' hx c List.mem_cons_self ⟨hmay', hmay⟩
      · exact hnext c' (Option.mem_toList.mp hn) hmay'
      · exact (List.pairwise_cons.mp hrest).1 c' hy ⟨hmay, hmay'⟩
  | none =>
    have hsame : cache'.lookup key = cache.lookup key := by
      rw [hpost, hw]
      rfl
    constructor
    · exact stamp_le_of_eq hsame
    · intro c' hc' hmay' e he
      have he₀ : e ∈ cache.lookup key := hsame.symm.trans he
      simp only [List.mem_append] at hc'
      rcases hc' with (hx | hn) | hy
      · exact hbehind c' (List.mem_append_left _ hx) hmay' e he₀
      · obtain rfl : next = some c' := Option.mem_toList.mp hn
        obtain ⟨hstart, hmay⟩ := h.goesOn key
        rw [hstart]
        exact hbehind c hc (hmay hmay') e he₀
      · exact hbehind c' (List.mem_append_right _ (List.mem_cons_of_mem _ hy)) hmay' e he₀

theorem neverDecreases_of_alone (h : (rateSystem U service).Trace tr s)
    (htimed : Timed RateEvent.clock tr) (halone : ∀ x ∈ tr, Alone U key x.pre) :
    NeverDecreases key tr := by
  have hboth : NeverDecreases key tr ∧ Behind U key s := by
    revert htimed halone
    refine h.induct (P := fun tr s => Timed RateEvent.clock tr →
      (∀ x ∈ tr, Alone U key x.pre) → NeverDecreases key tr ∧ Behind U key s) ?_ ?_
    · rintro s ⟨-, hcalls⟩ - -
      refine ⟨fun x hx => (List.not_mem_nil hx).elim, fun c hc => ?_⟩
      rw [hcalls] at hc
      cases hc
    · intro tr p l q htr ih hl htimed halone
      obtain ⟨hold, hbehind⟩ := ih (htimed.of_isPrefix (List.prefix_append _ _))
        fun x hx => halone x (List.mem_append_left _ hx)
      have hp : Alone U key p := halone ⟨p, l, q⟩ (by simp)
      have hstep : (∀ e ∈ p.shared.lookup key, ∀ e' ∈ q.shared.lookup key,
          e.cachedAt ≤ e'.cachedAt) ∧ Behind U key q := by
        cases hl with
        | @started cache cs l c hc =>
          constructor
          · exact stamp_le_of_eq rfl
          · intro c' hc' hmay e he
            rcases List.mem_cons.mp hc' with rfl | hc'
            · have hread := (stamps_read htr).1 key e he
              refine htimed.le hread (mem_readings (List.mem_singleton_self _) ?_)
              exact hc.startedAt.1
            · exact hbehind c' hc' hmay e he
        | moved xs ys hc => exact behind_of_step hp hbehind hc
      exact ⟨(neverDecreases_snoc _ _).mpr ⟨hold, hstep.1⟩, hstep.2⟩
  exact hboth.1

/-- The entry of a key is the one that was written last. Its stamp never decreases exactly when the
fetches of the key write in the order of their starts, as they do where no two of them overlap. -/
theorem last_writer_wins (U : UpperTable) (service : HanbovaRateService) (tr : RateTrace)
    (s : RateState) (h : (rateSystem U service).Trace tr s) (key : MarketKey) :
    s.shared.lookup key = (writesOf U key tr).getLast? ∧
      (NeverDecreases key tr ↔
        ((writesOf U key tr).map CachedRateEntry.cachedAt).Pairwise (· ≤ ·)) ∧
      (Timed RateEvent.clock tr → (∀ x ∈ tr, Alone U key x.pre) → NeverDecreases key tr) :=
  ⟨lookup_eq_last h, neverDecreases_iff h, neverDecreases_of_alone h⟩

/-- A call starts later than another, and writes before it. -/
theorem older_fetch_overwrites : ¬ ∀ (U : UpperTable) (service : HanbovaRateService)
    (tr : RateTrace) (s : RateState), (rateSystem U service).Trace tr s →
    Timed RateEvent.clock tr →
    ∀ key, NeverDecreases key tr := by
  intro hall
  have h₁ := trace_sampleRates.snoc (.started (.started " ng" "usdt" "ngn" .epoch))
  have h₂ := h₁.snoc (.started (.started " ng" "usdt" "ngn" sampleLater))
  have h₃ := h₂.snoc (.moved [] [_] (.missed (missed_sampleRates _)))
  have h₄ := h₃.snoc (.moved [_] [] (.missed (missed_sampleRates _)))
  have h₅ := h₄.snoc (.moved [] [_] (.fetched _ _ _ sampleRate))
  have h₆ := h₅.snoc (.moved [_] [] (.fetched _ _ _ sampleRate))
  have h₇ := h₆.snoc (.moved [] [_] (.stored _ _ _ _))
  have h₈ := h₇.snoc (.moved [] [] (.stored _ _ _ _))
  have hnever := hall _ _ _ _ h₈ (timed_of_readings [.epoch, sampleLater] rfl (by decide))
    sampleRateKey _ (List.mem_append_right _ (List.mem_singleton_self _))
  have hle := hnever _ (HanbovaRateService.setAt_store _ _ _ _).lookup_self _
    (HanbovaRateService.setAt_store _ _ _ _).lookup_self
  revert hle
  decide

/-- A single call fetches a rate and writes it. -/
theorem last_writer_wins_sample : ∃ tr s, (rateSystem .ascii sampleService).Trace tr s ∧
    s.shared.lookup sampleRateKey = some ⟨sampleRate, .epoch⟩ ∧
    NeverDecreases sampleRateKey tr := by
  have h₁ := trace_sampleRates.snoc (.started (.started " ng" "usdt" "ngn" .epoch))
  have h₂ := h₁.snoc (.moved [] [] (.missed (missed_sampleRates _)))
  have h₃ := h₂.snoc (.moved [] [] (.fetched _ _ _ sampleRate))
  have h₄ := h₃.snoc (.moved [] [] (.stored _ _ _ _))
  obtain ⟨-, horder, -⟩ := last_writer_wins .ascii sampleService _ _ h₄ sampleRateKey
  refine ⟨_, _, h₄, (HanbovaRateService.setAt_store _ _ _ _).lookup_self, horder.mpr ?_⟩
  simp only [List.nil_append, List.cons_append, writesOf, labels, List.map_cons, List.map_nil,
    List.flatMap_cons, List.flatMap_nil, RateEvent.written, Table.writesTo]
  exact (List.pairwise_singleton _ _)

end Hanbova
