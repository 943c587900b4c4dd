import Hanbova.Accounts.Tokens
import Hanbova.Library.History
import Mathlib.Data.Set.Function

/-! What one token store does over a run: tokens are stored under their hashes, accepted, and
revoked for a whole user. -/
namespace Hanbova

open Library
open InMemoryUserRepository (Tokens RecordDraw storeToken validateAndEnd revokeAllUserRefreshTokens)

inductive TokenAct
  | stored (token : String) (userId : Uuid) (expiresAt : DateTime)
  | accepted (token : String) (now : DateTime) (userId : Uuid)
  | revoked (userId : Uuid)
  deriving DecidableEq

namespace TokenAct

def token : TokenAct → Option String
  | stored token _ _ => some token
  | accepted token _ _ => some token
  | revoked _ => none

/-- The tokens that are stored or accepted. -/
def tokens (acts : List TokenAct) : Set String := fun t => ∃ a ∈ acts, a.token = some t

/-- Each token is accepted at most once, for the user it was stored for, before it expires and
before the tokens of that user are revoked. -/
structure Linear (acts : List TokenAct) : Prop where
  issued : ∀ as bs token now u, acts = as ++ accepted token now u :: bs →
    ∃ t, stored token u t ∈ as
  in_time : ∀ token now u v t, accepted token now u ∈ acts → stored token v t ∈ acts →
    u = v ∧ now < t
  once : ∀ as bs token now u, acts = as ++ accepted token now u :: bs →
    ∀ now' v, accepted token now' v ∉ bs
  unrevoked : ∀ as bs cs token u t, acts = as ++ stored token u t :: bs ++ revoked u :: cs →
    ∀ now v, accepted token now v ∉ cs

theorem mem_tokens {acts : List TokenAct} {a : TokenAct} {t : String} (ha : a ∈ acts)
    (ht : a.token = some t) : t ∈ tokens acts := ⟨a, ha, ht⟩

end TokenAct

/-- A token is stored under a hash that no other has. -/
inductive TokenStep (hash : String → String) : Tokens → TokenAct → Tokens → Prop
  | stored {store token userId expiresAt} (d : RecordDraw) :
      store.lookup (hash token) = none →
      TokenStep hash store (.stored token userId expiresAt)
        (storeToken store userId (hash token) expiresAt d)
  | accepted {store store' token now userId} :
      validateAndEnd store (hash token) now = (some userId, store') →
      TokenStep hash store (.accepted token now userId) store'
  | revoked {store} (userId : Uuid) (now : DateTime) :
      TokenStep hash store (.revoked userId) (revokeAllUserRefreshTokens store userId now)

def tokenSystem (hash : String → String) : System Tokens TokenAct where
  init store := store = ∅
  step := TokenStep hash

namespace TokenStep
variable {hash : String → String} {store store' : Tokens} {a : TokenAct}
variable {tr : List (Transition Tokens TokenAct)}

open InMemoryUserRepository

theorem evolves (h : TokenStep hash store a store') :
    Table.Evolves TokenRecord.Later store store' := by
  cases h with
  | stored d hnew => exact .add TokenRecord.Later.refl (setAt_storeToken store _ _ _ d) hnew
  | accepted hv => exact evolves_validateAndEnd hv
  | revoked u now => exact evolves_revokeAll store u now

theorem run_evolves (h : (tokenSystem hash).Run store tr store')
    (hs : (tokenSystem hash).Reachable store) :
    Table.Evolves TokenRecord.Later store store' :=
  h.relates hs (.refl TokenRecord.Later.refl) (.trans TokenRecord.Later.trans)
    fun _ _ _ _ hl => evolves hl

theorem lookup_cases (h : TokenStep hash store a store') {k : String} {r' : TokenRecord}
    (hr : store'.lookup k = some r') :
    (∃ r, store.lookup k = some r ∧ TokenRecord.Later r r') ∨
      ∃ token, a = .stored token r'.userId r'.expiresAt ∧ hash token = k := by
  cases h with
  | @stored token u t d hnew =>
    have hm := setAt_storeToken store u (hash token) t d
    rw [hm k] at hr
    split_ifs at hr with hk
    · obtain rfl := Option.some.inj hr
      exact .inr ⟨token, rfl, hk.symm⟩
    · exact .inl ⟨r', hr, .refl r'⟩
  | accepted hv =>
    obtain ⟨r, hl, -, -, -, hm⟩ := validateAndEnd_some hv
    rw [hm k] at hr
    split_ifs at hr with hk
    · obtain rfl := Option.some.inj hr
      exact .inl ⟨r, by rw [hk, hl], r.later_end _⟩
    · exact .inl ⟨r', hr, .refl r'⟩
  | revoked u now =>
    rw [revokeAllUserRefreshTokens, Table.lookup_mapValues] at hr
    obtain ⟨r, hl, rfl⟩ := Option.map_eq_some_iff.mp hr
    refine .inl ⟨r, hl, ?_⟩
    split_ifs
    · exact r.later_end now
    · exact .refl r

theorem lookup_stored (h : (tokenSystem hash).Trace tr store) {k : String} {r : TokenRecord}
    (hr : store.lookup k = some r) :
    ∃ token, .stored token r.userId r.expiresAt ∈ System.labels tr ∧ hash token = k := by
  revert k r
  refine h.induct (P := fun tr store => ∀ {k r}, AList.lookup k store = some r → ∃ token,
    TokenAct.stored token r.userId r.expiresAt ∈ System.labels tr ∧ hash token = k) ?_ ?_
  · intro store he k r hr
    obtain rfl : store = ∅ := he
    cases hr
  · intro tr store a store' _ ih hl k r hr
    rw [System.labels_append]
    rcases lookup_cases hl hr with ⟨r', hr', hlater⟩ | ⟨token, rfl, hk⟩
    · obtain ⟨token, hmem, hk⟩ := ih hr'
      rw [← hlater.userId, ← hlater.expiresAt] at hmem
      exact ⟨token, List.mem_append_left _ hmem, hk⟩
    · exact ⟨token, List.mem_append_right _ (List.mem_singleton_self _), hk⟩

theorem lookup_of_stored (h : (tokenSystem hash).Trace tr store) {token : String} {u : Uuid}
    {t : DateTime} (ha : .stored token u t ∈ System.labels tr) :
    ∃ r, store.lookup (hash token) = some r ∧ r.userId = u ∧ r.expiresAt = t := by
  obtain ⟨s₀, h₀, hr⟩ := h
  obtain ⟨as, bs, he⟩ := List.append_of_mem ha
  obtain ⟨tr₁, p, q, tr₂, -, -, -, h₁, hl, h₂⟩ := hr.cut_label he
  have hq : (tokenSystem hash).Reachable q := ⟨_, s₀, h₀, h₁.snoc hl⟩
  have hevolves := run_evolves h₂ hq
  cases hl with
  | stored d _ =>
    obtain ⟨r, hr, hlater⟩ := hevolves _ _ (setAt_storeToken p u _ t d).lookup_self
    exact ⟨r, hr, hlater.userId, hlater.expiresAt⟩

theorem ended_cases (h : TokenStep hash store a store') {k : String} {r' : TokenRecord}
    (hr : store'.lookup k = some r') (hend : r'.endedAt ≠ none) :
    (∃ r, store.lookup k = some r ∧ r.endedAt ≠ none ∧ r.userId = r'.userId) ∨
      (∃ token now, a = .accepted token now r'.userId ∧ hash token = k) ∨
        a = .revoked r'.userId := by
  cases h with
  | @stored token u t d hnew =>
    rw [setAt_storeToken store u (hash token) t d k] at hr
    split_ifs at hr with hk
    · obtain rfl := Option.some.inj hr
      exact absurd rfl hend
    · exact .inl ⟨r', hr, hend, rfl⟩
  | @accepted _ token now u hv =>
    obtain ⟨r, -, -, -, rfl, hm⟩ := validateAndEnd_some hv
    rw [hm k] at hr
    split_ifs at hr with hk
    · obtain rfl := Option.some.inj hr
      exact .inr (.inl ⟨token, now, rfl, hk.symm⟩)
    · exact .inl ⟨r', hr, hend, rfl⟩
  | revoked u now =>
    rw [revokeAllUserRefreshTokens, Table.lookup_mapValues] at hr
    obtain ⟨r, hl, rfl⟩ := Option.map_eq_some_iff.mp hr
    split_ifs at hend ⊢ with hu
    · exact .inr (.inr (congrArg TokenAct.revoked hu.1.symm))
    · exact .inl ⟨r, hl, hend, rfl⟩

/-- A record has ended because its token was accepted or all tokens of its user were revoked. -/
theorem ended_why (h : (tokenSystem hash).Trace tr store) {k : String} {r : TokenRecord}
    (hr : store.lookup k = some r) (hend : r.endedAt ≠ none) :
    (∃ token now, .accepted token now r.userId ∈ System.labels tr ∧ hash token = k) ∨
      .revoked r.userId ∈ System.labels tr := by
  revert k r
  refine h.induct (P := fun tr store => ∀ {k r}, AList.lookup k store = some r →
    r.endedAt ≠ none →
    (∃ token now, TokenAct.accepted token now r.userId ∈ System.labels tr ∧
      hash token = k) ∨
      TokenAct.revoked r.userId ∈ System.labels tr) ?_ ?_
  · intro store he k r hr
    obtain rfl : store = ∅ := he
    cases hr
  · intro tr store a store' _ ih hl k r' hr hend
    rw [System.labels_append]
    rcases ended_cases hl hr hend with ⟨r, hr, hend, hu⟩ | ⟨token, now, rfl, hk⟩ | rfl
    · rw [← hu]
      rcases ih hr hend with ⟨token, now, hmem, hk⟩ | hmem
      · exact .inl ⟨token, now, List.mem_append_left _ hmem, hk⟩
      · exact .inr (List.mem_append_left _ hmem)
    · exact .inl ⟨token, now, List.mem_append_right _ (List.mem_singleton_self _), hk⟩
    · exact .inr (List.mem_append_right _ (List.mem_singleton_self _))

/-- A stored token that nobody has used and nobody has revoked is accepted until it expires. -/
theorem accepted_of_open (h : (tokenSystem hash).Trace tr store) {token : String} {u : Uuid}
    {now t : DateTime} (hinj : Set.InjOn hash (TokenAct.tokens (System.labels tr)))
    (hst : .stored token u t ∈ System.labels tr)
    (hun : ∀ now v, .accepted token now v ∉ System.labels tr)
    (hrev : .revoked u ∉ System.labels tr) (hnow : now < t) :
    ∃ store', validateAndEnd store (hash token) now = (some u, store') := by
  obtain ⟨r, hr, rfl, rfl⟩ := lookup_of_stored h hst
  refine validateAndEnd_of_live hr ?_ hnow
  by_contra hend
  rcases ended_why h hr hend with ⟨token', now', hmem, hk⟩ | hmem
  · have hs := TokenAct.mem_tokens hst rfl
    obtain rfl := hinj (TokenAct.mem_tokens hmem rfl) hs hk
    exact hun _ _ hmem
  · exact hrev hmem

theorem not_accepted_of_ended (h : (tokenSystem hash).Run store tr store')
    (hs : (tokenSystem hash).Reachable store) {token : String} (he : Ended store (hash token)) :
    ∀ now u, .accepted token now u ∉ System.labels tr := by
  intro now u ha
  obtain ⟨as, bs, hab⟩ := List.append_of_mem ha
  obtain ⟨tr₁, p, q, tr₂, -, -, -, h₁, hl, -⟩ := h.cut_label hab
  have hp : Ended p (hash token) := he.evolves (run_evolves h₁ hs)
  cases hl with
  | accepted hv => exact InMemoryUserRepository.not_accepted_of_ended hp hv

theorem accepted_in_time (h : (tokenSystem hash).Trace tr store) {token : String} {now t : DateTime}
    {u v : Uuid} (ha : .accepted token now u ∈ System.labels tr)
    (hst : .stored token v t ∈ System.labels tr) : u = v ∧ now < t := by
  obtain ⟨r, hr, hv, ht⟩ := lookup_of_stored h hst
  obtain ⟨s₀, h₀, hrun⟩ := h
  obtain ⟨as, bs, he⟩ := List.append_of_mem ha
  obtain ⟨tr₁, p, q, tr₂, -, -, -, h₁, hl, h₂⟩ := hrun.cut_label he
  have hp : (tokenSystem hash).Reachable p := ⟨tr₁, s₀, h₀, h₁⟩
  have hevolves := run_evolves h₂ (hp.step hl)
  cases hl with
  | accepted hval =>
    obtain ⟨r₁, hr₁, -, hnow, hu, hm⟩ := validateAndEnd_some hval
    obtain ⟨r₂, hr₂, hlater⟩ := hevolves _ _ hm.lookup_self
    obtain rfl := Option.some.inj (hr.symm.trans hr₂)
    refine ⟨?_, ?_⟩
    · rw [← hu, ← hv]
      exact hlater.userId.symm
    · rw [← ht, hlater.expiresAt]
      exact hnow

/-- In every run of a token store the tokens are used linearly. -/
theorem linear (h : (tokenSystem hash).Trace tr store)
    (hinj : Set.InjOn hash (TokenAct.tokens (System.labels tr))) :
    TokenAct.Linear (System.labels tr) where
  issued as bs token now u he := by
    obtain ⟨s₀, h₀, hrun⟩ := h
    obtain ⟨tr₁, p, q, tr₂, -, rfl, -, h₁, hl, -⟩ := hrun.cut_label he
    cases hl with
    | accepted hv =>
      obtain ⟨r, hr, -, -, rfl, -⟩ := validateAndEnd_some hv
      obtain ⟨token', hmem, hhash⟩ := lookup_stored ⟨s₀, h₀, h₁⟩ hr
      have hmem' : .stored token' r.userId r.expiresAt ∈ System.labels tr := by
        rw [he]
        exact List.mem_append_left _ hmem
      have hacc : .accepted token now r.userId ∈ System.labels tr := by
        rw [he]
        exact List.mem_append_right _ List.mem_cons_self
      obtain rfl := hinj (TokenAct.mem_tokens hmem' rfl) (TokenAct.mem_tokens hacc rfl) hhash
      exact ⟨r.expiresAt, hmem⟩
  in_time token now u v t ha hst := accepted_in_time h ha hst
  once as bs token now u he := by
    obtain ⟨s₀, h₀, hrun⟩ := h
    obtain ⟨tr₁, p, q, tr₂, -, -, rfl, h₁, hl, h₂⟩ := hrun.cut_label he
    have hq : (tokenSystem hash).Reachable q := ⟨_, s₀, h₀, h₁.snoc hl⟩
    cases hl with
    | accepted hv => exact not_accepted_of_ended h₂ hq (ended_of_accepted hv)
  unrevoked as bs cs token u t he := by
    obtain ⟨s₀, h₀, hrun⟩ := h
    obtain ⟨tr₁, p, q, tr₂, -, hlabels, rfl, h₁, hl, h₂⟩ := hrun.cut_label he
    have hp : (tokenSystem hash).Trace tr₁ p := ⟨s₀, h₀, h₁⟩
    have hq := hp.reachable.step hl
    have hmem : .stored token u t ∈ System.labels tr₁ := by
      rw [hlabels]
      exact List.mem_append_right _ List.mem_cons_self
    obtain ⟨r, hr, hu, -⟩ := lookup_of_stored hp hmem
    cases hl with
    | revoked u now => exact not_accepted_of_ended h₂ hq (ended_revokeAll hr hu)

end TokenStep
end Hanbova
