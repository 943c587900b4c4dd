import Hanbova.Accounts.Known
import Hanbova.Accounts.SingleUse
import Mathlib.Logic.Relation

/-! Where the sessions of a user come from: from a registration or a login with the password, by
exchanging one refresh token for the next. -/
namespace Hanbova

open Library Library.Text
open InMemoryUserRepository (matchesLogin cleanLogin)

variable {T : CaseTable} {env : AuthEnv}

/-- The refresh token of `q`, once stored, was exchanged in time for that of `p`. -/
def Renews (env : AuthEnv) (es : List (SessionEvent T)) (q p : PendingAuth) : Prop :=
  ∃ answer req now r, [.stored q answer, .exchanged req now r, .refreshed r p].Sublist es ∧
    env.hashToken req.refreshToken = env.hashToken q.refreshToken ∧ now < q.expiresAt ∧
    p.user.id = q.user.id

/-- The user of `p` has registered, or has logged in under their own name with the password. -/
def Proven (env : AuthEnv) (es : List (SessionEvent T)) (p : PendingAuth) : Prop :=
  .registered p ∈ es ∨ ∃ req, .loggedIn req p ∈ es ∧
    matchesLogin T (cleanLogin T (T.toLowercase (trim req.login))) p.user = true ∧
    env.verifyPassword req.password p.user.passwordHash = .ok true

/-- A session that goes back to one for which its user has proven who they are. -/
def Descends (env : AuthEnv) (es : List (SessionEvent T)) (p : PendingAuth) : Prop :=
  ∃ root, Proven env es root ∧ Relation.ReflTransGen (Renews env es) root p ∧
    root.user.id = p.user.id

section
variable {es : List (SessionEvent T)} {p q : PendingAuth}

theorem Proven.snoc (h : Proven env es p) (e : SessionEvent T) : Proven env (es ++ [e]) p := by
  rcases h with h | ⟨req, h, hrest⟩
  · exact .inl (List.mem_append_left _ h)
  · exact .inr ⟨req, List.mem_append_left _ h, hrest⟩

theorem Renews.snoc (h : Renews env es q p) (e : SessionEvent T) :
    Renews env (es ++ [e]) q p := by
  obtain ⟨answer, req, now, r, hsteps, hrest⟩ := h
  exact ⟨answer, req, now, r, hsteps.trans (List.sublist_append_left _ _), hrest⟩

theorem Descends.snoc (h : Descends env es p) (e : SessionEvent T) :
    Descends env (es ++ [e]) p := by
  obtain ⟨root, hroot, hchain, hid⟩ := h
  have hle : Renews env es ≤ Renews env (es ++ [e]) := fun _ _ hr => hr.snoc e
  exact ⟨root, hroot.snoc e, Relation.ReflTransGen.mono hle _ _ hchain, hid⟩

theorem Proven.descends (h : Proven env es p) : Descends env es p := ⟨p, h, .refl, rfl⟩

theorem Descends.renew (h : Descends env es q) (hr : Renews env es q p) : Descends env es p := by
  obtain ⟨root, hroot, hchain, hid⟩ := h
  obtain ⟨-, -, -, -, -, -, -, hpq⟩ := id hr
  exact ⟨root, hroot, hchain.tail hr, hid.trans hpq.symm⟩

end

namespace SessionState
variable {s t : SessionState T} {e : SessionEvent T} {es : List (SessionEvent T)}
variable {tr : List (Transition (SessionState T) (SessionEvent T))}

/-- A refresh under way has exchanged the token of a session that descends from a proof. -/
def Exchanges (env : AuthEnv) (es : List (SessionEvent T)) (r : PendingRefresh) : Prop :=
  ∃ q answer req now, [.stored q answer, .exchanged req now r].Sublist es ∧
    Descends env es q ∧
    env.hashToken req.refreshToken = env.hashToken q.refreshToken ∧ now < q.expiresAt ∧
    r.userId = q.user.id

/-- The token of a stored record was stored for a session that descends from a proof. -/
def Recorded (env : AuthEnv) (es : List (SessionEvent T)) (k : String) (rec : TokenRecord) :
    Prop :=
  ∃ p answer, .stored p answer ∈ es ∧ Descends env es p ∧
    env.hashToken p.refreshToken = k ∧
    p.user.id = rec.userId ∧ p.expiresAt = rec.expiresAt

/-- What every session, under way or stored, has behind it. -/
structure Lineage (env : AuthEnv) (es : List (SessionEvent T)) (s : SessionState T) : Prop where
  storing : ∀ p ∈ s.storing, Descends env es p
  tokens : ∀ k rec, s.refreshTokens.lookup k = some rec → Recorded env es k rec
  refreshing : ∀ r ∈ s.refreshing, Exchanges env es r
  stored : ∀ p answer, .stored p answer ∈ es → Descends env es p

theorem Exchanges.snoc {r : PendingRefresh} (h : Exchanges env es r) (e : SessionEvent T) :
    Exchanges env (es ++ [e]) r := by
  obtain ⟨q, answer, req, now, hsteps, hq, hrest⟩ := h
  exact ⟨q, answer, req, now, hsteps.trans (List.sublist_append_left _ _), hq.snoc e, hrest⟩

theorem Recorded.snoc {k : String} {rec rec' : TokenRecord} (h : Recorded env es k rec)
    (hlater : TokenRecord.Later rec rec') (e : SessionEvent T) :
    Recorded env (es ++ [e]) k rec' := by
  obtain ⟨p, answer, hmem, hp, hk, hu, hx⟩ := h
  exact ⟨p, answer, List.mem_append_left _ hmem, hp.snoc e, hk, hu.trans hlater.userId.symm,
    hx.trans hlater.expiresAt.symm⟩

theorem lineage_initial : Lineage (T := T) env [] .initial where
  storing := by simp [initial]
  tokens _ _ h := by cases h
  refreshing := by simp [initial]
  stored := by simp

/-- A session on its way to the store after a step. -/
theorem Lineage.storing_step (hs : Lineage env es s) (hr : (sessionSystem T env).Reachable s)
    (h : Step env s e t) : ∀ p ∈ t.storing, Descends env (es ++ [e]) p := by
  have hinbound := inbound_of_reachable hr
  have keep : ∀ p ∈ s.storing, Descends env (es ++ [e]) p :=
    fun p hp => (hs.storing p hp).snoc e
  have last : e ∈ es ++ [e] := List.mem_append_right _ (List.mem_singleton_self _)
  intro p hp
  cases h with
  | registered _ _ _ =>
    rcases List.mem_cons.mp hp with rfl | hp
    · exact Proven.descends (.inl last)
    · exact keep p hp
  | @loggedIn req d p' hlogin _ =>
    rcases List.mem_cons.mp hp with rfl | hp
    · obtain ⟨user, hfind, hverify, hprep⟩ := AuthService.login_ok hlogin
      have hmatches := (InMemoryUserRepository.findByUsernameOrEmail_some hfind).2
      obtain rfl := (AuthService.prepareAuthResponse_ok hprep).1
      exact Proven.descends (.inr ⟨req, last, hmatches, hverify⟩)
    · exact keep p hp
  | @refreshed r d p' hmem huser _ =>
    rcases List.mem_cons.mp hp with rfl | hp
    · obtain ⟨user, hl, hprep⟩ := AuthService.refreshUser_ok huser
      have hid : p.user.id = r.userId := by
        rw [(AuthService.prepareAuthResponse_ok hprep).1]
        exact hinbound.keyed _ _ hl
      obtain ⟨q, answer, req, now, hsteps, hq, hhash, hnow, hu⟩ := hs.refreshing r hmem
      refine (hq.snoc _).renew ⟨answer, req, now, r, ?_, hhash, hnow, hid.trans hu⟩
      exact hsteps.append (List.Sublist.refl [_])
    · exact keep p hp
  | stored _ _ => exact keep p (List.mem_of_mem_erase hp)
  | _ => exact keep p hp

/-- The record of a refresh token after a step. -/
theorem Lineage.tokens_step (hs : Lineage env es s) (hi : s.Invariant env) (h : Step env s e t)
    {k : String} {rec : TokenRecord} (hl : t.refreshTokens.lookup k = some rec) :
    Recorded env (es ++ [e]) k rec := by
  cases ha : e.refreshAct with
  | none =>
    rw [h.refreshTokens_eq ha] at hl
    exact (hs.tokens k rec hl).snoc (.refl rec) e
  | some a =>
    rcases (h.refreshTokens_step hi ha).lookup_cases hl with ⟨rec', hl, hlater⟩ |
      ⟨token, rfl, hk⟩
    · exact (hs.tokens k rec' hl).snoc hlater e
    · cases h with
      | @stored p d answer refreshTokens hp _ =>
        obtain ⟨rfl, hu, hx⟩ := TokenAct.stored.inj (Option.some.inj ha)
        exact ⟨p, answer, List.mem_append_right _ (List.mem_singleton_self _),
          (hs.storing p hp).snoc _, hk, hu, hx⟩
      | _ => cases ha

/-- A refresh under way after a step. -/
theorem Lineage.refreshing_step (hs : Lineage env es s) (h : Step env s e t) :
    ∀ r ∈ t.refreshing, Exchanges env (es ++ [e]) r := by
  have keep : ∀ r ∈ s.refreshing, Exchanges env (es ++ [e]) r :=
    fun r hr => (hs.refreshing r hr).snoc e
  intro r hr
  cases h with
  | @exchanged req now r' refreshTokens hx =>
    rcases List.mem_cons.mp hr with rfl | hr
    · obtain ⟨-, hv⟩ := AuthService.exchange_ok hx
      obtain ⟨rec, hl, -, hnow, hu, -⟩ := InMemoryUserRepository.validateAndEnd_some hv
      obtain ⟨q, answer, hmem, hq, hk, hqu, hqx⟩ := hs.tokens _ rec hl
      refine ⟨q, answer, req, now, ?_, hq.snoc _, hk.symm, hqx ▸ hnow, hu.symm.trans hqu.symm⟩
      exact (List.singleton_sublist.mpr hmem).append (List.Sublist.refl [_])
    · exact keep r hr
  | refreshed _ _ _ => exact keep r (List.mem_of_mem_erase hr)
  | refreshFailed _ _ => exact keep r (List.mem_of_mem_erase hr)
  | _ => exact keep r hr

theorem Lineage.step (hs : Lineage env es s) (hr : (sessionSystem T env).Reachable s)
    (h : Step env s e t) : Lineage env (es ++ [e]) t where
  storing := hs.storing_step hr h
  tokens _ _ := hs.tokens_step (invariant_of_reachable hr) h
  refreshing := hs.refreshing_step h
  stored p answer hmem := by
    rcases List.mem_append.mp hmem with hmem | hmem
    · exact (hs.stored p answer hmem).snoc e
    · obtain rfl := List.mem_singleton.mp hmem
      cases h with
      | stored hp _ => exact (hs.storing p hp).snoc _

theorem lineage_of_trace (h : (sessionSystem T env).Trace tr s) :
    Lineage env (System.labels tr) s := by
  refine h.induct (P := fun tr s => Lineage env (System.labels tr) s) ?_ ?_
  · intro s hi
    obtain rfl : s = .initial := hi
    exact lineage_initial
  · intro tr s e t ht hs hl
    rw [System.labels_append]
    exact hs.step ht.reachable hl

end SessionState

/-- Every session that a client is given, and every refresh token that is stored, goes back through
exchanges made in time to a registration or to a login with the password, all of one account. -/
theorem sessions_descend_from_credentials
    {tr : List (Transition (SessionState T) (SessionEvent T))} {s : SessionState T}
    (h : (sessionSystem T env).Trace tr s) :
    (∀ p answer, .stored p answer ∈ System.labels tr → Descends env (System.labels tr) p) ∧
    ∀ k rec, s.refreshTokens.lookup k = some rec →
      SessionState.Recorded env (System.labels tr) k rec :=
  have hs := SessionState.lineage_of_trace h
  ⟨hs.stored, hs.tokens⟩

open SessionState in
/-- Bob, who has registered, refreshes. -/
theorem sessions_descend_from_credentials_sample :
    ∃ tr s answer, (sessionSystem .ascii sampleEnv).Trace tr s ∧
      .stored (sampleAuth 1) answer ∈ System.labels tr ∧
      Descends sampleEnv (System.labels tr) (sampleAuth 1) := by
  obtain ⟨tr, ht, -⟩ := trace_sampleSession
  have hx : AuthService.exchange sampleEnv sampleSession.refreshTokens ⟨sampleToken 0⟩ .epoch =
      (.ok ⟨sampleToken 0, .ofNat 1⟩, sampleExchanged) := by decide +kernel
  obtain ⟨tr₁, h₁, hl₁⟩ := @run_refresh .ascii sampleEnv sampleSession _ _ _ _
    (sampleTokenDraw 1) (sampleAuth 1) ⟨.ofNat 11, .epoch⟩ hx (by decide +kernel)
    ⟨by decide +kernel, by simp [sampleSession]⟩
  have hmem : .stored (sampleAuth 1) (AuthService.storeAuth sampleEnv sampleExchanged
      (sampleAuth 1) ⟨.ofNat 11, .epoch⟩).1 ∈ System.labels (tr ++ tr₁) := by
    rw [System.labels_append, hl₁]
    simp
  exact ⟨_, _, _, ht.append h₁, hmem,
    (sessions_descend_from_credentials (ht.append h₁)).1 _ _ hmem⟩

end Hanbova
