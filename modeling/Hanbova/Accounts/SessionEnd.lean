import Hanbova.Accounts.Known
import Hanbova.Accounts.ResetLinks

/-! Which sessions a password reset ends. -/
namespace Hanbova

open Library Library.Text

variable {T : CaseTable} {env : AuthEnv}

/-- The token comes from a login among these steps, or from a refresh among them whose own token
was exchanged among them. -/
def IssuedIn (es : List (SessionEvent T)) (p : PendingAuth) : Prop :=
  (∃ req, .loggedIn req p ∈ es) ∨
    ∃ as bs r req now, es = as ++ .refreshed r p :: bs ∧ .exchanged req now r ∈ as

/-- Every refresh token of a user that is still accepted was issued after the last reset of the
user's password had revoked all tokens. -/
def EndsSessions (env : AuthEnv) (es : List (SessionEvent T)) (s : SessionState T) : Prop :=
  ∀ as bs r now, es = as ++ .sessionsRevoked r now :: bs → ∀ token now' refreshTokens,
    InMemoryUserRepository.validateAndRevokeRefreshToken s.refreshTokens (env.hashToken token)
      now' = (some r.userId, refreshTokens) →
    ∃ p, env.hashToken p.refreshToken = env.hashToken token ∧ p.user.id = r.userId ∧
      IssuedIn bs p

/-- A reset revokes the tokens of a user who has a login, a registration or a refresh between its
check of the credentials and the storing of its token. -/
def RevokesTooEarly (x : Transition (SessionState T) (SessionEvent T)) : Prop :=
  ∃ r now, x.label = .sessionsRevoked r now ∧
    ((∃ p ∈ x.pre.storing, p.user.id = r.userId) ∨
      ∃ q ∈ x.pre.refreshing, q.userId = r.userId)

theorem IssuedIn.snoc {es : List (SessionEvent T)} {p : PendingAuth} (h : IssuedIn es p)
    (e : SessionEvent T) : IssuedIn (es ++ [e]) p := by
  rcases h with ⟨req, hl⟩ | ⟨as, bs, r, req, now, rfl, hx⟩
  · exact .inl ⟨req, List.mem_append_left _ hl⟩
  · exact .inr ⟨as, bs ++ [e], r, req, now, by simp, hx⟩

namespace SessionState
variable {s t : SessionState T} {e : SessionEvent T}
variable {tr : List (Transition (SessionState T) (SessionEvent T))}

/-- A usable refresh token was usable before the step, or the step has stored it. -/
theorem Step.active (h : Step env s e t) (hs : s.Invariant env) {k : String} {r' : TokenRecord}
    (hr : t.refreshTokens.lookup k = some r') (hend : r'.endedAt = none) :
    (∃ r, s.refreshTokens.lookup k = some r ∧ r.userId = r'.userId ∧ r.endedAt = none) ∨
      ∃ p ∈ s.storing, env.hashToken p.refreshToken = k ∧ p.user.id = r'.userId := by
  cases ha : e.refreshAct with
  | none =>
    rw [h.refreshTokens_eq ha] at hr
    exact .inl ⟨r', hr, rfl, hend⟩
  | some a =>
    rcases (h.refreshTokens_step hs ha).lookup_cases hr with ⟨r, hr, hlater⟩ |
      ⟨token, rfl, hk⟩
    · refine .inl ⟨r, hr, hlater.userId.symm, ?_⟩
      by_contra hne
      exact hlater.ended hne hend
    · cases h with
      | stored hp _ =>
        obtain ⟨rfl, hu, -⟩ := TokenAct.stored.inj (Option.some.inj ha)
        exact .inr ⟨_, hp, hk, hu⟩
      | _ => cases ha

/-- Whatever could still give the user `u` a session comes from the steps `es`. -/
structure IssuedSince (env : AuthEnv) (u : Uuid) (es : List (SessionEvent T))
    (s : SessionState T) : Prop where
  refreshing : ∀ q ∈ s.refreshing, q.userId = u → ∃ req now, .exchanged req now q ∈ es
  storing : ∀ p ∈ s.storing, p.user.id = u → IssuedIn es p
  active : ∀ k r, s.refreshTokens.lookup k = some r → r.userId = u → r.endedAt = none →
    ∃ p, env.hashToken p.refreshToken = k ∧ p.user.id = u ∧ IssuedIn es p

/-- A reset that revokes in time leaves its user without a session. -/
theorem issuedSince_of_revoked {x : Transition (SessionState T) (SessionEvent T)}
    (h : Step env x.pre x.label x.post) {r : PendingPassword} {now : DateTime}
    (hx : x.label = .sessionsRevoked r now) (hr : ¬ RevokesTooEarly x) :
    IssuedSince env r.userId [] x.post := by
  obtain ⟨pre, e, post⟩ := x
  obtain rfl : e = .sessionsRevoked r now := hx
  have hnone : ¬ ((∃ p ∈ pre.storing, p.user.id = r.userId) ∨
      ∃ q ∈ pre.refreshing, q.userId = r.userId) := fun hc => hr ⟨r, now, rfl, hc⟩
  obtain ⟨hstoring, hrefreshing⟩ := not_or.mp hnone
  simp only at h ⊢
  cases h with
  | sessionsRevoked _ hmem =>
    refine ⟨fun q hq hu => absurd ⟨q, hq, hu⟩ hrefreshing,
      fun p hp hu => absurd ⟨p, hp, hu⟩ hstoring, fun k r' hl hu hend => ?_⟩
    exact absurd hend (InMemoryUserRepository.ended_of_revokeAll hl hu)

/-- A refresh under way was under way before the step, or the step has exchanged its token. -/
theorem Step.refreshing_cases (h : Step env s e t) {q : PendingRefresh} (hq : q ∈ t.refreshing) :
    q ∈ s.refreshing ∨ ∃ req now, e = .exchanged req now q := by
  cases h with
  | exchanged =>
    rcases List.mem_cons.mp hq with rfl | hq
    · exact .inr ⟨_, _, rfl⟩
    · exact .inl hq
  | refreshed => exact .inl (List.mem_of_mem_erase hq)
  | refreshFailed => exact .inl (List.mem_of_mem_erase hq)
  | _ => exact .inl hq

/-- A token to be stored was to be stored before the step, or it comes from a login, from a refresh
under way, or from the registration of a new user. -/
theorem Step.storing_cases (h : Step env s e t) (hs : (sessionSystem T env).Reachable s)
    {p : PendingAuth} (hp : p ∈ t.storing) :
    p ∈ s.storing ∨ (∃ req, e = .loggedIn req p) ∨
      (∃ r ∈ s.refreshing, e = .refreshed r p ∧ r.userId = p.user.id) ∨
        ¬ s.Known p.user.id := by
  have hinbound := inbound_of_reachable hs
  cases h with
  | registered hl hprep _ =>
    rcases List.mem_cons.mp hp with rfl | hp
    · cases hl with
      | created hmem _ =>
        rw [(AuthService.prepareAuthResponse_ok hprep).1]
        exact .inr (.inr (.inr fun hu => hu (hinbound.new _ hmem)))
    · exact .inl hp
  | @loggedIn req d p' hlogin _ =>
    rcases List.mem_cons.mp hp with rfl | hp
    · exact .inr (.inl ⟨req, rfl⟩)
    · exact .inl hp
  | @refreshed r d p' hr huser _ =>
    rcases List.mem_cons.mp hp with rfl | hp
    · obtain ⟨user, hl, hprep⟩ := AuthService.refreshUser_ok huser
      have hid : r.userId = p.user.id := by
        rw [(AuthService.prepareAuthResponse_ok hprep).1]
        exact (hinbound.keyed _ _ hl).symm
      exact .inr (.inr (.inl ⟨r, hr, rfl, hid⟩))
    · exact .inl hp
  | stored => exact .inl (List.mem_of_mem_erase hp)
  | _ => exact .inl hp

theorem Step.issuedSince (h : Step env s e t) (hs : (sessionSystem T env).Reachable s) {u : Uuid}
    {es : List (SessionEvent T)} (hu : s.Known u) (hi : IssuedSince env u es s) :
    IssuedSince env u (es ++ [e]) t := by
  refine ⟨?_, ?_, ?_⟩
  · intro q hq hqu
    rcases h.refreshing_cases hq with hq | ⟨req, now, rfl⟩
    · obtain ⟨req, now, hx⟩ := hi.refreshing q hq hqu
      exact ⟨req, now, List.mem_append_left _ hx⟩
    · exact ⟨req, now, List.mem_append_right _ (List.mem_singleton_self _)⟩
  · intro p hp hpu
    rcases h.storing_cases hs hp with hp | ⟨req, rfl⟩ | ⟨r, hr, rfl, hid⟩ | hnew
    · exact (hi.storing p hp hpu).snoc e
    · exact .inl ⟨req, List.mem_append_right _ (List.mem_singleton_self _)⟩
    · obtain ⟨req, now, hx⟩ := hi.refreshing r hr (hid.trans hpu)
      exact .inr ⟨es, [], r, req, now, rfl, hx⟩
    · exact absurd (hpu ▸ hu) hnew
  · intro k r' hr hru hend
    rcases h.active (invariant_of_reachable hs) hr hend with ⟨r, hr, he, hend⟩ |
      ⟨p, hp, hk, he⟩
    · obtain ⟨p, hk, hpu, hissued⟩ := hi.active k r hr (he.trans hru) hend
      exact ⟨p, hk, hpu, hissued.snoc e⟩
    · exact ⟨p, hk, he.trans hru, (hi.storing p hp (he.trans hru)).snoc e⟩

theorem run_issuedSince (h : (sessionSystem T env).Run s tr t)
    (hs : (sessionSystem T env).Reachable s) {u : Uuid} (hu : s.Known u)
    (hi : IssuedSince env u [] s) : t.Known u ∧ IssuedSince env u (System.labels tr) t := by
  induction h with
  | nil => exact ⟨hu, hi⟩
  | snoc hr hl ih =>
    obtain ⟨hu', hi'⟩ := ih
    have hreach := hs.run hr
    rw [System.labels_append]
    exact ⟨Step.known hl (inbound_of_reachable hreach) hu', Step.issuedSince hl hreach hu' hi'⟩

theorem endsSessions_of (h : (sessionSystem T env).Trace tr s)
    (hx : ∀ x ∈ tr, ¬ RevokesTooEarly x) : EndsSessions env (System.labels tr) s := by
  intro as bs r now he token now' refreshTokens hv
  obtain ⟨s₀, h₀, hr⟩ := h
  obtain ⟨tr₁, p, q, tr₂, rfl, -, rfl, h₁, hl, h₂⟩ := hr.cut_label he
  have hp : (sessionSystem T env).Reachable p := ⟨tr₁, s₀, h₀, h₁⟩
  have hq := hp.step hl
  have hbase : IssuedSince env r.userId [] q :=
    issuedSince_of_revoked (x := ⟨p, .sessionsRevoked r now, q⟩) hl rfl (hx _ (by simp))
  have hknown : q.Known r.userId := by
    apply Step.known hl (inbound_of_reachable hp)
    cases hl with
    | sessionsRevoked _ hmem => exact (resetsKnown_of_reachable hp).revoking r hmem
  have hend := (run_issuedSince h₂ hq hknown hbase).2
  obtain ⟨rec, hrec, hnone, -, hu, -⟩ := InMemoryUserRepository.validateAndEnd_some hv
  exact hend.active _ rec hrec hu hnone

/-- A token that waits to be stored when its user is reset is a session afterwards. -/
theorem exists_not_endsSessions (h : (sessionSystem T env).Trace tr s)
    {as : List (SessionEvent T)} {r : PendingPassword} {now now' : DateTime}
    (he : System.labels tr = as ++ [.sessionsRevoked r now]) {p : PendingAuth}
    (hp : p ∈ s.storing) (hu : p.user.id = r.userId) (hnow : now' < p.expiresAt) :
    ∃ tr' s', (sessionSystem T env).Trace tr' s' ∧
      ¬ EndsSessions env (System.labels tr') s' := by
  have hl : Step env s (.stored p _) _ := Step.stored (d := ⟨.ofNat 0, now⟩) hp rfl
  refine ⟨_, _, h.snoc hl, fun hends => ?_⟩
  have hrec := (InMemoryUserRepository.setAt_storeToken s.refreshTokens p.user.id
    (env.hashToken p.refreshToken) p.expiresAt ⟨.ofNat 0, now⟩).lookup_self
  obtain ⟨refreshTokens, hv⟩ := InMemoryUserRepository.validateAndEnd_of_live hrec rfl hnow
  rw [System.labels_append, he, List.append_assoc] at hends
  obtain ⟨q, -, -, hissued⟩ := hends as _ r now rfl p.refreshToken now' refreshTokens
    (hv.trans (by rw [← hu]))
  rcases hissued with ⟨req, hlogin⟩ | ⟨as', bs', r', req, now₁, hsplit, hx⟩
  · simp [System.labels] at hlogin
  · have hmem : .exchanged req now₁ r' ∈ as' ++ .refreshed r' q :: bs' :=
      List.mem_append_left _ hx
    rw [← hsplit] at hmem
    simp [System.labels] at hmem

end SessionState

/-- In every state of a run a reset has ended all earlier sessions of its user, if no reset of the
run revokes the tokens of a user who has a call between its two steps. -/
theorem resets_end_sessions {tr : List (Transition (SessionState T) (SessionEvent T))}
    (hx : ∀ x ∈ tr, ¬ RevokesTooEarly x) :
    (sessionSystem T env).Throughout tr (fun tr s => EndsSessions env (System.labels tr) s) :=
  fun _ _ hp ht => SessionState.endsSessions_of ht fun x hmem => hx x (hp.subset hmem)

open SessionState in
/-- Bob, who holds a refresh token, resets his password. -/
theorem resets_end_sessions_sample : ∃ tr s, (sessionSystem .ascii sampleEnv).Trace tr s ∧
    .sessionsRevoked (sampleChange 3) .epoch ∈ System.labels tr ∧
    (sessionSystem .ascii sampleEnv).Throughout tr
      (fun tr s => EndsSessions sampleEnv (System.labels tr) s) := by
  obtain ⟨tr, ht, ha, -⟩ := trace_sampleSession
  obtain ⟨tr₁, h₁, hl₁⟩ := @run_forgotPassword .ascii sampleEnv sampleSession
    ⟨"bob@example.com"⟩ (sampleToken 3) .epoch (sampleForgot 3) ⟨.ofNat 13, .epoch⟩
    (by decide +kernel) ⟨rfl, by simp [sampleSession]⟩
  have h₂ := (ht.append h₁).snoc (@Step.resetAccepted .ascii sampleEnv _ (sampleReset 3) .epoch
    (.ofNat 1) (.ok "other hash") (sampleChange 3) _ rfl rfl)
  have h₃ := h₂.snoc (Step.passwordUpdated .epoch List.mem_cons_self)
  have h₄ := h₃.snoc (Step.sessionsRevoked .epoch List.mem_cons_self)
  have hacts : ∀ r now, .sessionsRevoked r now ∉ System.labels tr ++ System.labels tr₁ := by
    intro r now hmem
    have hrev : .revoked r.userId ∈
        (System.labels tr ++ System.labels tr₁).filterMap SessionEvent.refreshAct :=
      List.mem_filterMap.mpr ⟨_, hmem, rfl⟩
    rw [List.filterMap_append, ha, hl₁] at hrev
    simp [SessionEvent.refreshAct] at hrev
  refine ⟨_, _, h₄, ?_, resets_end_sessions ?_⟩
  · rw [System.labels_append]
    exact List.mem_append_right _ List.mem_cons_self
  · intro x hx hearly
    obtain ⟨r, now, hlabel, hpending⟩ := hearly
    simp only [List.append_assoc, List.mem_append, List.mem_singleton] at hx
    rcases hx with hx | hx | rfl | rfl | rfl
    · exact hacts r now (List.mem_append_left _ (System.mem_labels.mpr ⟨x, hx, hlabel⟩))
    · exact hacts r now (List.mem_append_right _ (System.mem_labels.mpr ⟨x, hx, hlabel⟩))
    · cases hlabel
    · cases hlabel
    · simp [sampleSession] at hpending

/-- Bob has reset his password while one of his refreshes was drawing its new token. -/
def sampleOvertaken : SessionState .ascii :=
  { sampleUsed with
    refreshTokens := InMemoryUserRepository.revokeAllUserRefreshTokens sampleExchanged (.ofNat 1)
      .epoch
    resetTokens := Table.insert ∅ (sampleDigest 3) (sampleTokenRecord 3 nextHour (some .epoch))
    storing := [sampleAuth 1] }

open SessionState in
theorem trace_sampleOvertaken : ∃ tr,
    (sessionSystem .ascii sampleEnv).Trace tr sampleOvertaken ∧
      ∃ as, System.labels tr = as ++ [.sessionsRevoked (sampleChange 3) .epoch] := by
  obtain ⟨tr, ht, -⟩ := trace_sampleSession
  have h₁ := ht.snoc (@Step.exchanged .ascii sampleEnv sampleSession ⟨sampleToken 0⟩ .epoch
    ⟨sampleToken 0, .ofNat 1⟩ sampleExchanged (by decide +kernel))
  have h₂ := h₁.snoc (@Step.refreshed .ascii sampleEnv _ _ (sampleTokenDraw 1) (sampleAuth 1)
    List.mem_cons_self (by decide +kernel) ⟨by decide +kernel, by simp [sampleSession]⟩)
  obtain ⟨tr₃, h₃, -⟩ := @run_forgotPassword .ascii sampleEnv
    { sampleSession with refreshTokens := sampleExchanged, storing := [sampleAuth 1] }
    ⟨"bob@example.com"⟩ (sampleToken 3) .epoch (sampleForgot 3) ⟨.ofNat 13, .epoch⟩
    (by decide +kernel) ⟨rfl, by simp [sampleSession]⟩
  obtain ⟨tr₄, h₄, hl₄⟩ := @run_resetPassword .ascii sampleEnv
    { sampleSession with
      refreshTokens := sampleExchanged
      resetTokens := Table.insert ∅ (sampleDigest 3) (sampleTokenRecord 3 nextHour none)
      storing := [sampleAuth 1] }
    (sampleReset 3) .epoch (.ofNat 1)
    (Table.insert ∅ (sampleDigest 3) (sampleTokenRecord 3 nextHour (some .epoch)))
    (.ok "other hash") (sampleChange 3) (by decide +kernel) (by decide +kernel)
  refine ⟨_, (h₂.append h₃).append h₄, ?as, ?split⟩
  case split =>
    rw [System.labels_append, hl₄]
    exact (List.append_assoc _ [_, _] [_]).symm

open SessionState in
/-- Bob's refresh has exchanged its token before the reset and stores the new one after it. -/
theorem not_resets_end_sessions : ∃ tr s, (sessionSystem .ascii sampleEnv).Trace tr s ∧
    ¬ EndsSessions sampleEnv (System.labels tr) s := by
  obtain ⟨tr, ht, as, hl⟩ := trace_sampleOvertaken
  exact exists_not_endsSessions ht hl (p := sampleAuth 1) List.mem_cons_self rfl
    (show DateTime.epoch < nextMonth by decide)

end Hanbova
