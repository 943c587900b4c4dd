import Hanbova.Accounts.SingleUse

/-! What a password reset does to the reset tokens that it was not given: nothing. -/
namespace Hanbova

open Library Library.Text

variable {T : CaseTable} {env : AuthEnv}

/-- When a reset has succeeded, no reset token that its user was issued before is accepted. -/
def ClosesOtherLinks (es : List (SessionEvent T)) : Prop :=
  ∀ as bs r now, es = as ++ .sessionsRevoked r now :: bs →
    ∀ p a, .resetStored p a ∈ as → p.userId = r.userId →
      ∀ now' u, .accepted p.token now' u ∉ bs.filterMap SessionEvent.resetAct

theorem mem_resetActs {es : List (SessionEvent T)} {p : PendingReset} {a : ForgotPasswordResponse}
    (h : .resetStored p a ∈ es) :
    .stored p.token p.userId p.expiresAt ∈ es.filterMap SessionEvent.resetAct :=
  List.mem_filterMap.mpr ⟨_, h, rfl⟩

theorem revoked_not_mem_resetActs (es : List (SessionEvent T)) (u : Uuid) :
    .revoked u ∉ es.filterMap SessionEvent.resetAct := by
  intro h
  obtain ⟨e, -, he⟩ := List.mem_filterMap.mp h
  cases e <;> simp [SessionEvent.resetAct] at he

/-- A reset token that has been accepted is closed, and one that has not is open until it expires,
whatever other resets of the account have succeeded. -/
theorem reset_closes_its_own_link {tr : List (Transition (SessionState T) (SessionEvent T))}
    {s : SessionState T} (h : (sessionSystem T env).Trace tr s)
    (hinj : Set.InjOn env.hashToken
      (TokenAct.tokens ((System.labels tr).filterMap SessionEvent.resetAct))) :
    (∀ as bs token now u,
      (System.labels tr).filterMap SessionEvent.resetAct = as ++ .accepted token now u :: bs →
        ∀ now' v, .accepted token now' v ∉ bs) ∧
    ∀ p a, .resetStored p a ∈ System.labels tr →
      (∀ now u,
        .accepted p.token now u ∉ (System.labels tr).filterMap SessionEvent.resetAct) →
        ∀ password now, 8 ≤ len password → now < p.expiresAt →
          ∃ resetTokens, AuthService.consumeResetToken env s.resetTokens ⟨p.token, password⟩ now =
            (.ok p.userId, resetTokens) := by
  obtain ⟨tr', ht, he⟩ := SessionState.trace_resetTokens h
  have hrev := revoked_not_mem_resetActs (System.labels tr)
  constructor
  · rw [← he] at hinj ⊢
    exact (TokenStep.linear ht hinj).once
  · intro p a hp hun password now hlen hnow
    have hst := mem_resetActs hp
    rw [← he] at hinj hun hst hrev
    obtain ⟨resetTokens, hv⟩ := TokenStep.accepted_of_open ht hinj hst hun (hrev p.userId) hnow
    exact ⟨resetTokens, AuthService.consumeResetToken_of_accepted hlen hv⟩

/-- Two reset tokens of Bob, the first of which he has used or not. -/
def sampleLinks (used : Bool) : InMemoryUserRepository.Tokens :=
  let links := (Table.insert ∅ (sampleDigest 3) (sampleTokenRecord 3 nextHour none)).insert
    (sampleDigest 4) (sampleTokenRecord 4 nextHour none)
  if used then links.insert (sampleDigest 3) (sampleTokenRecord 3 nextHour (some .epoch)) else links

/-- Bob has asked for two reset tokens and has used the first. -/
def sampleUsed : SessionState .ascii :=
  { sampleSession with
    accounts :=
      { sampleSession.accounts with
        users := InMemoryUserRepository.updatePasswordHash sampleSession.accounts.users (.ofNat 1)
          "other hash" .epoch }
    refreshTokens := InMemoryUserRepository.revokeAllUserRefreshTokens
      sampleSession.refreshTokens (.ofNat 1) .epoch
    resetTokens := sampleLinks true }

/-- What he is answered, in development. -/
def sampleAnswer : ForgotPasswordResponse :=
  AuthService.forgotPasswordResponse sampleEnv (some (sampleForgot 4))

open SessionState in
theorem trace_sampleUsed : ∃ tr as, (sessionSystem .ascii sampleEnv).Trace tr sampleUsed ∧
    System.labels tr = as ++ .resetStored (sampleForgot 4) sampleAnswer ::
      [.resetAccepted (sampleReset 3) .epoch (sampleChange 3),
        .passwordUpdated (sampleChange 3) .epoch, .sessionsRevoked (sampleChange 3) .epoch] ∧
    (System.labels tr).filterMap SessionEvent.resetAct =
      [.stored (sampleToken 3) (.ofNat 1) nextHour, .stored (sampleToken 4) (.ofNat 1) nextHour,
        .accepted (sampleToken 3) .epoch (.ofNat 1)] := by
  obtain ⟨tr, ht, -, hb⟩ := trace_sampleSession
  obtain ⟨tr₁, h₁, hl₁⟩ := @run_forgotPassword .ascii sampleEnv sampleSession
    ⟨"bob@example.com"⟩ (sampleToken 3) .epoch (sampleForgot 3) ⟨.ofNat 13, .epoch⟩
    (by decide +kernel) ⟨rfl, by simp [sampleSession]⟩
  obtain ⟨tr₂, h₂, hl₂⟩ := @run_forgotPassword .ascii sampleEnv
    { sampleSession with
      resetTokens := Table.insert ∅ (sampleDigest 3) (sampleTokenRecord 3 nextHour none) }
    ⟨"bob@example.com"⟩ (sampleToken 4) .epoch (sampleForgot 4) ⟨.ofNat 14, .epoch⟩
    (by decide +kernel) ⟨by decide +kernel, by simp [sampleSession]⟩
  obtain ⟨tr₃, h₃, hl₃⟩ := @run_resetPassword .ascii sampleEnv
    { sampleSession with resetTokens := sampleLinks false } (sampleReset 3) .epoch (.ofNat 1)
    (sampleLinks true) (.ok "other hash") (sampleChange 3) (by decide +kernel) (by decide +kernel)
  have ht' := ((ht.append h₁).append h₂).append h₃
  refine ⟨_, System.labels tr ++ System.labels tr₁ ++
    [.resetDrawn ⟨"bob@example.com"⟩ (sampleForgot 4)], ht', ?_, ?_⟩
  · simp only [System.labels_append, hl₂, hl₃, List.append_assoc]
    rfl
  · simp only [System.labels_append, List.filterMap_append, hb, hl₁, hl₂, hl₃]
    rfl

/-- The second token is still accepted. -/
theorem reset_closes_its_own_link_sample : ∃ tr,
    (sessionSystem .ascii sampleEnv).Trace tr sampleUsed ∧
    (∀ as bs token now u,
      (System.labels tr).filterMap SessionEvent.resetAct = as ++ .accepted token now u :: bs →
        ∀ now' v, .accepted token now' v ∉ bs) ∧
    ∃ resetTokens, AuthService.consumeResetToken sampleEnv sampleUsed.resetTokens (sampleReset 4)
      .epoch = (.ok (.ofNat 1), resetTokens) := by
  obtain ⟨tr, as, ht, hl, hacts⟩ := trace_sampleUsed
  obtain ⟨hclosed, hopen⟩ := reset_closes_its_own_link ht
    (injOn_sampleTokens _ hacts (by decide +kernel))
  refine ⟨tr, ht, hclosed, hopen (sampleForgot 4) sampleAnswer ?_ ?_ "password" .epoch ?_ ?_⟩
  · rw [hl]
    exact List.mem_append_right _ List.mem_cons_self
  · rw [hacts]
    intro now u
    simp [sampleForgot, sampleToken]
  · decide +kernel
  · decide

open SessionState in
theorem not_closes_other_links : ∃ tr s, (sessionSystem .ascii sampleEnv).Trace tr s ∧
    ¬ ClosesOtherLinks (System.labels tr) := by
  obtain ⟨tr, as, ht, hl, -⟩ := trace_sampleUsed
  have h := ht.snoc (@Step.resetAccepted .ascii sampleEnv sampleUsed (sampleReset 4) .epoch
    (.ofNat 1) (.ok "other hash") (sampleChange 4) _ rfl rfl)
  refine ⟨_, _, h, ?_⟩
  intro hclosed
  apply hclosed (as ++ .resetStored (sampleForgot 4) sampleAnswer ::
    [.resetAccepted (sampleReset 3) .epoch (sampleChange 3),
      .passwordUpdated (sampleChange 3) .epoch])
    [.resetAccepted (sampleReset 4) .epoch (sampleChange 4)] (sampleChange 3) .epoch
  · rw [System.labels_append, hl]
    simp [System.labels]
  · exact List.mem_append_right _ List.mem_cons_self
  · rfl
  · exact List.mem_cons_self

end Hanbova
