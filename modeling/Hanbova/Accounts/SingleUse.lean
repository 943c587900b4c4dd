import Hanbova.Accounts.OneTime
import Hanbova.Accounts.Sessions
import Hanbova.Library.Simulation

/-! What the calls of the authentication service do to the two token stores. -/
namespace Hanbova

open Library Library.Text
open InMemoryUserRepository (Users RecordDraw)
open AuthService (Draw)

namespace SessionEvent
variable {T : CaseTable}

/-- What a step does to the refresh tokens. -/
def refreshAct : SessionEvent T → Option TokenAct
  | .stored p _ => some (.stored p.refreshToken p.user.id p.expiresAt)
  | .exchanged req now r => some (.accepted req.refreshToken now r.userId)
  | .loggedOut userId _ => some (.revoked userId)
  | .sessionsRevoked r _ => some (.revoked r.userId)
  | _ => none

/-- What a step does to the password-reset tokens. -/
def resetAct : SessionEvent T → Option TokenAct
  | .resetStored p _ => some (.stored p.token p.userId p.expiresAt)
  | .resetAccepted req now r => some (.accepted req.token now r.userId)
  | .resetUnhashed req now userId _ => some (.accepted req.token now userId)
  | _ => none

end SessionEvent

namespace SessionState
variable {T : CaseTable} {env : AuthEnv} {s t : SessionState T} {e : SessionEvent T}
variable {tr : List (Transition (SessionState T) (SessionEvent T))}

theorem Step.refreshTokens_eq (h : Step env s e t) (hn : e.refreshAct = none) :
    t.refreshTokens = s.refreshTokens := by
  cases h with
  | exchangeRefused hx => exact AuthService.exchange_error hx
  | exchanged | stored | loggedOut | sessionsRevoked => cases hn
  | _ => rfl

theorem Step.refreshTokens_step (h : Step env s e t) (hs : s.Invariant env) {a : TokenAct}
    (ha : e.refreshAct = some a) :
    TokenStep env.hashToken s.refreshTokens a t.refreshTokens := by
  cases h with
  | exchanged hx =>
    obtain rfl := Option.some.inj ha
    exact .accepted (AuthService.exchange_ok hx).2
  | @stored p d answer refreshTokens hp hst =>
    obtain rfl := Option.some.inj ha
    obtain ⟨-, rfl⟩ := Prod.mk.inj hst
    exact .stored d (hs.storing.new p hp)
  | loggedOut u now =>
    obtain rfl := Option.some.inj ha
    exact .revoked u now
  | sessionsRevoked now _ =>
    obtain rfl := Option.some.inj ha
    exact .revoked _ now
  | _ => cases ha

theorem Step.resetTokens_eq (h : Step env s e t) (hn : e.resetAct = none) :
    t.resetTokens = s.resetTokens := by
  cases h with
  | resetRefused hx => exact AuthService.consumeResetToken_error hx
  | resetStored | resetAccepted | resetUnhashed => cases hn
  | _ => rfl

theorem Step.resetTokens_step (h : Step env s e t) (hs : s.Invariant env) {a : TokenAct}
    (ha : e.resetAct = some a) :
    TokenStep env.hashToken s.resetTokens a t.resetTokens := by
  cases h with
  | @resetStored p d answer resetTokens hp hst =>
    obtain rfl := Option.some.inj ha
    obtain ⟨-, rfl⟩ := Prod.mk.inj hst
    exact .stored d (hs.forgetting.new p hp)
  | resetAccepted hx hh =>
    obtain rfl := Option.some.inj ha
    rw [(AuthService.hashNewPassword_ok hh).2]
    exact .accepted (AuthService.consumeResetToken_ok hx).2
  | resetUnhashed hx _ =>
    obtain rfl := Option.some.inj ha
    exact .accepted (AuthService.consumeResetToken_ok hx).2
  | _ => cases ha

/-- The refresh tokens of a run are a run of their own. -/
theorem trace_refreshTokens (h : (sessionSystem T env).Trace tr s) :
    ∃ tr', (tokenSystem env.hashToken).Trace tr' s.refreshTokens ∧
      System.labels tr' = (System.labels tr).filterMap SessionEvent.refreshAct :=
  h.project SessionState.refreshTokens SessionEvent.refreshAct (fun _ hi => hi ▸ rfl)
    (fun _ _ _ _ hl => Step.refreshTokens_eq hl)
    fun _ _ _ _ hs hl => Step.refreshTokens_step hl (invariant_of_reachable hs)

/-- The password-reset tokens of a run are a run of their own. -/
theorem trace_resetTokens (h : (sessionSystem T env).Trace tr s) :
    ∃ tr', (tokenSystem env.hashToken).Trace tr' s.resetTokens ∧
      System.labels tr' = (System.labels tr).filterMap SessionEvent.resetAct :=
  h.project SessionState.resetTokens SessionEvent.resetAct (fun _ hi => hi ▸ rfl)
    (fun _ _ _ _ hl => Step.resetTokens_eq hl)
    fun _ _ _ _ hs hl => Step.resetTokens_step hl (invariant_of_reachable hs)

end SessionState

/-- Refresh tokens and reset tokens are used linearly, whatever the calls do. -/
theorem one_time_tokens {T : CaseTable} {env : AuthEnv}
    {tr : List (Transition (SessionState T) (SessionEvent T))} {s : SessionState T}
    (h : (sessionSystem T env).Trace tr s)
    (hrefresh : Set.InjOn env.hashToken
      (TokenAct.tokens ((System.labels tr).filterMap SessionEvent.refreshAct)))
    (hreset : Set.InjOn env.hashToken
      (TokenAct.tokens ((System.labels tr).filterMap SessionEvent.resetAct))) :
    TokenAct.Linear ((System.labels tr).filterMap SessionEvent.refreshAct) ∧
      TokenAct.Linear ((System.labels tr).filterMap SessionEvent.resetAct) := by
  obtain ⟨_, ht, he⟩ := SessionState.trace_refreshTokens h
  obtain ⟨_, ht', he'⟩ := SessionState.trace_resetTokens h
  rw [← he] at hrefresh ⊢
  rw [← he'] at hreset ⊢
  exact ⟨TokenStep.linear ht hrefresh, TokenStep.linear ht' hreset⟩

/-- The tokens that are drawn in the examples: three for refreshes, two for resets. -/
def sampleToken : ℕ → String
  | 0 => "R7dQ2mVx9KpLw4ZtYb6NcF1sHg8JuEa3XoTiDk5MvPqBzWyC"
  | 1 => "f3GhT9xLqW2nYzB7cVd5RkMs8PjUe4AoXi6KtDm1QwEvNrSb"
  | 2 => "Zk8PwQ5sVn3YtG7mLx2JrBd9FhCa6UeT4oXiKq1DyMvHbNzW"
  | 3 => "q8ZtW3mXc6VnB1kLp9RdFs5HyGjT2aQe"
  | _ => "u4KcN7vEw2XyPq5RtLm9SdBz3GhJf6Ta"

/-- Their SHA-256 digests in hexadecimal. -/
def sampleDigest : ℕ → String
  | 0 => "07fb08131e54163968defb827706b84503150e469fe99a3cae88dccb8eb3ccc7"
  | 1 => "5e356eebf1f8cca22142b80089c696bbd34b4bf9f2cbf7b2aab90c88260673f0"
  | 2 => "d14b7c468f1ce604b228a698197de00cbdf33f686b4dd09f97fa0fa1a1ae9da6"
  | 3 => "6a77dcffd636744ae7be3a55e74aab80ce425d0a4b336b565f72b95ae58ad763"
  | _ => "013da6769b773dd6706db5e6630a36f272e6aad6786c0f968968a4095fbfb4cb"

/-- A password hash such as `"hash"` is none that a password could be verified against. -/
def sampleEnv : AuthEnv where
  hashToken token := ((List.range 5).find? fun i => sampleToken i = token).elim "" sampleDigest
  verifyPassword _ _ := .error (.hashError "password hash string missing field")
  isDevelopment := true

theorem injOn_sampleTokens {acts : List TokenAct} (as : List TokenAct) (he : acts = as)
    (h : ∀ t ∈ as.filterMap TokenAct.token, ∃ i < 5, sampleToken i = t) :
    Set.InjOn sampleEnv.hashToken (TokenAct.tokens acts) := by
  have hinj : ∀ i < 5, ∀ j < 5,
      sampleEnv.hashToken (sampleToken i) = sampleEnv.hashToken (sampleToken j) →
        sampleToken i = sampleToken j := by decide +kernel
  have hsample : ∀ t ∈ TokenAct.tokens acts, ∃ i < 5, sampleToken i = t := by
    intro t ht
    obtain ⟨a, ha, hat⟩ := ht
    exact h t (List.mem_filterMap.mpr ⟨a, he ▸ ha, hat⟩)
  intro t ht t' ht' heq
  obtain ⟨i, hi, rfl⟩ := hsample t ht
  obtain ⟨j, hj, rfl⟩ := hsample t' ht'
  exact hinj i hi j hj heq

/-- Thirty days after the epoch. -/
def nextMonth : DateTime := .ofSeconds 2592000 (by decide)

def sampleTokenRecord (i : ℕ) (expiresAt : DateTime) (endedAt : Option DateTime) :
    TokenRecord where
  id := .ofNat (10 + i)
  userId := .ofNat 1
  tokenHash := sampleDigest i
  expiresAt := expiresAt
  endedAt := endedAt
  createdAt := .epoch

def sampleTokenDraw (i : ℕ) : TokenDraw := ⟨.ok "jwt", sampleToken i, .epoch⟩

def sampleAuth (i : ℕ) : PendingAuth :=
  ⟨sampleUser 1 "bob", "jwt", sampleToken i, nextMonth⟩

/-- Bob has registered and holds a refresh token. -/
def sampleSession : SessionState .ascii where
  accounts := ⟨Table.insert ∅ (.ofNat 1) (sampleUser 1 "bob"), [], []⟩
  refreshTokens := Table.insert ∅ (sampleDigest 0) (sampleTokenRecord 0 nextMonth none)
  resetTokens := ∅
  refreshing := []
  storing := []
  forgetting := []
  resetting := []
  revoking := []

open SessionState in
theorem trace_sampleSession : ∃ tr, (sessionSystem .ascii sampleEnv).Trace tr sampleSession ∧
    (System.labels tr).filterMap SessionEvent.refreshAct =
      [.stored (sampleToken 0) (.ofNat 1) nextMonth] ∧
    (System.labels tr).filterMap SessionEvent.resetAct = [] := by
  let r : AuthService.Registration .ascii :=
    ⟨sampleAccount "bob", by decide +kernel, by decide +kernel, by decide +kernel⟩
  have h₁ := System.Run.single (T := sessionSystem .ascii sampleEnv) (s := .initial)
    (Step.account (@AccountState.Step.validated .ascii _ (sampleAccount "bob") r
      (by decide +kernel)))
  have h₂ := h₁.snoc (Step.account
    (AccountState.Step.usernameFree List.mem_cons_self (by decide +kernel)))
  have h₃ := h₂.snoc (Step.account (@AccountState.Step.emailFree .ascii _ r (sampleDraw 1)
    (sampleUser 1 "bob") (by decide +kernel) (by decide +kernel)
    ⟨rfl, by simp [AccountState.initial, SessionState.initial]⟩ (by decide +kernel)))
  have h₄ := h₃.snoc (@Step.registered .ascii sampleEnv _ _ (sampleTokenDraw 0) (sampleAuth 0) _
    (@AccountState.Step.created .ascii _ (sampleUser 1 "bob") _ List.mem_cons_self rfl)
    (by decide +kernel) ⟨rfl, by simp [SessionState.initial]⟩)
  have h₅ := h₄.snoc (@Step.stored .ascii sampleEnv _ (sampleAuth 0) ⟨.ofNat 10, .epoch⟩ _ _
    List.mem_cons_self rfl)
  exact ⟨_, ⟨_, rfl, h₅⟩, rfl, rfl⟩

/-- One hour after the epoch. -/
def nextHour : DateTime := .ofSeconds 3600 (by decide)

def sampleForgot (i : ℕ) : PendingReset := ⟨.ofNat 1, sampleToken i, nextHour⟩

def sampleReset (i : ℕ) : ResetPasswordRequest := ⟨sampleToken i, "password"⟩

def sampleChange (i : ℕ) : PendingPassword := ⟨sampleToken i, .ofNat 1, "other hash"⟩

/-- The refresh tokens when the first one has been exchanged. -/
def sampleExchanged : InMemoryUserRepository.Tokens :=
  Table.insert ∅ (sampleDigest 0) (sampleTokenRecord 0 nextMonth (some .epoch))

open SessionState in
/-- Bob refreshes, logs out and resets his password. -/
theorem one_time_tokens_sample : ∃ tr s, (sessionSystem .ascii sampleEnv).Trace tr s ∧
    (System.labels tr).filterMap SessionEvent.refreshAct =
      [.stored (sampleToken 0) (.ofNat 1) nextMonth,
        .accepted (sampleToken 0) .epoch (.ofNat 1),
        .stored (sampleToken 1) (.ofNat 1) nextMonth, .revoked (.ofNat 1)] ∧
    (System.labels tr).filterMap SessionEvent.resetAct =
      [.stored (sampleToken 3) (.ofNat 1) nextHour,
        .accepted (sampleToken 3) .epoch (.ofNat 1)] ∧
    TokenAct.Linear ((System.labels tr).filterMap SessionEvent.refreshAct) ∧
    TokenAct.Linear ((System.labels tr).filterMap SessionEvent.resetAct) := by
  obtain ⟨tr, ht, ha, hb⟩ := trace_sampleSession
  have hx : AuthService.exchange sampleEnv sampleSession.refreshTokens ⟨sampleToken 0⟩ .epoch =
      (.ok ⟨sampleToken 0, .ofNat 1⟩, sampleExchanged) := by decide +kernel
  obtain ⟨tr₁, h₁, hl₁⟩ := @run_refresh .ascii sampleEnv sampleSession _ _ _ _
    (sampleTokenDraw 1) (sampleAuth 1) ⟨.ofNat 11, .epoch⟩ hx (by decide +kernel)
    ⟨by decide +kernel, by simp [sampleSession]⟩
  have h₂ := (ht.append h₁).snoc (Step.loggedOut (.ofNat 1) .epoch)
  obtain ⟨tr₃, h₃, hl₃⟩ := @run_forgotPassword .ascii sampleEnv
    { sampleSession with
      refreshTokens := InMemoryUserRepository.revokeAllUserRefreshTokens (AuthService.storeAuth
        sampleEnv sampleExchanged (sampleAuth 1) ⟨.ofNat 11, .epoch⟩).2 (.ofNat 1) .epoch }
    ⟨"bob@example.com"⟩ (sampleToken 3) .epoch (sampleForgot 3) ⟨.ofNat 13, .epoch⟩
    (by decide +kernel) ⟨rfl, by simp [sampleSession]⟩
  have h₄ :=
    (h₂.append h₃).snoc (@Step.resetAccepted .ascii sampleEnv _ (sampleReset 3) .epoch
      (.ofNat 1) (.ok "other hash") (sampleChange 3) _ rfl rfl)
  refine ⟨_, _, h₄, ?refresh, ?reset, one_time_tokens h₄ (injOn_sampleTokens _ ?refresh ?_)
    (injOn_sampleTokens _ ?reset ?_)⟩
  · simp only [System.labels_append, List.filterMap_append, ha, hl₁, hl₃]
    rfl
  · simp only [System.labels_append, List.filterMap_append, hb, hl₁, hl₃]
    rfl
  · decide +kernel
  · decide +kernel

end Hanbova
