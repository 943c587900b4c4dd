import Hanbova.Accounts.Login
import Hanbova.Accounts.System
import Hanbova.Library.History

/-! Any number of concurrent registrations, logins, refreshes, logouts and password resets over one
user repository. A step is one access to the repository together with the computation up to the
next one. -/
namespace Hanbova

open Library Library.Text
open InMemoryUserRepository (Users Tokens RecordDraw validateAndEnd revokeAllUserRefreshTokens)

structure SessionState (T : CaseTable) where
  accounts : AccountState T
  refreshTokens : Tokens
  resetTokens : Tokens
  refreshing : List PendingRefresh
  storing : List PendingAuth
  forgetting : List PendingReset
  resetting : List PendingPassword
  revoking : List PendingPassword

inductive SessionEvent (T : CaseTable)
  | account (e : AccountEvent T)
  | registered (p : PendingAuth)
  | loggedIn (req : LoginRequest) (p : PendingAuth)
  | loginRefused (req : LoginRequest) (fault : Fault)
  | exchanged (req : RefreshTokenRequest) (now : DateTime) (r : PendingRefresh)
  | exchangeRefused (req : RefreshTokenRequest) (now : DateTime) (e : ApiError)
  | refreshed (r : PendingRefresh) (p : PendingAuth)
  | refreshFailed (r : PendingRefresh) (fault : Fault)
  | stored (p : PendingAuth) (answer : AuthResponse)
  | loggedOut (userId : Uuid) (now : DateTime)
  | forgotUnknown (req : ForgotPasswordRequest) (answer : ForgotPasswordResponse)
  | forgotFailed (req : ForgotPasswordRequest) (fault : Fault)
  | resetDrawn (req : ForgotPasswordRequest) (p : PendingReset)
  | resetStored (p : PendingReset) (answer : ForgotPasswordResponse)
  | resetRefused (req : ResetPasswordRequest) (now : DateTime) (e : ApiError)
  | resetAccepted (req : ResetPasswordRequest) (now : DateTime) (r : PendingPassword)
  | resetUnhashed (req : ResetPasswordRequest) (now : DateTime) (userId : Uuid) (e : ApiError)
  | passwordUpdated (r : PendingPassword) (now : DateTime)
  | sessionsRevoked (r : PendingPassword) (now : DateTime)

namespace SessionState
variable {T : CaseTable}

def initial : SessionState T := ⟨.initial, ∅, ∅, [], [], [], [], []⟩

variable (T) in
/-- A refresh token whose hash no other has. -/
def FreshRefresh (env : AuthEnv) (s : SessionState T) (p : PendingAuth) : Prop :=
  s.refreshTokens.lookup (env.hashToken p.refreshToken) = none ∧
    ∀ q ∈ s.storing, env.hashToken q.refreshToken ≠ env.hashToken p.refreshToken

/-- A reset token whose hash no other has. -/
def FreshReset (env : AuthEnv) (s : SessionState T) (p : PendingReset) : Prop :=
  s.resetTokens.lookup (env.hashToken p.token) = none ∧
    ∀ q ∈ s.forgetting, env.hashToken q.token ≠ env.hashToken p.token

/-- The users may be read by any step; only registrations and `passwordUpdated` write them. A call
that has created its user and then ends without a token is an `account` step. -/
inductive Step (env : AuthEnv) : SessionState T → SessionEvent T → SessionState T → Prop
  | account {s e accounts} :
      AccountState.Step s.accounts e accounts → Step env s (.account e) { s with accounts }
  | registered {s u d p accounts} :
      AccountState.Step s.accounts (.created u) accounts →
      AuthService.prepareAuthResponse u d = .ok p → FreshRefresh T env s p →
      Step env s (.registered p) { s with accounts, storing := p :: s.storing }
  | loggedIn {s req d p} :
      AuthService.login T env s.accounts.users req d = .ok p → FreshRefresh T env s p →
      Step env s (.loggedIn req p) { s with storing := p :: s.storing }
  | loginRefused {s req d fault} :
      AuthService.login T env s.accounts.users req d = .error fault →
      Step env s (.loginRefused req fault) s
  | exchanged {s req now r refreshTokens} :
      AuthService.exchange env s.refreshTokens req now = (.ok r, refreshTokens) →
      Step env s (.exchanged req now r)
        { s with refreshTokens, refreshing := r :: s.refreshing }
  | exchangeRefused {s req now e refreshTokens} :
      AuthService.exchange env s.refreshTokens req now = (.error e, refreshTokens) →
      Step env s (.exchangeRefused req now e) { s with refreshTokens }
  | refreshed {s r d p} :
      r ∈ s.refreshing → AuthService.refreshUser s.accounts.users r d = .ok p →
      FreshRefresh T env s p →
      Step env s (.refreshed r p)
        { s with refreshing := s.refreshing.erase r, storing := p :: s.storing }
  | refreshFailed {s r d fault} :
      r ∈ s.refreshing → AuthService.refreshUser s.accounts.users r d = .error fault →
      Step env s (.refreshFailed r fault) { s with refreshing := s.refreshing.erase r }
  | stored {s p d answer refreshTokens} :
      p ∈ s.storing →
      AuthService.storeAuth env s.refreshTokens p d = (answer, refreshTokens) →
      Step env s (.stored p answer) { s with refreshTokens, storing := s.storing.erase p }
  | loggedOut {s} (userId : Uuid) (now : DateTime) :
      Step env s (.loggedOut userId now)
        { s with refreshTokens := revokeAllUserRefreshTokens s.refreshTokens userId now }
  | forgotUnknown {s req token now} :
      AuthService.forgotPassword T s.accounts.users req token now = .ok none →
      Step env s (.forgotUnknown req (AuthService.forgotPasswordResponse env none)) s
  | forgotFailed {s req token now fault} :
      AuthService.forgotPassword T s.accounts.users req token now = .error fault →
      Step env s (.forgotFailed req fault) s
  | resetDrawn {s req token now p} :
      AuthService.forgotPassword T s.accounts.users req token now = .ok (some p) →
      FreshReset env s p →
      Step env s (.resetDrawn req p) { s with forgetting := p :: s.forgetting }
  | resetStored {s p d answer resetTokens} :
      p ∈ s.forgetting →
      AuthService.storeReset env s.resetTokens p d = (answer, resetTokens) →
      Step env s (.resetStored p answer)
        { s with resetTokens, forgetting := s.forgetting.erase p }
  | resetRefused {s req now e resetTokens} :
      AuthService.consumeResetToken env s.resetTokens req now = (.error e, resetTokens) →
      Step env s (.resetRefused req now e) { s with resetTokens }
  | resetAccepted {s req now userId hash r resetTokens} :
      AuthService.consumeResetToken env s.resetTokens req now = (.ok userId, resetTokens) →
      AuthService.hashNewPassword req userId hash = .ok r →
      Step env s (.resetAccepted req now r)
        { s with resetTokens, resetting := r :: s.resetting }
  | resetUnhashed {s req now userId hash e resetTokens} :
      AuthService.consumeResetToken env s.resetTokens req now = (.ok userId, resetTokens) →
      AuthService.hashNewPassword req userId hash = .error e →
      Step env s (.resetUnhashed req now userId e) { s with resetTokens }
  | passwordUpdated {s r} (now : DateTime) :
      r ∈ s.resetting →
      Step env s (.passwordUpdated r now)
        { s with
          accounts :=
            { s.accounts with
              users := InMemoryUserRepository.updatePasswordHash s.accounts.users r.userId
                r.newHash now }
          resetting := s.resetting.erase r
          revoking := r :: s.revoking }
  | sessionsRevoked {s r} (now : DateTime) :
      r ∈ s.revoking →
      Step env s (.sessionsRevoked r now)
        { s with
          refreshTokens := revokeAllUserRefreshTokens s.refreshTokens r.userId now
          revoking := s.revoking.erase r }

/-- What waits to be stored is new to the store, under a hash of its own. -/
structure Invariant (env : AuthEnv) (s : SessionState T) : Prop where
  storing : Table.Incoming (fun p : PendingAuth => env.hashToken p.refreshToken) s.refreshTokens
    s.storing
  forgetting : Table.Incoming (fun p : PendingReset => env.hashToken p.token) s.resetTokens
    s.forgetting

variable {env : AuthEnv} {s t : SessionState T} {e : SessionEvent T}

theorem invariant_initial : Invariant (T := T) env .initial where
  storing := .nil _ _
  forgetting := .nil _ _

theorem Step.invariant (h : Step env s e t) (hs : s.Invariant env) : t.Invariant env := by
  cases h with
  | registered _ _ hf => exact ⟨hs.storing.cons hf.1 hf.2, hs.forgetting⟩
  | loggedIn _ hf => exact ⟨hs.storing.cons hf.1 hf.2, hs.forgetting⟩
  | refreshed _ _ hf => exact ⟨hs.storing.cons hf.1 hf.2, hs.forgetting⟩
  | exchanged hx =>
    have hv := (AuthService.exchange_ok hx).2
    exact ⟨hs.storing.congr fun _ => InMemoryUserRepository.lookup_validateAndEnd_none hv,
      hs.forgetting⟩
  | exchangeRefused hx =>
    obtain rfl := AuthService.exchange_error hx
    exact hs
  | stored hp hst =>
    obtain ⟨-, rfl⟩ := Prod.mk.inj hst
    exact ⟨hs.storing.store hp (InMemoryUserRepository.setAt_storeToken _ _ _ _ _),
      hs.forgetting⟩
  | loggedOut =>
    exact ⟨hs.storing.congr fun _ => InMemoryUserRepository.lookup_revokeAll_none,
      hs.forgetting⟩
  | sessionsRevoked =>
    exact ⟨hs.storing.congr fun _ => InMemoryUserRepository.lookup_revokeAll_none,
      hs.forgetting⟩
  | resetDrawn _ hf => exact ⟨hs.storing, hs.forgetting.cons hf.1 hf.2⟩
  | resetStored hp hst =>
    obtain ⟨-, rfl⟩ := Prod.mk.inj hst
    exact ⟨hs.storing,
      hs.forgetting.store hp (InMemoryUserRepository.setAt_storeToken _ _ _ _ _)⟩
  | resetRefused hx =>
    obtain rfl := AuthService.consumeResetToken_error hx
    exact hs
  | resetAccepted hx _ =>
    have hv := (AuthService.consumeResetToken_ok hx).2
    exact ⟨hs.storing,
      hs.forgetting.congr fun _ => InMemoryUserRepository.lookup_validateAndEnd_none hv⟩
  | resetUnhashed hx _ =>
    have hv := (AuthService.consumeResetToken_ok hx).2
    exact ⟨hs.storing,
      hs.forgetting.congr fun _ => InMemoryUserRepository.lookup_validateAndEnd_none hv⟩
  | _ => exact ⟨hs.storing, hs.forgetting⟩

end SessionState

/-- Calls of the authentication service, by anyone and in any number, from an empty repository
on. -/
def sessionSystem (T : CaseTable) (env : AuthEnv) : System (SessionState T) (SessionEvent T) where
  init s := s = .initial
  step := SessionState.Step env

theorem SessionState.invariant_of_reachable {T : CaseTable} {env : AuthEnv} {s : SessionState T}
    (h : (sessionSystem T env).Reachable s) : s.Invariant env :=
  h.induct (fun _ hi => hi ▸ invariant_initial) fun _ _ _ _ hs hl => Step.invariant hl hs

/-! ### Calls that nobody interrupts -/

namespace SessionState
variable {T : CaseTable} {env : AuthEnv} {s : SessionState T}

/-- A refresh. -/
theorem run_refresh {req : RefreshTokenRequest} {now : DateTime} {r : PendingRefresh}
    {refreshTokens : Tokens} {d : TokenDraw} {p : PendingAuth} (d' : RecordDraw)
    (hx : AuthService.exchange env s.refreshTokens req now = (.ok r, refreshTokens))
    (hr : AuthService.refreshUser s.accounts.users r d = .ok p)
    (hf : FreshRefresh T env { s with refreshTokens } p) :
    ∃ tr, (sessionSystem T env).Run s tr
        { s with refreshTokens := (AuthService.storeAuth env refreshTokens p d').2 } ∧
      System.labels tr = [.exchanged req now r, .refreshed r p,
        .stored p (AuthService.storeAuth env refreshTokens p d').1] := by
  have h₁ := System.Run.single (T := sessionSystem T env) (Step.exchanged hx)
  have h₂ := h₁.snoc (Step.refreshed List.mem_cons_self hr hf)
  have h₃ := h₂.snoc (Step.stored (d := d') List.mem_cons_self rfl)
  simp only [List.erase_cons_head] at h₃
  exact ⟨_, h₃, rfl⟩

/-- A request for a reset token. -/
theorem run_forgotPassword {req : ForgotPasswordRequest} {token : String} {now : DateTime}
    {p : PendingReset} (d : RecordDraw)
    (hp : AuthService.forgotPassword T s.accounts.users req token now = .ok (some p))
    (hf : FreshReset env s p) :
    ∃ tr, (sessionSystem T env).Run s tr
        { s with resetTokens := (AuthService.storeReset env s.resetTokens p d).2 } ∧
      System.labels tr =
        [.resetDrawn req p, .resetStored p (AuthService.storeReset env s.resetTokens p d).1] := by
  have h₁ := System.Run.single (T := sessionSystem T env) (Step.resetDrawn hp hf)
  have h₂ := h₁.snoc (Step.resetStored (d := d) List.mem_cons_self rfl)
  simp only [List.erase_cons_head] at h₂
  exact ⟨_, h₂, rfl⟩

/-- A password reset. -/
theorem run_resetPassword {req : ResetPasswordRequest} {now : DateTime} {u : Uuid}
    {resetTokens : Tokens} {hash : Except String String} {r : PendingPassword}
    (hx : AuthService.consumeResetToken env s.resetTokens req now = (.ok u, resetTokens))
    (hh : AuthService.hashNewPassword req u hash = .ok r) :
    ∃ tr, (sessionSystem T env).Run s tr
        { s with
          accounts :=
            { s.accounts with
              users := InMemoryUserRepository.updatePasswordHash s.accounts.users r.userId
                r.newHash now }
          refreshTokens := revokeAllUserRefreshTokens s.refreshTokens r.userId now
          resetTokens } ∧
      System.labels tr =
        [.resetAccepted req now r, .passwordUpdated r now, .sessionsRevoked r now] := by
  have h₁ := System.Run.single (T := sessionSystem T env) (Step.resetAccepted hx hh)
  have h₂ := h₁.snoc (Step.passwordUpdated now List.mem_cons_self)
  have h₃ := h₂.snoc (Step.sessionsRevoked now List.mem_cons_self)
  simp only [List.erase_cons_head] at h₃
  exact ⟨_, h₃, rfl⟩

end SessionState
end Hanbova
