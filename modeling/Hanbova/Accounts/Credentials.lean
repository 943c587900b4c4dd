import Hanbova.Accounts.Postgres
import Hanbova.Accounts.SingleUse
import Hanbova.Library.Effect

/-! Refreshes and password resets over PostgreSQL, where any statement may fail. Each statement is
committed on its own. -/
namespace Hanbova

open Library Library.Text
open InMemoryUserRepository (RecordDraw)
open PgUserRepository (TokenRows validateAndEnd accepts)

namespace PgUserRepository

abbrev UserRows := List User

def findById (rows : UserRows) (id : Uuid) : Option User := rows.find? (·.id = id)

/-- `UPDATE users SET password_hash = $1, updated_at = NOW() WHERE id = $2`. -/
def updatePasswordHash (round : DateTime → DateTime) (rows : UserRows) (userId : Uuid)
    (newHash : String) (now : DateTime) : UserRows :=
  rows.map fun u =>
    if u.id = userId then { u with passwordHash := newHash, updatedAt := round now } else u

end PgUserRepository

structure CredentialRows where
  users : PgUserRepository.UserRows
  refreshTokens : TokenRows
  resetTokens : TokenRows
  deriving DecidableEq

/-- The calls of the repository that a refresh or a reset makes. -/
inductive RepositoryCall
  | findById
  | updatePasswordHash
  | storeRefreshToken
  | validateAndRevokeRefreshToken
  | revokeAllUserRefreshTokens
  | validateAndConsumeResetToken
  deriving DecidableEq

/-- Which calls fail, and with what. -/
abbrev Outages := RepositoryCall → Option SqlxError

namespace AuthService

/-- A call of the repository with `?`. One that is to fail does so before it has any effect. -/
def call {α : Type} (outages : Outages) (c : RepositoryCall)
    (statement : CredentialRows → Except SqlxError (α × CredentialRows)) :
    Effect CredentialRows Fault α :=
  .ofFun fun db =>
    match outages c with
    | some e => (.error (.error (.database e)), db)
    | none =>
      match statement db with
      | .ok (a, db') => (.ok a, db')
      | .error e => (.error (.error (.database e)), db)

def authResponse (p : PendingAuth) : AuthResponse where
  accessToken := p.accessToken
  refreshToken := p.refreshToken
  tokenType := "Bearer"
  expiresIn := accessTokenExpiryMinutes * 60
  user := .ofUser p.user

variable (env : AuthEnv) (round : DateTime → DateTime) (outages : Outages)

def generateAuthResponse (user : User) (d : TokenDraw) (rec : RecordDraw) :
    Effect CredentialRows Fault AuthResponse := do
  let p ← .ofFun fun db => (prepareAuthResponse user d, db)
  call outages .storeRefreshToken fun db => do
    let rows ← PgUserRepository.storeToken round db.refreshTokens p.user.id
      (env.hashToken p.refreshToken) p.expiresAt rec
    .ok ((), { db with refreshTokens := rows })
  pure (authResponse p)

/-- `refresh` after the token has been revoked. -/
def answerRefresh (userId : Uuid) (d : TokenDraw) (rec : RecordDraw) :
    Effect CredentialRows Fault AuthResponse := do
  let user ← call outages .findById fun db => .ok (PgUserRepository.findById db.users userId, db)
  match user with
  | none => throw (.error (.notFound "User not found"))
  | some user => generateAuthResponse env round outages user d rec

/-- `refresh`. The clock of the first statement reads `now`. -/
def refresh (req : RefreshTokenRequest) (now : DateTime) (d : TokenDraw) (rec : RecordDraw) :
    Effect CredentialRows Fault AuthResponse := do
  let userId ← call outages .validateAndRevokeRefreshToken fun db =>
    let r := validateAndEnd round db.refreshTokens (env.hashToken req.refreshToken) now
    .ok (r.1, { db with refreshTokens := r.2 })
  match userId with
  | none => throw (.error (.badRequest "Invalid or expired refresh token"))
  | some userId => answerRefresh env round outages userId d rec

/-- `reset_password` after the token has been consumed. The password hash comes out as `hash`. -/
def changePassword (userId : Uuid) (hash : Except String String) (now₁ now₂ : DateTime) :
    Effect CredentialRows Fault Unit :=
  match hash with
  | .error e => throw (.error (.internal s!"Failed to hash password: {e}"))
  | .ok newHash => do
    call outages .updatePasswordHash fun db =>
      .ok ((), { db with
        users := PgUserRepository.updatePasswordHash round db.users userId newHash now₁ })
    call outages .revokeAllUserRefreshTokens fun db =>
      .ok ((), { db with
        refreshTokens := PgUserRepository.revokeAllUserRefreshTokens round db.refreshTokens userId
          now₂ })

/-- `reset_password`. The clocks of its three statements read `now`, `now₁` and `now₂`. -/
def resetPassword (req : ResetPasswordRequest) (hash : Except String String)
    (now now₁ now₂ : DateTime) : Effect CredentialRows Fault Unit :=
  if len req.newPassword < 8 then
    throw (.error (.badRequest "Password must be at least 8 characters long"))
  else do
    let userId ← call outages .validateAndConsumeResetToken fun db =>
      let r := validateAndEnd round db.resetTokens (env.hashToken req.token) now
      .ok (r.1, { db with resetTokens := r.2 })
    match userId with
    | none => throw (.error (.badRequest "Invalid or expired reset token"))
    | some userId => changePassword round outages userId hash now₁ now₂

/-! ### Calls that fail -/

section
variable {outages} {α : Type} {c : RepositoryCall} {a : α} {db db' : CredentialRows}
  {statement : CredentialRows → Except SqlxError (α × CredentialRows)} {fault : Fault}

theorem failsCleanly_call : (call outages c statement).FailsCleanly := by
  intro db fault db' h
  unfold call at h
  rw [Effect.exec_ofFun] at h
  cases ho : outages c with
  | some e =>
    simp only [ho, Prod.mk.injEq] at h
    exact h.2.symm
  | none =>
    cases hst : statement db with
    | error e =>
      simp only [ho, hst, Prod.mk.injEq] at h
      exact h.2.symm
    | ok r => simp [ho, hst] at h

theorem call_ok (h : (call outages c statement).exec db = (.ok a, db')) :
    outages c = none ∧ statement db = .ok (a, db') := by
  unfold call at h
  rw [Effect.exec_ofFun] at h
  cases ho : outages c with
  | some e => simp [ho] at h
  | none =>
    cases hst : statement db with
    | error e => simp [ho, hst] at h
    | ok r =>
      simp only [ho, hst, Prod.mk.injEq, Except.ok.injEq] at h
      exact ⟨rfl, congrArg Except.ok (Prod.ext h.1 h.2)⟩

/-- A statement that always succeeds fails with the call only. -/
theorem call_error {f : CredentialRows → α × CredentialRows}
    (h : (call outages c fun db => .ok (f db)).exec db = (.error fault, db')) :
    outages c ≠ none ∧ db' = db := by
  refine ⟨fun ho => ?_, failsCleanly_call _ _ _ h⟩
  unfold call at h
  rw [Effect.exec_ofFun, ho] at h
  cases (Prod.mk.inj h).1

theorem failsCleanly_generateAuthResponse (user : User) (d : TokenDraw) (rec : RecordDraw) :
    (generateAuthResponse env round outages user d rec).FailsCleanly := by
  have hread : (Effect.ofFun fun db : CredentialRows =>
      (prepareAuthResponse user d, db)).ReadsOnly := by
    intro db r db' h
    exact (Prod.mk.inj h).2.symm
  refine hread.bind fun p db fault db' h => ?_
  rcases failsCleanly_call.bind_error h with ⟨-, he⟩ | ⟨_, db₁, -, h'⟩
  · exact he
  · cases h'

theorem failsCleanly_answerRefresh (userId : Uuid) (d : TokenDraw) (rec : RecordDraw) :
    (answerRefresh env round outages userId d rec).FailsCleanly := by
  intro db fault db' h
  rcases failsCleanly_call.bind_error h with ⟨-, he⟩ | ⟨user, db₁, hc, h⟩
  · exact he
  · obtain ⟨-, hst⟩ := call_ok hc
    obtain ⟨-, rfl⟩ := Prod.mk.inj (Except.ok.inj hst)
    cases user with
    | none => exact Effect.readsOnly_throw _ _ _ _ h
    | some user => exact failsCleanly_generateAuthResponse env round user d rec _ _ _ h

end

end AuthService

/-! ### The presented token -/

namespace PgUserRepository
variable {round : DateTime → DateTime} {rows rows' : TokenRows} {k : String} {now : DateTime}
  {u : Uuid}

/-- A token of this hash is accepted at the time `t`. -/
def Usable (rows : TokenRows) (k : String) (t : DateTime) : Prop :=
  ∃ r ∈ rows, accepts k t r = true

theorem exists_of_accepted (h : validateAndEnd round rows k now = (some u, rows')) :
    ∃ r ∈ rows, accepts k (round now) r = true ∧ r.userId = u := by
  obtain ⟨r, hr, hu⟩ := Option.map_eq_some_iff.mp (Prod.mk.inj h).1
  exact ⟨r, List.mem_of_find?_eq_some hr, List.find?_some hr, hu⟩

theorem usable_of_accepted (h : validateAndEnd round rows k now = (some u, rows')) :
    Usable rows k (round now) := by
  obtain ⟨r, hr, hacc, -⟩ := exists_of_accepted h
  exact ⟨r, hr, hacc⟩

theorem not_usable_of_refused (h : validateAndEnd round rows k now = (none, rows')) :
    ¬ Usable rows k (round now) ∧ rows' = rows := by
  obtain ⟨hnone, hsame⟩ := validateAndEnd_refused h
  refine ⟨?_, hsame⟩
  rintro ⟨r, hr, hacc⟩
  exact hnone r hr hacc

/-- An update that has accepted a token uses it up, and leaves the others alone. -/
theorem spent_of_accepted (h : validateAndEnd round rows k now = (some u, rows')) :
    (∀ r, r.tokenHash ≠ k → (r ∈ rows' ↔ r ∈ rows)) ∧
      ∀ t, round now ≤ t → ¬ Usable rows' k t := by
  obtain rfl : (validateAndEnd round rows k now).2 = rows' := by rw [h]
  constructor
  · intro r hk
    constructor
    · intro hr
      obtain ⟨r₀, hr₀, rfl⟩ := List.mem_map.mp hr
      by_cases hacc : accepts k (round now) r₀ = true
      · rw [if_pos hacc] at hk
        exact absurd (of_decide_eq_true hacc).1 hk
      · rw [if_neg hacc]
        exact hr₀
    · intro hr
      have hacc : accepts k (round now) r = false := by simp [accepts, hk]
      exact List.mem_map.mpr ⟨r, hr, if_neg (by simp [hacc])⟩
  · rintro t ht ⟨r', hr', hacc⟩
    obtain ⟨r, hr, rfl⟩ := List.mem_map.mp hr'
    by_cases hnow : accepts k (round now) r = true
    · rw [if_pos hnow] at hacc
      simp [accepts, TokenRecord.live] at hacc
    · rw [if_neg hnow] at hacc
      obtain ⟨hk, hlive⟩ := of_decide_eq_true hacc
      obtain ⟨hend, hexp⟩ := InMemoryUserRepository.TokenRecord.live_iff.mp hlive
      refine hnow
        (decide_eq_true ⟨hk, InMemoryUserRepository.TokenRecord.live_iff.mpr ⟨hend, ?_⟩⟩)
      exact lt_of_le_of_lt ht hexp

end PgUserRepository

open PgUserRepository (Usable)

namespace AuthService
variable {env : AuthEnv} {round : DateTime → DateTime} {outages : Outages}
  {db db' : CredentialRows} {fault : Fault}

/-- What a failed refresh leaves behind: nothing if its first statement has failed or refused the
token, and otherwise that the presented token is used up. -/
structure RefreshLeaves (env : AuthEnv) (round : DateTime → DateTime) (outages : Outages)
    (req : RefreshTokenRequest) (now : DateTime) (db db' : CredentialRows) : Prop where
  users : db'.users = db.users
  resetTokens : db'.resetTokens = db.resetTokens
  others : ∀ r, r.tokenHash ≠ env.hashToken req.refreshToken →
    (r ∈ db'.refreshTokens ↔ r ∈ db.refreshTokens)
  untouched : outages .validateAndRevokeRefreshToken ≠ none ∨
    ¬ Usable db.refreshTokens (env.hashToken req.refreshToken) (round now) → db' = db
  used : outages .validateAndRevokeRefreshToken = none →
    Usable db.refreshTokens (env.hashToken req.refreshToken) (round now) →
    ∀ t, round now ≤ t → ¬ Usable db'.refreshTokens (env.hashToken req.refreshToken) t

/-- A reset comes as far as its last statement, with this password hash. -/
structure ReachesLast (env : AuthEnv) (round : DateTime → DateTime) (outages : Outages)
    (req : ResetPasswordRequest) (hash : Except String String) (now : DateTime)
    (db : CredentialRows) (newHash : String) : Prop where
  length : 8 ≤ len req.newPassword
  consumes : outages .validateAndConsumeResetToken = none
  usable : Usable db.resetTokens (env.hashToken req.token) (round now)
  hashed : hash = .ok newHash
  updates : outages .updatePasswordHash = none

/-- The same of a failed reset. If the statement that has failed is the last one, the new hash has
been stored before, for the user of the token and for nobody else; otherwise the users are as
before. -/
structure ResetLeaves (env : AuthEnv) (round : DateTime → DateTime) (outages : Outages)
    (req : ResetPasswordRequest) (hash : Except String String) (now now₁ : DateTime)
    (db db' : CredentialRows) : Prop where
  refreshTokens : db'.refreshTokens = db.refreshTokens
  users : (∀ newHash, ¬ ReachesLast env round outages req hash now db newHash) →
    db'.users = db.users
  password : ∀ newHash, ReachesLast env round outages req hash now db newHash →
    outages .revokeAllUserRefreshTokens ≠ none ∧
      ∃ r ∈ db.resetTokens, accepts (env.hashToken req.token) (round now) r = true ∧
        db'.users = db.users.map fun u =>
          if u.id = r.userId then { u with passwordHash := newHash, updatedAt := round now₁ } else u
  others : ∀ r, r.tokenHash ≠ env.hashToken req.token →
    (r ∈ db'.resetTokens ↔ r ∈ db.resetTokens)
  untouched : len req.newPassword < 8 ∨ outages .validateAndConsumeResetToken ≠ none ∨
    ¬ Usable db.resetTokens (env.hashToken req.token) (round now) → db' = db
  used : 8 ≤ len req.newPassword → outages .validateAndConsumeResetToken = none →
    Usable db.resetTokens (env.hashToken req.token) (round now) →
    ∀ t, round now ≤ t → ¬ Usable db'.resetTokens (env.hashToken req.token) t

theorem refresh_leaves {req : RefreshTokenRequest} {now : DateTime} {d : TokenDraw}
    {rec : RecordDraw}
    (h : (refresh env round outages req now d rec).exec db = (.error fault, db')) :
    RefreshLeaves env round outages req now db db' := by
  rcases Effect.bind_error h with h | ⟨userId, db₁, hc, h⟩
  · obtain ⟨ho, rfl⟩ := call_error h
    exact ⟨rfl, rfl, fun r _ => Iff.rfl, fun _ => rfl, fun hn => absurd hn ho⟩
  obtain ⟨ho, hst⟩ := call_ok hc
  cases hv : validateAndEnd round db.refreshTokens (env.hashToken req.refreshToken) now with
  | mk o rows =>
    simp only [hv, Except.ok.injEq, Prod.mk.injEq] at hst
    obtain ⟨rfl, rfl⟩ := hst
    cases o with
    | none =>
      obtain ⟨hno, rfl⟩ := PgUserRepository.not_usable_of_refused hv
      obtain rfl : db = db' := (Prod.mk.inj h).2
      exact ⟨rfl, rfl, fun r _ => Iff.rfl, fun _ => rfl, fun _ hu => absurd hu hno⟩
    | some userId =>
      have huse := PgUserRepository.usable_of_accepted hv
      obtain rfl := failsCleanly_answerRefresh env round userId d rec _ _ _ h
      obtain ⟨hothers, hused⟩ := PgUserRepository.spent_of_accepted hv
      refine ⟨rfl, rfl, hothers, ?_, fun _ _ => hused⟩
      rintro (hn | hn)
      · exact absurd ho hn
      · exact absurd huse hn

/-- After the token has been consumed only the update of the password can have an effect, and it has
if it is the statement after it that fails. -/
theorem changePassword_leaves {userId : Uuid} {hash : Except String String}
    {now₁ now₂ : DateTime}
    (h : (changePassword round outages userId hash now₁ now₂).exec db = (.error fault, db')) :
    ((∃ e, hash = .error e) ∨ outages .updatePasswordHash ≠ none) ∧ db' = db ∨
    ∃ newHash, hash = .ok newHash ∧ outages .updatePasswordHash = none ∧
      outages .revokeAllUserRefreshTokens ≠ none ∧
      db' = { db with
        users := PgUserRepository.updatePasswordHash round db.users userId newHash now₁ } := by
  unfold changePassword at h
  cases hash with
  | error e =>
    obtain rfl : db = db' := (Prod.mk.inj h).2
    exact .inl ⟨.inl ⟨e, rfl⟩, rfl⟩
  | ok newHash =>
    rcases Effect.bind_error h with h | ⟨_, db₁, hc, h⟩
    · obtain ⟨ho, rfl⟩ := call_error h
      exact .inl ⟨.inr ho, rfl⟩
    · obtain ⟨hupdate, hst⟩ := call_ok hc
      obtain ⟨-, rfl⟩ := Prod.mk.inj (Except.ok.inj hst)
      obtain ⟨hrevoke, rfl⟩ := call_error h
      exact .inr ⟨newHash, rfl, hupdate, hrevoke, rfl⟩

/-- A reset that ends before the token is consumed leaves everything as it was. -/
theorem ResetLeaves.unchanged {req : ResetPasswordRequest} {hash : Except String String}
    {now now₁ : DateTime}
    (h : len req.newPassword < 8 ∨ outages .validateAndConsumeResetToken ≠ none ∨
      ¬ Usable db.resetTokens (env.hashToken req.token) (round now)) :
    ResetLeaves env round outages req hash now now₁ db db where
  refreshTokens := rfl
  users _ := rfl
  password newHash hlast := by
    rcases h with hlen | ho | hno
    · exact absurd hlast.length (Nat.not_le.mpr hlen)
    · exact absurd hlast.consumes ho
    · exact absurd hlast.usable hno
  others r _ := Iff.rfl
  untouched _ := rfl
  used hlen ho hu := by
    rcases h with hlen' | ho' | hno
    · exact absurd hlen (Nat.not_le.mpr hlen')
    · exact absurd ho ho'
    · exact absurd hu hno

theorem resetPassword_leaves {req : ResetPasswordRequest} {hash : Except String String}
    {now now₁ now₂ : DateTime}
    (h : (resetPassword env round outages req hash now now₁ now₂).exec db =
      (.error fault, db')) :
    ResetLeaves env round outages req hash now now₁ db db' := by
  unfold resetPassword at h
  by_cases hlen : len req.newPassword < 8
  · rw [if_pos hlen] at h
    obtain rfl : db = db' := (Prod.mk.inj h).2
    exact .unchanged (.inl hlen)
  rw [if_neg hlen] at h
  rcases Effect.bind_error h with h | ⟨userId, db₁, hc, h⟩
  · obtain ⟨ho, rfl⟩ := call_error h
    exact .unchanged (.inr (.inl ho))
  obtain ⟨ho, hst⟩ := call_ok hc
  cases hv : validateAndEnd round db.resetTokens (env.hashToken req.token) now with
  | mk o rows =>
    simp only [hv, Except.ok.injEq, Prod.mk.injEq] at hst
    obtain ⟨rfl, rfl⟩ := hst
    cases o with
    | none =>
      obtain ⟨hno, rfl⟩ := PgUserRepository.not_usable_of_refused hv
      obtain rfl : db = db' := (Prod.mk.inj h).2
      exact .unchanged (.inr (.inr hno))
    | some userId =>
      obtain ⟨r, hr, hacc, rfl⟩ := PgUserRepository.exists_of_accepted hv
      have huse : Usable db.resetTokens (env.hashToken req.token) (round now) := ⟨r, hr, hacc⟩
      obtain ⟨hothers, hused⟩ := PgUserRepository.spent_of_accepted hv
      have huntouched : len req.newPassword < 8 ∨
        outages .validateAndConsumeResetToken ≠ none ∨
          ¬ Usable db.resetTokens (env.hashToken req.token) (round now) → db' = db := by
        rintro (hn | hn | hn)
        · exact absurd hn hlen
        · exact absurd ho hn
        · exact absurd huse hn
      rcases changePassword_leaves h with ⟨hbefore, rfl⟩ |
        ⟨newHash, rfl, hupdate, hrevoke, rfl⟩
      · refine ⟨rfl, fun _ => rfl, fun newHash hlast => ?_, hothers, huntouched,
          fun _ _ _ => hused⟩
        rcases hbefore with ⟨e, he⟩ | hn
        · rw [hlast.hashed] at he
          cases he
        · exact absurd hlast.updates hn
      · refine ⟨rfl, fun hno => ?_, fun newHash' hlast => ?_, hothers, huntouched,
          fun _ _ _ => hused⟩
        · exact absurd ⟨Nat.not_lt.mp hlen, ho, huse, rfl, hupdate⟩ (hno newHash)
        · obtain rfl := Except.ok.inj hlast.hashed
          exact ⟨hrevoke, r, hr, hacc, rfl⟩

end AuthService

/-! ### What was to be expected -/

/-- The token is as usable as before, no password has changed, and no refresh token has been
revoked. -/
structure Undone (tokens : CredentialRows → TokenRows) (k : String) (db db' : CredentialRows) :
    Prop where
  usable : ∀ t, Usable (tokens db') k t ↔ Usable (tokens db) k t
  passwords : db'.users.map User.passwordHash = db.users.map User.passwordHash
  unrevoked : ∀ r ∈ db.refreshTokens, r.endedAt = none → r ∈ db'.refreshTokens

/-- A refresh or reset that fails after its first statement has used up the presented token. It has
revoked no other token, and has changed a password, that of the token's user, exactly if it was the
last statement that failed. -/
theorem credentials_after_error (env : AuthEnv) (round : DateTime → DateTime) (outages : Outages)
    (db db' : CredentialRows) (fault : Fault) :
    (∀ req now d rec, (AuthService.refresh env round outages req now d rec).exec db =
      (.error fault, db') → AuthService.RefreshLeaves env round outages req now db db') ∧
    ∀ req hash now now₁ now₂,
      (AuthService.resetPassword env round outages req hash now now₁ now₂).exec db =
        (.error fault, db') →
      AuthService.ResetLeaves env round outages req hash now now₁ db db' :=
  ⟨fun _ _ _ _ h => AuthService.refresh_leaves h,
    fun _ _ _ _ _ h => AuthService.resetPassword_leaves h⟩

/-- Bob holds a refresh token and a reset token, Alice neither. -/
def sampleCredentials : CredentialRows where
  users := [sampleUser 1 "bob", sampleUser 2 "alice"]
  refreshTokens := [sampleTokenRecord 0 nextMonth none]
  resetTokens := [sampleTokenRecord 3 nextHour none]

/-- The database is lost for one kind of call. -/
def sampleOutage (c : RepositoryCall) : Outages := fun c' =>
  if c' = c then some (.other "pool timed out") else none

theorem not_undone : ¬ ∀ (env : AuthEnv) (round : DateTime → DateTime) (outages : Outages)
    (db db' : CredentialRows) (e : ApiError),
    (∀ req now d rec, (AuthService.refresh env round outages req now d rec).exec db =
      (.error (.error e), db') →
        Undone CredentialRows.refreshTokens (env.hashToken req.refreshToken) db db') ∧
    ∀ req hash now now₁ now₂,
      (AuthService.resetPassword env round outages req hash now now₁ now₂).exec db =
        (.error (.error e), db') →
        Undone CredentialRows.resetTokens (env.hashToken req.token) db db' := by
  intro hall
  let db' : CredentialRows :=
    { sampleCredentials with
      refreshTokens := [sampleTokenRecord 0 nextMonth (some .epoch)] }
  obtain ⟨hrefresh, -⟩ := hall sampleEnv id (sampleOutage .findById) sampleCredentials db'
    (.database (.other "pool timed out"))
  have hundone := hrefresh ⟨sampleToken 0⟩ .epoch (sampleTokenDraw 1) ⟨.ofNat 11, .epoch⟩
    (by decide +kernel)
  have hmem := hundone.unrevoked (sampleTokenRecord 0 nextMonth none) List.mem_cons_self rfl
  revert hmem
  decide +kernel

/-- The statement that revokes the sessions is lost: Bob's hash has changed, and Alice's has not. -/
theorem credentials_after_error_sample : ∃ db' fault,
    (AuthService.resetPassword sampleEnv id (sampleOutage .revokeAllUserRefreshTokens)
      (sampleReset 3) (.ok "other hash") .epoch .epoch .epoch).exec sampleCredentials =
        (.error fault, db') ∧
    db'.users.map (fun u => (u.username, u.passwordHash)) =
      [("bob", "other hash"), ("alice", "hash")] ∧
    AuthService.ReachesLast sampleEnv id (sampleOutage .revokeAllUserRefreshTokens)
      (sampleReset 3) (.ok "other hash") .epoch sampleCredentials "other hash" ∧
    AuthService.ResetLeaves sampleEnv id (sampleOutage .revokeAllUserRefreshTokens)
      (sampleReset 3) (.ok "other hash") .epoch .epoch sampleCredentials db' := by
  let db' : CredentialRows :=
    { sampleCredentials with
      users := [{ sampleUser 1 "bob" with passwordHash := "other hash" }, sampleUser 2 "alice"]
      resetTokens := [sampleTokenRecord 3 nextHour (some .epoch)] }
  have h : (AuthService.resetPassword sampleEnv id (sampleOutage .revokeAllUserRefreshTokens)
      (sampleReset 3) (.ok "other hash") .epoch .epoch .epoch).exec sampleCredentials =
        (.error (.error (.database (.other "pool timed out"))), db') := by decide +kernel
  have husable : Usable sampleCredentials.resetTokens (sampleEnv.hashToken (sampleReset 3).token)
      (id .epoch) := ⟨_, List.mem_cons_self, by decide +kernel⟩
  exact ⟨db', _, h, rfl, ⟨by decide +kernel, rfl, husable, rfl, rfl⟩,
    (credentials_after_error _ _ _ _ _ _).2 _ _ _ _ _ h⟩

end Hanbova
