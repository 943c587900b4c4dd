import Hanbova.Accounts.Service
import Hanbova.Accounts.Tokens

/-! Logins, refreshes and password resets: the rest of `auth/service.rs`, cut at the calls of the
repository. -/
namespace Hanbova

open Library Library.Text
open InMemoryUserRepository (Users Tokens RecordDraw)

structure LoginRequest where
  login : String
  password : String
  deriving DecidableEq

structure RefreshTokenRequest where
  refreshToken : String
  deriving DecidableEq

structure ForgotPasswordRequest where
  email : String
  deriving DecidableEq

structure ForgotPasswordResponse where
  message : String
  devResetToken : Option String
  deriving DecidableEq

structure ResetPasswordRequest where
  token : String
  newPassword : String
  deriving DecidableEq

structure UserProfileResponse where
  id : Uuid
  username : String
  handle : String
  email : String
  firstName : String
  lastName : String
  displayName : String
  phone : Option String
  emailVerified : Bool
  createdAt : DateTime
  deriving DecidableEq

/-- `From<User> for UserProfileResponse`. -/
def UserProfileResponse.ofUser (user : User) : UserProfileResponse where
  id := user.id
  username := user.username
  handle := if AtSigned user.username then user.username else "@" ++ user.username
  email := user.email
  firstName := user.firstName
  lastName := user.lastName
  displayName := trim (user.firstName ++ " " ++ user.lastName)
  phone := user.phone
  emailVerified := user.emailVerifiedAt.isSome
  createdAt := user.createdAt

structure AuthResponse where
  accessToken : String
  refreshToken : String
  tokenType : String
  expiresIn : ℤ
  user : UserProfileResponse
  deriving DecidableEq

inductive JwtError
  | creation (message : String)
  | invalidToken (message : String)
  | expired

inductive PasswordError
  | hashError (message : String)
  | invalidPassword

/-- What the service takes from other crates and from its configuration: the hash of a token, the
verification of a password against its hash, and whether it runs in development. -/
structure AuthEnv where
  hashToken : String → String
  verifyPassword : String → String → Except PasswordError Bool
  isDevelopment : Bool

/-- What `generate_auth_response` draws: the outcome of signing an access token, a random refresh
token, and a reading of the clock. -/
structure TokenDraw where
  accessToken : Except JwtError String
  refreshToken : String
  now : DateTime

/-- A refresh token on its way to the repository, with the answer that waits for it. -/
structure PendingAuth where
  user : User
  accessToken : String
  refreshToken : String
  expiresAt : DateTime
  deriving DecidableEq

/-- A refresh whose token has been exchanged and whose user has not been read yet. -/
structure PendingRefresh where
  refreshToken : String
  userId : Uuid
  deriving DecidableEq

/-- A password-reset token on its way to the repository. -/
structure PendingReset where
  userId : Uuid
  token : String
  expiresAt : DateTime
  deriving DecidableEq

/-- A reset whose token has been consumed, with the hash of the new password. -/
structure PendingPassword where
  token : String
  userId : Uuid
  newHash : String
  deriving DecidableEq

namespace AuthService

def accessTokenExpiryMinutes : ℤ := 15

def refreshTokenExpiryDays : ℤ := 30

/-- `generate_auth_response` up to the storing of the refresh token. -/
def prepareAuthResponse (user : User) (d : TokenDraw) : Except Fault PendingAuth :=
  match d.accessToken with
  | .error (.creation msg) => .error (.error (.internal msg))
  | .error _ => .error (.error (.internal "Token error"))
  | .ok accessToken =>
    match d.now.checkedAddSigned (TimeDelta.days refreshTokenExpiryDays) with
    | none => .error .panicked
    | some expiresAt => .ok ⟨user, accessToken, d.refreshToken, expiresAt⟩

/-- The rest of `generate_auth_response`. -/
def storeAuth (env : AuthEnv) (store : Tokens) (p : PendingAuth) (d : RecordDraw) :
    AuthResponse × Tokens :=
  ({ accessToken := p.accessToken
     refreshToken := p.refreshToken
     tokenType := "Bearer"
     expiresIn := accessTokenExpiryMinutes * 60
     user := .ofUser p.user },
    InMemoryUserRepository.storeRefreshToken store p.user.id (env.hashToken p.refreshToken)
      p.expiresAt d)

/-- `login` up to the storing of the refresh token. -/
def login (T : CaseTable) (env : AuthEnv) (users : Users) (req : LoginRequest) (d : TokenDraw) :
    Except Fault PendingAuth :=
  match InMemoryUserRepository.findByUsernameOrEmail T users (T.toLowercase (trim req.login)) with
  | none => .error (.error (.badRequest "Invalid login credentials"))
  | some user =>
    match env.verifyPassword req.password user.passwordHash with
    | .ok true => prepareAuthResponse user d
    | _ => .error (.error (.badRequest "Invalid login credentials"))

/-- `refresh` up to the reading of the user. -/
def exchange (env : AuthEnv) (store : Tokens) (req : RefreshTokenRequest) (now : DateTime) :
    Except ApiError PendingRefresh × Tokens :=
  match InMemoryUserRepository.validateAndRevokeRefreshToken store (env.hashToken req.refreshToken)
      now with
  | (none, store') => (.error (.badRequest "Invalid or expired refresh token"), store')
  | (some userId, store') => (.ok ⟨req.refreshToken, userId⟩, store')

/-- `refresh` from the reading of the user to the storing of the new token. -/
def refreshUser (users : Users) (r : PendingRefresh) (d : TokenDraw) : Except Fault PendingAuth :=
  match InMemoryUserRepository.findById users r.userId with
  | none => .error (.error (.notFound "User not found"))
  | some user => prepareAuthResponse user d

/-- `forgot_password` up to the storing of the token: nothing is stored for an unknown address. -/
def forgotPassword (T : CaseTable) (users : Users) (req : ForgotPasswordRequest) (token : String)
    (now : DateTime) : Except Fault (Option PendingReset) :=
  match InMemoryUserRepository.findByUsernameOrEmail T users (T.toLowercase (trim req.email)) with
  | none => .ok none
  | some user =>
    match now.checkedAddSigned (TimeDelta.hours 1) with
    | none => .error .panicked
    | some expiresAt => .ok (some ⟨user.id, token, expiresAt⟩)

def forgotPasswordResponse (env : AuthEnv) (p : Option PendingReset) : ForgotPasswordResponse where
  message := "If an account matches that email, a password reset link has been issued."
  devResetToken := if env.isDevelopment then p.map PendingReset.token else none

def storeReset (env : AuthEnv) (store : Tokens) (p : PendingReset) (d : RecordDraw) :
    ForgotPasswordResponse × Tokens :=
  (forgotPasswordResponse env (some p),
    InMemoryUserRepository.storePasswordResetToken store p.userId (env.hashToken p.token)
      p.expiresAt d)

/-- `reset_password` up to the call that consumes the token, and that call. -/
def consumeResetToken (env : AuthEnv) (store : Tokens) (req : ResetPasswordRequest)
    (now : DateTime) : Except ApiError Uuid × Tokens :=
  if len req.newPassword < 8 then
    (.error (.badRequest "Password must be at least 8 characters long"), store)
  else
    match InMemoryUserRepository.validateAndConsumeResetToken store (env.hashToken req.token)
        now with
    | (none, store') => (.error (.badRequest "Invalid or expired reset token"), store')
    | (some userId, store') => (.ok userId, store')

/-- The hashing of the new password, with its outcome for a random salt. -/
def hashNewPassword (req : ResetPasswordRequest) (userId : Uuid) (hash : Except String String) :
    Except ApiError PendingPassword :=
  match hash with
  | .error e => .error (.internal s!"Failed to hash password: {e}")
  | .ok newHash => .ok ⟨req.token, userId, newHash⟩

section
variable {T : CaseTable} {env : AuthEnv} {users : Users} {store store' : Tokens}
variable {now : DateTime} {d : TokenDraw} {p : PendingAuth}

theorem prepareAuthResponse_ok {user : User} (h : prepareAuthResponse user d = .ok p) :
    p.user = user ∧ p.refreshToken = d.refreshToken ∧ d.now < p.expiresAt := by
  unfold prepareAuthResponse at h
  split at h
  · cases h
  · cases h
  · split at h
    · cases h
    · case h_2 expiresAt he =>
      obtain rfl := Except.ok.inj h
      refine ⟨rfl, rfl, ?_⟩
      have hsum := DateTime.checkedAddSigned_eq_some.mp he
      show d.now.nanos < expiresAt.nanos
      rw [hsum, TimeDelta.days, refreshTokenExpiryDays]
      omega

theorem login_ok {req : LoginRequest} (h : login T env users req d = .ok p) :
    ∃ user, InMemoryUserRepository.findByUsernameOrEmail T users (T.toLowercase (trim req.login)) =
        some user ∧ env.verifyPassword req.password user.passwordHash = .ok true ∧
      prepareAuthResponse user d = .ok p := by
  unfold login at h
  split at h
  · cases h
  · case h_2 user hu =>
    split at h
    · case h_1 hv => exact ⟨user, hu, hv, h⟩
    · cases h

theorem refreshUser_ok {r : PendingRefresh} (h : refreshUser users r d = .ok p) :
    ∃ user, users.lookup r.userId = some user ∧ prepareAuthResponse user d = .ok p := by
  unfold refreshUser at h
  split at h
  · cases h
  · case h_2 user hu => exact ⟨user, hu, h⟩

theorem exchange_ok {req : RefreshTokenRequest} {r : PendingRefresh}
    (h : exchange env store req now = (.ok r, store')) :
    r.refreshToken = req.refreshToken ∧
      InMemoryUserRepository.validateAndEnd store (env.hashToken req.refreshToken) now =
        (some r.userId, store') := by
  unfold exchange at h
  split at h
  · cases h
  · case h_2 userId store'' hv =>
    obtain ⟨hr, rfl⟩ := Prod.mk.inj h
    obtain rfl := Except.ok.inj hr
    exact ⟨rfl, hv⟩

theorem exchange_error {req : RefreshTokenRequest} {e : ApiError}
    (h : exchange env store req now = (.error e, store')) : store' = store := by
  unfold exchange at h
  split at h
  · case h_1 store'' hv =>
    obtain ⟨-, rfl⟩ := Prod.mk.inj h
    exact InMemoryUserRepository.validateAndEnd_none hv
  · cases h

/-- A reset token is drawn for a stored user only. -/
theorem forgotPassword_ok {req : ForgotPasswordRequest} {token : String} {q : PendingReset}
    (h : forgotPassword T users req token now = .ok (some q)) :
    q.token = token ∧ now < q.expiresAt ∧ ∃ user ∈ users.values, user.id = q.userId := by
  unfold forgotPassword at h
  split at h
  · cases h
  · case h_2 user hu =>
    split at h
    · cases h
    · case h_2 expiresAt he =>
      obtain rfl := Option.some.inj (Except.ok.inj h)
      refine ⟨rfl, ?_, user, (InMemoryUserRepository.findByUsernameOrEmail_some hu).1, rfl⟩
      have hsum := DateTime.checkedAddSigned_eq_some.mp he
      show now.nanos < expiresAt.nanos
      rw [hsum, TimeDelta.hours]
      omega

theorem consumeResetToken_ok {req : ResetPasswordRequest} {u : Uuid}
    (h : consumeResetToken env store req now = (.ok u, store')) :
    8 ≤ len req.newPassword ∧
      InMemoryUserRepository.validateAndEnd store (env.hashToken req.token) now =
        (some u, store') := by
  unfold consumeResetToken at h
  split_ifs at h with hlen
  · cases (Prod.mk.inj h).1
  · split at h
    · cases h
    · case h_2 userId store'' hv =>
      obtain ⟨hu, rfl⟩ := Prod.mk.inj h
      obtain rfl := Except.ok.inj hu
      exact ⟨by omega, hv⟩

theorem consumeResetToken_of_accepted {req : ResetPasswordRequest} {u : Uuid}
    (hlen : 8 ≤ len req.newPassword)
    (hv : InMemoryUserRepository.validateAndEnd store (env.hashToken req.token) now =
      (some u, store')) : consumeResetToken env store req now = (.ok u, store') := by
  rw [consumeResetToken, if_neg (by omega), InMemoryUserRepository.validateAndConsumeResetToken, hv]

theorem consumeResetToken_error {req : ResetPasswordRequest} {e : ApiError}
    (h : consumeResetToken env store req now = (.error e, store')) : store' = store := by
  unfold consumeResetToken at h
  split_ifs at h
  · exact (Prod.mk.inj h).2.symm
  · split at h
    · case h_1 store'' hv =>
      obtain ⟨-, rfl⟩ := Prod.mk.inj h
      exact InMemoryUserRepository.validateAndEnd_none hv
    · cases h

theorem hashNewPassword_ok {req : ResetPasswordRequest} {u : Uuid} {hash : Except String String}
    {r : PendingPassword} (h : hashNewPassword req u hash = .ok r) :
    r.token = req.token ∧ r.userId = u := by
  unfold hashNewPassword at h
  split at h
  · cases h
  · obtain rfl := Except.ok.inj h
    exact ⟨rfl, rfl⟩

end
end AuthService
end Hanbova
