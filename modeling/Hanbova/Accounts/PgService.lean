import Hanbova.Accounts.PgUsers

/-! Logins, refreshes and password resets over PostgreSQL, cut at the calls of the repository. Each
of them answers as over the in-memory repository, with times as coarse as the columns. -/
namespace Hanbova

open Library Library.Text
open InMemoryUserRepository (Users Tokens RecordDraw cleanLogin)
open PgUserRepository (TokenRows UserRows Holds isText findByUsernameOrEmail validateAndEnd)

namespace AuthService

/-- `login` once the account has been looked up. -/
def checkLogin (env : AuthEnv) (found : Option User) (req : LoginRequest) (d : TokenDraw) :
    Except Fault PendingAuth :=
  match found with
  | none => .error (.error (.badRequest "Invalid login credentials"))
  | some user =>
    match env.verifyPassword req.password user.passwordHash with
    | .ok true => prepareAuthResponse user d
    | _ => .error (.error (.badRequest "Invalid login credentials"))

/-- `forgot_password` once the account has been looked up. -/
def drawReset (found : Option User) (token : String) (now : DateTime) :
    Except Fault (Option PendingReset) :=
  match found with
  | none => .ok none
  | some user =>
    match now.checkedAddSigned (TimeDelta.hours 1) with
    | none => .error .panicked
    | some expiresAt => .ok (some ⟨user.id, token, expiresAt⟩)

theorem login_eq (T : CaseTable) (env : AuthEnv) (users : Users) (req : LoginRequest)
    (d : TokenDraw) :
    login T env users req d = checkLogin env (InMemoryUserRepository.findByUsernameOrEmail T users
      (T.toLowercase (trim req.login))) req d := by
  unfold login checkLogin
  cases InMemoryUserRepository.findByUsernameOrEmail T users (T.toLowercase (trim req.login)) <;>
    rfl

theorem forgotPassword_eq (T : CaseTable) (users : Users) (req : ForgotPasswordRequest)
    (token : String) (now : DateTime) :
    forgotPassword T users req token now = drawReset (InMemoryUserRepository.findByUsernameOrEmail T
      users (T.toLowercase (trim req.email))) token now := by
  unfold forgotPassword drawReset
  cases InMemoryUserRepository.findByUsernameOrEmail T users (T.toLowercase (trim req.email)) <;>
    rfl

end AuthService

/-! ### The calls -/

namespace PgAuthService
variable (T : CaseTable) (lower : String → String) (env : AuthEnv) (round : DateTime → DateTime)

def login (rows : UserRows) (req : LoginRequest) (d : TokenDraw) : Except Fault PendingAuth :=
  match findByUsernameOrEmail T lower rows (T.toLowercase (trim req.login)) with
  | .error e => .error (.error (.database e))
  | .ok found => AuthService.checkLogin env found req d

def forgotPassword (rows : UserRows) (req : ForgotPasswordRequest) (token : String)
    (now : DateTime) : Except Fault (Option PendingReset) :=
  match findByUsernameOrEmail T lower rows (T.toLowercase (trim req.email)) with
  | .error e => .error (.error (.database e))
  | .ok found => AuthService.drawReset found token now

/-- `refresh` up to the reading of the user. -/
def exchange (rows : TokenRows) (req : RefreshTokenRequest) (now : DateTime) :
    Except ApiError PendingRefresh × TokenRows :=
  match validateAndEnd round rows (env.hashToken req.refreshToken) now with
  | (none, rows') => (.error (.badRequest "Invalid or expired refresh token"), rows')
  | (some userId, rows') => (.ok ⟨req.refreshToken, userId⟩, rows')

/-- `refresh` from the reading of the user to the storing of the new token. -/
def refreshUser (rows : UserRows) (r : PendingRefresh) (d : TokenDraw) : Except Fault PendingAuth :=
  match PgUserRepository.findById rows r.userId with
  | none => .error (.error (.notFound "User not found"))
  | some user => AuthService.prepareAuthResponse user d

/-- The rest of `generate_auth_response`. -/
def storeAuth (rows : TokenRows) (p : PendingAuth) (d : RecordDraw) :
    Except ApiError (AuthResponse × TokenRows) :=
  match PgUserRepository.storeToken round rows p.user.id (env.hashToken p.refreshToken) p.expiresAt
      d with
  | .error e => .error (.database e)
  | .ok rows' => .ok (AuthService.authResponse p, rows')

def storeReset (rows : TokenRows) (p : PendingReset) (d : RecordDraw) :
    Except ApiError (ForgotPasswordResponse × TokenRows) :=
  match PgUserRepository.storeToken round rows p.userId (env.hashToken p.token) p.expiresAt d with
  | .error e => .error (.database e)
  | .ok rows' => .ok (AuthService.forgotPasswordResponse env (some p), rows')

/-- `reset_password` up to the call that consumes the token, and that call. -/
def consumeResetToken (rows : TokenRows) (req : ResetPasswordRequest) (now : DateTime) :
    Except ApiError Uuid × TokenRows :=
  if len req.newPassword < 8 then
    (.error (.badRequest "Password must be at least 8 characters long"), rows)
  else
    match validateAndEnd round rows (env.hashToken req.token) now with
    | (none, rows') => (.error (.badRequest "Invalid or expired reset token"), rows')
    | (some userId, rows') => (.ok userId, rows')

end PgAuthService

/-! ### Rounded times -/

/-- What the columns do to times: they keep their order, and keep whole seconds as they are. -/
structure Coarsens (round : DateTime → DateTime) : Prop where
  monotone : Monotone round
  seconds : ∀ t : DateTime, t.nanos % 1000000000 = 0 → round t = t

/-- A time in whole microseconds. -/
def toMicros (t : DateTime) : DateTime :=
  ⟨t.nanos / 1000 * 1000, by
    have h := t.inRange
    unfold minUtc maxUtc at *
    omega⟩

theorem coarsens_toMicros : Coarsens toMicros where
  monotone t u h := by
    have hle : t.nanos ≤ u.nanos := h
    show t.nanos / 1000 * 1000 ≤ u.nanos / 1000 * 1000
    omega
  seconds t h := by
    apply DateTime.ext
    show t.nanos / 1000 * 1000 = t.nanos
    omega

def PendingAuth.rounded (round : DateTime → DateTime) (p : PendingAuth) : PendingAuth :=
  { p with expiresAt := round p.expiresAt }

def PendingReset.rounded (round : DateTime → DateTime) (p : PendingReset) : PendingReset :=
  { p with expiresAt := round p.expiresAt }

/-- A time that is reached by adding whole seconds is so after rounding as well. -/
theorem Coarsens.exists_before {round : DateTime → DateTime} {t u : DateTime}
    (h : Coarsens round) (secs : ℤ) (hsecs : 0 ≤ secs)
    (hu : t.checkedAddSigned (secs * 1000000000) = some u) :
    ∃ t' : DateTime, t'.checkedAddSigned (secs * 1000000000) = some (round u) := by
  have hsum := DateTime.checkedAddSigned_eq_some.mp hu
  have hstart := t.inRange.1
  have hend := (round u).inRange.2
  have hlast := u.inRange.2
  -- the earliest time that can be reached
  let base : DateTime := ⟨minUtc + secs * 1000000000, by omega, by omega⟩
  have hbase : round base = base := by
    apply h.seconds
    show (minUtc + secs * 1000000000) % 1000000000 = 0
    unfold minUtc
    omega
  have hle : base ≤ round u := by
    rw [← hbase]
    apply h.monotone
    show minUtc + secs * 1000000000 ≤ u.nanos
    omega
  have hnanos : minUtc + secs * 1000000000 ≤ (round u).nanos := hle
  refine ⟨⟨(round u).nanos - secs * 1000000000, by omega, by omega⟩, ?_⟩
  rw [DateTime.checkedAddSigned_eq_some]
  show (round u).nanos = (round u).nanos - secs * 1000000000 + secs * 1000000000
  omega

namespace AuthService
variable {round : DateTime → DateTime} {user : User} {d : TokenDraw} {p : PendingAuth}

/-- A session whose expiry is rounded is one that another clock would have given. -/
theorem prepareAuthResponse_rounded (hround : Coarsens round)
    (h : prepareAuthResponse user d = .ok p) :
    ∃ now, prepareAuthResponse user { d with now } = .ok (p.rounded round) := by
  unfold prepareAuthResponse at h ⊢
  cases ha : d.accessToken with
  | error e => cases e <;> simp [ha] at h
  | ok accessToken =>
    simp only [ha] at h ⊢
    split at h
    · cases h
    · case h_2 expiresAt he =>
      obtain rfl := Except.ok.inj h
      obtain ⟨now, hnow⟩ := hround.exists_before (30 * 86400) (by decide) he
      refine ⟨now, ?_⟩
      have hnow' : now.checkedAddSigned (TimeDelta.days refreshTokenExpiryDays) =
          some (round expiresAt) := hnow
      rw [hnow']
      rfl

theorem checkLogin_rounded {env : AuthEnv} {found : Option User} {req : LoginRequest}
    (hround : Coarsens round) (h : checkLogin env found req d = .ok p) :
    ∃ now, checkLogin env found req { d with now } = .ok (p.rounded round) := by
  unfold checkLogin at h ⊢
  cases found with
  | none => cases h
  | some user =>
    simp only at h ⊢
    split at h
    · case h_1 hv => exact prepareAuthResponse_rounded hround h
    · cases h

theorem drawReset_rounded {found : Option User} {token : String} {now : DateTime}
    {q : PendingReset} (hround : Coarsens round)
    (h : drawReset found token now = .ok (some q)) :
    ∃ now, drawReset found token now = .ok (some (q.rounded round)) := by
  unfold drawReset at h ⊢
  cases found with
  | none => cases h
  | some user =>
    simp only at h ⊢
    split at h
    · cases h
    · case h_2 expiresAt he =>
      obtain rfl := Option.some.inj (Except.ok.inj h)
      obtain ⟨now', hnow⟩ := hround.exists_before 3600 (by decide) he
      refine ⟨now', ?_⟩
      have hnow' : now'.checkedAddSigned (TimeDelta.hours 1) = some (round expiresAt) := hnow
      rw [hnow']
      rfl

end AuthService

/-! ### Both repositories answer alike -/

/-- The failure is not one of the database. -/
def Fault.Own (fault : Fault) : Prop := ∀ e, fault ≠ .error (.database e)

namespace AuthService
variable {env : AuthEnv} {d : TokenDraw} {fault : Fault}

theorem prepareAuthResponse_own {user : User} (h : prepareAuthResponse user d = .error fault) :
    fault.Own := by
  unfold prepareAuthResponse at h
  rintro e rfl
  split at h
  · cases h
  · cases h
  · split at h <;> cases h

theorem checkLogin_own {found : Option User} {req : LoginRequest}
    (h : checkLogin env found req d = .error fault) : fault.Own := by
  unfold checkLogin at h
  cases found with
  | none =>
    rintro e rfl
    cases h
  | some user =>
    simp only at h
    split at h
    · exact prepareAuthResponse_own h
    · rintro e rfl
      cases h

theorem drawReset_own {found : Option User} {token : String} {now : DateTime}
    (h : drawReset found token now = .error fault) : fault.Own := by
  unfold drawReset at h
  rintro e rfl
  cases found with
  | none => cases h
  | some user =>
    simp only at h
    split at h <;> cases h

end AuthService

namespace PgAuthService
variable {T : CaseTable} {lower : String → String} {env : AuthEnv} {round : DateTime → DateTime}
  {rows : UserRows} {users : Users} {store : Tokens} {tokens tokens' : TokenRows}

/-- Over a map that is iterated in the order of the rows. -/
theorem login_cases (env : AuthEnv) (hlower : ∀ s, lower (T.toLowercase s) = T.toLowercase s)
    (h : Roster T users) (hvalues : users.values = rows) (req : LoginRequest) (d : TokenDraw) :
    (∃ e, login T lower env rows req d = .error (.error (.database e))) ∨
      ∃ found, login T lower env rows req d = AuthService.checkLogin env found req d ∧
        ∀ d', AuthService.login T env users req d' = AuthService.checkLogin env found req d' := by
  unfold login
  by_cases htext : isText (cleanLogin T (T.toLowercase (trim req.login))) = true
  · rw [PgUserRepository.findByUsernameOrEmail_eq hlower h hvalues htext]
    exact .inr ⟨_, rfl, fun d' => AuthService.login_eq _ _ _ _ _⟩
  · rw [findByUsernameOrEmail, if_neg htext]
    exact .inl ⟨_, rfl⟩

theorem forgotPassword_cases (hlower : ∀ s, lower (T.toLowercase s) = T.toLowercase s)
    (h : Roster T users) (hvalues : users.values = rows) (req : ForgotPasswordRequest)
    (token : String) (now : DateTime) :
    (∃ e, forgotPassword T lower rows req token now = .error (.error (.database e))) ∨
      ∃ found, forgotPassword T lower rows req token now = AuthService.drawReset found token now ∧
        ∀ now', AuthService.forgotPassword T users req token now' =
          AuthService.drawReset found token now' := by
  unfold forgotPassword
  by_cases htext : isText (cleanLogin T (T.toLowercase (trim req.email))) = true
  · rw [PgUserRepository.findByUsernameOrEmail_eq hlower h hvalues htext]
    exact .inr ⟨_, rfl, fun now' => AuthService.forgotPassword_eq _ _ _ _ _⟩
  · rw [findByUsernameOrEmail, if_neg htext]
    exact .inl ⟨_, rfl⟩

theorem refreshUser_eq (h : Roster T users) (hvalues : users.values = rows) (r : PendingRefresh)
    (d : TokenDraw) : refreshUser rows r d = AuthService.refreshUser users r d := by
  have hfind := PgUserRepository.findById_eq h hvalues r.userId
  cases hu : InMemoryUserRepository.findById users r.userId with
  | none => simp [refreshUser, AuthService.refreshUser, hfind, hu]
  | some user => simp [refreshUser, AuthService.refreshUser, hfind, hu]

/-- What the update accepts or refuses, and leaves behind. -/
theorem validateAndEnd_agrees (h : Holds store tokens) {k : String} {now : DateTime}
    {o : Option Uuid} (hv : validateAndEnd round tokens k now = (o, tokens')) :
    ∃ store', InMemoryUserRepository.validateAndEnd store k (round now) = (o, store') ∧
      Holds store' tokens' := by
  cases o with
  | none =>
    obtain ⟨hv', rfl⟩ := h.validateAndEnd_none hv
    exact ⟨store, hv', h⟩
  | some u => exact h.validateAndEnd hv

theorem exchange_agrees (h : Holds store tokens) {req : RefreshTokenRequest} {now : DateTime}
    {o : Except ApiError PendingRefresh}
    (hx : exchange env round tokens req now = (o, tokens')) :
    ∃ store', AuthService.exchange env store req (round now) = (o, store') ∧
      Holds store' tokens' := by
  unfold exchange at hx
  unfold AuthService.exchange InMemoryUserRepository.validateAndRevokeRefreshToken
  cases hv : validateAndEnd round tokens (env.hashToken req.refreshToken) now with
  | mk found rows =>
    obtain ⟨store', hv', h'⟩ := validateAndEnd_agrees h hv
    simp only [hv] at hx
    cases found with
    | none =>
      obtain ⟨rfl, rfl⟩ := Prod.mk.inj hx
      exact ⟨store', by rw [hv'], h'⟩
    | some u =>
      obtain ⟨rfl, rfl⟩ := Prod.mk.inj hx
      exact ⟨store', by rw [hv'], h'⟩

theorem consumeResetToken_agrees (h : Holds store tokens) {req : ResetPasswordRequest}
    {now : DateTime} {o : Except ApiError Uuid}
    (hx : consumeResetToken env round tokens req now = (o, tokens')) :
    ∃ store', AuthService.consumeResetToken env store req (round now) = (o, store') ∧
      Holds store' tokens' := by
  unfold consumeResetToken at hx
  unfold AuthService.consumeResetToken InMemoryUserRepository.validateAndConsumeResetToken
  split_ifs at hx ⊢
  · obtain ⟨rfl, rfl⟩ := Prod.mk.inj hx
    exact ⟨store, rfl, h⟩
  · cases hv : validateAndEnd round tokens (env.hashToken req.token) now with
    | mk found rows =>
      obtain ⟨store', hv', h'⟩ := validateAndEnd_agrees h hv
      simp only [hv] at hx
      cases found with
      | none =>
        obtain ⟨rfl, rfl⟩ := Prod.mk.inj hx
        exact ⟨store', by rw [hv'], h'⟩
      | some u =>
        obtain ⟨rfl, rfl⟩ := Prod.mk.inj hx
        exact ⟨store', by rw [hv'], h'⟩

/-- What is stored. -/
theorem storeToken_agrees (h : Holds store tokens) {u : Uuid} {k : String} {t : DateTime}
    {d : RecordDraw} (hs : PgUserRepository.storeToken round tokens u k t d = .ok tokens') :
    Holds (InMemoryUserRepository.storeToken store u k (round t) ⟨d.id, round d.createdAt⟩)
      tokens' := by
  obtain ⟨hnew, rfl⟩ := PgUserRepository.storeToken_ok hs
  exact h.insert hnew (InMemoryUserRepository.setAt_storeToken _ _ _ _ _)

theorem storeAuth_agrees (h : Holds store tokens) {p : PendingAuth} {d : RecordDraw}
    {answer : AuthResponse} (hs : storeAuth env round tokens p d = .ok (answer, tokens')) :
    ∃ store', AuthService.storeAuth env store (p.rounded round) ⟨d.id, round d.createdAt⟩ =
      (answer, store') ∧ Holds store' tokens' := by
  unfold storeAuth at hs
  split at hs
  · cases hs
  · case h_2 rows hst =>
    obtain ⟨rfl, rfl⟩ := Prod.mk.inj (Except.ok.inj hs)
    exact ⟨_, rfl, storeToken_agrees h hst⟩

theorem storeReset_agrees (h : Holds store tokens) {p : PendingReset} {d : RecordDraw}
    {answer : ForgotPasswordResponse}
    (hs : storeReset env round tokens p d = .ok (answer, tokens')) :
    ∃ store', AuthService.storeReset env store (p.rounded round) ⟨d.id, round d.createdAt⟩ =
      (answer, store') ∧ Holds store' tokens' := by
  unfold storeReset at hs
  split at hs
  · cases hs
  · case h_2 rows hst =>
    obtain ⟨rfl, rfl⟩ := Prod.mk.inj (Except.ok.inj hs)
    exact ⟨_, rfl, storeToken_agrees h hst⟩

end PgAuthService

/-! ### Passwords -/

section
variable {T : CaseTable} {users : Users}

/-- The accounts keep their identifiers and their names. -/
theorem Roster.mapValues (h : Roster T users) {f : User → User} (hid : ∀ u, (f u).id = u.id)
    (hname : ∀ u, (f u).username = u.username) (hemail : ∀ u, (f u).email = u.email) :
    Roster T (users.mapValues f) := by
  have hmem : ∀ u ∈ (users.mapValues f).values, ∃ v ∈ users.values, f v = u := by
    intro u hu
    rw [Table.values_mapValues] at hu
    exact List.mem_map.mp hu
  refine ⟨fun k u hu => ?_, fun u hu => ?_, fun u hu v hv he => ?_, fun u hu v hv he => ?_⟩
  · rw [Table.lookup_mapValues] at hu
    obtain ⟨v, hv, rfl⟩ := Option.map_eq_some_iff.mp hu
    rw [hid]
    exact h.keyed k v hv
  · obtain ⟨v, hv, rfl⟩ := hmem u hu
    have hv := h.named v hv
    refine ⟨?_, ?_, ?_, ?_, ?_, ?_⟩
    · rw [hname]; exact hv.username_lower
    · rw [hname]; exact hv.username_len
    · rw [hname]; exact hv.username_unsigned
    · rw [hemail]; exact hv.email_lower
    · rw [hemail]; exact hv.email_trimmed
    · rw [hemail]; exact hv.email_form
  · obtain ⟨u', hu', rfl⟩ := hmem u hu
    obtain ⟨v', hv', rfl⟩ := hmem v hv
    rw [InMemoryUserRepository.sameUsername, hname, hname] at he
    rw [h.username_unique u' hu' v' hv' he]
  · obtain ⟨u', hu', rfl⟩ := hmem u hu
    obtain ⟨v', hv', rfl⟩ := hmem v hv
    rw [InMemoryUserRepository.sameEmail, hemail, hemail] at he
    rw [h.email_unique u' hu' v' hv' he]

/-- The account with a new password, if it is the one of `userId`. -/
def User.repassed (userId : Uuid) (newHash : String) (now : DateTime) (u : User) : User :=
  if u.id = userId then { u with passwordHash := newHash, updatedAt := now } else u

theorem User.repassed_names (userId : Uuid) (newHash : String) (now : DateTime) (u : User) :
    (u.repassed userId newHash now).id = u.id ∧
      (u.repassed userId newHash now).username = u.username ∧
      (u.repassed userId newHash now).email = u.email := by
  unfold User.repassed
  split_ifs <;> exact ⟨rfl, rfl, rfl⟩

/-- The write to the map is an update of all rows by identifier. -/
theorem rehash_repassed (h : Table.Keyed User.id users) (userId : Uuid) (newHash : String)
    (now : DateTime) :
    Table.Rehash (users.mapValues (User.repassed userId newHash now))
      (InMemoryUserRepository.updatePasswordHash users userId newHash now) := by
  apply Table.rehash_of_lookup
  intro k
  rw [Table.lookup_mapValues]
  have hkeyed : ∀ u, users.lookup k = some u → u.id = k := h k
  unfold InMemoryUserRepository.updatePasswordHash
  cases hl : users.lookup userId with
  | none =>
    cases hk : users.lookup k with
    | none => rfl
    | some u =>
      have hne : u.id ≠ userId := by
        rintro rfl
        rw [hkeyed u hk, hk] at hl
        cases hl
      simp [User.repassed, hne]
  | some user =>
    simp only [Table.setAt_insert users userId _ k]
    split_ifs with hk
    · subst hk
      simp [hl, User.repassed, hkeyed user hl]
    · cases hlk : users.lookup k with
      | none => rfl
      | some u =>
        have hne : u.id ≠ userId := hkeyed u hlk ▸ hk
        simp [User.repassed, hne]

end
end Hanbova
