import Hanbova.Accounts.Repository
import Hanbova.Library.Stages

/-! Registration: `AuthService::register`, cut at its calls of the repository, up to the tokens
that it issues for the stored user. -/
namespace Hanbova

open Library Library.Text
open InMemoryUserRepository (Users)

structure RegisterRequest where
  username : String
  email : String
  firstName : String
  lastName : String
  phone : Option String
  password : String
  deriving DecidableEq

namespace AuthService
variable (T : CaseTable)

def cleanUsername (username : String) : String :=
  T.toLowercase (trimStartMatches '@' (trim username))

def cleanEmail (email : String) : String := T.toLowercase (trim email)

/-- A request whose fields have passed the checks of `register`. -/
structure Registration where
  request : RegisterRequest
  username_len : 3 ≤ len (cleanUsername T request.username) ∧
    len (cleanUsername T request.username) ≤ 30
  email_form : contains (cleanEmail T request.email) '@' = true ∧
    contains (cleanEmail T request.email) '.' = true
  password_len : 8 ≤ len request.password
  deriving DecidableEq

variable {T} in
def Registration.username (r : Registration T) : String := cleanUsername T r.request.username

variable {T} in
def Registration.email (r : Registration T) : String := cleanEmail T r.request.email

def validate (req : RegisterRequest) : Except ApiError (Registration T) :=
  if hu : len (cleanUsername T req.username) < 3 ∨ 30 < len (cleanUsername T req.username) then
    .error (.badRequest "Username must be between 3 and 30 characters")
  else if he : (!contains (cleanEmail T req.email) '@' || !contains (cleanEmail T req.email) '.')
      = true then
    .error (.badRequest "Invalid email address")
  else if hp : len req.password < 8 then
    .error (.badRequest "Password must be at least 8 characters long")
  else .ok ⟨req, by omega, by simpa using he, by omega⟩

def checkUsername (users : Users) (r : Registration T) : Except ApiError Unit :=
  if (InMemoryUserRepository.findByUsernameOrEmail T users r.username).isSome then
    .error (.badRequest "Username is already taken")
  else .ok ()

def checkEmail (users : Users) (r : Registration T) : Except ApiError Unit :=
  if (InMemoryUserRepository.findByUsernameOrEmail T users r.email).isSome then
    .error (.badRequest "Email is already registered")
  else .ok ()

/-- What a registration draws from outside: the identifier, the outcome of hashing the password
with a random salt, and two readings of the clock. -/
structure Draw where
  id : Uuid
  hash : Except String String
  createdAt : DateTime
  updatedAt : DateTime

variable {T}

def newUser (r : Registration T) (d : Draw) : Except ApiError User :=
  match d.hash with
  | .error e => .error (.internal s!"Failed to hash password: {e}")
  | .ok passwordHash =>
    .ok
      { id := d.id, username := r.username, email := r.email
        firstName := trim r.request.firstName, lastName := trim r.request.lastName
        phone := r.request.phone.map trim, passwordHash, emailVerifiedAt := none
        createdAt := d.createdAt, updatedAt := d.updatedAt }

def createUser (users : Users) (u : User) : Except ApiError (User × Users) :=
  (InMemoryUserRepository.createUser users u).mapError .database

variable (T) in
/-- `register` run without interruption. -/
def register (users : Users) (req : RegisterRequest) (d : Draw) :
    Except ApiError (User × Users) := do
  let r ← validate T req
  checkUsername T users r
  checkEmail T users r
  let user ← newUser r d
  createUser users user

variable (T) in
def findUserByUsername (users : Users) (username : String) : Option User :=
  InMemoryUserRepository.findByUsernameOrEmail T users (cleanUsername T username)

/-- What registration promises about the names of an account. -/
structure WellNamed (T : CaseTable) (u : User) : Prop where
  username_lower : T.toLowercase u.username = u.username
  username_len : 3 ≤ len u.username ∧ len u.username ≤ 30
  username_unsigned : ¬ AtSigned u.username
  email_lower : T.toLowercase u.email = u.email
  email_trimmed : trim u.email = u.email
  email_form : contains u.email '@' = true ∧ contains u.email '.' = true

theorem validate_ok {req : RegisterRequest} {r : Registration T} (h : validate T req = .ok r) :
    r.request = req := by
  unfold validate at h
  split_ifs at h
  rw [← Except.ok.inj h]

theorem newUser_ok {r : Registration T} {d : Draw} {u : User} (h : newUser r d = .ok u) :
    u.id = d.id ∧ u.username = r.username ∧ u.email = r.email := by
  unfold newUser at h
  cases hd : d.hash with
  | error e => simp [hd] at h
  | ok passwordHash =>
    simp only [hd, Except.ok.injEq] at h
    subst h
    exact ⟨rfl, rfl, rfl⟩

theorem newUser_wellNamed {r : Registration T} {d : Draw} {u : User} (h : newUser r d = .ok u) :
    WellNamed T u := by
  obtain ⟨-, hu, he⟩ := newUser_ok h
  refine ⟨?_, ?_, ?_, ?_, ?_, ?_⟩
  · rw [hu]; exact CaseTable.toLowercase_idem _
  · rw [hu]; exact r.username_len
  · rw [hu]; exact CaseTable.not_atSigned_toLowercase (not_atSigned_trimStartMatches _)
  · rw [he]; exact CaseTable.toLowercase_idem _
  · rw [he, Registration.email, cleanEmail, CaseTable.trim_toLowercase, trim_trim]
  · rw [he]; exact r.email_form

theorem createUser_ok {users users' : Users} {u v : User}
    (h : createUser users u = .ok (v, users')) :
    InMemoryUserRepository.createUser users u = .ok (v, users') := by
  unfold createUser at h
  exact Stages.mapError_ok.mp h

/-- The parts of a successful registration. -/
theorem register_ok {users users' : Users} {req : RegisterRequest} {d : Draw} {u : User}
    (h : register T users req d = .ok (u, users')) :
    ∃ r, validate T req = .ok r ∧ checkUsername T users r = .ok () ∧
      checkEmail T users r = .ok () ∧ newUser r d = .ok u ∧
      createUser users u = .ok (u, users') := by
  unfold register at h
  obtain ⟨r, hvalid, h⟩ := Stages.bind_ok.mp h
  obtain ⟨⟨⟩, husername, h⟩ := Stages.bind_ok.mp h
  obtain ⟨⟨⟩, hemail, h⟩ := Stages.bind_ok.mp h
  obtain ⟨v, hnew, hcreate⟩ := Stages.bind_ok.mp h
  obtain rfl := (InMemoryUserRepository.createUser_ok (createUser_ok hcreate)).1
  exact ⟨r, hvalid, husername, hemail, hnew, hcreate⟩

end AuthService
end Hanbova
