import Hanbova.Accounts.Login

/-! Access tokens: `auth/jwt.rs`. Signing and verifying belong to another crate. -/
namespace Hanbova

open Library

deriving instance DecidableEq for JwtError

structure Claims where
  sub : String
  username : String
  exp : ℤ
  iat : ℤ
  deriving DecidableEq

/-- `encode` and `decode` of the `jsonwebtoken` crate, with the default header and the default
validation; `decode` reads the clock. -/
structure JsonWebToken where
  encode : Claims → String → Except String String
  decode : String → String → DateTime → Except String Claims

/-- The seconds by which a token may have expired and still be accepted. -/
def leeway : ℤ := 60

/-- A character of a compact token: base64url, or the dot between two parts. -/
def isTokenChar (c : Char) : Bool :=
  ('A' ≤ c && c ≤ 'Z') || ('a' ≤ c && c ≤ 'z') || ('0' ≤ c && c ≤ '9') ||
    c == '-' || c == '_' ||
    c == '.'

/-- What the crate documents: a token decodes to the claims it was signed with, until its expiry
and the leeway have passed. -/
structure JsonWebToken.Lawful (J : JsonWebToken) : Prop where
  text : ∀ {c secret token}, J.encode c secret = .ok token →
    ∀ ch ∈ token.toList, isTokenChar ch = true
  claims : ∀ {c secret token now c'}, J.encode c secret = .ok token →
    J.decode token secret now = .ok c' → c' = c
  unexpired : ∀ {token secret now c}, J.decode token secret now = .ok c →
    now.timestamp ≤ c.exp + leeway
  accepts : ∀ {c secret token now}, J.encode c secret = .ok token → 0 ≤ c.exp →
    now.timestamp ≤ c.exp + leeway → J.decode token secret now = .ok c

/-- `generate_access_token`; adding to the clock can leave the calendar, which panics. -/
def generateAccessToken (J : JsonWebToken) (userId : Uuid) (username secret : String)
    (expirationMinutes : ℤ) (now : DateTime) : Option (Except JwtError String) :=
  (now.checkedAddSigned (TimeDelta.minutes expirationMinutes)).map fun exp =>
    (J.encode ⟨userId.toString, username, exp.timestamp, now.timestamp⟩ secret).mapError
      JwtError.creation

def validateAccessToken (J : JsonWebToken) (token secret : String) (now : DateTime) :
    Except JwtError Claims :=
  (J.decode token secret now).mapError JwtError.invalidToken

/-- The claims that `generate_access_token` signs. -/
def accessClaims (userId : Uuid) (username : String) (expirationMinutes : ℤ) (now : DateTime) :
    Claims where
  sub := userId.toString
  username := username
  exp := now.timestamp + expirationMinutes * 60
  iat := now.timestamp

section
variable {J : JsonWebToken} {userId : Uuid} {username secret token : String} {minutes : ℤ}
variable {now now' : DateTime} {c : Claims}

theorem timestamp_add_minutes {exp : DateTime}
    (h : now.checkedAddSigned (TimeDelta.minutes minutes) = some exp) :
    exp.timestamp = now.timestamp + minutes * 60 := by
  have hsum := DateTime.checkedAddSigned_eq_some.mp h
  unfold DateTime.timestamp
  rw [hsum, TimeDelta.minutes]
  omega

theorem generateAccessToken_ok
    (h : generateAccessToken J userId username secret minutes now = some (.ok token)) :
    J.encode (accessClaims userId username minutes now) secret = .ok token := by
  obtain ⟨exp, he, hx⟩ := Option.map_eq_some_iff.mp h
  have hencode := Stages.mapError_ok.mp hx
  rw [timestamp_add_minutes he] at hencode
  exact hencode

theorem validateAccessToken_ok :
    validateAccessToken J token secret now = .ok c ↔ J.decode token secret now = .ok c :=
  Stages.mapError_ok

/-- A token that has been issued is valid until its time and the leeway are over, and names the
user it was issued to. -/
theorem validateAccessToken_iff (hJ : J.Lawful)
    (h : generateAccessToken J userId username secret minutes now = some (.ok token))
    (hexp : 0 ≤ now.timestamp + minutes * 60) :
    validateAccessToken J token secret now' = .ok c ↔
      c = accessClaims userId username minutes now ∧
        now'.timestamp ≤ now.timestamp + minutes * 60 + leeway := by
  have hencode := generateAccessToken_ok h
  rw [validateAccessToken_ok]
  constructor
  · intro hd
    obtain rfl := hJ.claims hencode hd
    exact ⟨rfl, hJ.unexpired hd⟩
  · rintro ⟨rfl, hnow⟩
    exact hJ.accepts hencode hexp hnow

end
end Hanbova
