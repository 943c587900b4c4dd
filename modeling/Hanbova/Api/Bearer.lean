import Hanbova.Accounts.Jwt
import Hanbova.Library.UuidParse
import Hanbova.Messages.Handlers

/-! The caller of a request, as its `Authorization` header names them: `auth/handlers.rs`. -/
namespace Hanbova

open Library Library.Text
open InMemoryUserRepository (Users)

/-- `HeaderValue::to_str`: visible ASCII only. -/
def headerText (value : List UInt8) : Option String :=
  if value.all fun b => (32 ≤ b && b < 127) || b == 9 then
    some (String.ofList (value.map fun b => Char.ofNat b.toNat))
  else none

/-- The token that a header presents. -/
def presented (authorization : Option (List UInt8)) : Option String :=
  (authorization.bind headerText).bind fun header =>
    if startsWith header "Bearer " then some (String.ofList (header.toList.drop 7)) else none

def authenticationRequired : ApiError := .unauthorized "Authentication is required"

/-- `from_request_parts`. -/
def AuthUser.fromRequestParts (J : JsonWebToken) (secret : String)
    (authorization : Option (List UInt8)) (now : DateTime) : Except ApiError AuthUser :=
  match presented authorization with
  | none => .error authenticationRequired
  | some token =>
    match validateAccessToken J token secret now with
    | .error _ => .error authenticationRequired
    | .ok claims =>
      match Uuid.parseStr claims.sub with
      | none => .error authenticationRequired
      | some userId => .ok ⟨userId, claims.username⟩

namespace AuthService

def getProfile (users : Users) (userId : Uuid) : Except ApiError UserProfileResponse :=
  match InMemoryUserRepository.findById users userId with
  | none => .error (.notFound "User not found")
  | some user => .ok (.ofUser user)

end AuthService

/-- `get_me_handler`. -/
def getMe (J : JsonWebToken) (secret : String) (users : Users)
    (authorization : Option (List UInt8)) (now : DateTime) :
    Except ApiError UserProfileResponse := do
  let authUser ← AuthUser.fromRequestParts J secret authorization now
  AuthService.getProfile users authUser.userId

/-- The header that a client sends for its token. -/
def bearer (token : String) : List UInt8 :=
  ("Bearer " ++ token).toList.map fun c => UInt8.ofNat c.toNat

/-- A character that a header may hold and that reads back as itself. -/
def IsVisible (c : Char) : Prop := 32 ≤ c.toNat ∧ c.toNat < 127

theorem isVisible_of_isTokenChar {c : Char} (h : isTokenChar c = true) : IsVisible c := by
  have range : ∀ {a b : Char}, a ≤ c → c ≤ b →
      IsVisible a → IsVisible b → IsVisible c :=
    fun hac hcb ha hb => ⟨ha.1.trans hac, Nat.lt_of_le_of_lt hcb hb.2⟩
  simp only [isTokenChar, Bool.or_eq_true, Bool.and_eq_true, decide_eq_true_eq, beq_iff_eq] at h
  rcases h with ((((⟨h₁, h₂⟩ | ⟨h₁, h₂⟩) | ⟨h₁, h₂⟩) | rfl) | rfl) | rfl
  · exact range h₁ h₂ ⟨by decide, by decide⟩ ⟨by decide, by decide⟩
  · exact range h₁ h₂ ⟨by decide, by decide⟩ ⟨by decide, by decide⟩
  · exact range h₁ h₂ ⟨by decide, by decide⟩ ⟨by decide, by decide⟩
  · exact ⟨by decide, by decide⟩
  · exact ⟨by decide, by decide⟩
  · exact ⟨by decide, by decide⟩

/-- Visible text is sent as it is. -/
theorem headerText_of_visible {s : String} (h : ∀ c ∈ s.toList, IsVisible c) :
    headerText (s.toList.map fun c => UInt8.ofNat c.toNat) = some s := by
  have hbyte : ∀ c ∈ s.toList, (UInt8.ofNat c.toNat).toNat = c.toNat := by
    intro c hc
    have := (h c hc).2
    simp only [UInt8.toNat_ofNat']
    omega
  unfold headerText
  rw [if_pos, List.map_map]
  · congr 1
    apply String.toList_injective
    rw [String.toList_ofList]
    conv_rhs => rw [← List.map_id s.toList]
    refine List.map_congr_left fun c hc => ?_
    simp only [Function.comp_apply, hbyte c hc, id_eq]
    exact Char.ofNat_toNat c
  · rw [List.all_map, List.all_eq_true]
    intro c hc
    have hb := hbyte c hc
    obtain ⟨hlo, hhi⟩ := h c hc
    have h₁ : (32 : UInt8) ≤ UInt8.ofNat c.toNat := by
      rw [UInt8.le_iff_toNat_le, hb]
      exact hlo
    have h₂ : UInt8.ofNat c.toNat < 127 := by
      rw [UInt8.lt_iff_toNat_lt, hb]
      exact hhi
    simp [h₁, h₂]

/-- A header presents the token that it was made for. -/
theorem presented_bearer {token : String} (h : ∀ c ∈ token.toList, isTokenChar c = true) :
    presented (some (bearer token)) = some token := by
  have hvisible : ∀ c ∈ ("Bearer " ++ token).toList, IsVisible c := by
    intro c hc
    rw [String.toList_append] at hc
    rcases List.mem_append.mp hc with hc | hc
    · have key : "Bearer ".toList.all (fun c => 32 ≤ c.toNat && c.toNat < 127) = true := by
        decide +kernel
      have hall := List.all_eq_true.mp key c hc
      simpa [IsVisible] using hall
    · exact isVisible_of_isTokenChar (h c hc)
  unfold presented bearer
  rw [Option.bind_some, headerText_of_visible hvisible, Option.bind_some]
  have hstarts : startsWith ("Bearer " ++ token) "Bearer " = true := by
    rw [startsWith, List.isPrefixOf_iff_prefix, String.toList_append]
    exact List.prefix_append _ _
  have hdrop : (("Bearer " ++ token).toList).drop 7 = token.toList := by
    rw [String.toList_append]
    exact List.drop_left' rfl
  rw [if_pos hstarts, hdrop, String.ofList_toList]

section
variable {J : JsonWebToken} {secret token : String} {authorization : Option (List UInt8)}
variable {now now' : DateTime} {authUser : AuthUser} {users : Users}

theorem fromRequestParts_ok
    (h : AuthUser.fromRequestParts J secret authorization now = .ok authUser) :
    ∃ token c, presented authorization = some token ∧
      validateAccessToken J token secret now = .ok c ∧
      Uuid.parseStr c.sub = some authUser.userId ∧ c.username = authUser.username := by
  unfold AuthUser.fromRequestParts at h
  split at h
  · cases h
  · case h_2 token htoken =>
    split at h
    · cases h
    · case h_2 c hc =>
      split at h
      · cases h
      · case h_2 userId hid =>
        obtain rfl := Except.ok.inj h
        exact ⟨token, c, htoken, hc, hid, rfl⟩

/-- Whatever is wrong with a header, the caller hears the same. -/
theorem fromRequestParts_error {e : ApiError}
    (h : AuthUser.fromRequestParts J secret authorization now = .error e) :
    e = authenticationRequired := by
  unfold AuthUser.fromRequestParts at h
  split at h
  · exact (Except.error.inj h).symm
  · split at h
    · exact (Except.error.inj h).symm
    · split at h
      · exact (Except.error.inj h).symm
      · cases h

theorem fromRequestParts_presented {c : Claims} (ht : presented authorization = some token)
    (hc : validateAccessToken J token secret now = .ok c)
    (hid : Uuid.parseStr c.sub = some authUser.userId) (hname : c.username = authUser.username) :
    AuthUser.fromRequestParts J secret authorization now = .ok authUser := by
  unfold AuthUser.fromRequestParts
  simp only [ht, hc, hid, hname]

/-- An issued token identifies the user it was issued to, while it is valid. -/
theorem fromRequestParts_issued {minutes : ℤ} {userId : Uuid} {username : String}
    (hJ : J.Lawful)
    (hg : generateAccessToken J userId username secret minutes now = some (.ok token))
    (hexp : 0 ≤ now.timestamp + minutes * 60) :
    AuthUser.fromRequestParts J secret (some (bearer token)) now' = .ok authUser ↔
      authUser = ⟨userId, username⟩ ∧
        now'.timestamp ≤ now.timestamp + minutes * 60 + leeway := by
  have hp := presented_bearer fun c hc => hJ.text (generateAccessToken_ok hg) c hc
  constructor
  · intro h
    obtain ⟨token', c, ht, hc, hid, hname⟩ := fromRequestParts_ok h
    obtain rfl := Option.some.inj (hp.symm.trans ht)
    obtain ⟨rfl, hnow⟩ := (validateAccessToken_iff hJ hg hexp).mp hc
    have hsub : userId = authUser.userId :=
      Option.some.inj ((Uuid.parseStr_toString userId).symm.trans hid)
    refine ⟨?_, hnow⟩
    rw [hsub, show username = authUser.username from hname]
  · rintro ⟨rfl, hnow⟩
    exact fromRequestParts_presented hp ((validateAccessToken_iff hJ hg hexp).mpr ⟨rfl, hnow⟩)
      (Uuid.parseStr_toString userId) rfl

end
end Hanbova
