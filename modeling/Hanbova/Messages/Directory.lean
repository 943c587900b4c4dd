import Hanbova.Accounts.Lookup
import Hanbova.Messages.System

/-! Whether a payer gets the keys of the account that the message then goes to. -/
namespace Hanbova

open Library Library.Text
open InMemoryUserRepository (Users cleanLogin matchesLogin findByUsernameOrEmail)
open InMemoryProtectedMessageRepository (PaymentKeys)
open InMemoryPaymentIntentRepository (Storage)
open AuthService (Registration WellNamed)

/-- The identifier without its at sign, the blanks around it, and further at signs. -/
def bareIdentifier (s : String) : String := trimStartMatches '@' (trim (unprefixed '@' s))

/-- The name under which the profile handler looks for an account. -/
def profileKey (T : CaseTable) (s : String) : String := T.toLowercase (bareIdentifier s)

/-- The name under which the message handler, which normalises twice, looks for an account. -/
def deliveryKey (T : CaseTable) (s : String) : String :=
  T.toLowercase (trimStartMatches '@' (trim (bareIdentifier s)))

/-- For the identifier `s`, the account whose keys are returned is the one the message goes to. -/
def SameRecipient (T : CaseTable) (s : String) : Prop :=
  ∀ (users : Users) (keys : PaymentKeys) (environment : Option String)
    (p : UserPaymentProfileResponse) (storage : Storage) (authUser : AuthUser)
    (payload : CreateProtectedMessageRequest) (id : Uuid) (now : DateTime)
    (row : ProtectedMessageRow),
    Registered T users → getPaymentProfile T users keys s environment = .ok p →
    payload.recipientUsername = s →
    CreateProtectedMessage.run T users storage authUser payload id now = .ok row →
    ∃ u, users.lookup row.recipientUserId = some u ∧ u.username = p.username ∧
      keys.lookup (u.id, environment.getD "cashu_test") =
        some (p.protectedPaymentPubkey, p.transportEncryptionPubkey)

/-- The identifier begins, under its at signs, with a blank; what it names with the blank can be
a username, and what it names without can be a username or an email address. -/
def Misdirected (T : CaseTable) (s : String) : Prop :=
  StartsBlank (bareIdentifier s) ∧
  (3 ≤ len (profileKey T s) ∧ len (profileKey T s) ≤ 30) ∧
  (3 ≤ len (deliveryKey T s) ∨ deliveryKey T s = ".@")

section
variable {T : CaseTable} {users : Users} {s : String} {u v : User}

theorem cleanLogin_profile (s : String) :
    cleanLogin T (T.toLowercase (unprefixed '@' s)) = profileKey T s :=
  cleanLogin_toLowercase _

theorem cleanLogin_delivery (s : String) :
    cleanLogin T (AuthService.cleanUsername T (unprefixed '@' s)) = deliveryKey T s :=
  cleanLogin_toLowercase (bareIdentifier s)

theorem endTrimmed_bareIdentifier (s : String) : EndTrimmed (bareIdentifier s) :=
  (endTrimmed_trim _).trimStartMatches '@'

theorem keys_eq (h : ¬ StartsBlank (bareIdentifier s)) : deliveryKey T s = profileKey T s := by
  have ha : ¬ AtSigned (bareIdentifier s) := not_atSigned_trimStartMatches _
  rw [deliveryKey, (endTrimmed_bareIdentifier s).trim_eq_self h, trimStartMatches_eq_self ha,
    profileKey]

/-- An email address has no blank in front. -/
theorem username_of_startsBlank (h : WellNamed T u) (hs : StartsBlank s)
    (hm : matchesLogin T s u = true) : u.username = s := by
  rcases (matchesLogin_iff h).mp hm with hu | hu
  · exact hu
  · exact absurd hs (not_startsBlank_of_trim_eq_self (hu ▸ h.email_trimmed))

theorem startsBlank_toLowercase (h : StartsBlank s) : StartsBlank (T.toLowercase s) := by
  unfold StartsBlank at *
  rw [CaseTable.toList_toLowercase]
  cases hs : s.toList with
  | nil => simp [hs] at h
  | cons c cs =>
    rw [CaseTable.lowerFrom_cons_separator (.inr (by simpa [hs] using h))]
    simpa [hs] using h

/-- A short text with a dot and an at sign that does not begin with the at sign. -/
theorem eq_dot_at (hc : contains s '@' = true ∧ contains s '.' = true) (ha : ¬ AtSigned s)
    (hl : len s < 3) : s = ".@" := by
  rw [← String.toList_inj]
  simp only [contains, List.contains_iff_mem] at hc
  have hpos : ∀ c : Char, 0 < c.utf8Size := Char.utf8Size_pos
  unfold len at hl
  unfold AtSigned at ha
  match hs : s.toList with
  | [] => simp [hs] at hc
  | [c] =>
    rw [hs] at hc
    have h₁ := List.mem_singleton.mp hc.1
    have h₂ := List.mem_singleton.mp hc.2
    rw [← h₁] at h₂
    exact absurd h₂ (by decide)
  | [c, d] =>
    simp only [hs, List.mem_cons, List.not_mem_nil, or_false] at hc
    rcases hc with ⟨rfl | rfl, h | h⟩
    · exact absurd h (by decide)
    · exact absurd (by simp [hs]) ha
    · subst h
      rfl
    · exact absurd h (by decide)
  | c :: d :: e :: cs =>
    have h₁ := hpos c
    have h₂ := hpos d
    have h₃ := hpos e
    simp only [hs, List.map_cons, List.sum_cons] at hl
    omega

/-- What can be found without a blank in front is long enough for a name. -/
theorem possible_of_match (h : WellNamed T u) (hm : matchesLogin T s u = true)
    (ha : ¬ AtSigned s) : 3 ≤ len s ∨ s = ".@" := by
  rcases (matchesLogin_iff h).mp hm with hu | hu
  · exact .inl (hu ▸ h.username_len.1)
  · by_cases hl : 3 ≤ len s
    · exact .inl hl
    · exact .inr (eq_dot_at (hu ▸ h.email_form) ha (by omega))

theorem sameRecipient_of_not_misdirected (h : ¬ Misdirected T s) : SameRecipient T s := by
  rintro users keys environment p storage authUser payload id now row hreg hp rfl hrow
  obtain ⟨u, hu, hname, hkeys⟩ :=
    InMemoryProtectedMessageRepository.findPaymentProfileByUsername_some
      (getPaymentProfile_ok.mp hp)
  obtain ⟨v, hv, rfl⟩ := CreateProtectedMessage.run_ok hrow
  have hroster := hreg.roster
  have huv : u = v := by
    by_cases hb : StartsBlank (bareIdentifier payload.recipientUsername)
    · obtain ⟨hmu, hcu⟩ := InMemoryUserRepository.findByUsernameOrEmail_some hu
      obtain ⟨hmv, hcv⟩ := InMemoryUserRepository.findByUsernameOrEmail_some hv
      rw [cleanLogin_profile] at hcu
      rw [cleanLogin_delivery] at hcv
      have hun : u.username = profileKey T payload.recipientUsername :=
        username_of_startsBlank (hroster.named u hmu) (startsBlank_toLowercase hb) hcu
      refine absurd ⟨hb, hun ▸ (hroster.named u hmu).username_len, ?_⟩ h
      exact possible_of_match (hroster.named v hmv) hcv
        (CaseTable.not_atSigned_toLowercase (not_atSigned_trimStartMatches _))
    · let bare := unprefixed '@' payload.recipientUsername
      have hkey : cleanLogin T (T.toLowercase bare) =
          cleanLogin T (AuthService.cleanUsername T bare) := by
        rw [cleanLogin_profile, cleanLogin_delivery, keys_eq hb]
      rw [AuthService.findUserByUsername, findByUsernameOrEmail, ← hkey] at hv
      exact Option.some.inj (hu.symm.trans hv)
  subst huv
  have hmem := (InMemoryUserRepository.findByUsernameOrEmail_some hu).1
  exact ⟨u, hroster.keyed.lookup hmem, hname.symm, hkeys⟩

end

end Hanbova
