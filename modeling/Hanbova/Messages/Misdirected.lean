import Hanbova.Messages.Directory

/-! Two accounts that a misdirected identifier confuses. -/
namespace Hanbova

open Library Library.Text
open InMemoryUserRepository (Users cleanLogin matchesLogin findByUsernameOrEmail)
open InMemoryProtectedMessageRepository (PaymentKeys)
open AuthService (Registration)

/-- A payment key and a transport key, both points of their curves. -/
def sampleKeys : String × String :=
  ("0279be667ef9dcbbac55a06295ce870b07029bfcdb2dce28d959f2815b16f81798",
    "8520f0098930a754748b7ddcb43ef75a0dbf3a0d26381af4eba4a98eaa9b4e6a")

section
variable {T : CaseTable} {users : Users} {s : String}

/-- What is left out in between makes the profile key the longer one. -/
theorem toList_profileKey (h : StartsBlank (bareIdentifier s)) :
    ∃ w, w ≠ [] ∧ (profileKey T s).toList = w ++ (deliveryKey T s).toList := by
  obtain ⟨w, hw, he, hne⟩ := exists_separators (endTrimmed_bareIdentifier s)
  refine ⟨w, hne h, ?_⟩
  rw [profileKey, deliveryKey, CaseTable.toList_toLowercase, CaseTable.toList_toLowercase, he,
    CaseTable.lowerFrom_append_of_separators hw]

theorem len_cleanLogin_le (hl : T.toLowercase s = s) (ht : EndTrimmed s) :
    len (cleanLogin T s) ≤ len s := by
  obtain ⟨w, -, he, -⟩ := exists_separators ht
  rw [cleanLogin_of_lower hl]
  exact len_le_of_append he

/-- Any name in normal form can be registered, blanks in front included. -/
theorem exists_registration {k e : String} (hl : T.toLowercase k = k) (ht : EndTrimmed k)
    (ha : ¬ AtSigned k) (hlen : 3 ≤ len k ∧ len k ≤ 30) (he : AuthService.cleanEmail T e = e)
    (hf : contains e '@' = true ∧ contains e '.' = true) :
    ∃ r : Registration T, r.username = k ∧ r.email = e := by
  have hk := cleanUsername_at hl ht ha
  refine ⟨⟨⟨"@" ++ k, e, "", "", none, "password"⟩, ?_, ?_, ?_⟩, hk, he⟩
  · rw [hk]; exact hlen
  · rw [he]; exact hf
  · show 8 ≤ len "password"
    decide

/-- Two accounts that are registered one after the other. -/
theorem exists_two_accounts {ra rb : Registration T}
    (hun : cleanLogin T rb.username ≠ ra.username ∧ cleanLogin T rb.username ≠ ra.email)
    (hue : cleanLogin T rb.email ≠ ra.username ∧ cleanLogin T rb.email ≠ ra.email)
    (hn : eqIgnoreAsciiCase ra.username rb.username = false)
    (he : eqIgnoreAsciiCase ra.email rb.email = false) :
    ∃ users a b, Registered T users ∧ users.lookup a.id = some a ∧
      users.lookup b.id = some b ∧
      (∀ v ∈ users.values, v = a ∨ v = b) ∧ a.username = ra.username ∧
        a.email = ra.email ∧
      b.username = rb.username ∧ b.email = rb.email := by
  obtain ⟨a, haid, han, hae, har⟩ := register_of_unused ra
    (d := sampleDraw 1) (show Unused ∅ ra by simp [Unused, Table.mem_values]) rfl
  have hreg := Registered.register .empty rfl har
  have hma := Table.setAt_insert (∅ : Users) (sampleDraw 1).id a
  have only : ∀ v ∈ (Table.insert (∅ : Users) (sampleDraw 1).id a).values, v = a := by
    intro v hv
    rcases hma.mem_values hv with rfl | hv
    · rfl
    · simp [Table.mem_values] at hv
  have hna := hreg.roster.named a (Table.mem_values.mpr ⟨_, hma.lookup_self⟩)
  have mismatch : ∀ {k}, k ≠ ra.username ∧ k ≠ ra.email → matchesLogin T k a = false := by
    intro k hk
    rw [Bool.eq_false_iff, ne_eq, matchesLogin_iff hna, han, hae]
    exact fun h => h.elim (fun h => hk.1 h.symm) fun h => hk.2 h.symm
  have hunused : Unused (Table.insert ∅ (sampleDraw 1).id a) rb := by
    intro v hv
    rw [only v hv, han, hae]
    exact ⟨mismatch hun, mismatch hue, hn, he⟩
  obtain ⟨b, hbid, hbn, hbe, hbr⟩ := register_of_unused rb (d := sampleDraw 2) hunused rfl
  have hne : (sampleDraw 2).id ≠ (sampleDraw 1).id := by decide
  have hmb :=
    Table.setAt_insert (Table.insert (∅ : Users) (sampleDraw 1).id a) (sampleDraw 2).id b
  refine ⟨_, a, b, hreg.register ((hma.lookup_ne hne).trans rfl) hbr, ?_, ?_, ?_, han, hae, hbn,
    hbe⟩
  · rw [haid, hmb.lookup_ne hne.symm, hma.lookup_self]
  · rw [hbid, hmb.lookup_self]
  · intro v hv
    rcases hmb.mem_values hv with rfl | hv
    · exact .inr rfl
    · exact .inl (only v hv)

/-- Of two accounts a login finds the one that it matches. -/
theorem find_of_two {a b : User} {k : String} (ha : a ∈ users.values)
    (hab : ∀ v ∈ users.values, v = a ∨ v = b) (hm : matchesLogin T (cleanLogin T k) a = true)
    (hb : ¬ matchesLogin T (cleanLogin T k) b = true) :
    findByUsernameOrEmail T users k = some a := by
  apply find_eq_some ha hm
  intro v hv hv'
  rcases hab v hv with rfl | rfl
  · rfl
  · exact absurd hv' hb

/-- One account answers to the profile key, the other to the delivery key. -/
theorem not_sameRecipient_of_accounts {a b : User} (hreg : Registered T users)
    (ha : users.lookup a.id = some a) (hb : users.lookup b.id = some b)
    (hab : ∀ v ∈ users.values, v = a ∨ v = b) (hak : a.username = profileKey T s)
    (hbk : b.username ≠ profileKey T s ∧ b.email ≠ profileKey T s)
    (hbd : b.username = deliveryKey T s ∨ b.email = deliveryKey T s)
    (had : a.username ≠ deliveryKey T s ∧ a.email ≠ deliveryKey T s) :
    ¬ SameRecipient T s := by
  intro h
  have hma : a ∈ users.values := Table.mem_values.mpr ⟨_, ha⟩
  have hmb : b ∈ users.values := Table.mem_values.mpr ⟨_, hb⟩
  have hna := hreg.roster.named a hma
  have hnb := hreg.roster.named b hmb
  have hfa : findByUsernameOrEmail T users (T.toLowercase (unprefixed '@' s)) = some a := by
    apply find_of_two hma hab
    · rw [cleanLogin_profile, matchesLogin_iff hna]
      exact .inl hak
    · rw [cleanLogin_profile, matchesLogin_iff hnb]
      exact not_or.mpr hbk
  have hfb : AuthService.findUserByUsername T users (unprefixed '@' s) = some b := by
    apply find_of_two hmb fun v hv => (hab v hv).symm
    · rw [cleanLogin_delivery, matchesLogin_iff hnb]
      exact hbd
    · rw [cleanLogin_delivery, matchesLogin_iff hna]
      exact not_or.mpr had
  let keys : PaymentKeys := Table.insert ∅ (a.id, "cashu_test") sampleKeys
  have hkeys : keys.lookup (a.id, "cashu_test") = some sampleKeys := AList.lookup_insert _
  obtain ⟨p, hp, hpn⟩ := InMemoryProtectedMessageRepository.exists_paymentProfile hfa hkeys
  have hrow := CreateProtectedMessage.run_unlinked ∅ ⟨a.id, a.username⟩
    { sampleMessage with recipientUsername := s } (.ofNat 3) .epoch hfb rfl
  obtain ⟨u, hu, hun, -⟩ := h users keys none p ∅ _ _ _ _ _ hreg
    (getPaymentProfile_ok.mpr hp) rfl hrow
  obtain rfl := Option.some.inj (hb.symm.trans hu)
  exact hbk.1 (hun.trans (hpn.trans hak))

/-! ### The accounts that a misdirected identifier needs -/

/-- A lower-case ASCII text without blanks around it is its own normal form. -/
def Plain (s : String) : Prop :=
  (∀ c ∈ s.toList, c.toNat < 128 ∧ c.toLower = c) ∧ trim s = s ∧ ¬ AtSigned s

instance (s : String) : Decidable (Plain s) :=
  @instDecidableAnd _ _ (List.decidableBAll _ _) inferInstance

theorem Plain.lower (h : Plain s) : T.toLowercase s = s := CaseTable.toLowercase_ascii h.1

theorem Plain.cleanLogin (h : Plain s) : cleanLogin T s = s :=
  cleanLogin_eq_self h.lower h.2.1 h.2.2

theorem Plain.cleanEmail (h : Plain s) : AuthService.cleanEmail T s = s := by
  rw [AuthService.cleanEmail, h.2.1, h.lower]

theorem Plain.endTrimmed (h : Plain s) : EndTrimmed s := h.2.1 ▸ endTrimmed_trim s

/-- An email address that is longer than any username. -/
def ownerEmail : String := "owner.of.the.keys@identifiers.example"

def readerEmail : String := "reader.of.the.message@identifiers.example"

/-- The account with the profile key as its username, next to another one. -/
theorem not_sameRecipient_of_registration {rb : Registration T}
    (hb : StartsBlank (bareIdentifier s))
    (hk : 3 ≤ len (profileKey T s) ∧ len (profileKey T s) ≤ 30)
    (hbd : rb.username = deliveryKey T s ∨ rb.email = deliveryKey T s)
    (hun : cleanLogin T rb.username ≠ profileKey T s ∧ cleanLogin T rb.username ≠ ownerEmail)
    (hue : cleanLogin T rb.email ≠ profileKey T s ∧ cleanLogin T rb.email ≠ ownerEmail)
    (hn : eqIgnoreAsciiCase (profileKey T s) rb.username = false)
    (he : eqIgnoreAsciiCase ownerEmail rb.email = false) : ¬ SameRecipient T s := by
  obtain ⟨w, hw, hsplit⟩ := toList_profileKey (T := T) hb
  have hlen : len (deliveryKey T s) < len (profileKey T s) := len_lt_of_append hsplit hw
  have hplain : Plain ownerEmail := by decide +kernel
  have howner : 30 < len ownerEmail := by decide +kernel
  obtain ⟨ra, hra, hea⟩ := exists_registration (T := T) (k := profileKey T s)
    (CaseTable.toLowercase_idem _) (CaseTable.endTrimmed_toLowercase (endTrimmed_bareIdentifier s))
    (CaseTable.not_atSigned_toLowercase (not_atSigned_trimStartMatches _)) hk hplain.cleanEmail
    (by decide +kernel)
  rw [← hra] at hun hue hn
  rw [← hea] at hun hue he
  obtain ⟨users, a, b, hreg, hla, hlb, hab, han, hae, hbn, hbe⟩ :=
    exists_two_accounts hun hue hn he
  have hblank : StartsBlank (profileKey T s) := startsBlank_toLowercase hb
  have hbroster := hreg.roster.named b (Table.mem_values.mpr ⟨_, hlb⟩)
  refine not_sameRecipient_of_accounts hreg hla hlb hab (han.trans hra) ⟨?_, ?_⟩ ?_ ⟨?_, ?_⟩
  · intro h
    rw [hra, ← h, hbn, eqIgnoreAsciiCase_refl] at hn
    cases hn
  · intro h
    exact not_startsBlank_of_trim_eq_self (h ▸ hbroster.email_trimmed) hblank
  · rwa [hbn, hbe]
  · rw [han, hra]
    intro h
    rw [← h] at hlen
    exact lt_irrefl _ hlen
  · rw [hae, hea]
    intro h
    rw [← h] at hlen
    omega

/-- The other account has the delivery key as its username. -/
theorem not_sameRecipient_of_username (hb : StartsBlank (bareIdentifier s))
    (hk : 3 ≤ len (profileKey T s) ∧ len (profileKey T s) ≤ 30)
    (hd : 3 ≤ len (deliveryKey T s)) : ¬ SameRecipient T s := by
  obtain ⟨w, hw, hsplit⟩ := toList_profileKey (T := T) hb
  have hlen : len (deliveryKey T s) < len (profileKey T s) := len_lt_of_append hsplit hw
  have howner : 30 < len ownerEmail := by decide +kernel
  have hlower : T.toLowercase (deliveryKey T s) = deliveryKey T s := CaseTable.toLowercase_idem _
  have hend : EndTrimmed (deliveryKey T s) :=
    CaseTable.endTrimmed_toLowercase ((endTrimmed_trim _).trimStartMatches '@')
  have hplain : Plain readerEmail := by decide +kernel
  have hclean := len_cleanLogin_le hlower hend
  have hreader : 30 < len readerEmail := by decide +kernel
  obtain ⟨rb, hrb, heb⟩ := exists_registration (T := T) (k := deliveryKey T s) hlower hend
    (CaseTable.not_atSigned_toLowercase (not_atSigned_trimStartMatches _)) ⟨hd, by omega⟩
    hplain.cleanEmail (by decide +kernel)
  refine not_sameRecipient_of_registration hb hk (.inl hrb) ⟨?_, ?_⟩ ⟨?_, ?_⟩ ?_ ?_
  · rw [hrb]
    intro he
    rw [he] at hclean
    omega
  · rw [hrb]
    intro he
    rw [he] at hclean
    omega
  · rw [heb, hplain.cleanLogin]
    intro he
    rw [he] at hreader
    omega
  · rw [heb, hplain.cleanLogin]
    decide +kernel
  · rw [hrb, Bool.eq_false_iff]
    intro he
    rw [len_eq_of_eqIgnoreAsciiCase he] at hlen
    exact lt_irrefl _ hlen
  · rw [heb]
    decide +kernel

/-- The other account has the delivery key as its email address. -/
theorem not_sameRecipient_of_email (hb : StartsBlank (bareIdentifier s))
    (hk : 3 ≤ len (profileKey T s) ∧ len (profileKey T s) ≤ 30)
    (hd : deliveryKey T s = ".@") : ¬ SameRecipient T s := by
  obtain ⟨w, hw, hsplit⟩ := toList_profileKey (T := T) hb
  have hlen : len (deliveryKey T s) < len (profileKey T s) := len_lt_of_append hsplit hw
  have hat : '@' ∈ (profileKey T s).toList := by
    rw [hsplit, hd]
    exact List.mem_append_right _ (by decide)
  have hplain : Plain "zzz" := by decide +kernel
  have hdot : Plain ".@" := by decide +kernel
  obtain ⟨rb, hrb, heb⟩ := exists_registration (T := T) (k := "zzz") hplain.lower
    hplain.endTrimmed hplain.2.2 (by decide +kernel) hdot.cleanEmail (by decide +kernel)
  refine not_sameRecipient_of_registration hb hk (.inr (heb.trans hd.symm))
    ⟨?_, ?_⟩ ⟨?_, ?_⟩
    ?_ ?_
  · rw [hrb, hplain.cleanLogin]
    intro he
    rw [← he] at hat
    exact absurd hat (by decide)
  · rw [hrb, hplain.cleanLogin]
    decide +kernel
  · rw [heb, hdot.cleanLogin, ← hd]
    intro he
    rw [he] at hlen
    exact lt_irrefl _ hlen
  · rw [heb, hdot.cleanLogin]
    decide +kernel
  · rw [hrb, Bool.eq_false_iff]
    intro he
    have hmem := List.mem_map_of_mem (f := Char.toLower) hat
    rw [eqIgnoreAsciiCase_iff.mp he] at hmem
    exact absurd hmem (by decide)
  · rw [heb]
    decide +kernel

theorem not_sameRecipient_of_misdirected (h : Misdirected T s) : ¬ SameRecipient T s := by
  obtain ⟨hb, hk, hd⟩ := h
  rcases hd with hd | hd
  · exact not_sameRecipient_of_username hb hk hd
  · exact not_sameRecipient_of_email hb hk hd

end

theorem same_recipient_iff (T : CaseTable) (s : String) :
    SameRecipient T s ↔ ¬ Misdirected T s :=
  ⟨fun h hm => not_sameRecipient_of_misdirected hm h, sameRecipient_of_not_misdirected⟩

/-- The account that Charlie gets with the username `@ bob`. -/
def sampleBlank : User := { sampleUser 1 "charlie" with username := " bob" }

/-- After `@ bob` and `bob` have registered, `@@ bob` is given the keys of the first and the
message goes to the second. -/
theorem not_same_recipient_at_at_bob : ¬ SameRecipient .ascii "@@ bob" := by
  intro h
  have h₁ : Registered .ascii (Table.insert ∅ (.ofNat 1) sampleBlank) :=
    @Registered.register .ascii ∅ _ { sampleAccount "charlie" with username := "@ bob" }
      (sampleDraw 1) sampleBlank .empty rfl (by decide +kernel)
  have h₂ : Registered .ascii
      ((Table.insert ∅ (.ofNat 1) sampleBlank).insert (.ofNat 2) (sampleUser 2 "bob")) :=
    @Registered.register .ascii _ _ (sampleAccount "bob") (sampleDraw 2) (sampleUser 2 "bob") h₁
      (by decide +kernel) (by decide +kernel)
  obtain ⟨u, hu, hname, -⟩ := h _ (Table.insert ∅ (.ofNat 1, "cashu_test") sampleKeys) none
    ⟨" bob", "@ bob", "cashu_test", sampleKeys.1, sampleKeys.2⟩ ∅ sampleCarol
    { sampleMessage with recipientUsername := "@@ bob" } (.ofNat 3) .epoch
    (CreateProtectedMessage.row ⟨sampleCarol, { sampleMessage with recipientUsername := "@@ bob" },
      sampleUser 2 "bob"⟩ (.ofNat 3) .epoch) h₂ (by decide +kernel) rfl (by decide +kernel)
  obtain rfl := Option.some.inj hu
  exact absurd hname (by decide)

end Hanbova
