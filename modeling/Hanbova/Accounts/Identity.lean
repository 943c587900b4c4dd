import Hanbova.Accounts.System
import Hanbova.Payments.Service

/-! Which accounts an identifier in a payment can name. -/
namespace Hanbova

open Library Library.Text
open InMemoryUserRepository (Users)
open AuthService (WellNamed)

/-- `target` names the account, by its identifier or by its username. -/
def Names (target : String) (u : User) : Prop :=
  matchesActor u.id.toString (some u.username) target = true

section
variable {T : CaseTable} {t : String} {u v : User} {users : Users}

/-- For an account with the names that registration allows, the comparisons of `matchesActor`
come down to two. -/
theorem names_iff (h : WellNamed T u) :
    Names t u ↔ unprefixed '@' t = u.id.toString ∨
      eqIgnoreAsciiCase (unprefixed '@' t) u.username = true := by
  rw [Names, matchesActor_iff, unprefixed_eq_self u.id.not_atSigned_toString,
    unprefixed_eq_self h.username_unsigned]

/-- A username is too short to be the text of a UUID. -/
theorem not_username_of_id (h : WellNamed T u) (ht : t = v.id.toString) :
    eqIgnoreAsciiCase t u.username = false := by
  rw [Bool.eq_false_iff]
  intro he
  have hl := len_eq_of_eqIgnoreAsciiCase he
  rw [ht, v.id.len_toString] at hl
  have := h.username_len.2
  omega

theorem Roster.names_unique (h : Roster T users) (hu : u ∈ users.values) (hv : v ∈ users.values)
    (htu : Names t u) (htv : Names t v) : u = v := by
  have hnu := h.named u hu
  have hnv := h.named v hv
  rcases (names_iff hnu).mp htu with hu' | hu' <;> rcases (names_iff hnv).mp htv with hv' | hv'
  · have hid : u.id = v.id := Uuid.toString_injective (hu'.symm.trans hv')
    have hlu := h.keyed.lookup hu
    rw [hid, h.keyed.lookup hv] at hlu
    exact (Option.some.inj hlu).symm
  · rw [not_username_of_id hnv hu'] at hv'
    cases hv'
  · rw [not_username_of_id hnu hv'] at hu'
    cases hu'
  · exact h.username_unique u hu v hv (eqIgnoreAsciiCase_trans (eqIgnoreAsciiCase_symm hu') hv')

/-- The account is the sender of the payment. -/
def IsSender (i : PaymentIntent) (u : User) : Prop :=
  PaymentService.isSender i u.id.toString (some u.username) = true

/-- The account is the recipient of the payment. -/
def IsRecipient (i : PaymentIntent) (u : User) : Prop :=
  PaymentService.isRecipient i u.id.toString (some u.username) = true

theorem isSender_iff {i : PaymentIntent} :
    IsSender i u ↔ ∃ t, i.senderId = some t ∧ Names t u := by
  unfold IsSender PaymentService.isSender Names
  cases i.senderId <;> simp

theorem Roster.sender_unique {i : PaymentIntent} (h : Roster T users) (hu : u ∈ users.values)
    (hv : v ∈ users.values) (hsu : IsSender i u) (hsv : IsSender i v) : u = v := by
  obtain ⟨t, ht, hnu⟩ := isSender_iff.mp hsu
  obtain ⟨t', ht', hnv⟩ := isSender_iff.mp hsv
  obtain rfl := Option.some.inj (ht.symm.trans ht')
  exact h.names_unique hu hv hnu hnv

theorem Roster.recipient_unique {i : PaymentIntent} (h : Roster T users) (hu : u ∈ users.values)
    (hv : v ∈ users.values) (hru : IsRecipient i u) (hrv : IsRecipient i v) : u = v :=
  h.names_unique hu hv hru hrv

end

theorem one_account_per_identifier {T : CaseTable} {s : AccountState T}
    (h : (accountSystem T).Reachable s) :
    (∀ t, ∀ u ∈ s.users.values, ∀ v ∈ s.users.values,
      Names t u → Names t v → u = v) ∧
    ∀ i : PaymentIntent, ∀ u ∈ s.users.values, ∀ v ∈ s.users.values,
      (IsSender i u → IsSender i v → u = v) ∧
      (IsRecipient i u → IsRecipient i v → u = v) := by
  have hr := (AccountState.invariant_of_reachable h).roster
  exact ⟨fun _ _ hu _ hv => hr.names_unique hu hv,
    fun _ _ hu _ hv => ⟨hr.sender_unique hu hv, hr.recipient_unique hu hv⟩⟩

theorem one_account_per_identifier_sample :
    ∃ s : AccountState .ascii, (accountSystem .ascii).Reachable s ∧
      (∃ u ∈ s.users.values, u.username = "bob" ∧ Names "@Bob" u) ∧
      (∀ t, ∀ u ∈ s.users.values, ∀ v ∈ s.users.values,
        Names t u → Names t v → u = v) ∧
      ∀ i : PaymentIntent, ∀ u ∈ s.users.values, ∀ v ∈ s.users.values,
        (IsSender i u → IsSender i v → u = v) ∧
        (IsRecipient i u → IsRecipient i v → u = v) := by
  refine ⟨_, reachable_sampleUsers, ⟨sampleUser 1 "bob", ?_, rfl, ?_⟩,
    one_account_per_identifier reachable_sampleUsers⟩
  · exact Table.mem_values.mpr ⟨.ofNat 1, by decide +kernel⟩
  · unfold Names
    decide +kernel

end Hanbova
