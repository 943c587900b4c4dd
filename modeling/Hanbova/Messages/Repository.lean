import Hanbova.Accounts.Repository

/-! Protected messages, payment keys, and the in-memory repository that holds them:
`protected_message_dto.rs`, `protected_message_repo.rs`. -/
namespace Hanbova

open Library Library.Text
open InMemoryUserRepository (Users)

structure ProtectedMessageRow where
  id : Uuid
  paymentIntentId : Option Uuid
  senderUserId : Uuid
  recipientUserId : Uuid
  senderUsername : String
  recipientUsername : String
  encryptedPayload : String
  payloadVersion : Int32
  status : String
  recipientTransportKeyFingerprint : Option String
  recipientP2pkKeyFingerprint : Option String
  walletEnvironment : Option String
  createdAt : DateTime
  acknowledgedAt : Option DateTime
  deriving DecidableEq

structure UserPaymentProfileResponse where
  username : String
  handle : String
  walletEnvironment : String
  protectedPaymentPubkey : String
  transportEncryptionPubkey : String
  deriving DecidableEq

/-- The statuses from which a report of `target` is accepted. -/
def allowedMessageSources (target : String) : Except ApiError (List String) :=
  if target = "delivered" then .ok ["delivered"]
  else if target = "acknowledged" then .ok ["delivered", "acknowledged"]
  else if target = "claimed" then .ok ["delivered", "acknowledged", "claimed"]
  else if target = "refunded" then .ok ["delivered", "acknowledged", "refunded"]
  else .error (.badRequest "Unknown protected message status")

namespace InMemoryProtectedMessageRepository

abbrev Messages := Table Uuid ProtectedMessageRow

/-- The payment key and the transport key of a user in a wallet environment. -/
abbrev PaymentKeys := Table (Uuid × String) (String × String)

/-- `find_payment_profile_by_username` over a user repository. -/
def findPaymentProfileByUsername (T : CaseTable) (users : Users) (keys : PaymentKeys)
    (username walletEnvironment : String) : Option UserPaymentProfileResponse := do
  let clean := T.toLowercase (unprefixed '@' username)
  let user ← InMemoryUserRepository.findByUsernameOrEmail T users clean
  let (protectedPubkey, transportPubkey) ← keys.lookup (user.id, walletEnvironment)
  some
    { username := user.username
      handle := if AtSigned user.username then user.username else "@" ++ user.username
      walletEnvironment
      protectedPaymentPubkey := protectedPubkey
      transportEncryptionPubkey := transportPubkey }

def saveMessage (messages : Messages) (row : ProtectedMessageRow) : Messages :=
  messages.insert row.id row

def findMessageById (messages : Messages) (id : Uuid) : Option ProtectedMessageRow :=
  messages.lookup id

/-- The row that an accepted report of `status` leaves behind. -/
def reported (row : ProtectedMessageRow) (status : String) (now : DateTime) :
    ProtectedMessageRow :=
  { row with status, acknowledgedAt := row.acknowledgedAt.or (some now) }

def updateMessageStatus (messages : Messages) (id : Uuid) (status : String) (now : DateTime) :
    Except ApiError Messages :=
  match allowedMessageSources status with
  | .error e => .error e
  | .ok allowed =>
    match messages.lookup id with
    | none => .error (.notFound s!"Protected message {id} not found")
    | some msg =>
      if !allowed.contains msg.status then
        .error (.conflict
          "Protected message status cannot move backwards or replace a terminal report")
      else .ok (messages.insert id (reported msg status now))

theorem reported_self {row : ProtectedMessageRow} {now t : DateTime}
    (h : row.acknowledgedAt = some t) : reported row row.status now = row := by
  unfold reported
  rw [h, Option.some_or, ← h]

theorem setAt_save (m : Messages) (row : ProtectedMessageRow) :
    Table.SetAt m row.id row (saveMessage m row) := Table.setAt_insert m row.id row

/-- Everything a successful `updateMessageStatus` does. -/
theorem updateMessageStatus_ok {m m' : Messages} {id : Uuid} {status : String} {now : DateTime}
    (h : updateMessageStatus m id status now = .ok m') :
    ∃ allowed row, allowedMessageSources status = .ok allowed ∧ m.lookup id = some row ∧
      row.status ∈ allowed ∧ Table.SetAt m id (reported row status now) m' := by
  unfold updateMessageStatus at h
  cases ha : allowedMessageSources status with
  | error e => simp [ha] at h
  | ok allowed =>
    cases hl : m.lookup id with
    | none => simp [ha, hl] at h
    | some row =>
      simp only [ha, hl] at h
      split_ifs at h with hc
      obtain rfl := Except.ok.inj h
      exact ⟨allowed, row, rfl, rfl, by simpa using hc, Table.setAt_insert _ _ _⟩

theorem findPaymentProfileByUsername_some {T : CaseTable} {users : Users} {keys : PaymentKeys}
    {username env : String} {p : UserPaymentProfileResponse}
    (h : findPaymentProfileByUsername T users keys username env = some p) :
    ∃ u, InMemoryUserRepository.findByUsernameOrEmail T users
        (T.toLowercase (unprefixed '@' username)) = some u ∧ p.username = u.username ∧
      keys.lookup (u.id, env) = some (p.protectedPaymentPubkey, p.transportEncryptionPubkey) := by
  unfold findPaymentProfileByUsername at h
  cases hu : InMemoryUserRepository.findByUsernameOrEmail T users
      (T.toLowercase (unprefixed '@' username)) with
  | none => simp [hu] at h
  | some u =>
    cases hk : keys.lookup (u.id, env) with
    | none => simp [hu, hk] at h
    | some k =>
      simp only [hu, hk, Option.bind_eq_bind, Option.bind_some, Option.some.injEq] at h
      subst h
      exact ⟨u, rfl, rfl, hk⟩

theorem exists_paymentProfile {T : CaseTable} {users : Users} {keys : PaymentKeys}
    {username env : String} {u : User} {k : String × String}
    (hu : InMemoryUserRepository.findByUsernameOrEmail T users
      (T.toLowercase (unprefixed '@' username)) = some u)
    (hk : keys.lookup (u.id, env) = some k) :
    ∃ p, findPaymentProfileByUsername T users keys username env = some p ∧
      p.username = u.username := by
  simp [findPaymentProfileByUsername, hu, hk]

end InMemoryProtectedMessageRepository
end Hanbova
