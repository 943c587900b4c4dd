import Hanbova.Accounts.Service
import Hanbova.Library.Stages
import Hanbova.Messages.Repository
import Hanbova.Payments.Service

/-! The handlers that create and acknowledge protected messages: `routes/protected_messages.rs`,
cut where they await another component. -/
namespace Hanbova

open Library Library.Text
open InMemoryUserRepository (Users)
open InMemoryProtectedMessageRepository (Messages PaymentKeys)

/-- The caller, as the access token names it. -/
structure AuthUser where
  userId : Uuid
  username : String
  deriving DecidableEq

structure CreateProtectedMessageRequest where
  recipientUsername : String
  encryptedPayload : String
  payloadVersion : Int32
  paymentIntentId : Option Uuid
  recipientTransportKeyFingerprint : Option String
  recipientP2pkKeyFingerprint : Option String
  walletEnvironment : Option String
  deriving DecidableEq

structure ProtectedMessageResponse where
  id : Uuid
  paymentIntentId : Option Uuid
  senderUsername : String
  recipientUsername : String
  encryptedPayload : String
  payloadVersion : Int32
  status : String
  recipientTransportKeyFingerprint : Option String
  recipientP2pkKeyFingerprint : Option String
  walletEnvironment : Option String
  createdAt : DateTime
  acknowledgedAt : Option DateTime
  deriving DecidableEq

/-- `From<ProtectedMessageRow> for ProtectedMessageResponse`. -/
def ProtectedMessageResponse.ofRow (row : ProtectedMessageRow) : ProtectedMessageResponse where
  id := row.id
  paymentIntentId := row.paymentIntentId
  senderUsername := row.senderUsername
  recipientUsername := row.recipientUsername
  encryptedPayload := row.encryptedPayload
  payloadVersion := row.payloadVersion
  status := row.status
  recipientTransportKeyFingerprint := row.recipientTransportKeyFingerprint
  recipientP2pkKeyFingerprint := row.recipientP2pkKeyFingerprint
  walletEnvironment := row.walletEnvironment
  createdAt := row.createdAt
  acknowledgedAt := row.acknowledgedAt

structure AcknowledgeMessageRequest where
  status : Option String
  deriving DecidableEq

structure AcknowledgeMessageResponse where
  id : Uuid
  status : String
  acknowledged : Bool
  deriving DecidableEq

/-- A create request whose recipient has been found. -/
structure AddressedMessage where
  authUser : AuthUser
  payload : CreateProtectedMessageRequest
  recipient : User
  deriving DecidableEq

/-- An acknowledgement that has passed the role check on a snapshot of the message. -/
structure PendingAck where
  authUser : AuthUser
  id : Uuid
  newStatus : String
  message : ProtectedMessageRow
  deriving DecidableEq

/-- `get_payment_profile_handler`. -/
def getPaymentProfile (T : CaseTable) (users : Users) (keys : PaymentKeys) (username : String)
    (environment : Option String) : Except ApiError UserPaymentProfileResponse :=
  let environment := environment.getD "cashu_test"
  let cleanUsername := unprefixed '@' username
  match InMemoryProtectedMessageRepository.findPaymentProfileByUsername T users keys username
      environment with
  | some p => .ok p
  | none =>
    .error (.notFound (s!"User '@{cleanUsername}' has not published payment keys " ++
      s!"for environment '{environment}'"))

theorem getPaymentProfile_ok {T : CaseTable} {users : Users} {keys : PaymentKeys}
    {username : String} {environment : Option String} {p : UserPaymentProfileResponse} :
    getPaymentProfile T users keys username environment = .ok p ↔
      InMemoryProtectedMessageRepository.findPaymentProfileByUsername T users keys username
        (environment.getD "cashu_test") = some p := by
  unfold getPaymentProfile
  cases hf : InMemoryProtectedMessageRepository.findPaymentProfileByUsername T users keys username
    (environment.getD "cashu_test") <;> simp [hf]

namespace CreateProtectedMessage

/-- The handler up to the lookup of the recipient. -/
def address (T : CaseTable) (users : Users) (authUser : AuthUser)
    (payload : CreateProtectedMessageRequest) : Except ApiError AddressedMessage :=
  let cleanRecipient := unprefixed '@' payload.recipientUsername
  match AuthService.findUserByUsername T users cleanRecipient with
  | none => .error (.notFound s!"Recipient user '@{cleanRecipient}' does not exist")
  | some recipient => .ok { authUser, payload, recipient }

/-- The check of the payment that the message is to be linked to. -/
def link (storage : InMemoryPaymentIntentRepository.Storage) (m : AddressedMessage) :
    Except ApiError Unit :=
  match m.payload.paymentIntentId with
  | none => .ok ()
  | some paymentId =>
    PaymentService.validateProtectedMessageLink storage paymentId m.authUser.userId
      m.authUser.username m.recipient.id m.recipient.username

def row (m : AddressedMessage) (id : Uuid) (now : DateTime) : ProtectedMessageRow where
  id := id
  paymentIntentId := m.payload.paymentIntentId
  senderUserId := m.authUser.userId
  recipientUserId := m.recipient.id
  senderUsername := m.authUser.username
  recipientUsername := m.recipient.username
  encryptedPayload := m.payload.encryptedPayload
  payloadVersion := m.payload.payloadVersion
  status := "delivered"
  recipientTransportKeyFingerprint := m.payload.recipientTransportKeyFingerprint
  recipientP2pkKeyFingerprint := m.payload.recipientP2pkKeyFingerprint
  walletEnvironment := m.payload.walletEnvironment
  createdAt := now
  acknowledgedAt := none

/-- The whole handler, run without interruption: the stored row. -/
def run (T : CaseTable) (users : Users) (storage : InMemoryPaymentIntentRepository.Storage)
    (authUser : AuthUser) (payload : CreateProtectedMessageRequest) (id : Uuid) (now : DateTime) :
    Except ApiError ProtectedMessageRow := do
  let m ← address T users authUser payload
  link storage m
  .ok (row m id now)

theorem address_ok {T : CaseTable} {users : Users} {authUser : AuthUser}
    {payload : CreateProtectedMessageRequest} {m : AddressedMessage}
    (h : address T users authUser payload = .ok m) :
    AuthService.findUserByUsername T users (unprefixed '@' payload.recipientUsername) =
      some m.recipient ∧ m.authUser = authUser ∧ m.payload = payload := by
  simp only [address] at h
  cases hf : AuthService.findUserByUsername T users (unprefixed '@' payload.recipientUsername) with
  | none => simp [hf] at h
  | some u =>
    simp only [hf, Except.ok.injEq] at h
    subst h
    exact ⟨rfl, rfl, rfl⟩

/-- A request without a payment needs no more than a recipient. -/
theorem run_unlinked {T : CaseTable} {users : Users} {u : User}
    (storage : InMemoryPaymentIntentRepository.Storage) (authUser : AuthUser)
    (payload : CreateProtectedMessageRequest) (id : Uuid) (now : DateTime)
    (hu : AuthService.findUserByUsername T users (unprefixed '@' payload.recipientUsername) =
      some u) (hp : payload.paymentIntentId = none) :
    run T users storage authUser payload id now = .ok (row ⟨authUser, payload, u⟩ id now) := by
  simp [run, address, hu, link, hp, bind, Except.bind]

theorem run_ok {T : CaseTable} {users : Users} {storage : InMemoryPaymentIntentRepository.Storage}
    {authUser : AuthUser} {payload : CreateProtectedMessageRequest} {id : Uuid} {now : DateTime}
    {r : ProtectedMessageRow} (h : run T users storage authUser payload id now = .ok r) :
    ∃ u, AuthService.findUserByUsername T users (unprefixed '@' payload.recipientUsername) =
      some u ∧ r = row ⟨authUser, payload, u⟩ id now := by
  unfold run at h
  obtain ⟨m, haddress, h⟩ := Stages.bind_ok.mp h
  obtain ⟨-, -, h⟩ := Stages.bind_ok.mp h
  have hrow := Except.ok.inj h
  obtain ⟨hu, rfl, rfl⟩ := address_ok haddress
  exact ⟨m.recipient, hu, hrow.symm⟩

end CreateProtectedMessage

namespace AckMessage

/-- The role rules for the reported status. -/
def checkRole (authUser : AuthUser) (message : ProtectedMessageRow) (newStatus : String) :
    Except ApiError Unit :=
  if newStatus = "claimed" then
    if authUser.userId ≠ message.recipientUserId then
      .error (.forbidden
        "Forbidden: Only the intended recipient can mark this protected message as claimed")
    else .ok ()
  else if newStatus = "refunded" then
    if authUser.userId ≠ message.senderUserId then
      .error (.forbidden
        "Forbidden: Only the sender can mark this protected message as refunded")
    else .ok ()
  else if newStatus = "acknowledged" ∨ newStatus = "delivered" then
    if authUser.userId ≠ message.recipientUserId then
      .error (.forbidden
        "Forbidden: Only the intended recipient can acknowledge message receipt")
    else .ok ()
  else .error (.badRequest s!"Invalid or unauthorized status transition: '{newStatus}'")

/-- The handler up to the call of `update_message_status`. -/
def readAndCheck (messages : Messages) (authUser : AuthUser) (id : Uuid)
    (payload : AcknowledgeMessageRequest) : Except ApiError PendingAck :=
  match InMemoryProtectedMessageRepository.findMessageById messages id with
  | none => .error (.notFound s!"Protected message '{id}' not found")
  | some message =>
    if message.senderUserId ≠ authUser.userId ∧ message.recipientUserId ≠ authUser.userId then
      .error (.forbidden "Forbidden: You do not have permission to update this message")
    else
      let newStatus := payload.status.getD "acknowledged"
      match checkRole authUser message newStatus with
      | .error e => .error e
      | .ok () => .ok { authUser, id, newStatus, message }

/-- The rest of the handler. -/
def write (messages : Messages) (p : PendingAck) (now : DateTime) :
    Except ApiError AcknowledgeMessageResponse × Messages :=
  match InMemoryProtectedMessageRepository.updateMessageStatus messages p.id p.newStatus now with
  | .error e => (.error e, messages)
  | .ok messages' => (.ok ⟨p.id, p.newStatus, true⟩, messages')

/-- The role rules, as a property of the caller and the parties of the message. -/
def Permitted (userId : Uuid) (row : ProtectedMessageRow) (newStatus : String) : Prop :=
  ((newStatus = "claimed" ∨ newStatus = "acknowledged" ∨ newStatus = "delivered") ∧
    userId = row.recipientUserId) ∨
  (newStatus = "refunded" ∧ userId = row.senderUserId)

theorem checkRole_ok {authUser : AuthUser} {row : ProtectedMessageRow} {newStatus : String} :
    checkRole authUser row newStatus = .ok () ↔ Permitted authUser.userId row newStatus := by
  unfold checkRole Permitted
  split_ifs with h₁ h₂ h₃ h₄ h₅ h₆
  all_goals simp_all

theorem readAndCheck_ok {messages : Messages} {authUser : AuthUser} {id : Uuid}
    {payload : AcknowledgeMessageRequest} {p : PendingAck}
    (h : readAndCheck messages authUser id payload = .ok p) :
    messages.lookup p.id = some p.message ∧ p.authUser = authUser ∧ p.id = id ∧
      p.newStatus = payload.status.getD "acknowledged" ∧
      Permitted p.authUser.userId p.message p.newStatus := by
  unfold readAndCheck InMemoryProtectedMessageRepository.findMessageById at h
  cases hl : messages.lookup id with
  | none => simp [hl] at h
  | some row =>
    simp only [hl] at h
    split_ifs at h
    cases hc : checkRole authUser row (payload.status.getD "acknowledged") with
    | error e => simp [hc] at h
    | ok u =>
      simp only [hc, Except.ok.injEq] at h
      subst h
      exact ⟨hl, rfl, rfl, rfl, checkRole_ok.mp hc⟩

/-- What the writing step of an acknowledgement does to the repository and answers. -/
theorem write_cases {m m' : Messages} {p : PendingAck} {now : DateTime}
    {answer : Except ApiError AcknowledgeMessageResponse} (h : write m p now = (answer, m')) :
    (∃ e, answer = .error e ∧ m' = m) ∨
    ∃ allowed row, answer = .ok ⟨p.id, p.newStatus, true⟩ ∧
      allowedMessageSources p.newStatus = .ok allowed ∧ m.lookup p.id = some row ∧
      row.status ∈ allowed ∧
      Table.SetAt m p.id (InMemoryProtectedMessageRepository.reported row p.newStatus now) m' := by
  unfold write at h
  cases hu : InMemoryProtectedMessageRepository.updateMessageStatus m p.id p.newStatus now with
  | error e =>
    simp only [hu, Prod.mk.injEq] at h
    exact .inl ⟨e, h.1.symm, h.2.symm⟩
  | ok m'' =>
    simp only [hu, Prod.mk.injEq] at h
    obtain ⟨rfl, rfl⟩ := h
    obtain ⟨allowed, row, ha, hl, hr, hm⟩ :=
      InMemoryProtectedMessageRepository.updateMessageStatus_ok hu
    exact .inr ⟨allowed, row, rfl, ha, hl, hr, hm⟩

end AckMessage
end Hanbova
