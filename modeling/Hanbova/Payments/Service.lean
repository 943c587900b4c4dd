import Hanbova.Library.Stages
import Hanbova.Payments.Repository

/-! The payment service: `payment_service.rs`. A call that awaits the repository more than once
is split into the parts between its awaits. -/
namespace Hanbova

open Library Library.Text

/-- Whether the actor `(userId, username)` is the party that `target` names. -/
def matchesActor (userId : String) (username : Option String) (target : String) : Bool :=
  let cleanTarget := unprefixed '@' target
  let cleanUserId := unprefixed '@' userId
  if target == userId || cleanTarget == cleanUserId then true
  else match username with
  | some uname =>
    let cleanUname := unprefixed '@' uname
    eqIgnoreAsciiCase target uname || eqIgnoreAsciiCase cleanTarget cleanUname ||
      target == uname || cleanTarget == cleanUname
  | none => false

/-- Two of the comparisons of `matchesActor` imply the others. -/
theorem matchesActor_iff {userId username target : String} :
    matchesActor userId (some username) target = true ↔
      unprefixed '@' target = unprefixed '@' userId ∨
        eqIgnoreAsciiCase (unprefixed '@' target) (unprefixed '@' username) = true := by
  have self : ∀ {s t : String}, s = t → eqIgnoreAsciiCase s t = true := by
    rintro s _ rfl
    exact eqIgnoreAsciiCase_refl s
  unfold matchesActor
  simp only
  split_ifs with hc
  · simp only [Bool.or_eq_true, beq_iff_eq] at hc
    refine iff_of_true rfl (.inl ?_)
    rcases hc with rfl | hc
    · rfl
    · exact hc
  · simp only [Bool.or_eq_true, beq_iff_eq, not_or] at hc ⊢
    constructor
    · rintro (((he | he) | he) | he)
      · exact .inr (eqIgnoreAsciiCase_unprefixed he)
      · exact .inr he
      · exact .inr (eqIgnoreAsciiCase_unprefixed (self he))
      · exact .inr (self he)
    · rintro (he | he)
      · exact absurd he hc.2
      · exact .inl (.inl (.inr he))

structure CreatePaymentIntentRequest where
  paymentType : PaymentType
  amountSats : UInt64
  recipientIdentifier : String
  senderId : Option String
  description : Option String
  expiresInSeconds : Option UInt64
  deriving DecidableEq

structure PaymentIntentResponse where
  id : Uuid
  paymentType : PaymentType
  status : PaymentStatus
  amountSats : UInt64
  senderId : Option String
  recipientIdentifier : String
  description : Option String
  expiresAt : Option DateTime
  claimReference : Option String
  cashuToken : Option String
  createdAt : DateTime
  updatedAt : DateTime
  deriving DecidableEq

/-- `From<PaymentIntent> for PaymentIntentResponse`. -/
def PaymentIntentResponse.ofIntent (i : PaymentIntent) : PaymentIntentResponse where
  id := i.id
  paymentType := i.paymentType
  status := i.status
  amountSats := i.amountSats.sats
  senderId := i.senderId
  recipientIdentifier := i.recipientIdentifier
  description := i.description
  expiresAt := i.expiresAt
  claimReference := i.claimReference
  cashuToken := none
  createdAt := i.createdAt
  updatedAt := i.updatedAt

structure UpdatePaymentStatusRequest where
  paymentId : Uuid
  newStatus : PaymentStatus
  userId : String
  username : Option String
  deriving DecidableEq

namespace PaymentService

open InMemoryPaymentIntentRepository (Storage)

/-- `i64::try_from` on a `u64`. -/
def i64TryFrom (n : UInt64) : Option ℤ := if n.toNat < 2 ^ 63 then some n.toNat else none

def requestedExpiry (now : DateTime) (secs : UInt64) : Except Fault DateTime :=
  let span := ((i64TryFrom secs).filter (0 < ·)).bind TimeDelta.trySeconds
  match span.bind now.checkedAddSigned with
  | some t => .ok t
  | none =>
    .error (.error (.badRequest "Expiry must be a positive, representable number of seconds"))

def expiryOfRequest (now : DateTime) : Option UInt64 → Except Fault (Option DateTime)
  | none => .ok none
  | some secs => (requestedExpiry now secs).map some

/-- The fields that depend on the payment type. `now + Duration::hours(24)` panics at the end
of the calendar. -/
def forType (intent : PaymentIntent) (now : DateTime) (expiresAt : Option DateTime) :
    Except Fault PaymentIntent :=
  match intent.paymentType with
  | .«protected» =>
    match expiresAt.or (now.checkedAddSigned (TimeDelta.hours 24)) with
    | none => .error .panicked
    | some expiry =>
      .ok
        { intent with
          expiresAt := some expiry
          status := .created
          claimReference := some ("hnbv_claim_" ++ intent.id.simple) }
  | .instant => .ok { intent with status := .pending }

/-- `create_payment_intent` up to the call of `save`. `now` is the service's reading of the
clock, `now'` the one of `PaymentIntent::new`. -/
def createPaymentIntent (req : CreatePaymentIntentRequest) (id : Uuid) (now now' : DateTime) :
    Except Fault PaymentIntent := do
  let amount ← (SatoshiAmount.new req.amountSats).mapError (.error ∘ .core)
  let expiresAt ← expiryOfRequest now req.expiresInSeconds
  let intent ← (PaymentIntent.new req.paymentType amount req.recipientIdentifier req.senderId
    req.description expiresAt id now').mapError (.error ∘ .core)
  forType intent now expiresAt

def isSender (intent : PaymentIntent) (userId : String) (username : Option String) : Bool :=
  intent.senderId.any (matchesActor userId username)

def isRecipient (intent : PaymentIntent) (userId : String) (username : Option String) : Bool :=
  matchesActor userId username intent.recipientIdentifier

/-- The actor rules of `update_payment_status`, decided on a snapshot of the intent. -/
def authoriseUpdate (intent : PaymentIntent) (req : UpdatePaymentStatusRequest) :
    Except ApiError Unit :=
  let sender := isSender intent req.userId req.username
  let recipient := isRecipient intent req.userId req.username
  match req.newStatus with
  | .claimed =>
    if !recipient then
      .error (.forbidden "Only the intended recipient can report claimed status")
    else .ok ()
  | .refunded =>
    if !sender then .error (.forbidden "Only the sender can report refunded status")
    else .ok ()
  | _ =>
    if !sender && !recipient then
      .error (.forbidden "Unauthorized to update this payment intent")
    else .ok ()

/-- `update_payment_status` up to the call of the repository: the snapshot, once authorised. -/
def readAndAuthorise (storage : Storage) (req : UpdatePaymentStatusRequest) :
    Except ApiError PaymentIntent :=
  match InMemoryPaymentIntentRepository.findById storage req.paymentId with
  | none => .error (.notFound s!"Payment intent {req.paymentId} not found")
  | some intent =>
    match authoriseUpdate intent req with
    | .error e => .error e
    | .ok () => .ok intent

/-- The rest of `update_payment_status`: the answer is the snapshot with the new status and the
timestamp that the repository returned. -/
def writeStatus (storage : Storage) (req : UpdatePaymentStatusRequest) (snapshot : PaymentIntent)
    (now : DateTime) : Except ApiError PaymentIntentResponse × Storage :=
  match InMemoryPaymentIntentRepository.updateStatus storage req.paymentId req.newStatus now with
  | .error e => (.error e, storage)
  | .ok (updatedAt, storage') =>
    (.ok (.ofIntent { snapshot with status := req.newStatus, updatedAt }), storage')

/-- `update_payment_status` run without interruption. -/
def updatePaymentStatus (storage : Storage) (req : UpdatePaymentStatusRequest) (now : DateTime) :
    Except ApiError PaymentIntentResponse × Storage :=
  match readAndAuthorise storage req with
  | .error e => (.error e, storage)
  | .ok snapshot => writeStatus storage req snapshot now

/-- `validate_protected_message_link`. -/
def validateProtectedMessageLink (storage : Storage) (paymentId senderId : Uuid)
    (senderUsername : String) (recipientId : Uuid) (recipientUsername : String) :
    Except ApiError Unit :=
  match InMemoryPaymentIntentRepository.findById storage paymentId with
  | none => .error (.notFound s!"Payment intent {paymentId} not found")
  | some intent =>
    let sender := isSender intent senderId.toString (some senderUsername)
    let recipient := isRecipient intent recipientId.toString (some recipientUsername)
    if !sender || !recipient then
      .error (.forbidden "Payment intent does not belong to this sender and recipient")
    else if intent.paymentType ≠ .«protected» then
      .error (.badRequest "Protected messages can only link to protected payment intents")
    else .ok ()

/-- The actor rules, as a property of the intent and the request. -/
def Authorised (intent : PaymentIntent) (req : UpdatePaymentStatusRequest) : Prop :=
  (req.newStatus = .claimed → isRecipient intent req.userId req.username = true) ∧
  (req.newStatus = .refunded → isSender intent req.userId req.username = true) ∧
  (isSender intent req.userId req.username = true ∨
    isRecipient intent req.userId req.username = true)

theorem authoriseUpdate_ok {i : PaymentIntent} {req : UpdatePaymentStatusRequest} :
    authoriseUpdate i req = .ok () ↔ Authorised i req := by
  unfold authoriseUpdate Authorised
  cases hs : isSender i req.userId req.username <;>
    cases hr : isRecipient i req.userId req.username <;> cases req.newStatus <;> simp

theorem readAndAuthorise_ok {m : Storage} {req : UpdatePaymentStatusRequest} {i : PaymentIntent} :
    readAndAuthorise m req = .ok i ↔ m.lookup req.paymentId = some i ∧ Authorised i req := by
  unfold readAndAuthorise InMemoryPaymentIntentRepository.findById
  cases hl : m.lookup req.paymentId with
  | none => simp
  | some j =>
    simp only [Option.some.injEq]
    cases ha : authoriseUpdate j req with
    | error e =>
      have : ¬ Authorised j req := by rw [← authoriseUpdate_ok, ha]; simp
      simp only [reduceCtorEq, false_iff]
      rintro ⟨rfl, h⟩
      exact this h
    | ok u =>
      have : Authorised j req := authoriseUpdate_ok.mp ha
      simp only [Except.ok.injEq]
      exact ⟨fun h => ⟨h, h ▸ this⟩, fun h => h.1⟩

/-- The authorisation depends only on the terms of the intent. -/
theorem Authorised.congr {i j : PaymentIntent} {req : UpdatePaymentStatusRequest}
    (h : i.SameTerms j) (hi : Authorised i req) : Authorised j req := by
  unfold Authorised isSender isRecipient at *
  obtain ⟨-, -, -, hs, hr, -⟩ := h.fields
  rwa [hs, hr]

theorem validateProtectedMessageLink_ok {m : Storage} {p s r : Uuid} {sn rn : String} :
    validateProtectedMessageLink m p s sn r rn = .ok () ↔
      ∃ i, m.lookup p = some i ∧ i.paymentType = .«protected» ∧
        isSender i s.toString (some sn) = true ∧ isRecipient i r.toString (some rn) = true := by
  unfold validateProtectedMessageLink InMemoryPaymentIntentRepository.findById
  cases hl : m.lookup p with
  | none => simp
  | some i =>
    cases hs : isSender i s.toString (some sn) <;> cases hr : isRecipient i r.toString (some rn) <;>
      cases ht : i.paymentType <;> simp [hs, hr, ht]

theorem forType_ok {i j : PaymentIntent} {now : DateTime} {expiresAt : Option DateTime}
    (h : forType j now expiresAt = .ok i) :
    (j.paymentType = .«protected» ∧
      ∃ t, expiresAt.or (now.checkedAddSigned (TimeDelta.hours 24)) = some t ∧
        i = { j with
              expiresAt := some t
              status := .created
              claimReference := some ("hnbv_claim_" ++ j.id.simple) }) ∨
    (j.paymentType = .instant ∧ i = { j with status := .pending }) := by
  unfold forType at h
  split at h
  case h_1 ht =>
    split at h
    · cases h
    · case h_2 t he =>
      exact .inl ⟨ht, t, he, (Except.ok.inj h).symm⟩
  case h_2 ht => exact .inr ⟨ht, (Except.ok.inj h).symm⟩

/-- The parts of a successful creation. -/
theorem createPaymentIntent_ok {req : CreatePaymentIntentRequest} {id : Uuid} {now now' : DateTime}
    {i : PaymentIntent} (h : createPaymentIntent req id now now' = .ok i) :
    ∃ amount expiresAt j, SatoshiAmount.new req.amountSats = .ok amount ∧
      expiryOfRequest now req.expiresInSeconds = .ok expiresAt ∧
      PaymentIntent.new req.paymentType amount req.recipientIdentifier req.senderId
        req.description expiresAt id now' = .ok j ∧ forType j now expiresAt = .ok i := by
  unfold createPaymentIntent at h
  obtain ⟨amount, hamount, h⟩ := Stages.bind_ok.mp h
  obtain ⟨expiresAt, hexpiry, h⟩ := Stages.bind_ok.mp h
  obtain ⟨j, hnew, h⟩ := Stages.bind_ok.mp h
  exact ⟨amount, expiresAt, j, Stages.mapError_ok.mp hamount, hexpiry,
    Stages.mapError_ok.mp hnew, h⟩

/-- What a created intent takes over from the request. -/
theorem createPaymentIntent_sender {req : CreatePaymentIntentRequest} {id : Uuid}
    {now now' : DateTime} {i : PaymentIntent} (h : createPaymentIntent req id now now' = .ok i) :
    i.senderId = req.senderId := by
  obtain ⟨amount, expiresAt, j, -, -, hn, hf⟩ := createPaymentIntent_ok h
  obtain ⟨-, -, -, rfl⟩ := PaymentIntent.new_ok hn
  rcases forType_ok hf with ⟨-, t, -, rfl⟩ | ⟨-, rfl⟩
  · rfl
  · rfl

theorem createPaymentIntent_id {req : CreatePaymentIntentRequest} {id : Uuid} {now now' : DateTime}
    {i : PaymentIntent} (h : createPaymentIntent req id now now' = .ok i) :
    i.id = id ∧ (i.status = .created ∨ i.status = .pending) := by
  obtain ⟨amount, expiresAt, j, -, -, hn, hf⟩ := createPaymentIntent_ok h
  obtain ⟨-, -, -, rfl⟩ := PaymentIntent.new_ok hn
  rcases forType_ok hf with ⟨-, t, -, rfl⟩ | ⟨-, rfl⟩
  · exact ⟨rfl, .inl rfl⟩
  · exact ⟨rfl, .inr rfl⟩

end PaymentService
end Hanbova
