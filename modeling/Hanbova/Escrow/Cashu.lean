import Hanbova.Escrow.Cdk
import Hanbova.Escrow.Models

/-! The Cashu provider: `cashu.rs`. Creating a payment is cut at its calls of the wallet; a claim
or a refund holds the lock on the tracked payments from beginning to end. -/
namespace Hanbova

open Library Library.Text

structure TrackedPayment where
  intent : PaymentIntent
  cashuToken : String
  recipientPubkey : String
  refundPubkey : Option String
  locktime : DateTime
  deriving DecidableEq

/-- A create request whose conditions have been checked and parsed. -/
structure LockRequest (c : Cdk) where
  request : CreateProtectedPaymentRequest
  conditionsInput : LockingConditions
  recipientPubkey : c.PublicKey
  spendingConditions : c.Conditions

namespace CashuProtectedPaymentProvider

abbrev Intents := Table Uuid TrackedPayment

variable {c : Cdk}

def checkMintSupport (w : c.World) (mintUrl : String) : Except ProtectedPaymentError Unit :=
  match c.fetchMintInfo w with
  | .error e => .error (.mintUnreachable e)
  | .ok none => .error (.mintUnreachable "Mint returned empty info")
  | .ok (some nut11Supported) =>
    if !nut11Supported then .error (.nut11NotSupported mintUrl) else .ok ()

def parseRefundPubkey : Option String → Except ProtectedPaymentError (Option c.PublicKey)
  | none => .ok none
  | some refPub =>
    match c.parsePublicKey refPub with
    | .error e => .error (.invalidPublicKey s!"Refund pubkey invalid: {e}")
    | .ok pk => .ok (some pk)

/-- `as u64` of a signed timestamp. -/
def asU64 (n : ℤ) : UInt64 := UInt64.ofNat (n % 2 ^ 64).toNat

/-- `create_protected_payment` up to the call of `prepare_send`. -/
def checkRequest (w : c.World) (mintUrl : String) (nowUnix : UInt64)
    (request : CreateProtectedPaymentRequest) : Except ProtectedPaymentError (LockRequest c) := do
  checkMintSupport w mintUrl
  let conditionsInput ← match request.lockingConditions with
    | some i => .ok i
    | none => .error (.lockingCondition
        "LockingConditions (recipient_pubkey, locktime) are required for Protected Send")
  let recipientPubkey ← (c.parsePublicKey conditionsInput.recipientPubkey).mapError
    fun e => .invalidPublicKey s!"Recipient pubkey invalid: {e}"
  let refundPubkey ← parseRefundPubkey conditionsInput.refundPubkey
  let locktimeUnix := asU64 conditionsInput.locktime.timestamp
  if locktimeUnix ≤ nowUnix then
    .error (.lockingCondition (s!"Locktime must be in the future (requested: {locktimeUnix}, " ++
      s!"current: {nowUnix})"))
  else do
    let refundKeys := refundPubkey.map fun k => [k]
    let spendingConditions ← (c.newConditions w locktimeUnix refundKeys).mapError
      fun e => .lockingCondition s!"Failed to build NUT-10 conditions: {e}"
    .ok { request, conditionsInput, recipientPubkey, spendingConditions }

def prepareSend (w : c.World) (l : LockRequest c) :
    Except ProtectedPaymentError c.PreparedSend × c.World :=
  match c.prepareSend w l.request.amountSats.sats l.recipientPubkey l.spendingConditions with
  | (.error e, w') => (.error (.cdk s!"Failed to prepare locked proofs: {e}"), w')
  | (.ok prepared, w') => (.ok prepared, w')

/-- The record of a payment whose proofs have been locked. The clock is read when the intent is
made and at each of its two transitions. -/
def buildTracked (l : LockRequest c) (tokenStr : String) (id : Uuid)
    (now now₁ now₂ : DateTime) :
    Except ProtectedPaymentError TrackedPayment := do
  let intent ← (PaymentIntent.new .«protected» l.request.amountSats
    l.request.recipientIdentifier l.request.senderId l.request.description
    (some l.conditionsInput.locktime) id now).mapError .core
  let intent := { intent with id := l.request.paymentId.getD intent.id }
  let intent ← (intent.updateStatus .«protected» now₁).mapError .core
  let intent ← (intent.updateStatus .claimable now₂).mapError .core
  .ok
    { intent := { intent with claimReference := some ("hnbv_claim_" ++ intent.id.simple) }
      cashuToken := tokenStr
      recipientPubkey := l.conditionsInput.recipientPubkey
      refundPubkey := l.conditionsInput.refundPubkey
      locktime := l.conditionsInput.locktime }

/-- The call of `confirm` and the construction of the record. -/
def confirm (w : c.World) (l : LockRequest c) (prepared : c.PreparedSend) (id : Uuid)
    (now now₁ now₂ : DateTime) : Except ProtectedPaymentError TrackedPayment × c.World :=
  match c.confirm w prepared with
  | (.error e, w') => (.error (.cdk s!"Failed to confirm locked proofs: {e}"), w')
  | (.ok token, w') => (buildTracked l (c.encode token) id now now₁ now₂, w')

def track (intents : Intents) (t : TrackedPayment) : Intents := intents.insert t.intent.id t

/-- The receipt for a new payment. -/
def createReceipt (t : TrackedPayment) : ProtectedPaymentReceipt where
  paymentId := t.intent.id
  status := t.intent.status
  amountSats := t.intent.amountSats
  recipientIdentifier := t.intent.recipientIdentifier
  expiresAt := t.locktime
  claimReference := "hnbv_claim_" ++ t.intent.id.simple
  cashuToken := some t.cashuToken
  createdAt := t.intent.createdAt

/-- What differs between a claim and a refund once the key has been parsed: the transitions after
a swap, the status that is guessed for a token spent before, and the texts. -/
structure Settlement where
  win : PaymentIntent → PaymentIntent × Except CoreError Unit
  guess : PaymentStatus
  reference : String
  spentText : String
  failure : String

/-- The swap at the mint and what follows from its outcome. -/
def settle (w : c.World) (t : TrackedPayment) (tokenStr : String) (key : c.SecretKey)
    (how : Settlement) (now : DateTime) :
    Except ProtectedPaymentError ProtectedPaymentReceipt × TrackedPayment × c.World :=
  match c.receive w tokenStr [key] with
  | (.ok amount, w') =>
    match how.win t.intent with
    | (intent, .error e) => (.error (.core e), { t with intent }, w')
    | (intent, .ok ()) =>
      (.ok
        { paymentId := intent.id
          status := intent.status
          amountSats := .fromSats amount
          recipientIdentifier := intent.recipientIdentifier
          expiresAt := t.locktime
          claimReference := how.reference ++ intent.id.simple
          cashuToken := none
          createdAt := intent.createdAt },
        { t with intent }, w')
  | (.error e, w') =>
    if Cdk.alreadySpent e then
      (.error (.tokenAlreadySpent how.spentText),
        { t with intent := (t.intent.progress how.guess now).1 }, w')
    else (.error (.cdk (how.failure ++ e)), t, w')

def claimSettlement (now : DateTime) : Settlement where
  win i := i.progress .claimed now
  guess := .refunded
  reference := "claimed_"
  spentText := "Payment has already been refunded by the sender after locktime"
  failure := "Claim failed at mint: "

def refundSettlement (now₁ now₂ : DateTime) : Settlement where
  win i :=
    let i' := if i.status ≠ .refundAvailable then (i.progress .refundAvailable now₁).1 else i
    i'.progress .refunded now₂
  guess := .claimed
  reference := "refunded_"
  spentText := "Payment has already been claimed by the recipient"
  failure := "Refund failed at mint: "

/-- The presented token, or the tracked one. -/
def presented (cashuToken : Option String) (t : TrackedPayment) : String :=
  cashuToken.getD t.cashuToken

/-- What a call leaves behind: its answer, the tracked payments and the wallet. -/
abbrev Outcome (c : Cdk) :=
  Except ProtectedPaymentError ProtectedPaymentReceipt × Intents × c.World

/-- `create_protected_payment` as a whole, with no other call in between. -/
def createProtectedPayment (intents : Intents) (w : c.World) (mintUrl : String) (nowUnix : UInt64)
    (request : CreateProtectedPaymentRequest) (id : Uuid) (now now₁ now₂ : DateTime) :
    Outcome c :=
  match checkRequest w mintUrl nowUnix request with
  | .error e => (.error e, intents, w)
  | .ok l =>
    match prepareSend w l with
    | (.error e, w') => (.error e, intents, w')
    | (.ok prepared, w') =>
      match confirm w' l prepared id now now₁ now₂ with
      | (.error e, w'') => (.error e, intents, w'')
      | (.ok t, w'') => (.ok (createReceipt t), track intents t, w'')

/-- Runs `settle` on the tracked payment in place. -/
def settleAt (intents : Intents) (w : c.World) (id : Uuid) (t : TrackedPayment) (tokenStr : String)
    (key : c.SecretKey) (how : Settlement) (now : DateTime) : Outcome c :=
  match settle w t tokenStr key how now with
  | (answer, t', w') => (answer, intents.insert id t', w')

def claimPayment (intents : Intents) (w : c.World) (request : ClaimPaymentRequest)
    (now : DateTime) : Outcome c :=
  match intents.lookup request.paymentId with
  | none => (.error (.notFound request.paymentId.toString), intents, w)
  | some t =>
    match c.parseSecretKey request.claimProof with
    | .error e => (.error (.invalidClaimProof s!"Invalid private key hex: {e}"), intents, w)
    | .ok key =>
      settleAt intents w request.paymentId t (presented request.cashuToken t) key
        (claimSettlement now) now

/-- `now` is the clock at the locktime check; `now₁` and `now₂` are read at the transitions. -/
def refundPayment (intents : Intents) (w : c.World) (request : RefundPaymentRequest)
    (now now₁ now₂ : DateTime) : Outcome c :=
  match intents.lookup request.paymentId with
  | none => (.error (.notFound request.paymentId.toString), intents, w)
  | some t =>
    if now < t.locktime then (.error (.paymentNotExpired t.locktime), intents, w)
    else match request.refundProof with
      | none =>
        (.error (.invalidClaimProof "Refund private key proof is required"), intents, w)
      | some refundProof =>
        match c.parseSecretKey refundProof with
        | .error e => (.error (.invalidClaimProof s!"Invalid refund secret hex: {e}"), intents, w)
        | .ok key =>
          settleAt intents w request.paymentId t (presented request.cashuToken t) key
            (refundSettlement now₁ now₂) now₁

/-- The status that is reported of a payment: from the locktime on a claimable payment counts as
open to the refund. -/
def reportedStatus (t : TrackedPayment) (now : DateTime) : PaymentStatus :=
  if t.locktime ≤ now ∧ t.intent.status = .claimable then .refundAvailable else t.intent.status

def getPaymentStatus (intents : Intents) (paymentId : Uuid) (now : DateTime) :
    Except ProtectedPaymentError PaymentStatus :=
  match intents.lookup paymentId with
  | none => .error (.notFound paymentId.toString)
  | some t => .ok (reportedStatus t now)

/-- The sum over the active payments, in `u64` arithmetic. -/
def protectedOutgoing (intents : Intents) : UInt64 :=
  intents.values.foldl
    (fun total t => if t.intent.status.isActive then total + t.intent.amountSats.sats else total) 0

def getWalletBalance (intents : Intents) (w : c.World) :
    Except ProtectedPaymentError WalletBalance :=
  match c.totalBalance w with
  | .error e => .error (.cdk e)
  | .ok total =>
    .ok
      { spendableSats := total
        protectedOutgoingSats := protectedOutgoing intents
        protectedIncomingSats := 0 }

end CashuProtectedPaymentProvider
end Hanbova
