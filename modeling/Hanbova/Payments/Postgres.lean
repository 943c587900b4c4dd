import Hanbova.Core.Display
import Hanbova.Payments.Repository
import Hanbova.Library.Transition

/-! Payment intents in PostgreSQL: the statements of `PgPaymentIntentRepository` in
`payment_intent_repo.rs`, and the transactions that update a status. -/
namespace Hanbova

open Library Library.Text

/-- A row of the table `payment_intents`. -/
structure PaymentIntentRow where
  id : Uuid
  paymentType : String
  status : String
  amountSats : Int64
  senderId : Option String
  recipientIdentifier : String
  description : Option String
  expiresAt : Option DateTime
  claimReference : Option String
  createdAt : DateTime
  updatedAt : DateTime
  deriving DecidableEq

/-- What the timestamp columns keep of an instant. -/
structure Precision where
  expiresAt : DateTime → DateTime
  createdAt : DateTime → DateTime
  updatedAt : DateTime → DateTime

def PaymentIntent.rounded (P : Precision) (i : PaymentIntent) : PaymentIntent :=
  { i with
    expiresAt := i.expiresAt.map P.expiresAt
    createdAt := P.createdAt i.createdAt
    updatedAt := P.updatedAt i.updatedAt }

namespace PgPaymentIntentRepository

abbrev Rows := Table Uuid PaymentIntentRow

/-- The parameters that `save` binds, as the columns take them. -/
def encode (P : Precision) (intent : PaymentIntent) : PaymentIntentRow where
  id := intent.id
  paymentType := intent.paymentType.toString
  status := intent.status.toString
  amountSats := intent.amountSats.sats.toInt64
  senderId := intent.senderId
  recipientIdentifier := intent.recipientIdentifier
  description := intent.description
  expiresAt := intent.expiresAt.map P.expiresAt
  claimReference := intent.claimReference
  createdAt := P.createdAt intent.createdAt
  updatedAt := P.updatedAt intent.updatedAt

/-- A text of the database that should be a value of an enumeration. -/
def parsed {α : Type} : Except String α → Except ApiError α
  | .ok x => .ok x
  | .error e => .error (.badRequest e)

/-- What `find_by_id` makes of a row. -/
def decode (T : CaseTable) (row : PaymentIntentRow) : Except ApiError PaymentIntent := do
  let paymentType ← parsed (PaymentType.fromStr T row.paymentType)
  let status ← parsed (PaymentStatus.fromStr T row.status)
  return {
    id := row.id
    paymentType
    status
    amountSats := .fromSats row.amountSats.toUInt64
    senderId := row.senderId
    recipientIdentifier := row.recipientIdentifier
    description := row.description
    expiresAt := row.expiresAt
    claimReference := row.claimReference
    createdAt := row.createdAt
    updatedAt := row.updatedAt }

/-- `INSERT … ON CONFLICT (id) DO UPDATE`. -/
def save (P : Precision) (rows : Rows) (intent : PaymentIntent) : Rows :=
  let excluded := encode P intent
  match rows.lookup intent.id with
  | none => rows.insert intent.id excluded
  | some row =>
    rows.insert intent.id
      { row with
        status := excluded.status
        claimReference := excluded.claimReference
        updatedAt := excluded.updatedAt }

def findById (T : CaseTable) (rows : Rows) (id : Uuid) : Except ApiError (Option PaymentIntent) :=
  match rows.lookup id with
  | some row => (decode T row).map some
  | none => .ok none

/-- What `update_status` checks between its `SELECT` and its `UPDATE`, with the status it has
read. -/
def checkTransition (T : CaseTable) (stored : String) (status : PaymentStatus) :
    Except ApiError PaymentStatus := do
  let current ← parsed (PaymentStatus.fromStr T stored)
  match current.transitionTo status with
  | .error e => .error (.core e)
  | .ok _ => .ok current

/-- `UPDATE … SET status = $1, updated_at = $2`. -/
def reported (P : Precision) (row : PaymentIntentRow) (status : PaymentStatus) (now : DateTime) :
    PaymentIntentRow :=
  { row with status := status.toString, updatedAt := P.updatedAt now }

variable {T : CaseTable} {P : Precision}

/-- A row that has been saved is read back as the intent, but for the precision of its times. -/
theorem decode_encode (i : PaymentIntent) : decode T (encode P i) = .ok (i.rounded P) := by
  unfold decode encode
  simp only [PaymentType.fromStr_toString, PaymentStatus.fromStr_toString, parsed,
    UInt64.toUInt64_toInt64]
  rfl

/-- A status that has been stored is checked as it is. -/
theorem checkTransition_toString (s status : PaymentStatus) :
    checkTransition T s.toString status =
      match s.transitionTo status with
      | .error e => .error (.core e)
      | .ok _ => .ok s := by
  unfold checkTransition
  rw [PaymentStatus.fromStr_toString]
  rfl

theorem save_of_new {rows : Rows} {i : PaymentIntent} (h : rows.lookup i.id = none) :
    save P rows i = rows.insert i.id (encode P i) := by
  simp [save, h]

theorem reported_encode (i : PaymentIntent) (status : PaymentStatus) (now : DateTime) :
    reported P (encode P i) status now = encode P { i with status, updatedAt := now } := rfl

end PgPaymentIntentRepository
end Hanbova
