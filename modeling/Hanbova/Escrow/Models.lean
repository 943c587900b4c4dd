import Hanbova.Core.PaymentIntent

/-! Requests, receipts and errors of the protected-payment providers: `models.rs`, `error.rs`. -/
namespace Hanbova

open Library

structure LockingConditions where
  recipientPubkey : String
  locktime : DateTime
  refundPubkey : Option String
  sigFlag : Option String
  deriving DecidableEq

structure CreateProtectedPaymentRequest where
  paymentId : Option Uuid
  amountSats : SatoshiAmount
  recipientIdentifier : String
  senderId : Option String
  description : Option String
  expiresAt : DateTime
  lockingConditions : Option LockingConditions
  deriving DecidableEq

structure ProtectedPaymentReceipt where
  paymentId : Uuid
  status : PaymentStatus
  amountSats : SatoshiAmount
  recipientIdentifier : String
  expiresAt : DateTime
  claimReference : String
  cashuToken : Option String
  createdAt : DateTime
  deriving DecidableEq

structure ClaimPaymentRequest where
  paymentId : Uuid
  claimProof : String
  claimerIdentifier : String
  cashuToken : Option String
  deriving DecidableEq

structure RefundPaymentRequest where
  paymentId : Uuid
  senderId : String
  refundProof : Option String
  cashuToken : Option String
  deriving DecidableEq

structure WalletBalance where
  spendableSats : UInt64
  protectedOutgoingSats : UInt64
  protectedIncomingSats : UInt64
  deriving DecidableEq

inductive ProtectedPaymentError
  | core (e : CoreError)
  | notFound (message : String)
  | invalidClaimProof (message : String)
  | invalidPublicKey (message : String)
  | nut11NotSupported (mintUrl : String)
  | mintUnreachable (message : String)
  | paymentExpired (at_ : DateTime)
  | paymentNotExpired (locktime : DateTime)
  | tokenAlreadySpent (message : String)
  | lockingCondition (message : String)
  | cdk (message : String)
  deriving DecidableEq

namespace PaymentIntent

/-- An `update_status` whose outcome is kept apart from the record it leaves. -/
def progress (i : PaymentIntent) (next : PaymentStatus) (now : DateTime) :
    PaymentIntent × Except CoreError Unit :=
  match i.updateStatus next now with
  | .ok j => (j, .ok ())
  | .error e => (i, .error e)

theorem progress_of_legal {i : PaymentIntent} {next : PaymentStatus} {now : DateTime}
    (h : i.status.canTransitionTo next = true) :
    i.progress next now = ({ i with status := next, updatedAt := now }, .ok ()) := by
  rw [progress, updateStatus_ok.mpr ⟨h, rfl⟩]

theorem progress_of_illegal {i : PaymentIntent} {next : PaymentStatus}
    (h : i.status.canTransitionTo next = false) (now : DateTime) :
    ∃ e, i.progress next now = (i, .error e) := by
  cases hu : i.updateStatus next now with
  | ok j =>
    have := (updateStatus_ok.mp hu).1
    rw [h] at this
    cases this
  | error e => exact ⟨e, by rw [progress, hu]⟩

/-- Whatever becomes of it, the terms stand. -/
theorem sameTerms_progress (i : PaymentIntent) (next : PaymentStatus) (now : DateTime) :
    i.SameTerms (i.progress next now).1 := by
  cases h : i.status.canTransitionTo next with
  | true => rw [progress_of_legal h]; exact i.sameTerms_report next now
  | false =>
    obtain ⟨e, he⟩ := progress_of_illegal h now
    rw [he]
    exact .refl i

/-- A terminal status stands too. -/
theorem status_progress_of_terminal {i : PaymentIntent} (h : i.status.isTerminal = true)
    (next : PaymentStatus) (now : DateTime) : (i.progress next now).1.status = i.status := by
  cases hc : i.status.canTransitionTo next with
  | true =>
    rw [progress_of_legal hc]
    exact PaymentStatus.eq_of_isTerminal h hc
  | false =>
    obtain ⟨e, he⟩ := progress_of_illegal hc now
    rw [he]

end PaymentIntent
end Hanbova
