import Hanbova.Library.Chrono

/-! The lifecycle of a payment: `payment_status.rs` and the errors of `error.rs`. -/
namespace Hanbova

open Library

inductive PaymentStatus
  | created
  | funding
  | pending
  | «protected»
  | claimable
  | claiming
  | claimed
  | refundAvailable
  | refunding
  | refunded
  | expired
  | failed
  deriving DecidableEq, Repr

inductive CoreError
  | invalidAmount (message : String)
  | invalidStateTransition (source target : PaymentStatus)
  | validationError (message : String)
  | expired (at_ : DateTime)
  | cannotClaim (status : PaymentStatus)
  | cannotRefund (status : PaymentStatus)
  deriving DecidableEq

namespace PaymentStatus

def canTransitionTo (self target : PaymentStatus) : Bool :=
  if self = target then true
  else match self, target with
  -- terminal states cannot transition further
  | .claimed, _ => false
  | .refunded, _ => false
  | .failed, _ => false
  | .created, .funding => true
  | .created, .pending => true
  | .created, .«protected» => true
  | .created, .claimable => true
  | .created, .failed => true
  | .funding, .«protected» => true
  | .funding, .claimable => true
  | .funding, .pending => true
  | .funding, .failed => true
  | .pending, .«protected» => true
  | .pending, .claimable => true
  | .pending, .claimed => true
  | .pending, .failed => true
  | .«protected», .claimable => true
  | .«protected», .claiming => true
  | .«protected», .refundAvailable => true
  | .«protected», .expired => true
  | .«protected», .claimed => true
  | .«protected», .failed => true
  | .claimable, .claiming => true
  | .claimable, .claimed => true
  | .claimable, .refundAvailable => true
  | .claimable, .expired => true
  | .claimable, .failed => true
  | .claiming, .claimed => true
  | .claiming, .claimable => true
  | .claiming, .refundAvailable => true
  | .claiming, .refunded => true
  | .claiming, .failed => true
  | .refundAvailable, .refunding => true
  | .refundAvailable, .refunded => true
  | .refundAvailable, .claiming => true
  | .refundAvailable, .claimed => true
  | .refundAvailable, .failed => true
  | .expired, .refundAvailable => true
  | .expired, .refunding => true
  | .expired, .refunded => true
  | .expired, .claimed => true
  | .expired, .failed => true
  | .refunding, .refunded => true
  | .refunding, .claimed => true
  | .refunding, .refundAvailable => true
  | .refunding, .failed => true
  | _, _ => false

def transitionTo (self target : PaymentStatus) : Except CoreError PaymentStatus :=
  if self.canTransitionTo target then .ok target
  else .error (.invalidStateTransition self target)

def isTerminal : PaymentStatus → Bool
  | .claimed | .refunded | .failed => true
  | _ => false

def isActive : PaymentStatus → Bool
  | .created | .funding | .pending | .«protected» | .claimable | .claiming
  | .refundAvailable | .refunding | .expired => true
  | _ => false

@[simp] theorem canTransitionTo_self (s : PaymentStatus) : s.canTransitionTo s = true := by
  simp [canTransitionTo]

theorem isActive_eq_not_isTerminal (s : PaymentStatus) : s.isActive = !s.isTerminal := by
  cases s <;> rfl

/-- The terminal statuses are the ones nothing leads out of. -/
theorem isTerminal_iff (s : PaymentStatus) :
    s.isTerminal = true ↔ ∀ t, s.canTransitionTo t = true → t = s := by
  constructor
  · intro h t ht
    cases s <;> simp [isTerminal] at h <;> simp [canTransitionTo] at ht <;> exact ht.symm
  · intro h
    cases s
    case created => exact absurd (h .funding (by decide)) (by decide)
    case funding => exact absurd (h .pending (by decide)) (by decide)
    case pending => exact absurd (h .claimable (by decide)) (by decide)
    case «protected» => exact absurd (h .claimable (by decide)) (by decide)
    case claimable => exact absurd (h .claiming (by decide)) (by decide)
    case claiming => exact absurd (h .claimed (by decide)) (by decide)
    case refundAvailable => exact absurd (h .refunding (by decide)) (by decide)
    case refunding => exact absurd (h .refunded (by decide)) (by decide)
    case expired => exact absurd (h .refunding (by decide)) (by decide)
    all_goals rfl

theorem eq_of_isTerminal {s t : PaymentStatus} (hs : s.isTerminal = true)
    (h : s.canTransitionTo t = true) : t = s := (isTerminal_iff s).mp hs t h

theorem transitionTo_ok {s t u : PaymentStatus} :
    s.transitionTo t = .ok u ↔ s.canTransitionTo t = true ∧ u = t := by
  unfold transitionTo
  split_ifs with h
  · simp [h, eq_comm]
  · simp [h]

end PaymentStatus
end Hanbova
