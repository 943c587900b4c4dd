import Hanbova.Core.PaymentIntent
import Hanbova.Library.Lowercase

/-! The texts of statuses and payment types: `Display` and `FromStr` in `payment_status.rs` and
`payment_type.rs`. -/
namespace Hanbova

open Library Library.Text

namespace PaymentStatus

protected def toString : PaymentStatus → String
  | .created => "created"
  | .funding => "funding"
  | .pending => "pending"
  | .«protected» => "protected"
  | .claimable => "claimable"
  | .claiming => "claiming"
  | .claimed => "claimed"
  | .refundAvailable => "refund_available"
  | .refunding => "refunding"
  | .refunded => "refunded"
  | .expired => "expired"
  | .failed => "failed"

def fromStr (T : CaseTable) (s : String) : Except String PaymentStatus :=
  match replaceChar '-' '_' (T.toLowercase s) with
  | "created" => .ok .created
  | "funding" => .ok .funding
  | "pending" => .ok .pending
  | "protected" => .ok .«protected»
  | "claimable" => .ok .claimable
  | "claiming" => .ok .claiming
  | "claimed" => .ok .claimed
  | "refund_available" => .ok .refundAvailable
  | "refundavailable" => .ok .refundAvailable
  | "refunding" => .ok .refunding
  | "refunded" => .ok .refunded
  | "expired" => .ok .expired
  | "failed" => .ok .failed
  | other => .error s!"Unknown payment status: {other}"

end PaymentStatus

namespace PaymentType

protected def toString : PaymentType → String
  | .instant => "instant"
  | .«protected» => "protected"

def fromStr (T : CaseTable) (s : String) : Except String PaymentType :=
  match T.toLowercase s with
  | "instant" => .ok .instant
  | "protected" => .ok .«protected»
  | other => .error s!"Unknown payment type: {other}"

end PaymentType

/-- A text of lower-case ASCII characters. -/
def lowerAscii (s : String) : Bool := s.toList.all fun c => c.toNat < 128 && c.toLower == c

theorem toLowercase_of_lowerAscii {T : CaseTable} {s : String} (h : lowerAscii s = true) :
    T.toLowercase s = s := by
  apply CaseTable.toLowercase_ascii
  intro c hc
  have hall := List.all_eq_true.mp h c hc
  simpa using hall

/-- The text of a status is read back as that status. -/
theorem PaymentStatus.fromStr_toString (T : CaseTable) (s : PaymentStatus) :
    fromStr T s.toString = .ok s := by
  have hlower : T.toLowercase s.toString = s.toString :=
    toLowercase_of_lowerAscii (by cases s <;> decide +kernel)
  have hkept : replaceChar '-' '_' s.toString = s.toString := by cases s <;> decide +kernel
  rw [fromStr, hlower, hkept]
  cases s <;> rfl

theorem PaymentType.fromStr_toString (T : CaseTable) (p : PaymentType) :
    fromStr T p.toString = .ok p := by
  have hlower : T.toLowercase p.toString = p.toString :=
    toLowercase_of_lowerAscii (by cases p <;> decide +kernel)
  rw [fromStr, hlower]
  cases p <;> rfl

end Hanbova
