import Hanbova.Core.PaymentStatus

/-! Errors of the API server: `services/api/src/error.rs`. -/
namespace Hanbova

/-- What the repositories can get back from `sqlx`. -/
inductive SqlxError
  | rowNotFound
  | other (message : String)
  deriving DecidableEq

inductive ApiError
  | core (e : CoreError)
  | database (e : SqlxError)
  | badRequest (message : String)
  | unauthorized (message : String)
  | forbidden (message : String)
  | notFound (message : String)
  | conflict (message : String)
  | internal (message : String)
  deriving DecidableEq

/-- The ways a handler ends without an answer of its own: an error, or a panic. -/
inductive Fault
  | error (e : ApiError)
  | panicked
  deriving DecidableEq

end Hanbova
