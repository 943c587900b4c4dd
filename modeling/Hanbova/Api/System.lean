import Hanbova.Accounts.Identity
import Hanbova.Messages.System
import Hanbova.Payments.System

/-! The API server: registrations, payments and messages run concurrently, and the message
handlers read the accounts and the payments. -/
namespace Hanbova

open Library Library.Text
open InMemoryUserRepository (Users)
open InMemoryPaymentIntentRepository (Storage)

structure ApiState (T : CaseTable) where
  accounts : AccountState T
  payments : PaymentState
  messages : MessageState

inductive ApiEvent (T : CaseTable)
  | account (e : AccountEvent T)
  | payment (e : PaymentEvent)
  | message (e : MessageEvent)

/-- The user who makes a request, at the step that takes the request in. -/
def MessageEvent.caller : MessageEvent → Option AuthUser
  | .createRefused authUser _ _ => some authUser
  | .createAddressed m => some m.authUser
  | .ackRefused authUser _ _ _ => some authUser
  | .ackChecked p => some p.authUser
  | _ => none

/-- Access tokens are issued for stored users only. -/
def Authentic (users : Users) (authUser : AuthUser) : Prop :=
  ∃ u, users.lookup authUser.userId = some u ∧ u.username = authUser.username

namespace ApiState
variable {T : CaseTable}

def initial : ApiState T := ⟨.initial, .initial, .initial⟩

inductive Step : ApiState T → ApiEvent T → ApiState T → Prop
  | account {s e accounts} :
      AccountState.Step s.accounts e accounts → Step s (.account e) { s with accounts }
  | payment {s e payments} :
      PaymentState.Step s.payments e payments → Step s (.payment e) { s with payments }
  | message {s e messages} :
      (∀ authUser ∈ e.caller, Authentic s.accounts.users authUser) →
      MessageState.Step T s.accounts.users s.payments.storage s.messages e messages →
      Step s (.message e) { s with messages }

end ApiState

def apiSystem (T : CaseTable) : System (ApiState T) (ApiEvent T) where
  init s := s = .initial
  step := ApiState.Step

namespace ApiState
variable {T : CaseTable} {s t : ApiState T} {e : ApiEvent T}

/-! ### Each component runs as it would alone -/

theorem accounts_reachable (h : (apiSystem T).Reachable s) :
    (accountSystem T).Reachable s.accounts := by
  apply h.map ApiState.accounts (fun _ hi => by rw [hi]; rfl)
  intro s e t hl
  cases hl with
  | account hl => exact .inr ⟨_, hl⟩
  | payment _ => exact .inl rfl
  | message _ _ => exact .inl rfl

theorem payments_reachable (h : (apiSystem T).Reachable s) :
    paymentSystem.Reachable s.payments := by
  apply h.map ApiState.payments (fun _ hi => by rw [hi]; rfl)
  intro s e t hl
  cases hl with
  | account _ => exact .inl rfl
  | payment hl => exact .inr ⟨_, hl⟩
  | message _ _ => exact .inl rfl

theorem roster_of_reachable (h : (apiSystem T).Reachable s) : Roster T s.accounts.users :=
  (AccountState.invariant_of_reachable (accounts_reachable h)).roster

/-- No step removes or changes an account. -/
theorem Step.users (h : Step s e t) (hs : (apiSystem T).Reachable s) :
    Table.Evolves Eq s.accounts.users t.accounts.users := by
  cases h with
  | account hl =>
    exact hl.keeps (AccountState.invariant_of_reachable (accounts_reachable hs)).inbound
  | payment _ => exact .refl (fun _ => rfl) _
  | message _ _ => exact .refl (fun _ => rfl) _

/-- No step removes a payment or changes its terms. -/
theorem Step.storage (h : Step s e t) (hs : (apiSystem T).Reachable s) :
    Table.Evolves PaymentState.Reported s.payments.storage t.payments.storage := by
  have hrefl : ∀ i, PaymentState.Reported i i := fun i => ⟨.refl i, .inl rfl⟩
  cases h with
  | account _ => exact .refl hrefl _
  | payment hl => exact hl.evolves (PaymentState.invariant_of_reachable (payments_reachable hs))
  | message _ _ => exact .refl hrefl _

end ApiState
end Hanbova
