import Hanbova.Payments.Refinement
import Hanbova.Payments.System

/-! The payment service over PostgreSQL: what it reads before it writes, and what a transaction
answers it. -/
namespace Hanbova

open Library Library.Text
open InMemoryPaymentIntentRepository (Storage updateStatus)
open PgPaymentIntentRepository (Rows Stores)

namespace PgPaymentService

/-- `update_payment_status` up to the call of the repository. -/
def readAndAuthorise (T : CaseTable) (rows : Rows) (req : UpdatePaymentStatusRequest) :
    Except ApiError PaymentIntent :=
  match PgPaymentIntentRepository.findById T rows req.paymentId with
  | .error e => .error e
  | .ok none => .error (.notFound s!"Payment intent {req.paymentId} not found")
  | .ok (some intent) =>
    match PaymentService.authoriseUpdate intent req with
    | .error e => .error e
    | .ok () => .ok intent

/-- `validate_protected_message_link`. -/
def validateProtectedMessageLink (T : CaseTable) (rows : Rows) (paymentId senderId : Uuid)
    (senderUsername : String) (recipientId : Uuid) (recipientUsername : String) :
    Except ApiError Unit :=
  match PgPaymentIntentRepository.findById T rows paymentId with
  | .error e => .error e
  | .ok none => .error (.notFound s!"Payment intent {paymentId} not found")
  | .ok (some intent) =>
    let sender := PaymentService.isSender intent senderId.toString (some senderUsername)
    let recipient := PaymentService.isRecipient intent recipientId.toString (some recipientUsername)
    if !sender || !recipient then
      .error (.forbidden "Payment intent does not belong to this sender and recipient")
    else if intent.paymentType ≠ .«protected» then
      .error (.badRequest "Protected messages can only link to protected payment intents")
    else .ok ()

variable {T : CaseTable} {P : Precision} {rows : Rows} {m : Storage}

/-- The snapshot has the times of the columns. -/
theorem readAndAuthorise_eq (h : Stores P rows m) (req : UpdatePaymentStatusRequest) :
    readAndAuthorise T rows req =
      (PaymentService.readAndAuthorise m req).map (PaymentIntent.rounded P) := by
  unfold readAndAuthorise PaymentService.readAndAuthorise
  rw [h.readsAs]
  cases InMemoryPaymentIntentRepository.findById m req.paymentId with
  | none => rfl
  | some i =>
    -- the actor rules do not look at the times
    have hrules : PaymentService.authoriseUpdate (i.rounded P) req =
        PaymentService.authoriseUpdate i req := rfl
    simp only [Option.map_some, hrules]
    cases PaymentService.authoriseUpdate i req <;> rfl

theorem validateProtectedMessageLink_eq (h : Stores P rows m) (p s r : Uuid) (sn rn : String) :
    validateProtectedMessageLink T rows p s sn r rn =
      PaymentService.validateProtectedMessageLink m p s sn r rn := by
  unfold validateProtectedMessageLink PaymentService.validateProtectedMessageLink
  rw [h.readsAs]
  cases InMemoryPaymentIntentRepository.findById m p <;> rfl

end PgPaymentService

/-! ### What is answered, at the precision of the columns -/

def PendingUpdate.rounded (P : Precision) (u : PendingUpdate) : PendingUpdate :=
  { u with snapshot := u.snapshot.rounded P }

def PaymentIntentResponse.rounded (P : Precision) (r : PaymentIntentResponse) :
    PaymentIntentResponse :=
  { r with
    expiresAt := r.expiresAt.map P.expiresAt
    createdAt := P.createdAt r.createdAt
    updatedAt := P.updatedAt r.updatedAt }

/-- An intent is answered as it has been created, and after an update as it has been read. -/
def PaymentEvent.rounded (P : Precision) : PaymentEvent → PaymentEvent
  | .updateAuthorised u => .updateAuthorised (u.rounded P)
  | .updateWritten u now answer =>
    .updateWritten (u.rounded P) now (answer.map (PaymentIntentResponse.rounded P))
  | e => e

/-- The transaction has read the clock for its write, or has nothing to write. -/
def StatusUpdate.WroteAt (t : StatusUpdate) (now : DateTime) : Prop :=
  ∀ row now', t.phase = .written row now' → now' = now

namespace PgPaymentState
variable {T : CaseTable} {P : Precision} {s s' : PgPaymentState} {t : StatusUpdate} {m : Storage}

open PgPaymentIntentRepository
open InMemoryPaymentIntentRepository (updateStatus_of_none updateStatus_of_error
  updateStatus_of_repeated updateStatus_of_moved)

/-- A transaction answers what the critical section answers, executed at that step with the clock
of the write. -/
theorem Step.answers {result : Except ApiError DateTime} (h : Step T P s (.answered t result) s')
    (hs : s.Invariant T P) (hm : Stores P s.rows m) {now : DateTime} (hnow : t.WroteAt now) :
    (∃ e, result = .error e ∧ updateStatus m t.id t.status now = .error e ∧
      Stores P s'.rows m) ∨
    ∃ at_ m', result = .ok (P.updatedAt at_) ∧
      updateStatus m t.id t.status now = .ok (at_, m') ∧ Stores P s'.rows m' := by
  cases h with
  | notFound ht hp hl => exact .inl ⟨_, rfl, updateStatus_of_none _ now (hm.none hl), hm⟩
  | refused ht hp hc =>
    have hv := hs.valid t ht
    simp only [StatusUpdate.Valid, hp] at hv
    obtain ⟨row, hl, rfl, -⟩ := hv
    obtain ⟨i, hi, rfl⟩ := hm.some hl
    obtain ⟨c, htrans, rfl⟩ := checkTransition_error hc
    exact .inl ⟨_, rfl, updateStatus_of_error now hi htrans, hm⟩
  | repeated ht hp hc he =>
    have hv := hs.valid t ht
    simp only [StatusUpdate.Valid, hp] at hv
    obtain ⟨row, hl, rfl, rfl⟩ := hv
    obtain ⟨i, hi, rfl⟩ := hm.some hl
    obtain ⟨rfl, htrans⟩ := checkTransition_ok hc
    exact .inr ⟨i.updatedAt, m, rfl, updateStatus_of_repeated now hi htrans he, hm⟩
  | missing ht hp hc hne hl =>
    -- the lock keeps the row where it is
    obtain ⟨row, hrow⟩ := (hs.valid t ht).row (holds_of_locked hp)
    rw [hl] at hrow
    cases hrow
  | @committed _ row now' ht hp =>
    obtain rfl := hnow row now' hp
    have hv := hs.valid t ht
    simp only [StatusUpdate.Valid, hp] at hv
    obtain ⟨row₀, current, hl, hc, hne, rfl⟩ := hv
    obtain ⟨i, hi, rfl⟩ := hm.some hl
    obtain ⟨rfl, htrans⟩ := checkTransition_ok hc
    have hrow : Table.SetAt s.rows t.id (encode P { i with status := t.status, updatedAt := now' })
        (s.rows.insert t.id (reported P (encode P i) t.status now')) := by
      rw [reported_encode]
      exact Table.setAt_insert _ _ _
    exact .inr ⟨now', _, rfl, updateStatus_of_moved now' hi htrans hne,
      hm.set hrow (Table.setAt_insert _ _ _)⟩

end PgPaymentState
end Hanbova
