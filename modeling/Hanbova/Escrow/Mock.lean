import Hanbova.Escrow.Tracking

/-! The mock provider: `mock.rs`, and any number of its concurrent calls. -/
namespace Hanbova

open Library Library.Text

namespace MockProtectedPaymentProvider

abbrev Intents := Table Uuid PaymentIntent

/-- The record of `create_protected_payment`. The clock is read when the intent is made and at
each of its two transitions. -/
def buildIntent (request : CreateProtectedPaymentRequest) (id : Uuid)
    (now now₁ now₂ : DateTime) : Except ProtectedPaymentError PaymentIntent := do
  let intent ← (PaymentIntent.new .«protected» request.amountSats request.recipientIdentifier
    request.senderId request.description (some request.expiresAt) id now).mapError .core
  let intent := { intent with id := request.paymentId.getD intent.id }
  let intent ← (intent.updateStatus .«protected» now₁).mapError .core
  (intent.updateStatus .claimable now₂).mapError .core

def createReceipt (request : CreateProtectedPaymentRequest) (intent : PaymentIntent) :
    ProtectedPaymentReceipt where
  paymentId := intent.id
  status := intent.status
  amountSats := intent.amountSats
  recipientIdentifier := intent.recipientIdentifier
  expiresAt := request.expiresAt
  claimReference := "hnbv_claim_" ++ intent.id.simple
  cashuToken := some ("cashuA_mock_" ++ intent.id.simple)
  createdAt := intent.createdAt

/-- `create_protected_payment` as a whole. -/
def createProtectedPayment (intents : Intents) (request : CreateProtectedPaymentRequest)
    (id : Uuid) (now now₁ now₂ : DateTime) :
    Except ProtectedPaymentError ProtectedPaymentReceipt × Intents :=
  match buildIntent request id now now₁ now₂ with
  | .error e => (.error e, intents)
  | .ok intent => (.ok (createReceipt request intent), intents.insert intent.id intent)

/-- The receipt of a claim or a refund. -/
def settledReceipt (intent : PaymentIntent) (now : DateTime) (reference : String) :
    ProtectedPaymentReceipt where
  paymentId := intent.id
  status := intent.status
  amountSats := intent.amountSats
  recipientIdentifier := intent.recipientIdentifier
  expiresAt := intent.expiresAt.getD now
  claimReference := reference ++ intent.id.simple
  cashuToken := none
  createdAt := intent.createdAt

/-- `claim_payment` on the record: the answer and what it leaves of the record. `now` is the clock
at the check of the expiry, `now₁` at the transition. -/
def claim (intent : PaymentIntent) (request : ClaimPaymentRequest) (now now₁ : DateTime) :
    Except ProtectedPaymentError ProtectedPaymentReceipt × PaymentIntent :=
  if intent.isExpired now then
    match intent.progress .refundAvailable now₁ with
    | (i, .error e) => (.error (.core e), i)
    | (i, .ok ()) => (.error (.paymentExpired (i.expiresAt.getD now)), i)
  else if intent.status ≠ .claimable ∧ intent.status ≠ .«protected» then
    (.error (.core (.cannotClaim intent.status)), intent)
  else if trim request.claimProof = "" then
    (.error (.invalidClaimProof "Claim proof is empty"), intent)
  else match intent.progress .claimed now₁ with
    | (i, .error e) => (.error (.core e), i)
    | (i, .ok ()) => (.ok (settledReceipt i now "claimed_"), i)

/-- `refund_payment` on the record, where the clock is read before each transition. -/
def refund (intent : PaymentIntent) (now now₁ now₂ : DateTime) :
    Except ProtectedPaymentError ProtectedPaymentReceipt × PaymentIntent :=
  if !intent.isExpired now then
    (.error (.paymentNotExpired (intent.expiresAt.getD now)), intent)
  else
    match (if intent.status ≠ .refundAvailable ∧ intent.status ≠ .expired then
        intent.progress .refundAvailable now₁ else (intent, .ok ())) with
    | (i, .error e) => (.error (.core e), i)
    | (i, .ok ()) =>
      match i.progress .refunded now₂ with
      | (j, .error e) => (.error (.core e), j)
      | (j, .ok ()) => (.ok (settledReceipt j now "refunded_"), j)

/-- A call on the record of a payment, which it writes back under the same identifier. -/
def settleAt (intents : Intents) (id : Uuid)
    (op : PaymentIntent → Except ProtectedPaymentError ProtectedPaymentReceipt × PaymentIntent) :
    Except ProtectedPaymentError ProtectedPaymentReceipt × Intents :=
  match intents.lookup id with
  | none => (.error (.notFound id.toString), intents)
  | some intent => ((op intent).1, intents.insert id (op intent).2)

def claimPayment (intents : Intents) (request : ClaimPaymentRequest) (now now₁ : DateTime) :
    Except ProtectedPaymentError ProtectedPaymentReceipt × Intents :=
  settleAt intents request.paymentId fun i => claim i request now now₁

def refundPayment (intents : Intents) (request : RefundPaymentRequest)
    (now now₁ now₂ : DateTime) :
    Except ProtectedPaymentError ProtectedPaymentReceipt × Intents :=
  settleAt intents request.paymentId fun i => refund i now now₁ now₂

def getPaymentStatus (intents : Intents) (paymentId : Uuid) :
    Except ProtectedPaymentError PaymentStatus :=
  match intents.lookup paymentId with
  | none => .error (.notFound paymentId.toString)
  | some intent => .ok intent.status

/-! ### What the calls do to a payment -/

/-- The record is the new intent under its identifier, made claimable. -/
theorem buildIntent_eq_ok {request : CreateProtectedPaymentRequest} {id : Uuid}
    {now now₁ now₂ : DateTime} {i : PaymentIntent} :
    buildIntent request id now now₁ now₂ = .ok i ↔
      ∃ j, PaymentIntent.new .«protected» request.amountSats request.recipientIdentifier
        request.senderId request.description (some request.expiresAt) id now = .ok j ∧
        { j with id := request.paymentId.getD j.id, status := .claimable, updatedAt := now₂ } =
          i := by
  unfold buildIntent
  cases hn : PaymentIntent.new .«protected» request.amountSats request.recipientIdentifier
      request.senderId request.description (some request.expiresAt) id now with
  | error e => simp [Except.mapError, bind, Except.bind]
  | ok j =>
    obtain ⟨-, -, -, rfl⟩ := PaymentIntent.new_ok hn
    have h₁ : PaymentStatus.created.canTransitionTo .«protected» = true := rfl
    have h₂ : PaymentStatus.«protected».canTransitionTo .claimable = true := rfl
    simp [Except.mapError, bind, Except.bind, PaymentIntent.updateStatus,
      PaymentStatus.transitionTo, h₁, h₂]

theorem buildIntent_ok {request : CreateProtectedPaymentRequest} {id : Uuid}
    {now now₁ now₂ : DateTime} {i : PaymentIntent}
    (h : buildIntent request id now now₁ now₂ = .ok i) :
    i.status = .claimable ∧ i.id = request.paymentId.getD id ∧
      i.amountSats = request.amountSats := by
  obtain ⟨j, hn, rfl⟩ := buildIntent_eq_ok.mp h
  obtain ⟨-, -, -, rfl⟩ := PaymentIntent.new_ok hn
  exact ⟨rfl, rfl, rfl⟩

theorem expiresAt_of_buildIntent {request : CreateProtectedPaymentRequest} {id : Uuid}
    {now now₁ now₂ : DateTime} {i : PaymentIntent}
    (h : buildIntent request id now now₁ now₂ = .ok i) :
    i.expiresAt = some request.expiresAt := by
  obtain ⟨j, hn, rfl⟩ := buildIntent_eq_ok.mp h
  obtain ⟨-, -, -, rfl⟩ := PaymentIntent.new_ok hn
  rfl

theorem continues_claim (i : PaymentIntent) (request : ClaimPaymentRequest)
    (now now₁ : DateTime) : i.Continues (claim i request now now₁).2 := by
  have hstep := fun next => PaymentIntent.Continues.progress i next now₁
  unfold claim
  split_ifs
  · have h := hstep .refundAvailable
    split <;> rename_i heq <;> rwa [heq] at h
  · exact .refl i
  · exact .refl i
  · have h := hstep .claimed
    split <;> rename_i heq <;> rwa [heq] at h

theorem continues_refund (i : PaymentIntent) (now now₁ now₂ : DateTime) :
    i.Continues (refund i now now₁ now₂).2 := by
  unfold refund
  split
  · exact .refl i
  · have h₁ : i.Continues (if i.status ≠ .refundAvailable ∧ i.status ≠ .expired then
        i.progress .refundAvailable now₁ else (i, .ok ())).1 := by
      split_ifs
      · exact .progress i _ _
      · exact .refl i
    split
    · rename_i heq
      rwa [heq] at h₁
    · rename_i j heq
      rw [heq] at h₁
      have h₂ := PaymentIntent.Continues.progress j .refunded now₂
      split <;> rename_i heq₂ <;> rw [heq₂] at h₂ <;> exact h₁.trans h₂

section
variable {intents intents' : Intents} {id : Uuid} {i : PaymentIntent}
  {op : PaymentIntent → Except ProtectedPaymentError ProtectedPaymentReceipt × PaymentIntent}
  {answer : Except ProtectedPaymentError ProtectedPaymentReceipt}

theorem settleAt_of_none (hl : intents.lookup id = none) :
    settleAt intents id op = (.error (.notFound id.toString), intents) := by
  unfold settleAt
  rw [hl]

theorem settleAt_of_some (hl : intents.lookup id = some i) :
    settleAt intents id op = ((op i).1, intents.insert id (op i).2) := by
  unfold settleAt
  rw [hl]

/-- A call either refuses an unknown payment, or answers by its record and writes that back. -/
theorem settleAt_spec (h : settleAt intents id op = (answer, intents')) :
    ((∃ e, answer = .error e) ∧ intents' = intents) ∨
      ∃ i, intents.lookup id = some i ∧ answer = (op i).1 ∧
        Table.SetAt intents id (op i).2 intents' := by
  cases hl : intents.lookup id with
  | none =>
    rw [settleAt_of_none hl] at h
    obtain ⟨rfl, rfl⟩ := Prod.mk.inj h
    exact .inl ⟨⟨_, rfl⟩, rfl⟩
  | some i =>
    rw [settleAt_of_some hl] at h
    obtain ⟨rfl, rfl⟩ := Prod.mk.inj h
    exact .inr ⟨i, rfl, rfl, Table.setAt_insert _ _ _⟩

end

end MockProtectedPaymentProvider

/-! ### Concurrent calls -/

structure MockState where
  intents : MockProtectedPaymentProvider.Intents
  creating : List (CreateProtectedPaymentRequest × PaymentIntent)

inductive MockEvent
  | createRefused (request : CreateProtectedPaymentRequest) (e : ProtectedPaymentError)
  | createBuilt (request : CreateProtectedPaymentRequest) (intent : PaymentIntent)
  | createTracked (request : CreateProtectedPaymentRequest) (intent : PaymentIntent)
      (receipt : ProtectedPaymentReceipt)
  | claimed (request : ClaimPaymentRequest)
      (answer : Except ProtectedPaymentError ProtectedPaymentReceipt)
  | refunded (request : RefundPaymentRequest)
      (answer : Except ProtectedPaymentError ProtectedPaymentReceipt)

namespace MockState

open MockProtectedPaymentProvider in
/-- A new record is built before the lock on the tracked payments is taken; an identifier that the
provider draws is not that of a tracked payment. -/
inductive Step : MockState → MockEvent → MockState → Prop
  | createRefused {s request id now now₁ now₂ e} :
      buildIntent request id now now₁ now₂ = .error e → Step s (.createRefused request e) s
  | createBuilt {s request id now now₁ now₂ i} :
      buildIntent request id now now₁ now₂ = .ok i →
      Step s (.createBuilt request i) { s with creating := (request, i) :: s.creating }
  | createTracked {s request i} :
      (request, i) ∈ s.creating →
      (request.paymentId = none → s.intents.lookup i.id = none) →
      Step s (.createTracked request i (createReceipt request i))
        { intents := s.intents.insert i.id i, creating := s.creating.erase (request, i) }
  | claimed {s request now now₁ answer intents} :
      claimPayment s.intents request now now₁ = (answer, intents) →
      Step s (.claimed request answer) { s with intents }
  | refunded {s request now now₁ now₂ answer intents} :
      refundPayment s.intents request now now₁ now₂ = (answer, intents) →
      Step s (.refunded request answer) { s with intents }

end MockState

def mockSystem : System MockState MockEvent where
  init s := s = ⟨∅, []⟩
  step := MockState.Step

end Hanbova
