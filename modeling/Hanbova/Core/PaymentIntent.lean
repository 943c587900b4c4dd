import Hanbova.Core.PaymentStatus
import Hanbova.Library.Uuid

/-! Payment intents and satoshi amounts: `payment_intent.rs`, `amount.rs`, `payment_type.rs`. -/
namespace Hanbova

open Library Library.Text

structure SatoshiAmount where
  sats : UInt64
  deriving DecidableEq

namespace SatoshiAmount

def maxSats : UInt64 := 21000000 * 100000000

def new (sats : UInt64) : Except CoreError SatoshiAmount :=
  if sats > maxSats then
    .error (.invalidAmount s!"Amount {sats} exceeds maximum 21M BTC supply in satoshis")
  else .ok ⟨sats⟩

def fromSats (sats : UInt64) : SatoshiAmount := ⟨sats⟩

def isZero (a : SatoshiAmount) : Bool := a.sats == 0

theorem toNat_maxSats : maxSats.toNat = 21000000 * 10 ^ 8 := by decide

theorem new_ok {sats : UInt64} {a : SatoshiAmount} (h : new sats = .ok a) :
    a = ⟨sats⟩ ∧ sats.toNat ≤ 21000000 * 10 ^ 8 := by
  simp only [new] at h
  split_ifs at h with hmax
  have hle : sats ≤ maxSats := UInt64.not_lt.mp hmax
  rw [UInt64.le_iff_toNat_le, toNat_maxSats] at hle
  exact ⟨(Except.ok.inj h).symm, hle⟩

theorem isZero_eq_false {a : SatoshiAmount} (h : a.isZero = false) : 0 < a.sats.toNat := by
  have hne : a.sats ≠ 0 := by simpa [isZero] using h
  apply Nat.pos_of_ne_zero
  intro h0
  exact hne (UInt64.toNat_inj.mp h0)

end SatoshiAmount

inductive PaymentType
  | instant
  | «protected»
  deriving DecidableEq

structure PaymentIntent where
  id : Uuid
  paymentType : PaymentType
  status : PaymentStatus
  amountSats : SatoshiAmount
  senderId : Option String
  recipientIdentifier : String
  description : Option String
  expiresAt : Option DateTime
  claimReference : Option String
  createdAt : DateTime
  updatedAt : DateTime
  deriving DecidableEq

namespace PaymentIntent

/-- `PaymentIntent::new`, with the identifier it draws and its reading of the clock. -/
def new (paymentType : PaymentType) (amountSats : SatoshiAmount) (recipientIdentifier : String)
    (senderId description : Option String) (expiresAt : Option DateTime) (id : Uuid)
    (now : DateTime) : Except CoreError PaymentIntent :=
  let recipient := trim recipientIdentifier
  if recipient = "" then
    .error (.validationError "Recipient identifier cannot be empty")
  else if amountSats.isZero then
    .error (.validationError "Amount must be greater than zero satoshis")
  else if expiresAt.any (· ≤ now) then
    .error (.validationError "Expiration time must be in the future")
  else
    .ok
      { id, paymentType, status := .created, amountSats, senderId,
        recipientIdentifier := recipient, description, expiresAt, claimReference := none,
        createdAt := now, updatedAt := now }

/-- `PaymentIntent::update_status`. -/
def updateStatus (self : PaymentIntent) (next : PaymentStatus) (now : DateTime) :
    Except CoreError PaymentIntent :=
  match self.status.transitionTo next with
  | .ok status => .ok { self with status, updatedAt := now }
  | .error e => .error e

def isExpired (self : PaymentIntent) (now : DateTime) : Bool :=
  match self.expiresAt with
  | some exp => exp ≤ now
  | none => false

theorem isExpired_iff {i : PaymentIntent} {exp now : DateTime} (h : i.expiresAt = some exp) :
    i.isExpired now = true ↔ exp ≤ now := by simp [isExpired, h]

theorem new_ok {paymentType : PaymentType} {amountSats : SatoshiAmount} {recipient : String}
    {senderId description : Option String} {expiresAt : Option DateTime} {id : Uuid}
    {now : DateTime} {i : PaymentIntent}
    (h : new paymentType amountSats recipient senderId description expiresAt id now = .ok i) :
    trim recipient ≠ "" ∧ amountSats.isZero = false ∧ (∀ t ∈ expiresAt, now < t) ∧
      i = { id, paymentType, status := .created, amountSats, senderId,
            recipientIdentifier := trim recipient, description, expiresAt,
            claimReference := none, createdAt := now, updatedAt := now } := by
  simp only [new] at h
  split_ifs at h with h₁ h₂ h₃
  refine ⟨h₁, by simpa using h₂, ?_, (Except.ok.inj h).symm⟩
  intro t ht
  rw [Option.mem_def] at ht
  subst ht
  simpa using h₃

theorem updateStatus_ok {i j : PaymentIntent} {next : PaymentStatus} {now : DateTime} :
    i.updateStatus next now = .ok j ↔
      i.status.canTransitionTo next = true ∧ j = { i with status := next, updatedAt := now } := by
  unfold updateStatus PaymentStatus.transitionTo
  split_ifs with h
  · simp [h, eq_comm]
  · simp [h]

/-- The parts of an intent that are fixed when it is created. -/
def SameTerms (i j : PaymentIntent) : Prop :=
  j = { i with status := j.status, updatedAt := j.updatedAt }

theorem SameTerms.refl (i : PaymentIntent) : SameTerms i i := rfl

theorem SameTerms.trans {i j k : PaymentIntent} (h : SameTerms i j) (h' : SameTerms j k) :
    SameTerms i k := by
  unfold SameTerms at *
  rw [h'] at *
  rw [h]

theorem sameTerms_report (i : PaymentIntent) (status : PaymentStatus) (now : DateTime) :
    SameTerms i { i with status, updatedAt := now } := rfl

/-- The terms one by one. -/
theorem SameTerms.fields {i j : PaymentIntent} (h : SameTerms i j) :
    j.id = i.id ∧ j.paymentType = i.paymentType ∧ j.amountSats = i.amountSats ∧
      j.senderId = i.senderId ∧ j.recipientIdentifier = i.recipientIdentifier ∧
      j.description = i.description ∧ j.expiresAt = i.expiresAt ∧
      j.claimReference = i.claimReference ∧ j.createdAt = i.createdAt := by
  rw [h]
  exact ⟨rfl, rfl, rfl, rfl, rfl, rfl, rfl, rfl, rfl⟩

end PaymentIntent
end Hanbova
