import Hanbova.Escrow.Settle
import Hanbova.Library.Transition

/-! Any number of concurrent calls of the Cashu provider, over a wallet and a mint that others
use as well. -/
namespace Hanbova

open Library Library.Text
open CashuProtectedPaymentProvider (Intents)

/-- A payment that is being created, at one of its calls of the wallet or before its insertion. -/
inductive PendingLock (c : Cdk)
  | checked (l : LockRequest c)
  | prepared (l : LockRequest c) (send : c.PreparedSend)
  | locked (l : LockRequest c) (t : TrackedPayment)

structure EscrowState (c : Cdk) where
  intents : Intents
  creating : List (PendingLock c)
  world : c.World

abbrev ReceiptAnswer := Except ProtectedPaymentError ProtectedPaymentReceipt

inductive EscrowEvent (c : Cdk)
  | external
  | createRefused (request : CreateProtectedPaymentRequest) (e : ProtectedPaymentError)
  | createChecked (l : LockRequest c)
  | createPrepared (l : LockRequest c) (answer : Except ProtectedPaymentError c.PreparedSend)
  | createConfirmed (l : LockRequest c) (answer : Except ProtectedPaymentError TrackedPayment)
  | createTracked (l : LockRequest c) (t : TrackedPayment) (receipt : ProtectedPaymentReceipt)
  | claimed (request : ClaimPaymentRequest) (now : DateTime) (answer : ReceiptAnswer)
  | refunded (request : RefundPaymentRequest) (now : DateTime) (answer : ReceiptAnswer)

/-- Who calls to settle a payment. -/
inductive Party
  | recipient
  | sender
  deriving DecidableEq

/-- The status that the party gives a claimable payment when the swap succeeds. -/
def Party.won : Party → PaymentStatus
  | .recipient => .claimed
  | .sender => .refunded

/-- The status that it leaves when the token had been spent before. -/
def Party.lost : Party → PaymentStatus
  | .recipient => .claimable
  | .sender => .claimed

/-- What claims and refunds have in common. -/
structure SettleCall where
  party : Party
  paymentId : Uuid
  proof : Option String
  cashuToken : Option String
  now : DateTime

/-- The sender has to wait for the locktime. -/
def SettleCall.Due (call : SettleCall) (r : TrackedPayment) : Prop :=
  call.party = .sender → r.locktime ≤ call.now

def EscrowEvent.call {c : Cdk} : EscrowEvent c → Option (SettleCall × ReceiptAnswer)
  | .claimed request now answer =>
    some (⟨.recipient, request.paymentId, some request.claimProof, request.cashuToken, now⟩, answer)
  | .refunded request now answer =>
    some (⟨.sender, request.paymentId, request.refundProof, request.cashuToken, now⟩, answer)
  | _ => none

namespace EscrowState
variable {c : Cdk}

open CashuProtectedPaymentProvider in
/-- The steps. What goes on at the mint and in the wallet besides may happen at any time, and an
identifier that the provider draws is not that of a tracked payment. -/
inductive Step (c : Cdk) (mintUrl : String) :
    EscrowState c → EscrowEvent c → EscrowState c → Prop
  | external {s w} : c.Later s.world w → Step c mintUrl s .external { s with world := w }
  | createRefused {s nowUnix request e} :
      checkRequest s.world mintUrl nowUnix request = .error e →
      Step c mintUrl s (.createRefused request e) s
  | createChecked {s nowUnix request l} :
      checkRequest s.world mintUrl nowUnix request = .ok l →
      Step c mintUrl s (.createChecked l) { s with creating := .checked l :: s.creating }
  | createPrepared {s l xs ys send w} :
      s.creating = xs ++ .checked l :: ys → prepareSend s.world l = (.ok send, w) →
      Step c mintUrl s (.createPrepared l (.ok send))
        { s with creating := xs ++ .prepared l send :: ys, world := w }
  | prepareFailed {s l xs ys e w} :
      s.creating = xs ++ .checked l :: ys → prepareSend s.world l = (.error e, w) →
      Step c mintUrl s (.createPrepared l (.error e)) { s with creating := xs ++ ys, world := w }
  | createConfirmed {s l send xs ys id now now₁ now₂ t w} :
      s.creating = xs ++ .prepared l send :: ys →
      confirm s.world l send id now now₁ now₂ = (.ok t, w) →
      Step c mintUrl s (.createConfirmed l (.ok t))
        { s with creating := xs ++ .locked l t :: ys, world := w }
  | confirmFailed {s l send xs ys id now now₁ now₂ e w} :
      s.creating = xs ++ .prepared l send :: ys →
      confirm s.world l send id now now₁ now₂ = (.error e, w) →
      Step c mintUrl s (.createConfirmed l (.error e)) { s with creating := xs ++ ys, world := w }
  | createTracked {s l t xs ys} :
      s.creating = xs ++ .locked l t :: ys →
      (l.request.paymentId = none → s.intents.lookup t.intent.id = none) →
      Step c mintUrl s (.createTracked l t (createReceipt t))
        { s with intents := track s.intents t, creating := xs ++ ys }
  | claimed {s request now answer intents w} :
      claimPayment s.intents s.world request now = (answer, intents, w) →
      Step c mintUrl s (.claimed request now answer) { s with intents, world := w }
  | refunded {s request now now₁ now₂ answer intents w} :
      refundPayment s.intents s.world request now now₁ now₂ = (answer, intents, w) →
      Step c mintUrl s (.refunded request now answer) { s with intents, world := w }

end EscrowState

/-- A provider that tracks nothing yet, over any wallet and mint. -/
def escrowSystem (c : Cdk) (mintUrl : String) : System (EscrowState c) (EscrowEvent c) where
  init s := s.intents = ∅ ∧ s.creating = []
  step := EscrowState.Step c mintUrl

namespace EscrowState
variable {c : Cdk} {mintUrl : String} {s t : EscrowState c} {e : EscrowEvent c}

/-- The step settles the payment of a call: the record before and after it. -/
structure Settles (s : EscrowState c) (call : SettleCall) (answer : ReceiptAnswer)
    (t : EscrowState c) (r r' : TrackedPayment) (key : c.SecretKey)
    (how : CashuProtectedPaymentProvider.Settlement) (now : DateTime) : Prop where
  lookup : s.intents.lookup call.paymentId = some r
  proof : ∃ proof, call.proof = some proof ∧ c.parseSecretKey proof = .ok key
  due : call.Due r
  moves : how.Moves call.party.won call.party.lost
  settle : CashuProtectedPaymentProvider.settle s.world r
    (CashuProtectedPaymentProvider.presented call.cashuToken r) key how now = (answer, r', t.world)
  set : Table.SetAt s.intents call.paymentId r' t.intents

/-- A call is refused, or it settles. -/
theorem Step.call_cases (h : Step c mintUrl s e t) {call : SettleCall} {answer : ReceiptAnswer}
    (hcall : e.call = some (call, answer)) :
    (t.intents = s.intents ∧ t.world = s.world ∧
      ∀ m, answer ≠ .error (.tokenAlreadySpent m)) ∨
    ∃ r r' key how now, Settles s call answer t r r' key how now := by
  cases h with
  | @claimed request now answer intents w hop =>
    obtain ⟨rfl, rfl⟩ := Prod.mk.inj (Option.some.inj hcall)
    rcases CashuProtectedPaymentProvider.claimPayment_cases hop with
      ⟨rfl, rfl, hans⟩ | ⟨r, r', key, hl, hk, hs, hm⟩
    · exact .inl ⟨rfl, rfl, hans⟩
    · exact .inr ⟨r, r', key, _, now, hl, ⟨_, rfl, hk⟩, by simp [SettleCall.Due],
        CashuProtectedPaymentProvider.claimSettlement_moves now, hs, hm⟩
  | @refunded request now now₁ now₂ answer intents w hop =>
    obtain ⟨rfl, rfl⟩ := Prod.mk.inj (Option.some.inj hcall)
    rcases CashuProtectedPaymentProvider.refundPayment_cases hop with
      ⟨rfl, rfl, hans⟩ | ⟨r, r', proof, key, hl, hdue, hp, hk, hs, hm⟩
    · exact .inl ⟨rfl, rfl, hans⟩
    · exact .inr ⟨r, r', key, _, now₁, hl, ⟨proof, hp, hk⟩, fun _ => hdue,
        CashuProtectedPaymentProvider.refundSettlement_moves now₁ now₂, hs, hm⟩
  | _ => cases hcall

/-- Other steps at most add a payment. -/
theorem Step.intents_of_no_call (h : Step c mintUrl s e t) (hcall : e.call = none) :
    (t.intents = s.intents ∧ ∀ l r receipt, e ≠ .createTracked l r receipt) ∨
    ∃ l r, e = .createTracked l r (CashuProtectedPaymentProvider.createReceipt r) ∧
      .locked l r ∈ s.creating ∧ Table.SetAt s.intents r.intent.id r t.intents ∧
      (l.request.paymentId = none → s.intents.lookup r.intent.id = none) := by
  cases h with
  | @createTracked l r xs ys hp hf =>
    exact .inr ⟨l, r, rfl, by rw [hp]; simp, Table.setAt_insert _ _ _, hf⟩
  | claimed _ => cases hcall
  | refunded _ => cases hcall
  | _ => exact .inl ⟨rfl, by simp⟩

/-- What a step does to the tracked payments: nothing, or it adds one, or it settles one. -/
theorem Step.records (h : Step c mintUrl s e t) :
    (t.intents = s.intents ∧ ∀ l r receipt, e ≠ .createTracked l r receipt) ∨
    (∃ l r, e = .createTracked l r (CashuProtectedPaymentProvider.createReceipt r) ∧
      .locked l r ∈ s.creating ∧ Table.SetAt s.intents r.intent.id r t.intents ∧
      (l.request.paymentId = none → s.intents.lookup r.intent.id = none)) ∨
    ∃ call answer r r' key how now, e.call = some (call, answer) ∧
      Settles s call answer t r r' key how now := by
  cases hcall : e.call with
  | none =>
    rcases h.intents_of_no_call hcall with hkeep | hadd
    · exact .inl hkeep
    · exact .inr (.inl hadd)
  | some p =>
    obtain ⟨call, answer⟩ := p
    rcases h.call_cases hcall with ⟨hi, -, -⟩ | ⟨r, r', key, how, now, hset⟩
    · refine .inl ⟨hi, ?_⟩
      rintro l r receipt rfl
      cases hcall
    · exact .inr (.inr ⟨call, answer, r, r', key, how, now, rfl, hset⟩)

theorem Settles.later {call : SettleCall} {answer : ReceiptAnswer} {r r' : TrackedPayment}
    {key : c.SecretKey} {how : CashuProtectedPaymentProvider.Settlement} {now : DateTime}
    (hc : c.Lawful) (h : Settles s call answer t r r' key how now) : c.Later s.world t.world := by
  have hw : ∀ {a}, c.receive s.world (CashuProtectedPaymentProvider.presented call.cashuToken r)
      [key] = (a, t.world) → c.Later s.world t.world := by
    intro a ha
    have hl := hc.receive_later s.world
      (CashuProtectedPaymentProvider.presented call.cashuToken r) [key]
    rwa [ha] at hl
  rcases CashuProtectedPaymentProvider.settle_cases h.settle with
    ⟨_, hr, -⟩ | ⟨_, hr, -⟩ | ⟨_, hr, -⟩ <;> exact hw hr

/-- Along every step spent tokens stay spent. -/
theorem Step.later (hc : c.Lawful) (h : Step c mintUrl s e t) : c.Later s.world t.world := by
  cases hcall : e.call with
  | some p =>
    obtain ⟨call, answer⟩ := p
    rcases h.call_cases hcall with ⟨-, hw, -⟩ | ⟨r, r', key, how, now, hs⟩
    · rw [hw]
      exact .refl _
    · exact hs.later hc
  | none =>
    cases h with
    | external hw => exact hw
    | @createPrepared l xs ys send w _ hp =>
      have hl := hc.prepareSend_later s.world l.request.amountSats.sats l.recipientPubkey
        l.spendingConditions
      rwa [CashuProtectedPaymentProvider.world_of_prepareSend hp] at hl
    | @prepareFailed l xs ys err w _ hp =>
      have hl := hc.prepareSend_later s.world l.request.amountSats.sats l.recipientPubkey
        l.spendingConditions
      rwa [CashuProtectedPaymentProvider.world_of_prepareSend hp] at hl
    | @createConfirmed l send xs ys id now now₁ now₂ r w _ hp =>
      have hl := hc.confirm_later s.world send
      rwa [CashuProtectedPaymentProvider.world_of_confirm hp] at hl
    | @confirmFailed l send xs ys id now now₁ now₂ err w _ hp =>
      have hl := hc.confirm_later s.world send
      rwa [CashuProtectedPaymentProvider.world_of_confirm hp] at hl
    | claimed _ => cases hcall
    | refunded _ => cases hcall
    | _ => exact .refl _

end EscrowState
end Hanbova
