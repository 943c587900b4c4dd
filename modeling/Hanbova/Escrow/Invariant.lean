import Hanbova.Escrow.System

/-! The tracked payments of a reachable state: their statuses and identifiers. -/
namespace Hanbova

open Library Library.Text
open CashuProtectedPaymentProvider (Intents AtRest)

namespace EscrowState
variable {c : Cdk} {mintUrl : String} {s t : EscrowState c} {e : EscrowEvent c}

/-- A new record is claimable and bears the identifier that the request supplies. -/
def Ready (l : LockRequest c) (r : TrackedPayment) : Prop :=
  r.intent.status = .claimable ∧ ∀ id, l.request.paymentId = some id → r.intent.id = id

/-- What every run keeps: each payment lies under its identifier with a status at rest, and new
records are ready. -/
structure Invariant (s : EscrowState c) : Prop where
  keyed : Table.Keyed (fun r : TrackedPayment => r.intent.id) s.intents
  atRest : ∀ id r, s.intents.lookup id = some r → AtRest r.intent
  locked : ∀ l r, .locked l r ∈ s.creating → Ready l r

/-- The record of a settled payment: the same payment, with a status that depends on the outcome
at the mint. -/
theorem Settles.record {call : SettleCall} {answer : ReceiptAnswer} {r r' : TrackedPayment}
    {key : c.SecretKey} {how : CashuProtectedPaymentProvider.Settlement} {now : DateTime}
    (h : Settles s call answer t r r' key how now) (hr : AtRest r.intent) :
    r' = { r with intent := r'.intent } ∧ r.intent.SameTerms r'.intent ∧
      (r'.intent.status = r.intent.status ∨
        (r.intent.status = .claimable ∧
          (r'.intent.status = call.party.won ∨ r'.intent.status = call.party.lost))) := by
  rcases CashuProtectedPaymentProvider.settle_cases h.settle with
    ⟨_, -, rfl, -⟩ | ⟨_, -, -, rfl, -⟩ | ⟨_, -, rfl, -⟩
  · refine ⟨rfl, h.moves.terms _, ?_⟩
    rw [h.moves.win _ hr]
    split_ifs with hst
    · exact .inr ⟨hst, .inl rfl⟩
    · exact .inl rfl
  · refine ⟨rfl, r.intent.sameTerms_progress _ _, ?_⟩
    rw [h.moves.guess _ _ hr]
    split_ifs with hst
    · exact .inr ⟨hst, .inr rfl⟩
    · exact .inl rfl
  · exact ⟨rfl, .refl _, .inl rfl⟩

theorem Settles.atRest {call : SettleCall} {answer : ReceiptAnswer} {r r' : TrackedPayment}
    {key : c.SecretKey} {how : CashuProtectedPaymentProvider.Settlement} {now : DateTime}
    (h : Settles s call answer t r r' key how now) (hr : AtRest r.intent) : AtRest r'.intent := by
  unfold CashuProtectedPaymentProvider.AtRest at *
  rcases (h.record hr).2.2 with he | ⟨-, he | he⟩
  · rwa [he]
  · rw [he]
    cases call.party <;> simp [Party.won]
  · rw [he]
    cases call.party <;> simp [Party.lost]

theorem Step.locked (h : Step c mintUrl s e t) (hs : s.Invariant) :
    ∀ l r, .locked l r ∈ t.creating → Ready l r := by
  intro l r hr
  have mem : ∀ {xs ys : List (PendingLock c)} {p}, s.creating = xs ++ p :: ys →
      .locked l r ∈ xs ++ ys → .locked l r ∈ s.creating := by
    intro xs ys p he hm
    rw [he]
    rcases List.mem_append.mp hm with hm | hm
    · exact List.mem_append_left _ hm
    · exact List.mem_append_right _ (List.mem_cons_of_mem _ hm)
  cases h with
  | createChecked _ =>
    rcases List.mem_cons.mp hr with he | hr
    · cases he
    · exact hs.locked l r hr
  | createPrepared he _ =>
    rcases List.mem_append.mp hr with hr | hr
    · exact hs.locked l r (mem he (List.mem_append_left _ hr))
    · rcases List.mem_cons.mp hr with hp | hr
      · cases hp
      · exact hs.locked l r (mem he (List.mem_append_right _ hr))
  | createConfirmed he hc =>
    rcases List.mem_append.mp hr with hr | hr
    · exact hs.locked l r (mem he (List.mem_append_left _ hr))
    · rcases List.mem_cons.mp hr with hp | hr
      · cases hp
        obtain ⟨hst, hid⟩ := CashuProtectedPaymentProvider.confirm_ok hc
        exact ⟨hst, fun id hl => by rw [hid, hl]; rfl⟩
      · exact hs.locked l r (mem he (List.mem_append_right _ hr))
  | prepareFailed he _ => exact hs.locked l r (mem he hr)
  | confirmFailed he _ => exact hs.locked l r (mem he hr)
  | createTracked he _ => exact hs.locked l r (mem he hr)
  | _ => exact hs.locked l r hr

/-- Keys and statuses survive the replacement of one record. -/
theorem Invariant.set (hs : s.Invariant) {id : Uuid} {r : TrackedPayment} {intents : Intents}
    (hset : Table.SetAt s.intents id r intents) (hid : r.intent.id = id) (hr : AtRest r.intent) :
    Table.Keyed (fun r : TrackedPayment => r.intent.id) intents ∧
      ∀ id r, intents.lookup id = some r → AtRest r.intent := by
  refine ⟨hs.keyed.set hset hid, ?_⟩
  intro id' r' hl
  rw [hset id'] at hl
  split_ifs at hl with he
  · rwa [← Option.some.inj hl]
  · exact hs.atRest id' r' hl

theorem Step.invariant (h : Step c mintUrl s e t) (hs : s.Invariant) : t.Invariant := by
  have hkeep : Table.Keyed (fun r : TrackedPayment => r.intent.id) t.intents ∧
      ∀ id r, t.intents.lookup id = some r → AtRest r.intent := by
    rcases h.records with
      ⟨hi, -⟩ | ⟨l, r, -, hr, hset, -⟩ | ⟨call, answer, r, r', key, how, now, -, hset⟩
    · rw [hi]
      exact ⟨hs.keyed, hs.atRest⟩
    · exact hs.set hset rfl (.inl (hs.locked l r hr).1)
    · have hrest := hs.atRest _ _ hset.lookup
      have hid : r.intent.id = call.paymentId := hs.keyed _ _ hset.lookup
      have hid' : r'.intent.id = call.paymentId :=
        (hset.record hrest).2.1.fields.1.trans hid
      exact hs.set hset.set hid' (hset.atRest hrest)
  exact ⟨hkeep.1, hkeep.2, h.locked hs⟩

end EscrowState

theorem escrowInvariant_of_reachable {c : Cdk} {mintUrl : String} {s : EscrowState c}
    (h : (escrowSystem c mintUrl).Reachable s) : s.Invariant := by
  refine h.induct ?_ fun s e t _ hs hl => hl.invariant hs
  intro s hi
  obtain ⟨hi, hc⟩ := hi
  refine ⟨hi ▸ Table.keyed_empty _, ?_, ?_⟩
  · simp [hi]
  · simp [hc]

/-! ### A payment from Alice to Bob -/

def bobSecret : String := "0000000000000000000000000000000000000000000000000000000000000001"
def aliceSecret : String := "0000000000000000000000000000000000000000000000000000000000000002"
def charlieSecret : String := "0000000000000000000000000000000000000000000000000000000000000003"
def bobKey : String := "0279be667ef9dcbbac55a06295ce870b07029bfcdb2dce28d959f2815b16f81798"
def aliceKey : String := "02c6047f9441ed7d6d3045406e95c07cd85c778e4b8cef3ca7abac09b95c709ee5"
def charlieKey : String := "02f9308a019258c31049344f85f89d5229b531c845836f99b08601f113bce036f9"

abbrev sampleCdk : Cdk :=
  .ledger [(bobSecret, bobKey), (aliceSecret, aliceKey), (charlieSecret, charlieKey)]

/-- Charlie holds a token of his own. -/
def sampleLedger : Ledger where
  now := 0
  locks := Table.insert ∅ "cashuB0" ⟨5, charlieKey, none, 0, none⟩
  balance := 100

def sampleConditions : LockingConditions where
  recipientPubkey := bobKey
  locktime := .nextDay
  refundPubkey := some aliceKey
  sigFlag := none

def sampleCreate : CreateProtectedPaymentRequest where
  paymentId := some (.ofNat 1)
  amountSats := ⟨21⟩
  recipientIdentifier := "bob"
  senderId := some "alice"
  description := none
  expiresAt := sampleConditions.locktime
  lockingConditions := some sampleConditions

def sampleTokenLock : Lock := ⟨21, bobKey, some aliceKey, 86400, none⟩

def sampleLockRequest : LockRequest sampleCdk where
  request := sampleCreate
  conditionsInput := sampleConditions
  recipientPubkey := bobKey
  spendingConditions := ((86400 : UInt64), some aliceKey)

def sampleTracked : TrackedPayment where
  intent :=
    { id := .ofNat 1
      paymentType := .«protected»
      status := .claimable
      amountSats := ⟨21⟩
      senderId := some "alice"
      recipientIdentifier := "bob"
      description := none
      expiresAt := some sampleConditions.locktime
      claimReference := some "hnbv_claim_00000000000000000000000000000001"
      createdAt := .epoch
      updatedAt := .epoch }
  cashuToken := "cashuB1"
  recipientPubkey := bobKey
  refundPubkey := some aliceKey
  locktime := sampleConditions.locktime

def sampleLockedLedger : Ledger where
  now := 0
  locks := sampleLedger.locks.insert "cashuB1" sampleTokenLock
  balance := 79

def sampleRecord (status : PaymentStatus) (updatedAt : DateTime) : TrackedPayment :=
  { sampleTracked with intent := { sampleTracked.intent with status, updatedAt } }

def sampleClaim (claimProof : String) (cashuToken : Option String) : ClaimPaymentRequest :=
  ⟨.ofNat 1, claimProof, "bob", cashuToken⟩

open EscrowState CashuProtectedPaymentProvider

/-- The receipt for a settled payment. -/
def sampleReceipt (status : PaymentStatus) (amount : UInt64) (reference : String) :
    ProtectedPaymentReceipt :=
  { createReceipt sampleTracked with
    status, amountSats := ⟨amount⟩, cashuToken := none
    claimReference := reference ++ sampleTracked.intent.id.simple }

/-- Alice's payment to Bob is tracked, and nobody has called to settle it. -/
theorem trace_sampleTracked : ∃ tr, (escrowSystem sampleCdk "mint").Trace tr
      ⟨track ∅ sampleTracked, [], sampleLockedLedger⟩ ∧
    (∀ x ∈ tr, x.label.call = none) ∧
    ∀ x ∈ tr, ∀ l t receipt, x.label = .createTracked l t receipt →
      x.pre.intents = ∅ := by
  have h₁ := System.Run.snoc (T := escrowSystem sampleCdk "mint") .nil
    (@Step.createChecked sampleCdk "mint" ⟨∅, [], sampleLedger⟩ 0 sampleCreate
      sampleLockRequest rfl)
  have h₂ := h₁.snoc (@Step.createPrepared sampleCdk "mint" _ sampleLockRequest [] []
    sampleTokenLock sampleLedger rfl rfl)
  have h₃ := h₂.snoc (@Step.createConfirmed sampleCdk "mint" _ sampleLockRequest sampleTokenLock
    [] [] (.ofNat 1) .epoch .epoch .epoch sampleTracked sampleLockedLedger rfl rfl)
  have h₄ :=
    h₃.snoc (@Step.createTracked sampleCdk "mint" _ sampleLockRequest sampleTracked [] []
      rfl (by simp [sampleLockRequest, sampleCreate]))
  refine ⟨_, ⟨_, ⟨rfl, rfl⟩, h₄⟩, ?_, ?_⟩
  · simp [EscrowEvent.call]
  · simp

end Hanbova
