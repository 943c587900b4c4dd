import Hanbova.Escrow.Invariant
import Hanbova.Library.Stages

/-! The creation of a payment as a whole: what it locks, and what it leaves behind when it fails. -/
namespace Hanbova

open Library Library.Text
open CashuProtectedPaymentProvider

namespace Cdk
variable (c : Cdk) (locked : c.World → c.Token → Option UInt64)

/-- The same tokens are locked, and the balance of the wallet is the same. -/
def Untouched (w w' : c.World) : Prop :=
  (∀ tok, locked w' tok = locked w tok) ∧ c.totalBalance w' = c.totalBalance w

/-- One token is locked that was not, and it holds the amount. -/
def LocksOne (w : c.World) (amount : UInt64) (tok : c.Token) (w' : c.World) : Prop :=
  locked w tok = none ∧ locked w' tok = some amount ∧
    ∀ tok', tok' ≠ tok → locked w' tok' = locked w tok'

/-- What is assumed of the wallet here: to prepare and confirm a payment either locks exactly its
amount in a fresh token or has no effect. -/
structure LocksFreshly : Prop where
  prepare_failed : ∀ w amount pk conditions e w',
    c.prepareSend w amount pk conditions = (.error e, w') → c.Untouched locked w w'
  confirm_failed : ∀ w amount pk conditions send w₁ e w₂,
    c.prepareSend w amount pk conditions = (.ok send, w₁) →
    c.confirm w₁ send = (.error e, w₂) →
    c.Untouched locked w w₂
  confirm_ok : ∀ w amount pk conditions send w₁ tok w₂,
    c.prepareSend w amount pk conditions = (.ok send, w₁) →
    c.confirm w₁ send = (.ok tok, w₂) →
    c.LocksOne locked w amount tok w₂

variable {c} {locked}

theorem Untouched.refl (w : c.World) : c.Untouched locked w w := ⟨fun _ => rfl, rfl⟩

end Cdk

/-- What `PaymentIntent::new` asks of a payment with this locktime, at its reading of the clock. -/
def CreateProtectedPaymentRequest.Valid (request : CreateProtectedPaymentRequest)
    (locktime now : DateTime) : Prop :=
  trim request.recipientIdentifier ≠ "" ∧ request.amountSats.isZero = false ∧ now < locktime

theorem CreateProtectedPaymentRequest.valid_iff_new (request : CreateProtectedPaymentRequest)
    (locktime : DateTime) (id : Uuid) (now : DateTime) : request.Valid locktime now ↔
      ∃ i, PaymentIntent.new .«protected» request.amountSats request.recipientIdentifier
        request.senderId request.description (some locktime) id now = .ok i := by
  constructor
  · rintro ⟨hr, ha, ht⟩
    simp [PaymentIntent.new, hr, ha, not_le.mpr ht]
  · rintro ⟨i, hi⟩
    obtain ⟨hr, ha, ht, -⟩ := PaymentIntent.new_ok hi
    exact ⟨hr, ha, ht _ rfl⟩

namespace CashuProtectedPaymentProvider
variable {c : Cdk} {locked : c.World → c.Token → Option UInt64}

/-- The wallet can lock the amount of the request. -/
def Lockable (w : c.World) (l : LockRequest c) : Prop :=
  ∃ send w₁ tok w₂, c.prepareSend w l.request.amountSats.sats l.recipientPubkey
    l.spendingConditions = (.ok send, w₁) ∧ c.confirm w₁ send = (.ok tok, w₂)

/-- An error has left the wallet and the payments as they were; a receipt is for the one token that
has been locked. -/
def Atomic (locked : c.World → c.Token → Option UInt64) (intents : Intents) (w : c.World)
    (request : CreateProtectedPaymentRequest) : Outcome c → Prop
  | (.error _, intents', w') => intents' = intents ∧ c.Untouched locked w w'
  | (.ok receipt, intents', w') => ∃ tok t, c.LocksOne locked w request.amountSats.sats tok w' ∧
    intents'.lookup receipt.paymentId = some t ∧ t.cashuToken = c.encode tok ∧
    receipt.cashuToken = some (c.encode tok)

theorem checkMintSupport_ok {w : c.World} {mintUrl : String} :
    checkMintSupport w mintUrl = .ok () ↔ c.fetchMintInfo w = .ok (some true) := by
  unfold checkMintSupport
  cases c.fetchMintInfo w with
  | error e => simp
  | ok info =>
    cases info with
    | none => simp
    | some nut11Supported => cases nut11Supported <;> simp

/-- What a create request is checked for before its locktime. -/
structure Checked (w : c.World) (request : CreateProtectedPaymentRequest) (i : LockingConditions)
    (pk : c.PublicKey) (refund : Option c.PublicKey) : Prop where
  mint : c.fetchMintInfo w = .ok (some true)
  conditions : request.lockingConditions = some i
  recipient : c.parsePublicKey i.recipientPubkey = .ok pk
  refund : parseRefundPubkey i.refundPubkey = .ok refund

/-- The request goes on to the wallet with the conditions that the library makes of its locktime,
taken as a `u64`, if that is later than now. -/
theorem checkRequest_eq_ok {w : c.World} {mintUrl : String} {nowUnix : UInt64}
    {request : CreateProtectedPaymentRequest} {l : LockRequest c} :
    checkRequest w mintUrl nowUnix request = .ok l ↔ l.request = request ∧
      ∃ refund, Checked w request l.conditionsInput l.recipientPubkey refund ∧
        nowUnix < asU64 l.conditionsInput.locktime.timestamp ∧
        c.newConditions w (asU64 l.conditionsInput.locktime.timestamp)
          (refund.map fun k => [k]) = .ok l.spendingConditions := by
  constructor
  · intro h
    unfold checkRequest at h
    obtain ⟨⟨⟩, hmint, h⟩ := Stages.bind_ok.mp h
    cases hi : request.lockingConditions with
    | none =>
      simp only [hi] at h
      obtain ⟨i, hnone, -⟩ := Stages.bind_ok.mp h
      cases hnone
    | some i =>
      simp only [hi] at h
      obtain ⟨i', hi', h⟩ := Stages.bind_ok.mp h
      obtain rfl := Except.ok.inj hi'
      obtain ⟨pk, hpk, h⟩ := Stages.bind_ok.mp h
      obtain ⟨refund, hrefund, h⟩ := Stages.bind_ok.mp h
      split_ifs at h with hlt
      obtain ⟨conditions, hnew, h⟩ := Stages.bind_ok.mp h
      obtain rfl := Except.ok.inj h
      exact ⟨rfl, refund, ⟨checkMintSupport_ok.mp hmint, hi, Stages.mapError_ok.mp hpk, hrefund⟩,
        UInt64.not_le.mp hlt, Stages.mapError_ok.mp hnew⟩
  · rintro ⟨rfl, refund, h, hlt, hcond⟩
    have hm : checkMintSupport w mintUrl = .ok () := checkMintSupport_ok.mpr h.mint
    unfold checkRequest
    simp only [hm, h.conditions, h.recipient, h.refund, Except.mapError, bind, Except.bind,
      if_neg (UInt64.not_le.mpr hlt), hcond]

/-- After the other checks only the locktime can stop a request. -/
theorem checkRequest_of_checked {w : c.World} {request : CreateProtectedPaymentRequest}
    {i : LockingConditions} {pk : c.PublicKey} {refund : Option c.PublicKey}
    (h : Checked w request i pk refund) (mintUrl : String) (nowUnix : UInt64) :
    (∃ m, checkRequest w mintUrl nowUnix request = .error (.lockingCondition m)) ∨
      ∃ l, checkRequest w mintUrl nowUnix request = .ok l ∧ l.conditionsInput = i := by
  have hm : checkMintSupport w mintUrl = .ok () := checkMintSupport_ok.mpr h.mint
  unfold checkRequest
  simp only [hm, h.conditions, h.recipient, h.refund, Except.mapError, bind, Except.bind]
  by_cases hlt : asU64 i.locktime.timestamp ≤ nowUnix
  · rw [if_pos hlt]
    exact .inl ⟨_, rfl⟩
  · rw [if_neg hlt]
    cases c.newConditions w (asU64 i.locktime.timestamp) (refund.map fun k => [k]) with
    | error e => exact .inl ⟨_, rfl⟩
    | ok conditions => exact .inr ⟨_, rfl, rfl⟩

theorem checkRequest_ok {w : c.World} {mintUrl : String} {nowUnix : UInt64}
    {request : CreateProtectedPaymentRequest} {l : LockRequest c}
    (h : checkRequest w mintUrl nowUnix request = .ok l) :
    l.request = request ∧ request.lockingConditions = some l.conditionsInput := by
  obtain ⟨hr, refund, hc, -⟩ := checkRequest_eq_ok.mp h
  exact ⟨hr, hc.conditions⟩

/-- A record is built of every valid request, and of no other. -/
theorem buildTracked_isOk_iff (l : LockRequest c) (tokenStr : String) (id : Uuid)
    (now now₁ now₂ : DateTime) : (∃ t, buildTracked l tokenStr id now now₁ now₂ = .ok t) ↔
      l.request.Valid l.conditionsInput.locktime now := by
  rw [l.request.valid_iff_new _ id now]
  constructor
  · rintro ⟨t, h⟩
    obtain ⟨i, hn, -⟩ := buildTracked_eq_ok.mp h
    exact ⟨i, hn⟩
  · rintro ⟨i, hn⟩
    exact ⟨_, buildTracked_eq_ok.mpr ⟨i, hn, rfl⟩⟩

theorem createProtectedPayment_of_error {intents : Intents} {w : c.World} {mintUrl : String}
    {nowUnix : UInt64} {request : CreateProtectedPaymentRequest} {id : Uuid}
    {now now₁ now₂ : DateTime} {e : ProtectedPaymentError}
    (h : checkRequest w mintUrl nowUnix request = .error e) :
    createProtectedPayment intents w mintUrl nowUnix request id now now₁ now₂ =
      (.error e, intents, w) := by
  unfold createProtectedPayment
  simp only [h]

/-- The creation of a payment, once its conditions have been checked. -/
theorem createProtectedPayment_of_checked (intents : Intents) {w : c.World} {mintUrl : String}
    {nowUnix : UInt64} {request : CreateProtectedPaymentRequest} (id : Uuid)
    (now now₁ now₂ : DateTime) {l : LockRequest c}
    (h : checkRequest w mintUrl nowUnix request = .ok l) :
    (∃ e w₁, c.prepareSend w l.request.amountSats.sats l.recipientPubkey l.spendingConditions =
        (.error e, w₁) ∧ createProtectedPayment intents w mintUrl nowUnix request id now now₁ now₂ =
        (.error (.cdk s!"Failed to prepare locked proofs: {e}"), intents, w₁)) ∨
    ∃ send w₁, c.prepareSend w l.request.amountSats.sats l.recipientPubkey l.spendingConditions =
        (.ok send, w₁) ∧
      ((∃ e w₂, c.confirm w₁ send = (.error e, w₂) ∧
        createProtectedPayment intents w mintUrl nowUnix request id now now₁ now₂ =
          (.error (.cdk s!"Failed to confirm locked proofs: {e}"), intents, w₂)) ∨
      ∃ tok w₂, c.confirm w₁ send = (.ok tok, w₂) ∧
        ((∃ e, buildTracked l (c.encode tok) id now now₁ now₂ = .error e ∧
          createProtectedPayment intents w mintUrl nowUnix request id now now₁ now₂ =
            (.error e, intents, w₂)) ∨
        ∃ t, buildTracked l (c.encode tok) id now now₁ now₂ = .ok t ∧
          createProtectedPayment intents w mintUrl nowUnix request id now now₁ now₂ =
            (.ok (createReceipt t), track intents t, w₂))) := by
  simp only [createProtectedPayment, h, prepareSend]
  match hp : c.prepareSend w l.request.amountSats.sats l.recipientPubkey l.spendingConditions with
  | (.error e, w₁) => exact .inl ⟨e, w₁, rfl, rfl⟩
  | (.ok send, w₁) =>
    refine .inr ⟨send, w₁, rfl, ?_⟩
    simp only [confirm]
    match hcf : c.confirm w₁ send with
    | (.error e, w₂) => exact .inl ⟨e, w₂, rfl, rfl⟩
    | (.ok tok, w₂) =>
      refine .inr ⟨tok, w₂, rfl, ?_⟩
      cases hb : buildTracked l (c.encode tok) id now now₁ now₂ with
      | error e => exact .inl ⟨e, rfl, by simp only [hb]⟩
      | ok t => exact .inr ⟨t, rfl, by simp only [hb]⟩

/-- After a token has been locked the creation is atomic exactly if a record is built. -/
theorem atomic_iff_of_locked (hc : c.LocksFreshly locked) {intents : Intents} {l : LockRequest c}
    {w w₁ w₂ : c.World} {send : c.PreparedSend} {tok : c.Token} {id : Uuid}
    {now now₁ now₂ : DateTime} {answer : Outcome c}
    (hp : c.prepareSend w l.request.amountSats.sats l.recipientPubkey l.spendingConditions =
      (.ok send, w₁)) (hcf : c.confirm w₁ send = (.ok tok, w₂))
    (hb : (∃ e, buildTracked l (c.encode tok) id now now₁ now₂ = .error e ∧
        answer = (.error e, intents, w₂)) ∨
      ∃ t, buildTracked l (c.encode tok) id now now₁ now₂ = .ok t ∧
        answer = (.ok (createReceipt t), track intents t, w₂)) :
    Atomic locked intents w l.request answer ↔
      l.request.Valid l.conditionsInput.locktime now := by
  have hlocked := hc.confirm_ok _ _ _ _ _ _ _ _ hp hcf
  rw [← buildTracked_isOk_iff l (c.encode tok) id now now₁ now₂]
  rcases hb with ⟨e, hb, rfl⟩ | ⟨t, hb, rfl⟩
  · constructor
    · intro hatomic
      have hsame := hatomic.2.1 tok
      rw [hlocked.1, hlocked.2.1] at hsame
      cases hsame
    · intro hbuilt
      obtain ⟨t, ht⟩ := hbuilt
      cases hb.symm.trans ht
  · refine iff_of_true ?_ ⟨t, hb⟩
    obtain ⟨-, htoken, -⟩ := buildTracked_ok hb
    refine ⟨tok, t, hlocked, (Table.setAt_insert _ _ _).lookup_self, htoken, ?_⟩
    rw [← htoken]
    rfl

/-- The creation of a payment is atomic unless a token is locked for a request that is found
invalid only afterwards. -/
theorem create_atomic_iff (hc : c.LocksFreshly locked) (intents : Intents) (w : c.World)
    (mintUrl : String) (nowUnix : UInt64) (request : CreateProtectedPaymentRequest) (id : Uuid)
    (now now₁ now₂ : DateTime) :
    Atomic locked intents w request
        (createProtectedPayment intents w mintUrl nowUnix request id now now₁ now₂) ↔
      ∀ l, checkRequest w mintUrl nowUnix request = .ok l → Lockable w l →
        request.Valid l.conditionsInput.locktime now := by
  cases hl : checkRequest w mintUrl nowUnix request with
  | error e =>
    rw [createProtectedPayment_of_error hl]
    constructor
    · intro _ l hl'
      cases hl'
    · intro _
      exact ⟨rfl, .refl w⟩
  | ok l =>
    obtain ⟨rfl, -⟩ := checkRequest_ok hl
    have hone : (∀ l', Except.ok l = (Except.ok l' : Except ProtectedPaymentError _) →
        Lockable w l' → l.request.Valid l'.conditionsInput.locktime now) ↔
        (Lockable w l → l.request.Valid l.conditionsInput.locktime now) := by
      constructor
      · intro hall
        exact hall l rfl
      · rintro hv l' he
        obtain rfl := Except.ok.inj he
        exact hv
    rw [hone]
    rcases createProtectedPayment_of_checked intents id now now₁ now₂ hl with
      ⟨e, w₁, hp, he⟩ |
      ⟨send, w₁, hp, ⟨e, w₂, hcf, he⟩ | ⟨tok, w₂, hcf, hb⟩⟩
    · rw [he]
      refine ⟨fun _ => ?_, fun _ => ⟨rfl, hc.prepare_failed _ _ _ _ _ _ hp⟩⟩
      rintro ⟨send, w₁', tok, w₂, hp', -⟩
      cases hp.symm.trans hp'
    · rw [he]
      refine ⟨fun _ => ?_, fun _ => ⟨rfl, hc.confirm_failed _ _ _ _ _ _ _ _ hp hcf⟩⟩
      rintro ⟨send', w₁', tok, w₂', hp', hcf'⟩
      cases hp.symm.trans hp'
      cases hcf.symm.trans hcf'
    · have hlockable : Lockable w l := ⟨send, w₁, tok, w₂, hp, hcf⟩
      rw [atomic_iff_of_locked hc hp hcf hb]
      constructor
      · intro hvalid _
        exact hvalid
      · intro hvalid
        exact hvalid hlockable

/-- A creation is a run of the provider that nothing comes in between of. -/
theorem run_of_create {intents intents' : Intents} {w w' : c.World} {mintUrl : String}
    {nowUnix : UInt64} {request : CreateProtectedPaymentRequest} {id : Uuid}
    {now now₁ now₂ : DateTime} {answer : ReceiptAnswer}
    (hfresh : request.paymentId = none → intents.lookup id = none)
    (h : createProtectedPayment intents w mintUrl nowUnix request id now now₁ now₂ =
      (answer, intents', w')) :
    ∃ tr, (escrowSystem c mintUrl).Run ⟨intents, [], w⟩ tr ⟨intents', [], w'⟩ := by
  cases hl : checkRequest w mintUrl nowUnix request with
  | error e =>
    simp only [createProtectedPayment, hl, Prod.mk.injEq] at h
    obtain ⟨-, rfl, rfl⟩ := h
    exact ⟨_, .single (.createRefused hl)⟩
  | ok l =>
    obtain ⟨rfl, -⟩ := checkRequest_ok hl
    have h₁ := System.Run.single (T := escrowSystem c mintUrl)
      (.createChecked (s := ⟨intents, [], w⟩) hl)
    rcases createProtectedPayment_of_checked intents id now now₁ now₂ hl with
      ⟨e, w₁, hp, he⟩ | ⟨send, w₁, hp, hrest⟩
    · cases he.symm.trans h
      have hp' : prepareSend w l =
          (.error (.cdk s!"Failed to prepare locked proofs: {e}"), w') := by
        rw [prepareSend, hp]
      exact ⟨_, h₁.snoc (@EscrowState.Step.prepareFailed c mintUrl _ l [] [] _ _ rfl hp')⟩
    · have hp' : prepareSend w l = (.ok send, w₁) := by rw [prepareSend, hp]
      have h₂ :=
        h₁.snoc (@EscrowState.Step.createPrepared c mintUrl _ l [] [] send w₁ rfl hp')
      rcases hrest with ⟨e, w₂, hcf, he⟩ |
        ⟨tok, w₂, hcf, ⟨e, hb, he⟩ | ⟨t, hb, he⟩⟩
      · cases he.symm.trans h
        have hcf' : confirm w₁ l send id now now₁ now₂ =
            (.error (.cdk s!"Failed to confirm locked proofs: {e}"), w') := by rw [confirm, hcf]
        exact ⟨_, h₂.snoc (@EscrowState.Step.confirmFailed c mintUrl _ l send [] [] id now
          now₁ now₂ _ _ rfl hcf')⟩
      · cases he.symm.trans h
        have hcf' : confirm w₁ l send id now now₁ now₂ = (.error e, w') := by
          simp only [confirm, hcf, hb]
        exact ⟨_, h₂.snoc (@EscrowState.Step.confirmFailed c mintUrl _ l send [] [] id now
          now₁ now₂ _ _ rfl hcf')⟩
      · cases he.symm.trans h
        have hcf' : confirm w₁ l send id now now₁ now₂ = (.ok t, w') := by
          simp only [confirm, hcf, hb]
        have h₃ :=
          h₂.snoc (@EscrowState.Step.createConfirmed c mintUrl _ l send [] [] id now now₁
            now₂ t w' rfl hcf')
        refine ⟨_, h₃.snoc (@EscrowState.Step.createTracked c mintUrl _ l t [] [] rfl ?_)⟩
        intro hnone
        obtain ⟨-, -, hid, -⟩ := buildTracked_ok hb
        rw [hid, hnone]
        exact hfresh hnone

end CashuProtectedPaymentProvider

/-! ### The ledger -/

namespace Ledger

/-- The amounts of the tokens in the table. -/
def locked (w : Ledger) (s : String) : Option UInt64 := (w.locks.lookup s).map Lock.amount

/-- The next token. -/
def nextToken (w : Ledger) : String := "cashuB" ++ toString w.locks.entries.length

/-- The ledger with that token. -/
def lock (w : Ledger) (l : Lock) : Ledger :=
  { w with locks := w.locks.insert w.nextToken l, balance := w.balance - l.amount }

theorem setAt_lock (w : Ledger) (l : Lock) :
    Table.SetAt w.locks w.nextToken l (w.lock l).locks := Table.setAt_insert _ _ _

theorem confirm_of_fresh {w : Ledger} (l : Lock) (h : w.locks.lookup w.nextToken = none) :
    w.confirm l = (.ok w.nextToken, w.lock l) := by
  have hfree : ¬ (w.locks.lookup w.nextToken).isSome = true := by
    rw [h]
    exact Bool.false_ne_true
  exact if_neg hfree

theorem confirm_of_exists {w : Ledger} (l : Lock) {l' : Lock}
    (h : w.locks.lookup w.nextToken = some l') : w.confirm l = (.error "Token exists", w) := by
  have hsome : (w.locks.lookup w.nextToken).isSome = true := by
    rw [h]
    rfl
  exact if_pos hsome

end Ledger

theorem Cdk.ledger_locksFreshly (pairs : KeyPairs) :
    (Cdk.ledger pairs).LocksFreshly Ledger.locked where
  prepare_failed w amount pk conditions e w' h := by
    obtain ⟨-, rfl⟩ := Prod.mk.inj h
    exact .refl _
  confirm_failed w amount pk conditions send w₁ e w₂ hp h := by
    obtain ⟨-, rfl⟩ := Prod.mk.inj hp
    have h : Ledger.confirm w send = (.error e, w₂) := h
    cases hl : w.locks.lookup w.nextToken with
    | some l =>
      rw [Ledger.confirm_of_exists send hl] at h
      obtain ⟨-, rfl⟩ := Prod.mk.inj h
      exact .refl _
    | none =>
      rw [Ledger.confirm_of_fresh send hl] at h
      cases h
  confirm_ok w amount pk conditions send w₁ tok w₂ hp h := by
    obtain ⟨hsend, rfl⟩ := Prod.mk.inj hp
    have hamount : send.amount = amount := by
      split_ifs at hsend
      rw [← Except.ok.inj hsend]
    have h : Ledger.confirm w send = (.ok tok, w₂) := h
    cases hl : w.locks.lookup w.nextToken with
    | some l =>
      rw [Ledger.confirm_of_exists send hl] at h
      cases h
    | none =>
      rw [Ledger.confirm_of_fresh send hl] at h
      obtain ⟨htok, rfl⟩ := Prod.mk.inj h
      obtain rfl := Except.ok.inj htok
      have hset := Ledger.setAt_lock w send
      refine ⟨?_, ?_, ?_⟩
      · rw [Ledger.locked, hl]
        rfl
      · rw [Ledger.locked, hset.lookup_self, ← hamount]
        rfl
      · intro tok' hne
        rw [Ledger.locked, Ledger.locked, hset.lookup_ne hne]

/-- A payment to nobody. -/
def sampleUnnamed : CreateProtectedPaymentRequest :=
  { sampleCreate with recipientIdentifier := "  " }

/-- The amount is locked before the recipient is looked at. -/
theorem not_create_atomic : ¬ ∀ (c : Cdk) (locked : c.World → c.Token → Option UInt64),
    c.LocksFreshly locked → ∀ intents w mintUrl nowUnix request id now now₁ now₂,
      Atomic locked intents w request
        (createProtectedPayment intents w mintUrl nowUnix request id now now₁ now₂) := by
  intro hall
  have hatomic := hall sampleCdk Ledger.locked (Cdk.ledger_locksFreshly _) ∅ sampleLedger "mint" 0
    sampleUnnamed (.ofNat 1) .epoch .epoch .epoch
  have he : createProtectedPayment (c := sampleCdk) ∅ sampleLedger "mint" 0 sampleUnnamed (.ofNat 1)
      .epoch .epoch .epoch =
      (.error (.core (.validationError "Recipient identifier cannot be empty")), ∅,
        sampleLockedLedger) := by decide +kernel
  rw [he] at hatomic
  have hbalance := hatomic.2.2
  revert hbalance
  decide +kernel

/-- Alice locks a payment to Bob. -/
theorem create_atomic_iff_sample : Atomic (c := sampleCdk) Ledger.locked ∅ sampleLedger sampleCreate
    (createProtectedPayment ∅ sampleLedger "mint" 0 sampleCreate (.ofNat 1) .epoch .epoch
      .epoch) := by
  refine (create_atomic_iff (Cdk.ledger_locksFreshly _) _ _ _ _ _ _ _ _ _).mpr fun l hl _ => ?_
  obtain ⟨-, hconditions⟩ := checkRequest_ok hl
  rw [← Option.some.inj hconditions]
  exact ⟨by decide +kernel, rfl, by decide⟩

end Hanbova
