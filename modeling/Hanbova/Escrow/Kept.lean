import Hanbova.Escrow.Mock
import Hanbova.Escrow.Invariant

/-! The payments of the Cashu and of the mock provider are kept. -/
namespace Hanbova

open Library Library.Text

/-! ### The Cashu provider -/

def cashuTracker (c : Cdk) : Tracker (EscrowState c) (EscrowEvent c) TrackedPayment where
  records := EscrowState.intents
  intent := TrackedPayment.intent
  token r := some r.cashuToken
  created
    | .createTracked _ r _ => some r
    | _ => none
  supplied
    | .createTracked l _ _ => l.request.paymentId
    | _ => none
  settled e := e.call.map fun p => p.1.paymentId

namespace EscrowState
variable {c : Cdk} {mintUrl : String} {s t : EscrowState c} {e : EscrowEvent c}

theorem created_eq_none (h : ∀ l r receipt, e ≠ .createTracked l r receipt) :
    (cashuTracker c).created e = none := by
  cases e with
  | createTracked l r receipt => exact absurd rfl (h l r receipt)
  | _ => rfl

theorem Settles.continues {call : SettleCall} {answer : ReceiptAnswer} {r r' : TrackedPayment}
    {key : c.SecretKey} {how : CashuProtectedPaymentProvider.Settlement} {now : DateTime}
    (h : Settles s call answer t r r' key how now) (hs : s.Invariant) :
    (cashuTracker c).Continues r r' := by
  obtain ⟨hrec, hterms, hst⟩ := h.record (hs.atRest _ _ h.lookup)
  refine ⟨?_, hterms, ?_⟩
  · rw [hrec]
    rfl
  · intro hterminal
    rcases hst with he | ⟨he, -⟩
    · exact he
    · have hclaimable : r.intent.status.isTerminal = true := hterminal
      rw [he] at hclaimable
      cases hclaimable

theorem Step.moves (h : Step c mintUrl s e t) (hs : s.Invariant) :
    (cashuTracker c).Moves s e t := by
  rcases h.records with
    ⟨hi, hne⟩ | ⟨l, r, rfl, hmem, hset, hn⟩ |
    ⟨call, answer, r, r', key, how, now, hcall, hset⟩
  · exact .other (created_eq_none hne) hi
  · exact .create r rfl hn (hs.locked l r hmem).2 hset
  · have hcreated : (cashuTracker c).created e = none := by
      apply created_eq_none
      rintro l r receipt rfl
      cases hcall
    have hsettled : (cashuTracker c).settled e = some call.paymentId := by
      simp [cashuTracker, hcall]
    exact .settle _ r r' hcreated hsettled hset.lookup (hset.continues hs) hset.set

end EscrowState

/-! ### The mock provider -/

def mockTracker : Tracker MockState MockEvent PaymentIntent where
  records := MockState.intents
  intent := id
  token _ := none
  created
    | .createTracked _ i _ => some i
    | _ => none
  supplied
    | .createTracked request _ _ => request.paymentId
    | _ => none
  settled
    | .claimed request _ => some request.paymentId
    | .refunded request _ => some request.paymentId
    | _ => none

namespace MockState
variable {s t : MockState} {e : MockEvent}

/-- The records on their way into the table bear the identifiers that were supplied. -/
def Ready (s : MockState) : Prop :=
  ∀ request i, (request, i) ∈ s.creating → ∀ id, request.paymentId = some id → i.id = id

theorem Step.ready (h : Step s e t) (hs : s.Ready) : t.Ready := by
  intro request i hi
  cases h with
  | createBuilt hb =>
    rcases List.mem_cons.mp hi with he | hi
    · cases he
      intro id hid
      rw [(MockProtectedPaymentProvider.buildIntent_ok hb).2.1, hid]
      rfl
    · exact hs request i hi
  | createTracked _ _ => exact hs request i (List.mem_of_mem_erase hi)
  | _ => exact hs request i hi

theorem ready_of_reachable (h : mockSystem.Reachable s) : s.Ready := by
  refine h.induct ?_ fun s e t _ hs hl => Step.ready hl hs
  rintro s rfl request i hi
  cases hi

theorem Step.moves (h : Step s e t) (hs : s.Ready) : mockTracker.Moves s e t := by
  cases h with
  | createTracked hmem hn => exact .create _ rfl hn (hs _ _ hmem) (Table.setAt_insert _ _ _)
  | claimed h =>
    rcases MockProtectedPaymentProvider.settleAt_spec h with ⟨-, rfl⟩ | ⟨i, hl, -, hset⟩
    · exact .other rfl rfl
    · exact .settle _ i (MockProtectedPaymentProvider.claim i _ _ _).2 rfl rfl hl
        ⟨rfl, MockProtectedPaymentProvider.continues_claim i _ _ _⟩ hset
  | refunded h =>
    rcases MockProtectedPaymentProvider.settleAt_spec h with ⟨-, rfl⟩ | ⟨i, hl, -, hset⟩
    · exact .other rfl rfl
    · exact .settle _ i (MockProtectedPaymentProvider.refund i _ _ _).2 rfl rfl hl
        ⟨rfl, MockProtectedPaymentProvider.continues_refund i _ _ _⟩ hset
  | _ => exact .other rfl rfl

end MockState

/-- A run of either provider keeps its payments. -/
theorem payments_kept {c : Cdk} {mintUrl : String}
    {tr : List (Transition (EscrowState c) (EscrowEvent c))} {s : EscrowState c}
    {tr' : List (Transition MockState MockEvent)} {s' : MockState}
    (h : (escrowSystem c mintUrl).Trace tr s) (hx : ∀ x ∈ tr, (cashuTracker c).Unused x)
    (h' : mockSystem.Trace tr' s') (hx' : ∀ x ∈ tr', mockTracker.Unused x) :
    (cashuTracker c).PaymentsKept tr s ∧ mockTracker.PaymentsKept tr' s' := by
  constructor
  · refine Tracker.paymentsKept ?_ h hx
    intro s e t hr hl
    exact EscrowState.Step.moves hl (escrowInvariant_of_reachable hr)
  · refine Tracker.paymentsKept ?_ h' hx'
    intro s e t hr hl
    exact MockState.Step.moves hl (MockState.ready_of_reachable hr)

/-! ### A payment and one that takes its identifier -/

section
open EscrowState CashuProtectedPaymentProvider

/-- Bob has claimed the payment. -/
def sampleSpentLedger : Ledger := sampleLockedLedger.spend "cashuB1" sampleTokenLock bobKey

theorem trace_sampleClaimed : ∃ tr, (escrowSystem sampleCdk "mint").Trace tr
      ⟨track ∅ (sampleRecord .claimed .epoch), [], sampleSpentLedger⟩ ∧
    (∀ x ∈ tr, (cashuTracker sampleCdk).Unused x) := by
  obtain ⟨tr, h, -, hcreated⟩ := trace_sampleTracked
  refine ⟨_, h.snoc (@Step.claimed sampleCdk "mint" _ (sampleClaim bobSecret none) .epoch
    (.ok (sampleReceipt .claimed 21 "claimed_")) _ _ (by decide +kernel)), ?_⟩
  intro x hx id hid
  rcases List.mem_append.mp hx with hx | hx
  · cases hlabel : x.label with
    | createTracked l r receipt =>
      show x.pre.intents.lookup id = none
      rw [hcreated x hx l r receipt hlabel]
      rfl
    | _ =>
      rw [hlabel] at hid
      cases hid
  · rw [List.mem_singleton.mp hx] at hid
    cases hid

/-- The payment that is created anew with another token. -/
def sampleAgain : TrackedPayment := { sampleTracked with cashuToken := "cashuB2" }

def sampleRelocked : Ledger :=
  { sampleSpentLedger with
    locks := sampleSpentLedger.locks.insert "cashuB2" sampleTokenLock, balance := 79 }

theorem not_cashu_payments_kept : ∃ tr s, (escrowSystem sampleCdk "mint").Trace tr s ∧
    ¬ (cashuTracker sampleCdk).PaymentsKept tr s := by
  obtain ⟨tr, h, -⟩ := trace_sampleClaimed
  have h₁ := h.snoc (@Step.createChecked sampleCdk "mint" _ 0 sampleCreate sampleLockRequest rfl)
  have h₂ := h₁.snoc (@Step.createPrepared sampleCdk "mint" _ sampleLockRequest [] []
    sampleTokenLock sampleSpentLedger rfl rfl)
  have h₃ := h₂.snoc (@Step.createConfirmed sampleCdk "mint" _ sampleLockRequest sampleTokenLock
    [] [] (.ofNat 1) .epoch .epoch .epoch sampleAgain sampleRelocked rfl (by decide +kernel))
  have h₄ :=
    h₃.snoc (@Step.createTracked sampleCdk "mint" _ sampleLockRequest sampleAgain [] [] rfl
      (by simp [sampleLockRequest, sampleCreate]))
  refine ⟨_, _, h₄, fun hkept => ?_⟩
  obtain ⟨r, hr, hst⟩ := hkept.terminal _ (List.mem_append_right _ (List.mem_singleton_self _))
    (.ofNat 1) (sampleRecord .claimed .epoch) rfl rfl
  obtain rfl := Option.some.inj hr
  cases hst

end

section
open MockState MockProtectedPaymentProvider

def sampleMock (status : PaymentStatus) : PaymentIntent :=
  { sampleTracked.intent with status, claimReference := none }

theorem trace_sampleMockClaimed : ∃ tr, mockSystem.Trace tr
      ⟨Table.insert ∅ (.ofNat 1) (sampleMock .claimed), []⟩ ∧
    (∀ x ∈ tr, mockTracker.Unused x) := by
  have h₁ := System.Run.snoc (T := mockSystem) .nil
    (@Step.createBuilt ⟨∅, []⟩ sampleCreate (.ofNat 1) .epoch .epoch .epoch (sampleMock .claimable)
      (by decide +kernel))
  have h₂ := h₁.snoc (@Step.createTracked _ sampleCreate (sampleMock .claimable)
    List.mem_cons_self (by simp [sampleCreate]))
  have h₃ := h₂.snoc (@Step.claimed _ (sampleClaim "proof" none) .epoch .epoch
    (.ok (settledReceipt (sampleMock .claimed) .epoch "claimed_"))
    (Table.insert ∅ (.ofNat 1) (sampleMock .claimed)) (by decide +kernel))
  refine ⟨_, ⟨_, rfl, h₃⟩, ?_⟩
  intro x hx id hid
  simp only [List.nil_append, List.cons_append, List.mem_cons, List.not_mem_nil, or_false] at hx
  rcases hx with rfl | rfl | rfl
  · cases hid
  · rfl
  · cases hid

theorem not_mock_payments_kept : ∃ tr s, mockSystem.Trace tr s ∧
    ¬ mockTracker.PaymentsKept tr s := by
  obtain ⟨tr, h, -⟩ := trace_sampleMockClaimed
  have h₁ := h.snoc (@Step.createBuilt _ sampleCreate (.ofNat 1) .epoch .epoch .epoch
    (sampleMock .claimable) (by decide +kernel))
  have h₂ := h₁.snoc (@Step.createTracked _ sampleCreate (sampleMock .claimable)
    List.mem_cons_self (by simp [sampleCreate]))
  refine ⟨_, _, h₂, fun hkept => ?_⟩
  obtain ⟨i, hi, hst⟩ := hkept.terminal _ (List.mem_append_right _ (List.mem_singleton_self _))
    (.ofNat 1) (sampleMock .claimed) rfl rfl
  obtain rfl := Option.some.inj hi
  cases hst

end

/-- A payment that has been claimed becomes claimable again when another one takes its
identifier, with either provider. -/
theorem not_payments_kept :
    (∃ tr s, (escrowSystem sampleCdk "mint").Trace tr s ∧
      ¬ (cashuTracker sampleCdk).PaymentsKept tr s) ∧
    ∃ tr s, mockSystem.Trace tr s ∧ ¬ mockTracker.PaymentsKept tr s :=
  ⟨not_cashu_payments_kept, not_mock_payments_kept⟩

theorem payments_kept_sample : ∃ tr tr',
    (cashuTracker sampleCdk).PaymentsKept tr
      ⟨CashuProtectedPaymentProvider.track ∅ (sampleRecord .claimed .epoch), [],
        sampleSpentLedger⟩ ∧
    mockTracker.PaymentsKept tr' ⟨Table.insert ∅ (.ofNat 1) (sampleMock .claimed), []⟩ := by
  obtain ⟨tr, h, hx⟩ := trace_sampleClaimed
  obtain ⟨tr', h', hx'⟩ := trace_sampleMockClaimed
  exact ⟨tr, tr', payments_kept h hx h' hx'⟩

end Hanbova
