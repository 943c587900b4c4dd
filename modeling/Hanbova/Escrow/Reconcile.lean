import Hanbova.Escrow.Invariant

/-! What becomes of a payment whose token had been spent before a claim or a refund. -/
namespace Hanbova

open Library Library.Text
open CashuProtectedPaymentProvider (presented getWalletBalance protectedOutgoing)

section
variable {c : Cdk} {mintUrl : String} {s t : EscrowState c} {e : EscrowEvent c}
  {tr : List (Transition (EscrowState c) (EscrowEvent c))}

/-- The token has been spent with the key that the text stands for. -/
def SpentBy (c : Cdk) (w : c.World) (token pubkey : String) : Prop :=
  ∃ tok pk, c.decode token = some tok ∧ c.parsePublicKey pubkey = .ok pk ∧
    c.spender w tok = some pk

/-- The status of the payment names the party whose key has spent the token. -/
def NamesSpender (c : Cdk) (w : c.World) (r : TrackedPayment) : Prop :=
  (r.intent.status = .claimed ∧ SpentBy c w r.cashuToken r.recipientPubkey) ∨
  (r.intent.status = .refunded ∧ ∃ pub ∈ r.refundPubkey, SpentBy c w r.cashuToken pub)

/-- The step answers a call with `TokenAlreadySpent` that presented the payment's own token. -/
def AnsweredSpent (x : Transition (EscrowState c) (EscrowEvent c)) (call : SettleCall)
    (r : TrackedPayment) : Prop :=
  (∃ m, x.label.call = some (call, .error (.tokenAlreadySpent m))) ∧
    x.pre.intents.lookup call.paymentId = some r ∧
    c.decode (presented call.cashuToken r) = c.decode r.cashuToken

/-- The payment ends in a terminal status that names who spent its token, and the wallet balance
is what it would be without the payment. -/
def Reconciled (t : EscrowState c) (id : Uuid) : Prop :=
  ∃ r, t.intents.lookup id = some r ∧ r.intent.status.isTerminal = true ∧
    NamesSpender c t.world r ∧
    getWalletBalance t.intents t.world = getWalletBalance (t.intents.erase id) t.world

/-- The status names the spender already, or the sender asks for the refund of a claimable payment
whose token the recipient has spent. -/
def Foretold (c : Cdk) (w : c.World) (call : SettleCall) (r : TrackedPayment) : Prop :=
  NamesSpender c w r ∨
  (call.party = .sender ∧ r.intent.status = .claimable ∧
    SpentBy c w r.cashuToken r.recipientPubkey)

/-! ### Spenders and balances -/

/-- Who has spent a token does not change afterwards. -/
theorem spentBy_later {w w' : c.World} {token pubkey : String} (hs : c.Spent w token)
    (hw : c.Later w w') : SpentBy c w' token pubkey ↔ SpentBy c w token pubkey := by
  constructor
  · rintro ⟨tok, pk, hd, hpk, hspent⟩
    obtain ⟨tok', pk', hd', hspent'⟩ := hs
    obtain rfl := Option.some.inj (hd.symm.trans hd')
    obtain rfl := Option.some.inj (hspent.symm.trans (hw _ _ hspent'))
    exact ⟨tok, pk, hd, hpk, hspent'⟩
  · rintro ⟨tok, pk, hd, hpk, hspent⟩
    exact ⟨tok, pk, hd, hpk, hw _ _ hspent⟩

/-- A terminal payment does not count in the wallet balance. -/
theorem getWalletBalance_erase {intents : CashuProtectedPaymentProvider.Intents} {w : c.World}
    {id : Uuid} {r : TrackedPayment} (hr : intents.lookup id = some r)
    (hst : r.intent.status.isTerminal = true) :
    getWalletBalance intents w = getWalletBalance (intents.erase id) w := by
  have hactive : r.intent.status.isActive = false := by
    rw [PaymentStatus.isActive_eq_not_isTerminal, hst]
    rfl
  have hsum : protectedOutgoing (intents.erase id) = protectedOutgoing intents :=
    Table.foldl_values_erase hr (by simp [hactive])
  rw [getWalletBalance, getWalletBalance, hsum]

namespace EscrowState

/-- A call that finds the token spent leaves the status as it is, except that the sender makes a
claimable payment claimed. -/
theorem Step.answeredSpent (h : Step c mintUrl s e t) (hc : c.Lawful) (hs : s.Invariant)
    {call : SettleCall} {r : TrackedPayment} (ha : AnsweredSpent ⟨s, e, t⟩ call r) :
    c.Spent s.world r.cashuToken ∧ ∃ r', t.intents.lookup call.paymentId = some r' ∧
      r' = { r with intent := r'.intent } ∧
      r'.intent.status =
        if r.intent.status = .claimable then call.party.lost else r.intent.status := by
  obtain ⟨⟨m, hcall⟩, hl, hd⟩ := ha
  rcases h.call_cases hcall with ⟨-, -, hno⟩ | ⟨r₀, r', key, how, now, hset⟩
  · exact absurd rfl (hno m)
  · obtain rfl := Option.some.inj (hl.symm.trans hset.lookup)
    rcases CashuProtectedPaymentProvider.settle_cases hset.settle with
      ⟨_, -, -, hno⟩ | ⟨e', hrec, he', hr', -⟩ | ⟨_, -, -, hans⟩
    · exact absurd rfl (hno m)
    · obtain ⟨tok, pk, hdec, hspent⟩ := hc.receive_spent _ _ _ _ _ hrec he'
      refine ⟨⟨tok, pk, hd ▸ hdec, hspent⟩, r', hset.set.lookup_self, ?_, ?_⟩
      · rw [hr']
      · rw [hr']
        exact hset.moves.guess _ now (hs.atRest _ _ hl)
    · cases hans

/-- Whether the payment is reconciled has been settled before the call. -/
theorem Step.reconciled (h : Step c mintUrl s e t) (hc : c.Lawful) (hs : s.Invariant)
    {call : SettleCall} {r : TrackedPayment} (ha : AnsweredSpent ⟨s, e, t⟩ call r) :
    Reconciled t call.paymentId ↔ Foretold c s.world call r := by
  obtain ⟨hspent, r', hl, hr', hst⟩ := h.answeredSpent hc hs ha
  have hby : ∀ pub, SpentBy c t.world r'.cashuToken pub ↔
    SpentBy c s.world r.cashuToken pub := by
    intro pub
    rw [hr']
    exact spentBy_later hspent (h.later hc)
  have hrec : r'.recipientPubkey = r.recipientPubkey := by rw [hr']
  have href : r'.refundPubkey = r.refundPubkey := by rw [hr']
  have hnames : NamesSpender c t.world r' ↔
      (r'.intent.status = .claimed ∧ SpentBy c s.world r.cashuToken r.recipientPubkey) ∨
      (r'.intent.status = .refunded ∧
        ∃ pub ∈ r.refundPubkey, SpentBy c s.world r.cashuToken pub) := by
    simp only [NamesSpender, hby, hrec, href]
  have hiff : Reconciled t call.paymentId ↔ NamesSpender c t.world r' := by
    constructor
    · rintro ⟨r'', hl', -, hn, -⟩
      rwa [Option.some.inj (hl.symm.trans hl')]
    · intro hn
      have hterminal : r'.intent.status.isTerminal = true := by
        rcases hn with ⟨h', -⟩ | ⟨h', -⟩ <;> rw [h'] <;> rfl
      exact ⟨r', hl, hterminal, hn, getWalletBalance_erase hl hterminal⟩
  rw [hiff, hnames, Foretold, NamesSpender, hst]
  by_cases hclaimable : r.intent.status = .claimable
  · cases hparty : call.party <;> simp [hclaimable, Party.lost]
  · simp [hclaimable]

end EscrowState

open EscrowState in
theorem reconciled_iff (hc : c.Lawful) (h : (escrowSystem c mintUrl).Trace tr s) :
    ∀ x ∈ tr, ∀ call r, AnsweredSpent x call r →
      (Reconciled x.post call.paymentId ↔ Foretold c x.pre.world call r) := by
  intro x hx call r ha
  obtain ⟨hreach, hl, -⟩ := h.split hx
  exact Step.reconciled hl hc (escrowInvariant_of_reachable hreach) ha

end

section
open EscrowState CashuProtectedPaymentProvider

/-- The locktime has passed, and someone has swapped the token without the provider. -/
def sampleSwapped (key : String) : Ledger :=
  { sampleLockedLedger.spend "cashuB1" sampleTokenLock key with now := 86400 }

theorem trace_sampleSwapped (key : String) : ∃ tr, (escrowSystem sampleCdk "mint").Trace tr
    ⟨track ∅ sampleTracked, [], sampleSwapped key⟩ := by
  obtain ⟨tr, h, -⟩ := trace_sampleTracked
  refine ⟨_, h.snoc (Step.external ?_)⟩
  exact Ledger.kept_of_setAt (s := "cashuB1") rfl (Table.setAt_insert _ _ _)

/-- Bob has swapped the token, and Alice asks for her money back. -/
def sampleLateRefund : Transition (EscrowState sampleCdk) (EscrowEvent sampleCdk) where
  pre := ⟨track ∅ sampleTracked, [], sampleSwapped bobKey⟩
  label := .refunded ⟨.ofNat 1, "alice", some aliceSecret, none⟩ sampleConditions.locktime
    (.error (.tokenAlreadySpent "Payment has already been claimed by the recipient"))
  post := ⟨track ∅ (sampleRecord .claimed sampleConditions.locktime), [], sampleSwapped bobKey⟩

theorem reconciled_iff_sample : ∃ tr s, (escrowSystem sampleCdk "mint").Trace tr s ∧
    sampleLateRefund ∈ tr ∧ Reconciled sampleLateRefund.post (.ofNat 1) := by
  obtain ⟨tr, h⟩ := trace_sampleSwapped bobKey
  have hstep : Step sampleCdk "mint" sampleLateRefund.pre sampleLateRefund.label
      sampleLateRefund.post :=
    @Step.refunded sampleCdk "mint" _ _ _ sampleConditions.locktime sampleConditions.locktime _ _ _
      (by decide +kernel)
  have h₁ := h.snoc hstep
  have hx := List.mem_append_right tr (List.mem_singleton_self sampleLateRefund)
  have hspent : AnsweredSpent sampleLateRefund
      ⟨.sender, .ofNat 1, some aliceSecret, none, sampleConditions.locktime⟩ sampleTracked :=
    ⟨⟨_, rfl⟩, rfl, rfl⟩
  refine ⟨_, _, h₁, hx, ?_⟩
  refine (reconciled_iff (Cdk.ledger_lawful _) h₁ _ hx _ _ hspent).mpr (.inr ⟨rfl, rfl, ?_⟩)
  exact ⟨"cashuB1", bobKey, rfl, rfl, rfl⟩

/-- Alice has swapped the token after the locktime, and Bob claims it. -/
def sampleLateClaim : Transition (EscrowState sampleCdk) (EscrowEvent sampleCdk) where
  pre := ⟨track ∅ sampleTracked, [], sampleSwapped aliceKey⟩
  label := .claimed (sampleClaim bobSecret none) sampleConditions.locktime
    (.error (.tokenAlreadySpent "Payment has already been refunded by the sender after locktime"))
  post := ⟨track ∅ sampleTracked, [], sampleSwapped aliceKey⟩

/-- The payment stays claimable. -/
theorem not_reconciled : ∃ tr s, (escrowSystem sampleCdk "mint").Trace tr s ∧
    sampleLateClaim ∈ tr ∧
    ∃ call r, AnsweredSpent sampleLateClaim call r ∧
      (∃ pub ∈ r.refundPubkey, SpentBy sampleCdk sampleLateClaim.pre.world r.cashuToken pub) ∧
      ¬ Reconciled sampleLateClaim.post call.paymentId := by
  obtain ⟨tr, h⟩ := trace_sampleSwapped aliceKey
  have hstep : Step sampleCdk "mint" sampleLateClaim.pre sampleLateClaim.label
      sampleLateClaim.post := @Step.claimed sampleCdk "mint" _ _ _ _ _ _ (by decide +kernel)
  have hspent : AnsweredSpent sampleLateClaim
      ⟨.recipient, .ofNat 1, some bobSecret, none, sampleConditions.locktime⟩ sampleTracked :=
    ⟨⟨_, rfl⟩, rfl, rfl⟩
  refine ⟨_, _, h.snoc hstep, List.mem_append_right tr (List.mem_singleton_self sampleLateClaim),
    _, _, hspent, ⟨aliceKey, rfl, "cashuB1", aliceKey, rfl, rfl, rfl⟩, ?_⟩
  rintro ⟨r, hr, hst, -⟩
  obtain rfl := Option.some.inj hr
  cases hst

end

end Hanbova
