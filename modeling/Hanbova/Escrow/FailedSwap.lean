import Hanbova.Escrow.Kept

/-! Which claims and refunds are answered with an error after their token has been swapped. -/
namespace Hanbova

open Library Library.Text
open CashuProtectedPaymentProvider (AtRest presented Settlement)

namespace Cdk

/-- No token has been spent, and the balance of the wallet is the same. -/
def Unmoved (c : Cdk) (w w' : c.World) : Prop :=
  (∀ tok, c.spender w' tok = c.spender w tok) ∧ c.totalBalance w' = c.totalBalance w

/-- What is assumed of the wallet besides: a failing `receive` has no effect. -/
def FailsCleanly (c : Cdk) : Prop :=
  ∀ w s keys e w', c.receive w s keys = (.error e, w') → c.Unmoved w w'

variable {c : Cdk} {w w' : c.World}

theorem Unmoved.refl (w : c.World) : c.Unmoved w w := ⟨fun _ => rfl, rfl⟩

/-- A swap spends a token. -/
theorem Lawful.not_unmoved (hc : c.Lawful) {s : String} {keys : List c.SecretKey}
    {amount : UInt64} (h : c.receive w s keys = (.ok amount, w')) : ¬ c.Unmoved w w' := by
  obtain ⟨key, -, ⟨tok, hd, hunspent, -⟩, tok', hd', hspent⟩ := hc.receive_ok _ _ _ _ _ h
  obtain rfl := Option.some.inj (hd.symm.trans hd')
  rintro ⟨hsame, -⟩
  rw [hsame, hunspent] at hspent
  cases hspent

end Cdk

/-- The status that the party cannot settle any more, as the other one has. -/
def Party.blocked : Party → PaymentStatus
  | .recipient => .refunded
  | .sender => .claimed

namespace CashuProtectedPaymentProvider
variable {c : Cdk}

theorem claimSettlement_fails {i : PaymentIntent} (hi : AtRest i) (now : DateTime) :
    (∃ e, ((claimSettlement now).win i).2 = .error e) ↔ i.status = .refunded := by
  cases hlegal : i.status.canTransitionTo .claimed with
  | true =>
    have hne : i.status ≠ .refunded := by
      intro h
      rw [h] at hlegal
      cases hlegal
    simp [claimSettlement, PaymentIntent.progress_of_legal hlegal, hne]
  | false =>
    obtain ⟨e, he⟩ := PaymentIntent.progress_of_illegal hlegal now
    have hst : i.status = .refunded := by
      rcases hi with h | h | h
      · rw [h] at hlegal; cases hlegal
      · rw [h] at hlegal; cases hlegal
      · exact h
    simp [claimSettlement, he, hst]

theorem refundSettlement_fails {i : PaymentIntent} (hi : AtRest i) (now₁ now₂ : DateTime) :
    (∃ e, ((refundSettlement now₁ now₂).win i).2 = .error e) ↔ i.status = .claimed := by
  have hne : i.status ≠ .refundAvailable := by
    rcases hi with h | h | h <;> rw [h] <;> decide
  simp only [refundSettlement, if_pos hne]
  have hmid : (i.progress .refundAvailable now₁).1.status =
      if i.status = .claimable then .refundAvailable else i.status :=
    status_progress_of_atRest hi rfl now₁
  generalize (i.progress .refundAvailable now₁).1 = j at hmid
  cases hlegal : j.status.canTransitionTo .refunded with
  | true =>
    have hclaimed : i.status ≠ .claimed := by
      intro h
      rw [if_neg (by rw [h]; decide), h] at hmid
      rw [hmid] at hlegal
      cases hlegal
    simp [PaymentIntent.progress_of_legal hlegal, hclaimed]
  | false =>
    obtain ⟨e, he⟩ := PaymentIntent.progress_of_illegal hlegal now₂
    have hst : i.status = .claimed := by
      rcases hi with h | h | h
      · rw [if_pos h] at hmid
        rw [hmid] at hlegal
        cases hlegal
      · exact h
      · rw [if_neg (by rw [h]; decide), h] at hmid
        rw [hmid] at hlegal
        cases hlegal
    simp [he, hst]

/-- A settlement is answered with an error if the swap fails or the status cannot follow it. -/
theorem settle_error {w w' : c.World} {t t' : TrackedPayment} {tokenStr : String}
    {key : c.SecretKey} {how : Settlement} {now : DateTime}
    {answer : Except ProtectedPaymentError ProtectedPaymentReceipt}
    (h : settle w t tokenStr key how now = (answer, t', w')) :
    (∃ amount, c.receive w tokenStr [key] = (.ok amount, w') ∧
      ((∃ e, answer = .error e) ↔ ∃ e, (how.win t.intent).2 = .error e)) ∨
    ∃ m, c.receive w tokenStr [key] = (.error m, w') := by
  match hr : c.receive w tokenStr [key] with
  | (.error m, w'') =>
    rcases settle_cases h with ⟨amount, hr', -⟩ | ⟨m', hr', -⟩ | ⟨m', hr', -⟩
    · cases hr.symm.trans hr'
    · exact .inr ⟨m', hr.symm.trans hr'⟩
    · exact .inr ⟨m', hr.symm.trans hr'⟩
  | (.ok amount, w'') =>
    left
    unfold settle at h
    match hw : how.win t.intent with
    | (intent, .error e) =>
      simp only [hr, hw, Prod.mk.injEq] at h
      obtain ⟨rfl, -, rfl⟩ := h
      exact ⟨amount, rfl, by simp⟩
    | (intent, .ok ()) =>
      simp only [hr, hw, Prod.mk.injEq] at h
      obtain ⟨rfl, -, rfl⟩ := h
      exact ⟨amount, rfl, by simp⟩

/-- A settlement whose transition fails at one status moves money without saying so exactly when it
swaps a token at that status. -/
theorem settle_clean_iff (hc : c.Lawful) (hf : c.FailsCleanly) {w w' : c.World}
    {t t' : TrackedPayment} {tokenStr : String} {key : c.SecretKey} {how : Settlement}
    {now : DateTime} {answer : Except ProtectedPaymentError ProtectedPaymentReceipt}
    {status : PaymentStatus}
    (hblocked : (∃ e, (how.win t.intent).2 = .error e) ↔ t.intent.status = status)
    (h : settle w t tokenStr key how now = (answer, t', w')) :
    ((∃ e, answer = .error e) → c.Unmoved w w') ↔
      ¬ (t.intent.status = status ∧
        ∃ amount, (c.receive w tokenStr [key]).1 = .ok amount) := by
  rcases settle_error h with ⟨amount, hr, herr⟩ | ⟨m, hr⟩
  · rw [herr, hblocked, hr]
    have hmoved := hc.not_unmoved hr
    simp [hmoved]
  · have hsame := hf _ _ _ _ _ hr
    rw [hr]
    simp [hsame]

end CashuProtectedPaymentProvider

section
variable {c : Cdk} {mintUrl : String} {s t : EscrowState c} {e : EscrowEvent c}
  {tr : List (Transition (EscrowState c) (EscrowEvent c))}

/-- The call comes to the mint and swaps a token there, for a payment that counts as settled by the
other party. -/
def Blocked (s : EscrowState c) (call : SettleCall) : Prop :=
  ∃ r proof key, s.intents.lookup call.paymentId = some r ∧ call.Due r ∧
    call.proof = some proof ∧ c.parseSecretKey proof = .ok key ∧
    r.intent.status = call.party.blocked ∧
    ∃ amount, (c.receive s.world (presented call.cashuToken r) [key]).1 = .ok amount

/-- If the step answers a call with an error, then it has moved no money. -/
def FailsClean (x : Transition (EscrowState c) (EscrowEvent c)) : Prop :=
  ∀ call e, x.label.call = some (call, .error e) → c.Unmoved x.pre.world x.post.world

namespace EscrowState
open CashuProtectedPaymentProvider

/-- What decides about a call that has been checked: the outcome of its settlement. -/
theorem blocked_iff {call : SettleCall} {r : TrackedPayment} {proof : String} {key : c.SecretKey}
    (hl : s.intents.lookup call.paymentId = some r) (hdue : call.Due r)
    (hp : call.proof = some proof) (hk : c.parseSecretKey proof = .ok key) :
    Blocked s call ↔ r.intent.status = call.party.blocked ∧
      ∃ amount, (c.receive s.world (presented call.cashuToken r) [key]).1 = .ok amount := by
  constructor
  · rintro ⟨r', proof', key', hl', -, hp', hk', hst⟩
    obtain rfl := Option.some.inj (hl.symm.trans hl')
    obtain rfl := Option.some.inj (hp.symm.trans hp')
    obtain rfl := Except.ok.inj (hk.symm.trans hk')
    exact hst
  · rintro hst
    exact ⟨r, proof, key, hl, hdue, hp, hk, hst⟩

/-- A call that passes the checks of the provider settles the payment. -/
theorem Step.settles_of_checked (h : Step c mintUrl s e t) {call : SettleCall}
    {answer : ReceiptAnswer} (hcall : e.call = some (call, answer)) {r : TrackedPayment}
    {proof : String} {key : c.SecretKey} (hrest : AtRest r.intent)
    (hl : s.intents.lookup call.paymentId = some r) (hdue : call.Due r)
    (hp : call.proof = some proof) (hk : c.parseSecretKey proof = .ok key) :
    ∃ r' how now, settle s.world r (presented call.cashuToken r) key how now =
        (answer, r', t.world) ∧
      ((∃ e, (how.win r.intent).2 = .error e) ↔ r.intent.status = call.party.blocked) := by
  cases h with
  | @claimed request now answer' intents w hop =>
    obtain ⟨rfl, rfl⟩ := Prod.mk.inj (Option.some.inj hcall)
    obtain rfl := Option.some.inj hp
    have hl' : s.intents.lookup request.paymentId = some r := hl
    unfold claimPayment at hop
    simp only [hl', hk] at hop
    obtain ⟨r', hset, -⟩ := settleAt_eq hop
    exact ⟨r', _, now, hset, claimSettlement_fails hrest now⟩
  | @refunded request now now₁ now₂ answer' intents w hop =>
    obtain ⟨rfl, rfl⟩ := Prod.mk.inj (Option.some.inj hcall)
    have hl' : s.intents.lookup request.paymentId = some r := hl
    have hp' : request.refundProof = some proof := hp
    have hdue' : ¬ now < r.locktime := not_lt.mpr (hdue rfl)
    unfold refundPayment at hop
    simp only [hl', if_neg hdue', hp', hk] at hop
    obtain ⟨r', hset, -⟩ := settleAt_eq hop
    exact ⟨r', _, now₁, hset, refundSettlement_fails hrest now₁ now₂⟩
  | _ => cases hcall

/-- A call that is answered with an error has moved no money, unless it is blocked. -/
theorem Step.clean_iff (h : Step c mintUrl s e t) (hc : c.Lawful) (hf : c.FailsCleanly)
    (hs : s.Invariant) {call : SettleCall} {answer : ReceiptAnswer}
    (hcall : e.call = some (call, answer)) :
    ((∃ e, answer = .error e) → c.Unmoved s.world t.world) ↔ ¬ Blocked s call := by
  by_cases hchecked : ∃ r proof key, s.intents.lookup call.paymentId = some r ∧ call.Due r ∧
      call.proof = some proof ∧ c.parseSecretKey proof = .ok key
  · obtain ⟨r, proof, key, hl, hdue, hp, hk⟩ := hchecked
    obtain ⟨r', how, now, hset, hfails⟩ :=
      h.settles_of_checked hcall (hs.atRest _ _ hl) hl hdue hp hk
    rw [blocked_iff hl hdue hp hk]
    exact settle_clean_iff hc hf hfails hset
  · have hfree : ¬ Blocked s call := by
      rintro ⟨r, proof, key, hl, hdue, hp, hk, -⟩
      exact hchecked ⟨r, proof, key, hl, hdue, hp, hk⟩
    refine ⟨fun _ => hfree, fun _ _ => ?_⟩
    rcases h.call_cases hcall with ⟨-, hw, -⟩ | ⟨r, r', key, how, now, hset⟩
    · rw [hw]
      exact .refl _
    · obtain ⟨proof, hp, hk⟩ := hset.proof
      exact absurd ⟨r, proof, key, hset.lookup, hset.due, hp, hk⟩ hchecked

end EscrowState

/-- In every run, a call that is answered with an error moves no money exactly if it is not
blocked. -/
theorem fails_clean_iff (hc : c.Lawful) (hf : c.FailsCleanly)
    (h : (escrowSystem c mintUrl).Trace tr s) :
    ∀ x ∈ tr, FailsClean x ↔
      ∀ call answer, x.label.call = some (call, answer) → ¬ Blocked x.pre call := by
  intro x hx
  obtain ⟨hreach, hl, -⟩ := h.split hx
  have hs := escrowInvariant_of_reachable hreach
  constructor
  · intro hclean call answer hcall
    refine (EscrowState.Step.clean_iff hl hc hf hs hcall).mp ?_
    rintro ⟨e, rfl⟩
    exact hclean call e hcall
  · intro hfree call e hcall
    exact (EscrowState.Step.clean_iff hl hc hf hs hcall).mpr (hfree call _ hcall) ⟨e, rfl⟩

end

theorem Cdk.ledger_failsCleanly (pairs : KeyPairs) : (Cdk.ledger pairs).FailsCleanly := by
  intro w s keys e w' h
  rcases Ledger.receive_cases h with
    ⟨rfl, -⟩ | ⟨_, -, rfl, -⟩ | ⟨rfl, -⟩ | ⟨_, _, -, -, -, -, he, -⟩
  · exact .refl _
  · exact .refl _
  · exact .refl _
  · cases he

section
open EscrowState CashuProtectedPaymentProvider

/-- Bob has claimed the payment, and a refund of it is asked for with a token of Charlie's. -/
def sampleForeignRefund : Transition (EscrowState sampleCdk) (EscrowEvent sampleCdk) where
  pre := ⟨track ∅ (sampleRecord .claimed .epoch), [], sampleSpentLedger⟩
  label := .refunded ⟨.ofNat 1, "alice", some charlieSecret, some "cashuB0"⟩
    sampleConditions.locktime (.error (.core (.invalidStateTransition .claimed .refunded)))
  post := ⟨track ∅ (sampleRecord .claimed .epoch), [],
    sampleSpentLedger.spend "cashuB0" ⟨5, charlieKey, none, 0, none⟩ charlieKey⟩

/-- Charlie's token is swapped, and the answer is an error. -/
theorem not_fails_clean : ¬ ∀ (c : Cdk) (mintUrl : String), c.Lawful → c.FailsCleanly →
    ∀ tr s, (escrowSystem c mintUrl).Trace tr s → ∀ x ∈ tr, FailsClean x := by
  intro hall
  obtain ⟨tr, h, -⟩ := trace_sampleClaimed
  have hstep : Step sampleCdk "mint" sampleForeignRefund.pre sampleForeignRefund.label
      sampleForeignRefund.post :=
    @Step.refunded sampleCdk "mint" _ _ _ sampleConditions.locktime sampleConditions.locktime _ _ _
      (by decide +kernel)
  have hclean := hall sampleCdk "mint" (Cdk.ledger_lawful _) (Cdk.ledger_failsCleanly _) _ _
    (h.snoc hstep) sampleForeignRefund (List.mem_append_right tr (List.mem_singleton_self _))
  obtain ⟨hsame, -⟩ := hclean _ _ rfl
  have hspent := hsame "cashuB0"
  revert hspent
  decide +kernel

/-- A claim with a wrong key. -/
def sampleWrongClaim : Transition (EscrowState sampleCdk) (EscrowEvent sampleCdk) where
  pre := ⟨track ∅ sampleTracked, [], sampleLockedLedger⟩
  label := .claimed (sampleClaim charlieSecret none) .epoch
    (.error (.cdk "Claim failed at mint: Witness is missing"))
  post := ⟨track ∅ sampleTracked, [], sampleLockedLedger⟩

theorem fails_clean_iff_sample : ∃ tr s, (escrowSystem sampleCdk "mint").Trace tr s ∧
    sampleWrongClaim ∈ tr ∧ FailsClean sampleWrongClaim := by
  obtain ⟨tr, h, -⟩ := trace_sampleTracked
  have hstep : Step sampleCdk "mint" sampleWrongClaim.pre sampleWrongClaim.label
      sampleWrongClaim.post := @Step.claimed sampleCdk "mint" _ _ _ _ _ _ (by decide +kernel)
  have h₁ := h.snoc hstep
  have hx := List.mem_append_right tr (List.mem_singleton_self sampleWrongClaim)
  refine ⟨_, _, h₁, hx, ?_⟩
  refine (fails_clean_iff (Cdk.ledger_lawful _) (Cdk.ledger_failsCleanly _) h₁ _ hx).mpr ?_
  rintro call answer hcall ⟨r, proof, key, hl, -, -, -, hst, -⟩
  obtain ⟨rfl, -⟩ := Prod.mk.inj (Option.some.inj hcall)
  obtain rfl := Option.some.inj hl
  cases hst

end

end Hanbova
