import Hanbova.Escrow.Invariant

/-! Payments that count as settled and the tokens that were locked for them. -/
namespace Hanbova

open Library Library.Text
open CashuProtectedPaymentProvider (presented)

/-- The payment counts as claimed or as refunded. -/
def PaymentIntent.Settled (i : PaymentIntent) : Prop := i.status = .claimed ∨ i.status = .refunded

section
variable {c : Cdk} {mintUrl : String} {s t : EscrowState c} {e : EscrowEvent c}
  {tr : List (Transition (EscrowState c) (EscrowEvent c))}

/-- The step makes the token the one of this payment. -/
def LocksToken (x : Transition (EscrowState c) (EscrowEvent c)) (id : Uuid) (token : String) :
    Prop :=
  ∃ l r receipt, x.label = .createTracked l r receipt ∧ r.intent.id = id ∧
    r.cashuToken = token

/-- The token that was locked when the payment was last created. -/
def TokenOf (tr : List (Transition (EscrowState c) (EscrowEvent c))) (id : Uuid)
    (token : String) : Prop :=
  ∃ tr₁ x tr₂, tr = tr₁ ++ x :: tr₂ ∧ LocksToken x id token ∧
    ∀ y ∈ tr₂, ∀ token', ¬ LocksToken y id token'

theorem TokenOf.snoc {id : Uuid} {token : String} (h : TokenOf tr id token)
    {x : Transition (EscrowState c) (EscrowEvent c)} (hx : ∀ token', ¬ LocksToken x id token') :
    TokenOf (tr ++ [x]) id token := by
  obtain ⟨tr₁, y, tr₂, rfl, hy, hlast⟩ := h
  refine ⟨tr₁, y, tr₂ ++ [x], by simp, hy, ?_⟩
  intro z hz
  rcases List.mem_append.mp hz with hz | hz
  · exact hlast z hz
  · rw [List.mem_singleton.mp hz]
    exact hx

/-- When the call comes to the mint, it presents the token of the payment, or that is spent
already, or the presented token cannot be swapped with the key and a refund does not present a
spent one. -/
def OwnSwap (x : Transition (EscrowState c) (EscrowEvent c)) : Prop :=
  ∀ call answer r proof key, x.label.call = some (call, answer) →
    x.pre.intents.lookup call.paymentId = some r → call.Due r →
    call.proof = some proof → c.parseSecretKey proof = .ok key →
    c.decode (presented call.cashuToken r) = c.decode r.cashuToken ∨
    c.Spent x.pre.world r.cashuToken ∨
    ¬ c.Receivable x.pre.world (presented call.cashuToken r) key ∧
      (call.party = .sender → ¬ c.Spent x.pre.world (presented call.cashuToken r))

namespace EscrowState

/-! ### The tracked token -/

/-- A step keeps the token of each record or creates the payment anew. -/
theorem Step.token (h : Step c mintUrl s e t) (hs : s.Invariant) {id : Uuid} {r : TrackedPayment}
    (hr : t.intents.lookup id = some r) :
    LocksToken ⟨s, e, t⟩ id r.cashuToken ∨
    (∀ token, ¬ LocksToken ⟨s, e, t⟩ id token) ∧
      ∃ r₀, s.intents.lookup id = some r₀ ∧ r₀.cashuToken = r.cashuToken := by
  rcases h.records with
    ⟨hi, hne⟩ | ⟨l, r', he, -, hset, -⟩ |
    ⟨call, answer, r₀, r', key, how, now, hcall, hset⟩
  · have hno : ∀ token, ¬ LocksToken ⟨s, e, t⟩ id token := by
      rintro token ⟨l, r', receipt, he, -⟩
      exact hne l r' receipt he
    exact .inr ⟨hno, r, hi ▸ hr, rfl⟩
  · rw [hset id] at hr
    split_ifs at hr with hid
    · obtain rfl := Option.some.inj hr
      exact .inl ⟨l, r', _, he, hid.symm, rfl⟩
    · have hno : ∀ token, ¬ LocksToken ⟨s, e, t⟩ id token := by
        rintro token ⟨l', r'', receipt, he', hid', -⟩
        cases he.symm.trans he'
        exact hid hid'.symm
      exact .inr ⟨hno, r, hr, rfl⟩
  · have hno : ∀ token, ¬ LocksToken ⟨s, e, t⟩ id token := by
      rintro token ⟨l, r', receipt, rfl, -⟩
      cases hcall
    rw [hset.set id] at hr
    split_ifs at hr with hid
    · obtain rfl := Option.some.inj hr
      have hrec := (hset.record (hs.atRest _ _ hset.lookup)).1
      exact .inr ⟨hno, r₀, hid ▸ hset.lookup, by rw [hrec]⟩
    · exact .inr ⟨hno, r, hr, rfl⟩

/-- A tracked payment has the token that was locked when it was created. -/
theorem tokenOf_of_trace (h : (escrowSystem c mintUrl).Trace tr s) {id : Uuid}
    {r : TrackedPayment} (hr : s.intents.lookup id = some r) : TokenOf tr id r.cashuToken := by
  obtain ⟨s₀, h₀, hrun⟩ := h
  induction hrun generalizing r with
  | nil =>
    rw [h₀.1] at hr
    cases hr
  | @snoc tr s t e hrun hl ih =>
    have hs : s.Invariant := escrowInvariant_of_reachable ⟨tr, s₀, h₀, hrun⟩
    rcases Step.token hl hs hr with hlock | ⟨hno, r₀, hr₀, htok⟩
    · exact ⟨tr, _, [], rfl, hlock, by simp⟩
    · exact htok ▸ (ih hr₀).snoc hno

/-! ### The invariant -/

/-- The tokens of settled payments are spent. -/
def SettledSpent (s : EscrowState c) : Prop :=
  ∀ id r, s.intents.lookup id = some r → r.intent.Settled → c.Spent s.world r.cashuToken

theorem spent_of_decode {w : c.World} {tok tok' : String} (h : c.decode tok = c.decode tok')
    (hs : c.Spent w tok) : c.Spent w tok' := by
  obtain ⟨token, pk, hd, hp⟩ := hs
  exact ⟨token, pk, h ▸ hd, hp⟩

/-- A call that settles the payment leaves its token spent. -/
theorem Settles.spent {call : SettleCall} {answer : ReceiptAnswer} {r r' : TrackedPayment}
    {key : c.SecretKey} {how : CashuProtectedPaymentProvider.Settlement} {now : DateTime}
    (h : Settles s call answer t r r' key how now) (hc : c.Lawful) (hs : s.Invariant)
    (hcall : e.call = some (call, answer)) (hown : OwnSwap ⟨s, e, t⟩)
    (hr : r.intent.Settled → c.Spent s.world r.cashuToken) (hr' : r'.intent.Settled) :
    c.Spent t.world r.cashuToken := by
  have hrest := hs.atRest _ _ h.lookup
  have hlater := h.later hc
  obtain ⟨proof, hproof, hkey⟩ := h.proof
  have hcond := hown call answer r proof key hcall h.lookup h.due hproof hkey
  rcases CashuProtectedPaymentProvider.settle_cases h.settle with
    ⟨amount, hrec, -, -⟩ | ⟨m, hrec, hm, rfl, -⟩ | ⟨m, -, rfl, -⟩
  · obtain ⟨key', hk, hreceivable, tok, hd, hspent⟩ := hc.receive_ok _ _ _ _ _ hrec
    obtain rfl := List.mem_singleton.mp hk
    rcases hcond with he | hpre | ⟨hno, -⟩
    · exact spent_of_decode he ⟨tok, _, hd, hspent⟩
    · exact hpre.later hlater
    · exact absurd hreceivable hno
  · have hpre := hc.receive_spent _ _ _ _ _ hrec hm
    rcases hcond with he | hown | ⟨-, hno⟩
    · exact (spent_of_decode he hpre).later hlater
    · exact hown.later hlater
    · have hst := h.moves.guess _ now hrest
      split_ifs at hst with hclaimable
      · cases hparty : call.party with
        | recipient =>
          rw [hparty] at hst
          rcases hr' with hr' | hr' <;> rw [hst] at hr' <;> cases hr'
        | sender => exact absurd hpre (hno hparty)
      · refine (hr ?_).later hlater
        unfold PaymentIntent.Settled at hr' ⊢
        rwa [hst] at hr'
  · exact (hr hr').later hlater

theorem Step.settledSpent (h : Step c mintUrl s e t) (hc : c.Lawful) (hs : s.Invariant)
    (hown : OwnSwap ⟨s, e, t⟩) (hsettled : s.SettledSpent) : t.SettledSpent := by
  intro id r hr hst
  have hkeep : s.intents.lookup id = some r → c.Spent t.world r.cashuToken := fun hl =>
    (hsettled id r hl hst).later (h.later hc)
  rcases h.records with
    ⟨hi, -⟩ | ⟨l, r', -, hmem, hset, -⟩ |
    ⟨call, answer, r₀, r', key, how, now, hcall, hset⟩
  · exact hkeep (hi ▸ hr)
  · rw [hset id] at hr
    split_ifs at hr with hid
    · obtain rfl := Option.some.inj hr
      have hnew := (hs.locked l _ hmem).1
      rcases hst with hst | hst <;> rw [hnew] at hst <;> cases hst
    · exact hkeep hr
  · rw [hset.set id] at hr
    split_ifs at hr with hid
    · obtain rfl := Option.some.inj hr
      have hrec := (hset.record (hs.atRest _ _ hset.lookup)).1
      rw [hrec]
      exact hset.spent hc hs hcall hown (hsettled _ _ hset.lookup) hst
    · exact hkeep hr

end EscrowState

open EscrowState in
theorem settled_by_own_token (hc : c.Lawful) (h : (escrowSystem c mintUrl).Trace tr s)
    (hown : ∀ x ∈ tr, OwnSwap x) :
    ∀ id r, s.intents.lookup id = some r → r.intent.Settled →
      ∃ token, TokenOf tr id token ∧ c.Spent s.world token := by
  intro id r hr hst
  refine ⟨r.cashuToken, tokenOf_of_trace h hr, ?_⟩
  obtain ⟨s₀, h₀, hrun⟩ := h
  refine hrun.induct (P := SettledSpent) (.init h₀) ?_ ?_ id r hr hst
  · intro id r hr
    rw [h₀.1] at hr
    cases hr
  · intro x hx hreach hl hsettled
    exact Step.settledSpent hl hc (escrowInvariant_of_reachable hreach) (hown x hx) hsettled

end

section
open EscrowState CashuProtectedPaymentProvider

/-- Bob claims the payment with its own token. -/
theorem settled_by_own_token_sample : ∃ tr s, (escrowSystem sampleCdk "mint").Trace tr s ∧
    (∃ r, s.intents.lookup (.ofNat 1) = some r ∧ r.intent.status = .claimed) ∧
    ∀ id r, s.intents.lookup id = some r → r.intent.Settled →
      ∃ token, TokenOf tr id token ∧ sampleCdk.Spent s.world token := by
  obtain ⟨tr, h, hquiet, -⟩ := trace_sampleTracked
  have h₁ := h.snoc (@Step.claimed sampleCdk "mint" _ (sampleClaim bobSecret none) .epoch
    (.ok (sampleReceipt .claimed 21 "claimed_")) (track ∅ (sampleRecord .claimed .epoch))
    (sampleLockedLedger.spend "cashuB1" sampleTokenLock bobKey) rfl)
  refine ⟨_, _, h₁, ⟨_, rfl, rfl⟩, settled_by_own_token (Cdk.ledger_lawful _) h₁ ?_⟩
  intro x hx call answer r proof key hcall hr _ _ _
  rcases List.mem_append.mp hx with hx | hx
  · rw [hquiet x hx] at hcall
    cases hcall
  · obtain rfl := List.mem_singleton.mp hx
    cases hcall
    exact .inl rfl

/-- Charlie claims the payment from Alice to Bob with his own key and a token that was locked for
him. -/
theorem not_settled_by_own_token : ∃ tr s, (escrowSystem sampleCdk "mint").Trace tr s ∧
    (∃ r, s.intents.lookup (.ofNat 1) = some r ∧ r.intent.status = .claimed) ∧
    ∃ token, TokenOf tr (.ofNat 1) token ∧ ¬ sampleCdk.Spent s.world token := by
  obtain ⟨tr, h, -⟩ := trace_sampleTracked
  have h₁ := h.snoc (@Step.claimed sampleCdk "mint" _ (sampleClaim charlieSecret (some "cashuB0"))
    .epoch (.ok (sampleReceipt .claimed 5 "claimed_")) (track ∅ (sampleRecord .claimed .epoch))
    (sampleLockedLedger.spend "cashuB0" ⟨5, charlieKey, none, 0, none⟩ charlieKey) rfl)
  have hr : (track ∅ (sampleRecord .claimed .epoch)).lookup (.ofNat 1) =
      some (sampleRecord .claimed .epoch) := rfl
  refine ⟨_, _, h₁, ⟨_, hr, rfl⟩, "cashuB1", tokenOf_of_trace h₁ hr, ?_⟩
  rintro ⟨token, key, hd, hkey⟩
  cases hd
  cases hkey

end

end Hanbova
