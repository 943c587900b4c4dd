import Hanbova.Escrow.Ledger

/-! The mock provider and the Cashu provider side by side: the same calls at the same times. -/
namespace Hanbova

open Library Library.Text
open CashuProtectedPaymentProvider (AtRest)

/-- A call of a provider. A new payment that the request does not name gets the drawn `id`. -/
inductive ProviderCall
  | create (request : CreateProtectedPaymentRequest) (id : Uuid)
  | claim (request : ClaimPaymentRequest)
  | refund (request : RefundPaymentRequest)
  | status (paymentId : Uuid)

inductive ProviderAnswer
  | receipt (answer : ReceiptAnswer)
  | status (answer : Except ProtectedPaymentError PaymentStatus)
  deriving DecidableEq

def ProviderAnswer.accepted : ProviderAnswer → Bool
  | receipt (.ok _) | status (.ok _) => true
  | receipt (.error _) | status (.error _) => false

/-- A call of the mock provider, which takes place at one moment. -/
def MockProtectedPaymentProvider.serve (intents : Intents) (now : DateTime) :
    ProviderCall → ProviderAnswer × Intents
  | .create request id =>
    let r := createProtectedPayment intents request id now now now
    (.receipt r.1, r.2)
  | .claim request =>
    let r := claimPayment intents request now now
    (.receipt r.1, r.2)
  | .refund request =>
    let r := refundPayment intents request now now now
    (.receipt r.1, r.2)
  | .status paymentId => (.status (getPaymentStatus intents paymentId), intents)

/-- The same call of the Cashu provider, over a ledger whose clock shows the same time. -/
def CashuProtectedPaymentProvider.serve (pairs : KeyPairs) (mintUrl : String) (intents : Intents)
    (w : Ledger) (now : DateTime) : ProviderCall → ProviderAnswer × Intents × Ledger
  | .create request id =>
    let r := createProtectedPayment (c := .ledger pairs) intents (w.atTime now) mintUrl
      (asU64 now.timestamp) request id now now now
    (.receipt r.1, r.2)
  | .claim request =>
    let r := claimPayment (c := .ledger pairs) intents (w.atTime now) request now
    (.receipt r.1, r.2)
  | .refund request =>
    let r := refundPayment (c := .ledger pairs) intents (w.atTime now) request now now now
    (.receipt r.1, r.2)
  | .status paymentId => (.status (getPaymentStatus intents paymentId now), intents, w.atTime now)

structure TwinState where
  mock : MockProtectedPaymentProvider.Intents
  cashu : CashuProtectedPaymentProvider.Intents
  ledger : Ledger

structure TwinEvent where
  call : ProviderCall
  now : DateTime
  mockAnswer : ProviderAnswer
  cashuAnswer : ProviderAnswer

/-- Each call reads the clock once. -/
def TwinEvent.clock (e : TwinEvent) : List DateTime := [e.now]

/-- A new payment has a fresh identifier, known keys and its expiry for locktime; a payment is
claimed and refunded with the right key and its own token. -/
def Admissible (pairs : KeyPairs) (s : TwinState) : ProviderCall → Prop
  | .create request id => s.cashu.lookup (request.paymentId.getD id) = none ∧
    ∃ i refund, request.lockingConditions = some i ∧ i.locktime = request.expiresAt ∧
      CashuProtectedPaymentProvider.KnownKeys pairs i refund
  | .claim request => request.cashuToken = none ∧
    ∀ t, s.cashu.lookup request.paymentId = some t →
      request.claimProof ∈ pairs.map Prod.fst ∧
      pairs.publicKey request.claimProof = t.recipientPubkey
  | .refund request => request.cashuToken = none ∧
    ∀ t, s.cashu.lookup request.paymentId = some t →
      ∃ proof ∈ request.refundProof, proof ∈ pairs.map Prod.fst ∧
        t.refundPubkey = some (pairs.publicKey proof)
  | .status _ => True

inductive TwinState.Step (pairs : KeyPairs) (mintUrl : String) :
    TwinState → TwinEvent → TwinState → Prop
  | served {s : TwinState} {call : ProviderCall} {now : DateTime}
      {m : ProviderAnswer × MockProtectedPaymentProvider.Intents}
      {c : ProviderAnswer × CashuProtectedPaymentProvider.Intents × Ledger}
      (hnow : .epoch ≤ now) (h : Admissible pairs s call)
      (hm : MockProtectedPaymentProvider.serve s.mock now call = m)
      (hc : CashuProtectedPaymentProvider.serve pairs mintUrl s.cashu s.ledger now call = c) :
      Step pairs mintUrl s ⟨call, now, m.1, c.1⟩ ⟨m.2, c.2.1, c.2.2⟩

/-- Neither provider tracks a payment, and the mint has names for its tokens. -/
def twinSystem (pairs : KeyPairs) (mintUrl : String) : System TwinState TwinEvent where
  init s := s.mock = ∅ ∧ s.cashu = ∅ ∧ s.ledger.Named
  step := TwinState.Step pairs mintUrl

/-- Both accept the call or neither does, and both report the same statuses after it. -/
def Agrees (x : Transition TwinState TwinEvent) : Prop :=
  x.label.mockAnswer.accepted = x.label.cashuAnswer.accepted ∧
    ∀ id, MockProtectedPaymentProvider.getPaymentStatus x.post.mock id =
      CashuProtectedPaymentProvider.getPaymentStatus x.post.cashu id x.label.now

/-- The payment is claimable although its locktime has passed. -/
def Due (s : TwinState) (now : DateTime) (id : Uuid) : Prop :=
  ∃ t, s.cashu.lookup id = some t ∧ t.intent.status = .claimable ∧ t.locktime ≤ now

def ProviderCall.Refunds (call : ProviderCall) (id : Uuid) : Prop :=
  ∃ request, call = .refund request ∧ request.paymentId = id

/-- A new payment that is valid expires in a later second, and the wallet has the amount. -/
def Affordable (s : TwinState) (call : ProviderCall) (now : DateTime) : Prop :=
  ∀ request id, call = .create request id → request.Valid request.expiresAt now →
    now.timestamp < request.expiresAt.timestamp ∧ request.amountSats.sats ≤ s.ledger.balance

/-- Every payment that is due is refunded by the call, and a new one is affordable. -/
def InStep (s : TwinState) (call : ProviderCall) (now : DateTime) : Prop :=
  (∀ id, Due s now id → call.Refunds id) ∧ Affordable s call now

/-! ### The mock provider at rest -/

namespace MockProtectedPaymentProvider
variable {i : PaymentIntent} {exp now : DateTime} {request : ClaimPaymentRequest}

/-- An intent is built of every valid request, and of no other. -/
theorem buildIntent_isOk_iff (request : CreateProtectedPaymentRequest) (id : Uuid)
    (now now₁ now₂ : DateTime) : (∃ i, buildIntent request id now now₁ now₂ = .ok i) ↔
      request.Valid request.expiresAt now := by
  rw [request.valid_iff_new _ id now]
  constructor
  · rintro ⟨i, h⟩
    obtain ⟨j, hn, -⟩ := buildIntent_eq_ok.mp h
    exact ⟨j, hn⟩
  · rintro ⟨j, hn⟩
    exact ⟨_, buildIntent_eq_ok.mpr ⟨j, hn, rfl⟩⟩

theorem progress_of_settled (hrest : AtRest i) (hst : i.status ≠ .claimable)
    {next : PaymentStatus}
    (hnext : next ≠ i.status) (now : DateTime) : ∃ e, i.progress next now = (i, .error e) := by
  have hterminal : i.status.isTerminal = true := by
    rcases hrest with h | h | h
    · exact absurd h hst
    · rw [h]; rfl
    · rw [h]; rfl
  refine PaymentIntent.progress_of_illegal ?_ now
  cases hc : i.status.canTransitionTo next with
  | false => rfl
  | true => exact absurd (PaymentStatus.eq_of_isTerminal hterminal hc) hnext

theorem claim_of_claimable (hexp : i.expiresAt = some exp) (hst : i.status = .claimable)
    (hnow : now < exp) (hproof : trim request.claimProof ≠ "") :
    ∃ receipt j, claim i request now now = (.ok receipt, j) ∧ j.status = .claimed ∧
      j.expiresAt = some exp := by
  have hopen : ¬ i.isExpired now = true := by
    rw [PaymentIntent.isExpired_iff hexp]
    exact not_le.mpr hnow
  have hlegal : i.status.canTransitionTo .claimed = true := by rw [hst]; rfl
  have hstatus : ¬ (i.status ≠ .claimable ∧ i.status ≠ .«protected») := fun h => h.1 hst
  unfold claim
  rw [if_neg hopen, if_neg hstatus, if_neg hproof, PaymentIntent.progress_of_legal hlegal]
  exact ⟨_, _, rfl, rfl, hexp⟩

/-- After the expiry no claim is accepted. -/
theorem claim_of_expired (hexp : i.expiresAt = some exp) (hnow : exp ≤ now)
    (request : ClaimPaymentRequest) :
    ∃ e, (claim i request now now).1 = .error e := by
  unfold claim
  rw [if_pos ((PaymentIntent.isExpired_iff hexp).mpr hnow)]
  split <;> exact ⟨_, rfl⟩

theorem claim_of_settled (hrest : AtRest i) (hst : i.status ≠ .claimable)
    (request : ClaimPaymentRequest) (now : DateTime) :
    ∃ e, claim i request now now = (.error e, i) := by
  unfold claim
  by_cases hx : i.isExpired now = true
  · have hne : PaymentStatus.refundAvailable ≠ i.status := by
      rcases hrest with h | h | h <;> rw [h] <;> decide
    obtain ⟨e, he⟩ := progress_of_settled hrest hst hne now
    rw [if_pos hx, he]
    exact ⟨_, rfl⟩
  · have hstatus : i.status ≠ .claimable ∧ i.status ≠ .«protected» := by
      refine ⟨hst, ?_⟩
      rcases hrest with h | h | h <;> rw [h] <;> decide
    rw [if_neg hx, if_pos hstatus]
    exact ⟨_, rfl⟩

theorem refund_of_early (hexp : i.expiresAt = some exp) (hnow : now < exp) :
    ∃ e, refund i now now now = (.error e, i) := by
  have hopen : (!i.isExpired now) = true := by
    have : ¬ i.isExpired now = true := by
      rw [PaymentIntent.isExpired_iff hexp]
      exact not_le.mpr hnow
    simpa using this
  unfold refund
  rw [if_pos hopen]
  exact ⟨_, rfl⟩

theorem refund_of_claimable (hexp : i.expiresAt = some exp) (hst : i.status = .claimable)
    (hnow : exp ≤ now) :
    ∃ receipt j, refund i now now now = (.ok receipt, j) ∧ j.status = .refunded ∧
      j.expiresAt = some exp := by
  have hclosed : ¬ (!i.isExpired now) = true := by
    simpa using (PaymentIntent.isExpired_iff hexp).mpr hnow
  have hstatus : i.status ≠ .refundAvailable ∧ i.status ≠ .expired := by
    rw [hst]
    decide
  have hlegal : i.status.canTransitionTo .refundAvailable = true := by rw [hst]; rfl
  unfold refund
  rw [if_neg hclosed, if_pos hstatus, PaymentIntent.progress_of_legal hlegal]
  simp only
  rw [PaymentIntent.progress_of_legal rfl]
  exact ⟨_, _, rfl, rfl, hexp⟩

theorem refund_of_settled (hrest : AtRest i) (hst : i.status ≠ .claimable) (now : DateTime) :
    ∃ e, refund i now now now = (.error e, i) := by
  unfold refund
  by_cases hx : (!i.isExpired now) = true
  · rw [if_pos hx]
    exact ⟨_, rfl⟩
  · have hstatus : i.status ≠ .refundAvailable ∧ i.status ≠ .expired := by
      rcases hrest with h | h | h <;> rw [h] <;> decide
    obtain ⟨e, he⟩ := progress_of_settled hrest hst hstatus.1.symm now
    rw [if_neg hx, if_pos hstatus, he]
    exact ⟨_, rfl⟩

/-- A valid request makes a claimable payment. -/
theorem createProtectedPayment_of_valid {request : CreateProtectedPaymentRequest}
    (hv : request.Valid request.expiresAt now) (intents : Intents) (id : Uuid) :
    ∃ i, createProtectedPayment intents request id now now now =
        (.ok (createReceipt request i), intents.insert i.id i) ∧
      i.status = .claimable ∧ i.id = request.paymentId.getD id ∧
      i.expiresAt = some request.expiresAt := by
  obtain ⟨i, hb⟩ := (buildIntent_isOk_iff request id now now now).mpr hv
  obtain ⟨hst, hid, -⟩ := buildIntent_ok hb
  refine ⟨i, ?_, hst, hid, expiresAt_of_buildIntent hb⟩
  unfold createProtectedPayment
  rw [hb]

theorem createProtectedPayment_of_not_valid {request : CreateProtectedPaymentRequest}
    (hv : ¬ request.Valid request.expiresAt now) (intents : Intents) (id : Uuid) :
    ∃ e, createProtectedPayment intents request id now now now = (.error e, intents) := by
  cases hb : buildIntent request id now now now with
  | ok i => exact absurd ((buildIntent_isOk_iff request id now now now).mp ⟨i, hb⟩) hv
  | error e =>
    refine ⟨e, ?_⟩
    unfold createProtectedPayment
    rw [hb]

end MockProtectedPaymentProvider

/-! ### The Cashu provider at rest -/

namespace CashuProtectedPaymentProvider
variable {pairs : KeyPairs} {intents : Intents} {w : Ledger} {r : TrackedPayment} {l : Lock}
  {now : DateTime} {proof : String}

theorem settleAt_of_settle {c : Cdk} {w w' : c.World} {id : Uuid} {r' : TrackedPayment}
    {tokenStr : String} {key : c.SecretKey} {how : Settlement} {answer : ReceiptAnswer}
    (h : settle w r tokenStr key how now = (answer, r', w')) :
    settleAt intents w id r tokenStr key how now = (answer, intents.insert id r', w') := by
  unfold settleAt
  rw [h]

section
variable {request : ClaimPaymentRequest}

theorem claimPayment_of_none {c : Cdk} (w : c.World)
    (hr : intents.lookup request.paymentId = none) : claimPayment intents w request now =
      (.error (.notFound request.paymentId.toString), intents, w) := by
  unfold claimPayment
  rw [hr]

/-- A claim that presents no token takes the payment's own. -/
theorem claimPayment_of_own (hr : intents.lookup request.paymentId = some r)
    (htoken : request.cashuToken = none) (hproof : request.claimProof ∈ pairs.map Prod.fst) :
    claimPayment (c := .ledger pairs) intents w request now =
      settleAt (c := .ledger pairs) intents w request.paymentId r r.cashuToken request.claimProof
        (claimSettlement now) now := by
  have hparse : pairs.parseSecretKey request.claimProof = .ok request.claimProof := if_pos hproof
  unfold claimPayment
  simp only [hr, hparse, htoken]
  rfl

theorem claimPayment_of_claimable (hr : intents.lookup request.paymentId = some r)
    (hback : r.BackedBy w l) (htoken : request.cashuToken = none)
    (hproof : request.claimProof ∈ pairs.map Prod.fst)
    (hkey : pairs.publicKey request.claimProof = r.recipientPubkey)
    (hst : r.intent.status = .claimable) (now : DateTime) :
    ∃ receipt j, claimPayment (c := .ledger pairs) intents w request now =
        (.ok receipt, intents.insert request.paymentId { r with intent := j },
          w.spend r.cashuToken l (pairs.publicKey request.claimProof)) ∧ j.status = .claimed := by
  have hunlocks : w.unlocks l (pairs.publicKey request.claimProof) = true := by
    simp [Ledger.unlocks, hback.recipient, hkey]
  have hok : ¬ ∃ e, ((claimSettlement now).win r.intent).2 = .error e := by
    rw [claimSettlement_fails (.inl hst), hst]
    decide
  obtain ⟨receipt, j, hsettle, hj⟩ :=
    settle_of_claimable hback hunlocks (claimSettlement_moves now) hok hst now
  exact ⟨receipt, j,
    (claimPayment_of_own hr htoken hproof).trans (settleAt_of_settle hsettle), hj⟩

theorem claimPayment_of_settled (hr : intents.lookup request.paymentId = some r)
    (hback : r.BackedBy w l) (htoken : request.cashuToken = none)
    (hproof : request.claimProof ∈ pairs.map Prod.fst) (hrest : AtRest r.intent)
    (hst : r.intent.status ≠ .claimable) (now : DateTime) :
    ∃ e j, claimPayment (c := .ledger pairs) intents w request now =
        (.error e, intents.insert request.paymentId { r with intent := j }, w) ∧
      j.status = r.intent.status := by
  obtain ⟨e, j, hsettle, hj⟩ :=
    settle_of_settled pairs hback (claimSettlement_moves now) hrest hst
    request.claimProof now
  exact ⟨e, j, (claimPayment_of_own hr htoken hproof).trans (settleAt_of_settle hsettle), hj⟩

end

section
variable {request : RefundPaymentRequest}

theorem refundPayment_of_none {c : Cdk} (w : c.World)
    (hr : intents.lookup request.paymentId = none) : refundPayment intents w request now now now =
      (.error (.notFound request.paymentId.toString), intents, w) := by
  unfold refundPayment
  rw [hr]

theorem refundPayment_of_early {c : Cdk} (w : c.World)
    (hr : intents.lookup request.paymentId = some r) (hnow : now < r.locktime) :
    refundPayment intents w request now now now =
      (.error (.paymentNotExpired r.locktime), intents, w) := by
  unfold refundPayment
  simp only [hr, if_pos hnow]

/-- From the locktime on a refund that presents no token takes the payment's own. -/
theorem refundPayment_of_own (hr : intents.lookup request.paymentId = some r)
    (htoken : request.cashuToken = none) (hdue : r.locktime ≤ now)
    (hproof : request.refundProof = some proof) (hsecret : proof ∈ pairs.map Prod.fst) :
    refundPayment (c := .ledger pairs) intents w request now now now =
      settleAt (c := .ledger pairs) intents w request.paymentId r r.cashuToken proof
        (refundSettlement now now) now := by
  have hparse : pairs.parseSecretKey proof = .ok proof := if_pos hsecret
  unfold refundPayment
  simp only [hr, if_neg (not_lt.mpr hdue), hproof, hparse, htoken]
  rfl

theorem refundPayment_of_claimable (hr : intents.lookup request.paymentId = some r)
    (hback : r.BackedBy w l) (htoken : request.cashuToken = none) (hdue : r.locktime ≤ now)
    (hproof : request.refundProof = some proof) (hsecret : proof ∈ pairs.map Prod.fst)
    (hkey : r.refundPubkey = some (pairs.publicKey proof)) (hopen : l.locktime ≤ w.now)
    (hst : r.intent.status = .claimable) :
    ∃ receipt j, refundPayment (c := .ledger pairs) intents w request now now now =
        (.ok receipt, intents.insert request.paymentId { r with intent := j },
          w.spend r.cashuToken l (pairs.publicKey proof)) ∧ j.status = .refunded := by
  have hunlocks : w.unlocks l (pairs.publicKey proof) = true := by
    simp [Ledger.unlocks, hback.refund, hkey, hopen]
  have hok : ¬ ∃ e, ((refundSettlement now now).win r.intent).2 = .error e := by
    rw [refundSettlement_fails (.inl hst), hst]
    decide
  obtain ⟨receipt, j, hsettle, hj⟩ :=
    settle_of_claimable hback hunlocks (refundSettlement_moves now now) hok hst now
  have hown := refundPayment_of_own (w := w) hr htoken hdue hproof hsecret
  exact ⟨receipt, j, hown.trans (settleAt_of_settle hsettle), hj⟩

theorem refundPayment_of_settled (hr : intents.lookup request.paymentId = some r)
    (hback : r.BackedBy w l) (htoken : request.cashuToken = none) (hdue : r.locktime ≤ now)
    (hproof : request.refundProof = some proof) (hsecret : proof ∈ pairs.map Prod.fst)
    (hrest : AtRest r.intent) (hst : r.intent.status ≠ .claimable) :
    ∃ e j, refundPayment (c := .ledger pairs) intents w request now now now =
        (.error e, intents.insert request.paymentId { r with intent := j }, w) ∧
      j.status = r.intent.status := by
  obtain ⟨e, j, hsettle, hj⟩ := settle_of_settled pairs hback (refundSettlement_moves now now)
    hrest hst proof now
  have hown := refundPayment_of_own (w := w) hr htoken hdue hproof hsecret
  exact ⟨e, j, hown.trans (settleAt_of_settle hsettle), hj⟩

end

end CashuProtectedPaymentProvider

end Hanbova
