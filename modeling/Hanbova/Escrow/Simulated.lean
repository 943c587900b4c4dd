import Hanbova.Escrow.Twinned
import Hanbova.Library.History

/-! When the mock provider simulates the Cashu provider, call by call and over whole runs. -/
namespace Hanbova

open Library Library.Text
open CashuProtectedPaymentProvider (AtRest)

variable {pairs : KeyPairs} {mintUrl : String} {s t : TwinState} {now : DateTime} {id : Uuid}
  {r r' : TrackedPayment}

theorem joint_status (h : Twinned s) (id : Uuid) : Joint s (.status id) now
    (.status (MockProtectedPaymentProvider.getPaymentStatus s.mock id))
    (.status (CashuProtectedPaymentProvider.getPaymentStatus s.cashu id now))
    ⟨s.mock, s.cashu, s.ledger.atTime now⟩ := by
  refine .idle h ?_ (fun request id' he => by cases he)
    (fun id' ⟨request, he, _⟩ => by cases he)
  unfold MockProtectedPaymentProvider.getPaymentStatus
    CashuProtectedPaymentProvider.getPaymentStatus
  rcases h.paired id with ⟨hi, hr⟩ | ⟨i, r, hi, hr, -⟩
  · rw [hi, hr]
  · rw [hi, hr]
    rfl

/-- A claim parts the providers if the payment is due; else both accept the claim of a claimable
payment and refuse all others. -/
theorem joint_claim (h : Twinned s) (hpairs : ∀ p ∈ pairs, trim p.1 ≠ "")
    {request : ClaimPaymentRequest} (hadm : Admissible pairs s (.claim request)) :
    let m := MockProtectedPaymentProvider.claimPayment s.mock request now now
    let c := CashuProtectedPaymentProvider.claimPayment (c := .ledger pairs) s.cashu
      (s.ledger.atTime now) request now
    Joint s (.claim request) now (.receipt m.1) (.receipt c.1) ⟨m.2, c.2.1, c.2.2⟩ := by
  obtain ⟨htoken, hkeys⟩ := hadm
  have haffordable : Affordable s (.claim request) now := fun request id he => by cases he
  have hnone : ∀ id, ¬ (ProviderCall.claim request).Refunds id :=
    fun id ⟨request, he, _⟩ => by
    cases he
  intro m c
  rcases h.paired request.paymentId with ⟨hi, hr⟩ | ⟨i, r, hi, hr, htw⟩
  · have hm : m = _ := MockProtectedPaymentProvider.settleAt_of_none hi
    have hc : c = _ := CashuProtectedPaymentProvider.claimPayment_of_none _ hr
    rw [hm, hc]
    exact .idle h rfl haffordable fun id hrefunds => absurd hrefunds (hnone id)
  obtain ⟨hproof, hkey⟩ := hkeys r hr
  obtain ⟨l, hl⟩ := htw.backed
  have hl' := hl.atTime now
  have hm : m = _ := MockProtectedPaymentProvider.settleAt_of_some hi
  by_cases hst : r.intent.status = .claimable
  · obtain ⟨receipt, j, hc, hj⟩ := CashuProtectedPaymentProvider.claimPayment_of_claimable
      hr hl' htoken hproof hkey hst now
    have hc : c = _ := hc
    by_cases hdue : r.locktime ≤ now
    · obtain ⟨e, he⟩ := MockProtectedPaymentProvider.claim_of_expired htw.expiry hdue request
      refine .parted ?_ fun hin => hnone _ (hin.1 request.paymentId ⟨r, hr, hst, hdue⟩)
      rw [hm, hc, he]
      exact Bool.false_ne_true
    · have hblank : trim request.claimProof ≠ "" := by
        obtain ⟨p, hp, he⟩ := List.mem_map.mp hproof
        rw [← he]
        exact hpairs p hp
      obtain ⟨receipt', i', hclaim, hi', hexpiry⟩ :=
        MockProtectedPaymentProvider.claim_of_claimable htw.expiry (htw.status.trans hst)
          (not_le.mp hdue) hblank
      rw [hm, hc, hclaim]
      refine .settled h hr hl htw.era (Table.setAt_insert _ _ _) (Table.setAt_insert _ _ _)
        (hi'.trans hj.symm) hexpiry (.inl hj) rfl haffordable
        (fun id hrefunds => absurd hrefunds (hnone id)) ?_
      rintro ⟨r', hr', -, hdue'⟩
      obtain rfl := Option.some.inj (hr.symm.trans hr')
      exact absurd hdue' hdue
  · obtain ⟨e, j, hc, hj⟩ := CashuProtectedPaymentProvider.claimPayment_of_settled
      hr hl' htoken hproof htw.rest hst now
    obtain ⟨e', hclaim⟩ := MockProtectedPaymentProvider.claim_of_settled htw.atRest
      (by rwa [htw.status]) request now
    have hc : c = _ := hc
    rw [hm, hc, hclaim]
    exact .kept h hi hr (Table.setAt_insert _ _ _) (Table.setAt_insert _ _ _) hj rfl haffordable
      fun id hrefunds => absurd hrefunds (hnone id)

/-- Both accept the refund of a payment that is due and refuse all others. -/
theorem joint_refund (h : Twinned s) (hnow : .epoch ≤ now) {request : RefundPaymentRequest}
    (hadm : Admissible pairs s (.refund request)) :
    let m := MockProtectedPaymentProvider.refundPayment s.mock request now now now
    let c := CashuProtectedPaymentProvider.refundPayment (c := .ledger pairs) s.cashu
      (s.ledger.atTime now) request now now now
    Joint s (.refund request) now (.receipt m.1) (.receipt c.1) ⟨m.2, c.2.1, c.2.2⟩ := by
  obtain ⟨htoken, hkeys⟩ := hadm
  have haffordable : Affordable s (.refund request) now := fun request id he => by cases he
  have honly : ∀ id, (ProviderCall.refund request).Refunds id → id = request.paymentId := by
    rintro id ⟨request', he, rfl⟩
    cases he
    rfl
  intro m c
  rcases h.paired request.paymentId with ⟨hi, hr⟩ | ⟨i, r, hi, hr, htw⟩
  · have hm : m = _ := MockProtectedPaymentProvider.settleAt_of_none hi
    have hc : c = _ := CashuProtectedPaymentProvider.refundPayment_of_none _ hr
    rw [hm, hc]
    refine .idle h rfl haffordable ?_
    rintro id hrefunds ⟨r, hr', -⟩
    rw [honly id hrefunds, hr] at hr'
    cases hr'
  obtain ⟨proof, hproof, hsecret, hkey⟩ := hkeys r hr
  obtain ⟨l, hl⟩ := htw.backed
  have hl' := hl.atTime now
  have hm : m = _ := MockProtectedPaymentProvider.settleAt_of_some hi
  have hfree : ¬ (r.intent.status = .claimable ∧ r.locktime ≤ now) →
      ∀ id, (ProviderCall.refund request).Refunds id → ¬ Due s now id := by
    rintro hnot id hrefunds ⟨r', hr', hdue⟩
    rw [honly id hrefunds, hr] at hr'
    obtain rfl := Option.some.inj hr'
    exact hnot hdue
  by_cases hdue : r.locktime ≤ now
  · by_cases hst : r.intent.status = .claimable
    · have hopen : l.locktime ≤ (s.ledger.atTime now).now := by
        rw [hl.locktime]
        exact (CashuProtectedPaymentProvider.asU64_le_iff htw.era hnow).mpr
          (DateTime.timestamp_mono hdue)
      obtain ⟨receipt, j, hc, hj⟩ := CashuProtectedPaymentProvider.refundPayment_of_claimable
        hr hl' htoken hdue hproof hsecret hkey hopen hst
      obtain ⟨receipt', i', hrefund, hi', hexpiry⟩ :=
        MockProtectedPaymentProvider.refund_of_claimable htw.expiry (htw.status.trans hst) hdue
      have hc : c = _ := hc
      rw [hm, hc, hrefund]
      exact .settled h hr hl htw.era (Table.setAt_insert _ _ _) (Table.setAt_insert _ _ _)
        (hi'.trans hj.symm) hexpiry (.inr hj) rfl haffordable honly fun _ => ⟨request, rfl, rfl⟩
    · obtain ⟨e, j, hc, hj⟩ := CashuProtectedPaymentProvider.refundPayment_of_settled
        hr hl' htoken hdue hproof hsecret htw.rest hst
      obtain ⟨e', hrefund⟩ := MockProtectedPaymentProvider.refund_of_settled htw.atRest
        (by rwa [htw.status]) now
      have hc : c = _ := hc
      rw [hm, hc, hrefund]
      exact .kept h hi hr (Table.setAt_insert _ _ _) (Table.setAt_insert _ _ _) hj rfl haffordable
        (hfree fun hd => hst hd.1)
  · obtain ⟨e, hrefund⟩ := MockProtectedPaymentProvider.refund_of_early htw.expiry
      (not_le.mp hdue)
    have hc : c = _ :=
      CashuProtectedPaymentProvider.refundPayment_of_early _ hr (not_le.mp hdue)
    rw [hm, hc, hrefund]
    exact .kept h hi hr (Table.setAt_insert _ _ _) (Table.setAt_self hr) rfl rfl haffordable
      (hfree fun hd => hdue hd.2)

/-- The two records of a new payment join the others. -/
theorem Twinned.create (h : Twinned s)
    (htoken : r.cashuToken = (s.ledger.atTime now).nextToken) {l : Lock} {i : PaymentIntent}
    (htw : Twins ((s.ledger.atTime now).lock l) i r) :
    Twinned ⟨s.mock.insert r.intent.id i, CashuProtectedPaymentProvider.track s.cashu r,
      (s.ledger.atTime now).lock l⟩ := by
  have hnamed : (s.ledger.atTime now).Named := h.named
  refine h.set (hnamed.lock l) (Table.setAt_insert _ _ _) (Table.setAt_insert _ _ _) htw ?_
  intro id' r' hne hr'
  refine ⟨fun he => ?_, fun l' hl' => (hl'.atTime now).lock hnamed l⟩
  -- the token of a tracked payment is not the one to come
  rcases h.paired id' with ⟨-, hno⟩ | ⟨_, r'', -, hr'', htw'⟩
  · cases hr'.symm.trans hno
  · obtain rfl := Option.some.inj (hr''.symm.trans hr')
    obtain ⟨l', hl'⟩ := htw'.backed
    have hlookup := (hl'.atTime now).lookup
    rw [he, htoken, hnamed.next] at hlookup
    cases hlookup

section
variable {call : ProviderCall} {m c : ProviderAnswer} {i : PaymentIntent} {l : Lock}

/-- Neither makes the payment, though the ledger may have locked a token for it. -/
theorem Joint.unmade (h : Twinned s) {w : Ledger}
    (hw : w = s.ledger.atTime now ∨ ∃ l, w = (s.ledger.atTime now).lock l)
    (hans : m.accepted = c.accepted) (haffordable : Affordable s call now)
    (hnone : ∀ id, ¬ call.Refunds id) : Joint s call now m c ⟨s.mock, s.cashu, w⟩ := by
  have hnamed : (s.ledger.atTime now).Named := h.named
  have htwinned : Twinned ⟨s.mock, s.cashu, w⟩ := by
    rcases hw with rfl | ⟨l, rfl⟩
    · exact h.relock hnamed fun r l hl => hl.atTime now
    · exact h.relock (hnamed.lock l) fun r l' hl => (hl.atTime now).lock hnamed l
  exact .together hans haffordable htwinned
    fun id => ⟨fun hd => ⟨hd, hnone id⟩, fun hd => hd.1⟩

/-- Both make the payment, and it is not due yet. -/
theorem Joint.made (h : Twinned s) (hfresh : s.cashu.lookup r.intent.id = none)
    (htoken : r.cashuToken = (s.ledger.atTime now).nextToken)
    (htw : Twins ((s.ledger.atTime now).lock l) i r) (hopen : ¬ r.locktime ≤ now)
    (hans : m.accepted = c.accepted) (haffordable : Affordable s call now)
    (hnone : ∀ id, ¬ call.Refunds id) :
    Joint s call now m c ⟨s.mock.insert r.intent.id i,
      CashuProtectedPaymentProvider.track s.cashu r, (s.ledger.atTime now).lock l⟩ := by
  have hset : Table.SetAt s.cashu r.intent.id r (CashuProtectedPaymentProvider.track s.cashu r) :=
    Table.setAt_insert _ _ _
  refine .together hans haffordable (h.create htoken htw) fun id => ?_
  rw [due_of_set hset]
  split_ifs with he
  · subst he
    constructor
    · intro hd
      exact absurd hd.2 hopen
    · rintro ⟨⟨r', hr', -⟩, -⟩
      cases hfresh.symm.trans hr'
  · exact ⟨fun hd => ⟨hd, hnone id⟩, fun hd => hd.1⟩

end

/-- The providers part over a valid payment that the Cashu provider cannot send; else both make it
or neither does. -/
theorem joint_create (h : Twinned s) (hnow : .epoch ≤ now) (mintUrl : String)
    {request : CreateProtectedPaymentRequest} (hadm : Admissible pairs s (.create request id)) :
    let m := MockProtectedPaymentProvider.createProtectedPayment s.mock request id now now now
    let c := CashuProtectedPaymentProvider.createProtectedPayment (c := .ledger pairs) s.cashu
      (s.ledger.atTime now) mintUrl (CashuProtectedPaymentProvider.asU64 now.timestamp) request id
      now now now
    Joint s (.create request id) now (.receipt m.1) (.receipt c.1) ⟨m.2, c.2.1, c.2.2⟩ := by
  obtain ⟨hfresh, conditions, refund, hconditions, hlocktime, hkeys⟩ := hadm
  have hnone : ∀ id', ¬ (ProviderCall.create request id).Refunds id' :=
    fun id' ⟨request', he, _⟩ => by cases he
  intro m c
  rcases CashuProtectedPaymentProvider.create_ledger hconditions hkeys h.named hnow s.cashu mintUrl
    id with ⟨hno, e, w, hc, hw⟩ |
    ⟨⟨hv, hlater, hbalance⟩, t, l, hc, hst, hid, htime, htok, hback⟩
  · have hc : c = (.error e, s.cashu, w) := hc
    rw [hlocktime] at hno
    by_cases hv : request.Valid request.expiresAt now
    · obtain ⟨i, hm, -⟩ :=
        MockProtectedPaymentProvider.createProtectedPayment_of_valid hv s.mock id
      have hm : m = _ := hm
      refine .parted ?_ fun hin => hno ⟨hv, hin.2 request id rfl hv⟩
      rw [hm, hc]
      exact Bool.noConfusion
    · obtain ⟨e', hm⟩ :=
        MockProtectedPaymentProvider.createProtectedPayment_of_not_valid hv s.mock id
      have hm : m = _ := hm
      rw [hm, hc]
      refine .unmade h hw rfl ?_ hnone
      intro request' id' he hv'
      cases he
      exact absurd hv' hv
  · have hc : c = (.ok (CashuProtectedPaymentProvider.createReceipt t),
        CashuProtectedPaymentProvider.track s.cashu t, (s.ledger.atTime now).lock l) := hc
    rw [hlocktime] at hv hlater htime
    obtain ⟨i, hm, hist, hiid, hexpiry⟩ :=
      MockProtectedPaymentProvider.createProtectedPayment_of_valid hv s.mock id
    have hm : m = _ := hm
    have hopen : ¬ t.locktime ≤ now := by
      rw [htime]
      exact not_le.mpr hv.2.2
    rw [← hid] at hfresh
    rw [hm, hc, hiid.trans hid.symm]
    have htwins : Twins ((s.ledger.atTime now).lock l) i t := by
      refine ⟨hist.trans hst.symm, ?_, .inl hst, hnow.trans (not_le.mp hopen).le, l, hback⟩
      rw [htime]
      exact hexpiry
    refine .made h hfresh htok htwins hopen rfl ?_ hnone
    intro request' id' he _
    cases he
    exact ⟨hlater, hbalance⟩

/-! ### Runs -/

theorem joint_of_step (hpairs : ∀ p ∈ pairs, trim p.1 ≠ "") (h : Twinned s) {e : TwinEvent}
    (hl : TwinState.Step pairs mintUrl s e t) :
    Joint s e.call e.now e.mockAnswer e.cashuAnswer t := by
  cases hl with
  | @served call now m c hnow hadm hm hc =>
    subst hm hc
    unfold MockProtectedPaymentProvider.serve CashuProtectedPaymentProvider.serve
    cases call with
    | create request id => exact joint_create h hnow mintUrl hadm
    | claim request => exact joint_claim h hpairs hadm
    | refund request => exact joint_refund h hnow hadm
    | status id => exact joint_status h id

theorem twinned_of_init (h : (twinSystem pairs mintUrl).init s) : Twinned s := by
  obtain ⟨hm, hc, hw⟩ := h
  refine ⟨hw, fun id => .inl ?_, fun id id' r r' hr => ?_⟩
  · rw [hm, hc]
    exact ⟨rfl, rfl⟩
  · rw [hc] at hr
    cases hr

/-- The mock provider does in a run what the Cashu provider does if and only if every call is in
step: it refunds each payment that is due, and a new payment is affordable. -/
theorem mock_simulates_iff (pairs : KeyPairs) (mintUrl : String)
    (hpairs : ∀ p ∈ pairs, trim p.1 ≠ "") (tr : List (Transition TwinState TwinEvent))
    (s : TwinState) (h : (twinSystem pairs mintUrl).Trace tr s) :
    (∀ x ∈ tr, Agrees x) ↔ ∀ x ∈ tr, InStep x.pre x.label.call x.label.now := by
  have hboth : ((∀ x ∈ tr, Agrees x) ↔ ∀ x ∈ tr, InStep x.pre x.label.call x.label.now) ∧
      ((∀ x ∈ tr, Agrees x) → Twinned s) := by
    refine h.induct (P := fun tr s =>
      ((∀ x ∈ tr, Agrees x) ↔ ∀ x ∈ tr, InStep x.pre x.label.call x.label.now) ∧
        ((∀ x ∈ tr, Agrees x) → Twinned s)) ?_ ?_
    · intro s hs
      exact ⟨by simp, fun _ => twinned_of_init hs⟩
    · rintro tr s e t - ⟨ih, htwinned⟩ hl
      have hjoint : (∀ x ∈ tr, Agrees x) →
          (Agrees ⟨s, e, t⟩ ↔ InStep s e.call e.now) ∧
          (Agrees ⟨s, e, t⟩ → Twinned t) :=
        fun hall => Joint.agrees_iff (x := ⟨s, e, t⟩) (joint_of_step hpairs (htwinned hall) hl)
      simp only [List.forall_mem_append, List.forall_mem_singleton]
      constructor
      · constructor
        · rintro ⟨hall, hx⟩
          exact ⟨ih.mp hall, (hjoint hall).1.mp hx⟩
        · rintro ⟨hall, hx⟩
          have hall := ih.mpr hall
          exact ⟨hall, (hjoint hall).1.mpr hx⟩
      · rintro ⟨hall, hx⟩
        exact (hjoint hall).2 hx
  exact hboth.1

/-! ### Alice's payment to Bob, twice -/

def samplePairs : KeyPairs :=
  [(bobSecret, bobKey), (aliceSecret, aliceKey), (charlieSecret, charlieKey)]

theorem named_sampleLedger : sampleLedger.Named := by
  intro k hk
  have hset : Table.SetAt (∅ : Table String Lock) "cashuB0" ⟨5, charlieKey, none, 0, none⟩
      sampleLedger.locks := Table.setAt_insert _ _ _
  have hk : 1 ≤ k := hk
  have hne : "cashuB" ++ toString k ≠ "cashuB0" := by
    intro he
    have hzero : "cashuB0" = "cashuB" ++ toString 0 := by decide +kernel
    have := Ledger.token_injective (he.trans hzero)
    omega
  exact (hset.lookup_ne hne).trans rfl

theorem admissible_sampleCreate : Admissible samplePairs ⟨∅, ∅, sampleLedger⟩
    (.create sampleCreate (.ofNat 1)) := by
  refine ⟨rfl, sampleConditions, aliceKey, rfl, rfl, ?_, rfl, ?_⟩
  · decide +kernel
  · decide +kernel

def sampleMockCreated : PaymentIntent := { sampleTracked.intent with claimReference := none }

/-- Both providers have made the payment. -/
def sampleTwins : TwinState :=
  ⟨Table.insert ∅ (.ofNat 1) sampleMockCreated,
    CashuProtectedPaymentProvider.track ∅ sampleTracked, sampleLockedLedger⟩

theorem trace_sampleTwins : ∃ e, e.call = .create sampleCreate (.ofNat 1) ∧ e.now = .epoch ∧
    (twinSystem samplePairs "mint").Trace [⟨⟨∅, ∅, sampleLedger⟩, e, sampleTwins⟩] sampleTwins := by
  have h₀ : (twinSystem samplePairs "mint").init ⟨∅, ∅, sampleLedger⟩ :=
    ⟨rfl, rfl, named_sampleLedger⟩
  have hm : MockProtectedPaymentProvider.serve ∅ .epoch (.create sampleCreate (.ofNat 1)) =
      (.receipt (.ok (MockProtectedPaymentProvider.createReceipt sampleCreate sampleMockCreated)),
        sampleTwins.mock) := by decide +kernel
  have hc : CashuProtectedPaymentProvider.serve samplePairs "mint" ∅ sampleLedger .epoch
      (.create sampleCreate (.ofNat 1)) =
      (.receipt (.ok (CashuProtectedPaymentProvider.createReceipt sampleTracked)),
        sampleTwins.cashu, sampleTwins.ledger) := by decide +kernel
  exact ⟨_, rfl, rfl, _, h₀, .single (.served (le_refl _) admissible_sampleCreate hm hc)⟩

theorem admissible_sampleClaim :
    Admissible samplePairs sampleTwins (.claim (sampleClaim bobSecret none)) := by
  refine ⟨rfl, fun t ht => ?_⟩
  obtain rfl := Option.some.inj ht
  exact ⟨by decide +kernel, rfl⟩

/-- Bob claims after the locktime, which the mint allows and the mock provider does not. -/
theorem not_mock_simulates : ¬ ∀ (pairs : KeyPairs) (mintUrl : String),
    (∀ p ∈ pairs, trim p.1 ≠ "") → ∀ tr s, (twinSystem pairs mintUrl).Trace tr s →
      System.Timed TwinEvent.clock tr → ∀ x ∈ tr, Agrees x := by
  intro hall
  obtain ⟨e, -, hnow, h⟩ := trace_sampleTwins
  have h₁ := h.snoc (@TwinState.Step.served samplePairs "mint" sampleTwins _ .nextDay _ _
    (by decide) admissible_sampleClaim rfl rfl)
  have hagrees := hall samplePairs "mint" (by decide +kernel) _ _ h₁
  refine absurd (hagrees (System.timed_of_readings [.epoch, .nextDay] ?_ (by decide)) _
    (List.mem_append_right _ (List.mem_singleton_self _))).1 ?_
  · simp [System.readings, TwinEvent.clock, hnow]
  · decide +kernel

/-- Bob claims at once. -/
theorem mock_simulates_iff_sample : ∃ tr s, (twinSystem samplePairs "mint").Trace tr s ∧
    tr.length = 2 ∧ ∀ x ∈ tr, Agrees x := by
  obtain ⟨e, hcall, hnow, h⟩ := trace_sampleTwins
  have h₁ := h.snoc (@TwinState.Step.served samplePairs "mint" sampleTwins _ .epoch _ _
    (by decide) admissible_sampleClaim rfl rfl)
  refine ⟨_, _, h₁, rfl, (mock_simulates_iff _ _ (by decide +kernel) _ _ h₁).mpr ?_⟩
  intro x hx
  simp only [List.singleton_append, List.mem_cons, List.not_mem_nil, or_false] at hx
  rcases hx with rfl | rfl
  · constructor
    · rintro id ⟨t, ht, -⟩
      cases ht
    · intro request id he _
      rw [hcall] at he
      cases he
      rw [hnow]
      have hbalance : sampleCreate.amountSats.sats ≤ sampleLedger.balance := by decide +kernel
      exact ⟨by decide +kernel, hbalance⟩
  · constructor
    · rintro id ⟨t, ht, -, hdue⟩
      have hset : Table.SetAt ∅ (.ofNat 1) sampleTracked sampleTwins.cashu :=
        Table.setAt_insert _ _ _
      rw [hset id] at ht
      split_ifs at ht
      · obtain rfl := Option.some.inj ht
        have hdue : sampleTracked.locktime ≤ .epoch := hdue
        exact absurd hdue (by decide)
      · cases ht
    · intro request id he
      cases he

end Hanbova
