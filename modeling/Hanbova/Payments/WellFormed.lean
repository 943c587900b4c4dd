import Hanbova.Library.History
import Hanbova.Payments.System

/-! What every stored payment intent looks like, and which requested expiries are refused. -/
namespace Hanbova

open Library Library.Text
open Library.System (Timed readings)

/-- The time that a request leaves for the claim. -/
def claimWindow : Option UInt64 → TimeDelta
  | some secs => secs.toNat * 1000000000
  | none => TimeDelta.hours 24

/-- A requested expiry of zero seconds, above `i64`, or beyond the calendar. -/
def UnusableExpiry (now : DateTime) (secs : UInt64) : Prop :=
  secs = 0 ∨ 2 ^ 63 ≤ secs.toNat ∨ maxUtc < now.nanos + claimWindow (some secs)

/-- The terms of an intent, as creation leaves them. -/
structure PaymentIntent.WellFormed (i : PaymentIntent) : Prop where
  amount : 0 < i.amountSats.sats.toNat ∧ i.amountSats.sats.toNat ≤ 21000000 * 10 ^ 8
  recipient : i.recipientIdentifier ≠ "" ∧ trim i.recipientIdentifier = i.recipientIdentifier
  protected_claim : i.paymentType = .«protected» →
    i.claimReference = some ("hnbv_claim_" ++ i.id.simple)
  instant_claim : i.paymentType = .instant → i.claimReference = none

theorem PaymentIntent.WellFormed.congr {i j : PaymentIntent} (h : i.SameTerms j)
    (hi : i.WellFormed) : j.WellFormed := by
  obtain ⟨hid, htype, hamount, -, hrecipient, -, -, hclaim, -⟩ := h.fields
  refine ⟨?_, ?_, ?_, ?_⟩
  · rw [hamount]; exact hi.amount
  · rw [hrecipient]; exact hi.recipient
  · rw [htype, hclaim, hid]; exact hi.protected_claim
  · rw [htype, hclaim]; exact hi.instant_claim

namespace PaymentService

theorem i64TryFrom_pos {secs : UInt64} {n : ℤ}
    (h : (i64TryFrom secs).filter (0 < ·) = some n) :
    n = secs.toNat ∧ secs ≠ 0 ∧ secs.toNat < 2 ^ 63 := by
  obtain ⟨hn, hpos⟩ := Option.filter_eq_some_iff.mp h
  unfold i64TryFrom at hn
  split_ifs at hn with hlt
  have he := Option.some.inj hn
  refine ⟨he.symm, ?_, hlt⟩
  rintro rfl
  rw [← he] at hpos
  simp at hpos

theorem requestedExpiry_ok {now t : DateTime} {secs : UInt64}
    (h : requestedExpiry now secs = .ok t) :
    ¬ UnusableExpiry now secs ∧ t.nanos = now.nanos + claimWindow (some secs) := by
  unfold requestedExpiry at h
  simp only at h
  split at h
  case h_2 => cases h
  case h_1 t' he =>
    obtain rfl := Except.ok.inj h
    obtain ⟨d, hd, ht⟩ := Option.bind_eq_some_iff.mp he
    obtain ⟨n, hn, hs⟩ := Option.bind_eq_some_iff.mp hd
    obtain ⟨rfl, hne, hlt⟩ := i64TryFrom_pos hn
    have hspan : d = claimWindow (some secs) := by
      unfold TimeDelta.trySeconds at hs
      split_ifs at hs
      exact (Option.some.inj hs).symm
    subst hspan
    have hsum := DateTime.checkedAddSigned_eq_some.mp ht
    refine ⟨?_, hsum⟩
    have hr := t'.inRange.2
    intro hu
    rcases hu with h₀ | h₁ | h₂
    · exact hne h₀
    · omega
    · omega

/-- A request with an unusable expiry is answered with an error, whatever the clock says. -/
theorem createPaymentIntent_unusable {req : CreatePaymentIntentRequest} {now : DateTime}
    {secs : UInt64} (hs : req.expiresInSeconds = some secs) (h : UnusableExpiry now secs)
    (id : Uuid) (now' : DateTime) :
    ∃ e, createPaymentIntent req id now now' = .error (.error e) := by
  unfold createPaymentIntent
  cases ha : SatoshiAmount.new req.amountSats with
  | error e => exact ⟨.core e, by simp [Except.mapError, bind, Except.bind]⟩
  | ok amount =>
    have hexpiry : ∃ e, requestedExpiry now secs = .error (.error e) := by
      cases hr : requestedExpiry now secs with
      | ok t => exact absurd h (requestedExpiry_ok hr).1
      | error f =>
        unfold requestedExpiry at hr
        simp only at hr
        split at hr
        · cases hr
        · exact ⟨_, hr.symm⟩
    obtain ⟨e, he⟩ := hexpiry
    exact ⟨e, by simp [expiryOfRequest, hs, he, Except.mapError, Except.map, bind, Except.bind]⟩

/-- The terms of a created intent, from those of its request and the two readings. -/
theorem createPaymentIntent_terms {req : CreatePaymentIntentRequest} {id : Uuid}
    {now now' : DateTime} {i : PaymentIntent}
    (h : createPaymentIntent req id now now' = .ok i) :
    i.WellFormed ∧ i.paymentType = req.paymentType ∧ i.createdAt = now' ∧
    i.updatedAt = now' ∧
      (i.paymentType = .«protected» → ∃ t, i.expiresAt = some t ∧
        t.nanos = now.nanos + claimWindow req.expiresInSeconds) := by
  obtain ⟨amount, expiresAt, j, ha, he, hn, hf⟩ := createPaymentIntent_ok h
  obtain ⟨hrecipient, hzero, -, rfl⟩ := PaymentIntent.new_ok hn
  obtain ⟨rfl, hmax⟩ := SatoshiAmount.new_ok ha
  have hpos : 0 < req.amountSats.toNat := SatoshiAmount.isZero_eq_false hzero
  rcases forType_ok hf with ⟨ht, t, hor, rfl⟩ | ⟨ht, rfl⟩
  · refine ⟨⟨⟨hpos, hmax⟩, ⟨hrecipient, trim_trim _⟩, fun _ => rfl, ?_⟩,
      rfl, rfl, rfl, ?_⟩
    · intro hi
      rw [ht] at hi
      cases hi
    · intro _
      refine ⟨t, rfl, ?_⟩
      cases hs : req.expiresInSeconds with
      | none =>
        rw [hs] at he
        obtain rfl := Except.ok.inj he
        exact DateTime.checkedAddSigned_eq_some.mp hor
      | some secs =>
        rw [hs] at he
        cases hr : requestedExpiry now secs with
        | error f => simp [expiryOfRequest, hr, Except.map] at he
        | ok t' =>
          simp only [expiryOfRequest, hr, Except.map, Except.ok.injEq] at he
          subst he
          obtain rfl := Option.some.inj hor
          exact (requestedExpiry_ok hr).2
  · refine ⟨⟨⟨hpos, hmax⟩, ⟨hrecipient, trim_trim _⟩, ?_, fun _ => rfl⟩,
      rfl, rfl, rfl, ?_⟩
    · intro hp
      rw [ht] at hp
      cases hp
    · intro hp
      rw [ht] at hp
      cases hp

end PaymentService

/-- The intent was made, with these terms, by one of the requests of the trace. -/
def RequestedIn (tr : List (Transition PaymentState PaymentEvent)) (i : PaymentIntent) : Prop :=
  ∃ x ∈ tr, ∃ req id now now' i₀, x.label = .createPrepared req now now' i₀ ∧
    PaymentService.createPaymentIntent req id now now' = .ok i₀ ∧ i₀.SameTerms i

/-- Every stored intent is well formed and carries the expiry that was asked for, and a request
with an unusable expiry stores nothing. -/
structure StoredWellFormed (tr : List (Transition PaymentState PaymentEvent)) (s : PaymentState) :
    Prop where
  terms : ∀ id i, s.storage.lookup id = some i → i.WellFormed
  updated : ∀ id i, s.storage.lookup id = some i → i.createdAt ≤ i.updatedAt
  expiry : ∀ id i, s.storage.lookup id = some i → i.paymentType = .«protected» →
    ∃ x ∈ tr, ∃ req now now' i₀ t, x.label = .createPrepared req now now' i₀ ∧
      i₀.id = i.id ∧
      i.expiresAt = some t ∧ t.nanos = now.nanos + claimWindow req.expiresInSeconds
  unusable : ∀ req now secs, req.expiresInSeconds = some secs → UnusableExpiry now secs →
    (∀ id now', ∃ e, PaymentService.createPaymentIntent req id now now' = .error (.error e)) ∧
    (∀ x ∈ tr, ∀ now' i, x.label ≠ .createPrepared req now now' i) ∧
    ∀ x ∈ tr, ∀ fault, x.label = .createRefused req fault → x.post = x.pre

namespace PaymentState

/-- The intent is stored, or about to be. -/
def Held (s : PaymentState) (i : PaymentIntent) : Prop :=
  i ∈ s.creating ∨ ∃ id, s.storage.lookup id = some i

/-- Where an intent comes from: it was there, a request makes it, or a report moves it. -/
theorem Step.held {s t : PaymentState} {e : PaymentEvent} (h : Step s e t) {j : PaymentIntent}
    (hj : Held t j) :
    Held s j ∨
    (∃ req id now now', e = .createPrepared req now now' j ∧
      PaymentService.createPaymentIntent req id now now' = .ok j) ∨
    ∃ u now answer i, e = .updateWritten u now answer ∧ Held s i ∧
      j = { i with status := u.request.newStatus, updatedAt := now } := by
  cases h with
  | @createPrepared req id now now' i _ hc =>
    rcases hj with hj | hj
    · rcases List.mem_cons.mp hj with rfl | hj
      · exact .inr (.inl ⟨req, id, now, now', rfl, hc⟩)
      · exact .inl (.inl hj)
    · exact .inl (.inr hj)
  | @createStored i hi =>
    rcases hj with hj | ⟨id, hj⟩
    · exact .inl (.inl (List.mem_of_mem_erase hj))
    · rw [InMemoryPaymentIntentRepository.setAt_save s.storage i id] at hj
      split_ifs at hj with he
      · exact .inl (.inl (Option.some.inj hj ▸ hi))
      · exact .inl (.inr ⟨id, hj⟩)
  | @updateWritten u now answer storage _ hw =>
    rcases hj with hj | ⟨id, hj⟩
    · exact .inl (.inl hj)
    rcases writeStatus_cases hw with ⟨_, -, rfl⟩ | ⟨i, k, hl, -, hk, hm, -⟩
    · exact .inl (.inr ⟨id, hj⟩)
    · rw [hm id] at hj
      split_ifs at hj with he
      · obtain rfl := Option.some.inj hj
        by_cases hst : i.status = u.request.newStatus
        · rw [InMemoryPaymentIntentRepository.reported, if_pos hst] at hk
          exact .inl (.inr ⟨_, hk ▸ hl⟩)
        · rw [InMemoryPaymentIntentRepository.reported, if_neg hst] at hk
          exact .inr (.inr ⟨u, now, answer, i, rfl, .inr ⟨_, hl⟩, hk⟩)
      · exact .inl (.inr ⟨id, hj⟩)
  | _ => exact .inl hj

theorem requestedIn_of_held {tr : List (Transition PaymentState PaymentEvent)} {s : PaymentState}
    (h : paymentSystem.Trace tr s) : ∀ i, Held s i → RequestedIn tr i := by
  refine h.induct (P := fun tr s => ∀ i, Held s i → RequestedIn tr i) ?_ ?_
  · intro s hs i hi
    obtain rfl : s = .initial := hs
    simp [Held, initial] at hi
  · intro tr s e t _ ih hl j hj
    have earlier : ∀ {i}, RequestedIn tr i → RequestedIn (tr ++ [⟨s, e, t⟩]) i := by
      intro i hi
      obtain ⟨x, hx, hi⟩ := hi
      exact ⟨x, List.mem_append_left _ hx, hi⟩
    rcases Step.held hl hj with hj | ⟨req, id, now, now', rfl, hc⟩ |
      ⟨u, now, _, i, -, hi, rfl⟩
    · exact earlier (ih j hj)
    · exact ⟨⟨s, _, t⟩, by simp, req, id, now, now', j, rfl, hc, .refl j⟩
    · obtain ⟨x, hx, req, id, now₀, now', i₀, he, hc, hterms⟩ := earlier (ih i hi)
      exact ⟨x, hx, req, id, now₀, now', i₀, he, hc,
        hterms.trans (i.sameTerms_report u.request.newStatus now)⟩

theorem wellFormed_of_reachable {s : PaymentState} (h : paymentSystem.Reachable s) {id : Uuid}
    {i : PaymentIntent} (hi : s.storage.lookup id = some i) : i.WellFormed := by
  obtain ⟨tr, ht⟩ := h
  obtain ⟨_, _, _, _, _, _, i₀, _, hcreate, hterms⟩ :=
    requestedIn_of_held ht i (.inr ⟨id, hi⟩)
  exact (PaymentService.createPaymentIntent_terms hcreate).1.congr hterms

theorem expiresAt_of_protected {tr : List (Transition PaymentState PaymentEvent)}
    {s : PaymentState} (h : paymentSystem.Trace tr s) {id : Uuid} {i : PaymentIntent}
    (hi : s.storage.lookup id = some i) (ht : i.paymentType = .«protected») :
    ∃ t, i.expiresAt = some t := by
  obtain ⟨_, _, _, _, _, _, i₀, _, hcreate, hterms⟩ :=
    requestedIn_of_held h i (.inr ⟨id, hi⟩)
  obtain ⟨-, htype, -, -, -, -, hexpires, -, -⟩ := hterms.fields
  obtain ⟨t, ht, -⟩ :=
    (PaymentService.createPaymentIntent_terms hcreate).2.2.2.2 (htype.symm.trans ht)
  exact ⟨t, hexpires.trans ht⟩

/-- While the clock does not go back, no intent is older than its last change. -/
theorem createdAt_of_held {tr : List (Transition PaymentState PaymentEvent)} {s : PaymentState}
    (h : paymentSystem.Trace tr s) (hc : Timed PaymentEvent.clock tr) :
    ∀ i, Held s i → i.createdAt ≤ i.updatedAt ∧
      i.createdAt ∈ readings PaymentEvent.clock tr := by
  revert hc
  refine h.induct (P := fun tr s => Timed PaymentEvent.clock tr → ∀ i, Held s i →
    i.createdAt ≤ i.updatedAt ∧ i.createdAt ∈ readings PaymentEvent.clock tr) ?_ ?_
  · intro s hs _ i hi
    obtain rfl : s = .initial := hs
    simp [Held, initial] at hi
  · intro tr s e t _ ih hl hc j hj
    have hih := ih (hc.of_isPrefix (List.prefix_append _ _))
    rw [System.readings_append]
    rcases Step.held hl hj with
      hj | ⟨req, id, now, now', rfl, hcreate⟩ | ⟨u, now, _, i, rfl, hi, rfl⟩
    · exact ⟨(hih j hj).1, List.mem_append_left _ (hih j hj).2⟩
    · obtain ⟨-, -, hcreated, hupdated, -⟩ :=
        PaymentService.createPaymentIntent_terms hcreate
      refine ⟨by rw [hcreated, hupdated], List.mem_append_right _ ?_⟩
      rw [hcreated]
      exact System.mem_readings (List.mem_singleton_self _) (List.mem_singleton_self now')
    · have hread := (hih i hi).2
      have hnow : i.createdAt ≤ now := hc.le hread
        (System.mem_readings (List.mem_singleton_self _) (List.mem_singleton_self now))
      exact ⟨hnow, List.mem_append_left _ hread⟩

end PaymentState

open PaymentState in
theorem stored_well_formed {tr : List (Transition PaymentState PaymentEvent)} {s : PaymentState}
    (h : paymentSystem.Trace tr s) (hc : Timed PaymentEvent.clock tr) : StoredWellFormed tr s where
  terms _ _ hi := wellFormed_of_reachable h.reachable hi
  updated id i hi := (createdAt_of_held h hc i (.inr ⟨id, hi⟩)).1
  expiry id i hi ht := by
    obtain ⟨x, hx, req, _, now, now', i₀, he, hcreate, hterms⟩ :=
      requestedIn_of_held h i (.inr ⟨id, hi⟩)
    obtain ⟨hid, htype, -, -, -, -, hexpires, -, -⟩ := hterms.fields
    obtain ⟨t, ht, hnanos⟩ :=
      (PaymentService.createPaymentIntent_terms hcreate).2.2.2.2 (htype.symm.trans ht)
    exact ⟨x, hx, req, now, now', i₀, t, he, hid.symm, hexpires.trans ht, hnanos⟩
  unusable req now secs hs hu := by
    refine ⟨fun id now' => PaymentService.createPaymentIntent_unusable hs hu id now', ?_, ?_⟩
    · rintro ⟨pre, e, post⟩ hx now' i rfl
      have hl : Step pre _ post := (h.split hx).2.1
      cases hl with
      | createPrepared _ hcreate =>
        obtain ⟨e, herror⟩ := PaymentService.createPaymentIntent_unusable hs hu _ now'
        rw [herror] at hcreate
        cases hcreate
    · rintro ⟨pre, e, post⟩ hx fault rfl
      have hl : Step pre _ post := (h.split hx).2.1
      cases hl
      rfl

/-- An offer of 100 satoshis to Bob under a lock of one day. -/
def sampleProtected : PaymentIntent :=
  { sampleIntent with
    paymentType := .«protected»
    status := .created
    expiresAt := some .nextDay
    claimReference := some "hnbv_claim_00000000000000000000000000000001" }

theorem createPaymentIntent_protected :
    PaymentService.createPaymentIntent { sampleRequest with paymentType := .«protected» }
      (.ofNat 1) .epoch .epoch = .ok sampleProtected := by decide +kernel

/-- The offer is stored, and no other call is under way. -/
def sampleStored : PaymentState := ⟨Table.insert ∅ (.ofNat 1) sampleProtected, [], []⟩

open PaymentState in
theorem trace_sampleProtected : ∃ tr, paymentSystem.Trace tr sampleStored ∧
    readings PaymentEvent.clock tr = [.epoch] := by
  have h₁ := System.Run.snoc (T := paymentSystem) .nil
    (Step.createPrepared (s := .initial) ⟨rfl, by simp [initial]⟩ createPaymentIntent_protected)
  have h₂ := h₁.snoc (@Step.createStored _ sampleProtected (by decide +kernel))
  exact ⟨_, ⟨_, rfl, h₂⟩, rfl⟩

/-- A second offer, made a day later. -/
def sampleSecondOffer : PaymentIntent :=
  { sampleProtected with
    id := .ofNat 2
    expiresAt := some (.ofSeconds 172800 (by decide))
    claimReference := some "hnbv_claim_00000000000000000000000000000002"
    createdAt := .nextDay
    updatedAt := .nextDay }

def sampleStoredTwice : PaymentState :=
  { sampleStored with storage := sampleStored.storage.insert (.ofNat 2) sampleSecondOffer }

open PaymentState in
theorem reachable_sampleStoredTwice : paymentSystem.Reachable sampleStoredTwice := by
  obtain ⟨tr, ht, -⟩ := trace_sampleProtected
  have hcreate : PaymentService.createPaymentIntent
      { sampleRequest with paymentType := .«protected» } (.ofNat 2) .nextDay .nextDay =
        .ok sampleSecondOffer := by decide +kernel
  have h₁ := ht.snoc
    (Step.createPrepared (s := sampleStored) ⟨by decide +kernel, by simp [sampleStored]⟩
      hcreate)
  have h₂ := h₁.snoc (@Step.createStored _ sampleSecondOffer (by decide +kernel))
  exact h₂.reachable

open PaymentState in
/-- Alice makes the offer and reports it funded a day later. -/
theorem stored_well_formed_sample : ∃ tr s, paymentSystem.Trace tr s ∧
    Timed PaymentEvent.clock tr ∧
    s.storage.lookup (.ofNat 1) =
      some { sampleProtected with status := .funding, updatedAt := .nextDay } ∧
    StoredWellFormed tr s := by
  obtain ⟨tr, ht, hread⟩ := trace_sampleProtected
  have h₁ := ht.snoc (@Step.updateAuthorised sampleStored (sampleReport .funding "alice").request
    sampleProtected (by decide +kernel))
  have h₂ := h₁.snoc (@Step.updateWritten _ ⟨(sampleReport .funding "alice").request,
    sampleProtected⟩ .nextDay _ _ List.mem_cons_self rfl)
  refine ⟨_, _, h₂, ?clock, by decide +kernel, stored_well_formed h₂ ?clock⟩
  apply Library.System.timed_of_readings [.epoch, .nextDay]
  · simp only [Library.System.readings_append, hread]
    rfl
  · decide

end Hanbova
