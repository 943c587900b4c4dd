import Hanbova.Escrow.Settlement
import Hanbova.Escrow.Twins

/-! The states in which the mock provider and the Cashu provider track the same payments, and what
a call can make of them. -/
namespace Hanbova

open Library Library.Text
open CashuProtectedPaymentProvider (AtRest)

/-- The two records of one payment. -/
structure Twins (w : Ledger) (i : PaymentIntent) (t : TrackedPayment) : Prop where
  status : i.status = t.intent.status
  expiry : i.expiresAt = some t.locktime
  rest : AtRest t.intent
  era : .epoch ≤ t.locktime
  backed : ∃ l, t.BackedBy w l

/-- Both providers track the same payments, each with a token of its own. -/
structure Twinned (s : TwinState) : Prop where
  named : s.ledger.Named
  paired : ∀ id, (s.mock.lookup id = none ∧ s.cashu.lookup id = none) ∨
    ∃ i t, s.mock.lookup id = some i ∧ s.cashu.lookup id = some t ∧ Twins s.ledger i t
  apart : ∀ id id' t t', s.cashu.lookup id = some t → s.cashu.lookup id' = some t' →
    t.cashuToken = t'.cashuToken → id = id'

/-- What comes of a call: the providers part, which they do out of step only, or they stay together,
and the payments that were due are due again unless the call refunds them. -/
inductive Joint (s : TwinState) (call : ProviderCall) (now : DateTime) (m c : ProviderAnswer)
    (t : TwinState) : Prop
  | parted (h : m.accepted ≠ c.accepted) (hout : ¬ InStep s call now)
  | together (h : m.accepted = c.accepted) (haffordable : Affordable s call now)
      (htwinned : Twinned t) (hdue : ∀ id, Due t now id ↔ Due s now id ∧ ¬ call.Refunds id)

variable {pairs : KeyPairs} {mintUrl : String} {s t : TwinState} {w : Ledger} {now : DateTime}
  {call : ProviderCall} {m c : ProviderAnswer} {id : Uuid} {i j : PaymentIntent}
  {r r' : TrackedPayment} {l l' : Lock} {s' : String} {key : String}

/-! ### Backing -/

theorem TrackedPayment.BackedBy.lock (h : r.BackedBy w l) (hw : w.Named) (l' : Lock) :
    r.BackedBy (w.lock l') l := by
  have hne : r.cashuToken ≠ w.nextToken := by
    intro he
    have hl := h.lookup
    rw [he, hw.next] at hl
    cases hl
  exact { h with lookup := ((w.setAt_lock l').lookup_ne hne).trans h.lookup }

theorem TrackedPayment.BackedBy.spend_other (h : r.BackedBy w l) (hne : r.cashuToken ≠ s') :
    r.BackedBy (w.spend s' l' key) l :=
  { h with lookup := ((w.setAt_spend s' l' key).lookup_ne hne).trans h.lookup }

/-- A settled payment whose token has been spent is backed by the spent token. -/
theorem TrackedPayment.BackedBy.spend (h : r.BackedBy w l) (hst : i.status ≠ .claimable) :
    { r with intent := i }.BackedBy (w.spend r.cashuToken l key)
      { l with spentBy := some key } where
  lookup := (w.setAt_spend r.cashuToken l key).lookup_self
  recipient := h.recipient
  refund := h.refund
  locktime := h.locktime
  unspent := ⟨fun he => (by cases he), fun he => absurd he hst⟩

/-! ### States -/

theorem Twins.atRest (h : Twins w i r) : AtRest i := by
  have hrest := h.rest
  unfold AtRest at hrest ⊢
  rwa [h.status]

/-- Ledgers that keep the locks of all payments keep the state. -/
theorem Twinned.relock (h : Twinned s) (hw : w.Named)
    (hback : ∀ (r : TrackedPayment) l, r.BackedBy s.ledger l → r.BackedBy w l) :
    Twinned ⟨s.mock, s.cashu, w⟩ where
  named := hw
  paired id := by
    rcases h.paired id with hnone | ⟨i, r, hi, hr, htw⟩
    · exact .inl hnone
    · obtain ⟨l, hl⟩ := htw.backed
      exact .inr ⟨i, r, hi, hr, { htw with backed := ⟨l, hback r l hl⟩ }⟩
  apart := h.apart

/-- One payment changes or is added, and the ledger keeps the locks of the others. -/
theorem Twinned.set (h : Twinned s) {mock : MockProtectedPaymentProvider.Intents}
    {cashu : CashuProtectedPaymentProvider.Intents} (hw : w.Named)
    (hm : Table.SetAt s.mock id i mock) (hc : Table.SetAt s.cashu id r cashu) (htw : Twins w i r)
    (hother : ∀ id' r', id' ≠ id → s.cashu.lookup id' = some r' →
      r'.cashuToken ≠ r.cashuToken ∧
      ∀ l, r'.BackedBy s.ledger l → r'.BackedBy w l) : Twinned ⟨mock, cashu, w⟩ where
  named := hw
  paired id' := by
    by_cases he : id' = id
    · subst he
      exact .inr ⟨i, r, hm.lookup_self, hc.lookup_self, htw⟩
    · rcases h.paired id' with ⟨hj, hr'⟩ | ⟨j, r', hj, hr', htw'⟩
      · exact .inl ⟨(hm.lookup_ne he).trans hj, (hc.lookup_ne he).trans hr'⟩
      · obtain ⟨l, hl⟩ := htw'.backed
        have hback := (hother id' r' he hr').2 l hl
        refine .inr ⟨j, r', ?_, ?_, { htw' with backed := ⟨l, hback⟩ }⟩
        · exact (hm.lookup_ne he).trans hj
        · exact (hc.lookup_ne he).trans hr'
  apart id₁ id₂ r₁ r₂ h₁ h₂ htok := by
    rw [hc id₁] at h₁
    rw [hc id₂] at h₂
    split_ifs at h₁ h₂ with e₁ e₂ e₂
    · rw [e₁, e₂]
    · obtain rfl := Option.some.inj h₁
      exact absurd htok.symm (hother id₂ r₂ e₂ h₂).1
    · obtain rfl := Option.some.inj h₂
      exact absurd htok (hother id₁ r₁ e₁ h₁).1
    · exact h.apart id₁ id₂ r₁ r₂ h₁ h₂ htok

/-- The statuses agree exactly if no payment is due. -/
theorem statuses_agree_iff (h : Twinned t) (now : DateTime) :
    (∀ id, MockProtectedPaymentProvider.getPaymentStatus t.mock id =
      CashuProtectedPaymentProvider.getPaymentStatus t.cashu id now) ↔ ∀ id, ¬ Due t now id := by
  refine forall_congr' fun id => ?_
  unfold MockProtectedPaymentProvider.getPaymentStatus
    CashuProtectedPaymentProvider.getPaymentStatus CashuProtectedPaymentProvider.reportedStatus
  rcases h.paired id with ⟨hi, hr⟩ | ⟨i, r, hi, hr, htw⟩
  · simp [hi, hr, Due]
  · simp only [hi, hr, htw.status, Due, Option.some.injEq, exists_eq_left']
    by_cases hdue : r.locktime ≤ now ∧ r.intent.status = .claimable
    · simp [hdue]
    · rw [if_neg hdue]
      simp only [true_iff]
      exact fun h => hdue h.symm

/-- Who stays together agrees while in step, and who parts does not. -/
theorem Joint.agrees_iff {x : Transition TwinState TwinEvent}
    (h : Joint x.pre x.label.call x.label.now x.label.mockAnswer x.label.cashuAnswer x.post) :
    (Agrees x ↔ InStep x.pre x.label.call x.label.now) ∧ (Agrees x → Twinned x.post) := by
  cases h with
  | parted h hout => exact ⟨⟨fun ha => absurd ha.1 h, fun hin => absurd hin hout⟩,
      fun ha => absurd ha.1 h⟩
  | together h haffordable htwinned hdue =>
    refine ⟨?_, fun _ => htwinned⟩
    have hstatuses := statuses_agree_iff htwinned x.label.now
    constructor
    · rintro ⟨-, hall⟩
      refine ⟨fun id hd => ?_, haffordable⟩
      by_contra hno
      exact hstatuses.mp hall id ((hdue id).mpr ⟨hd, hno⟩)
    · rintro ⟨hrefunds, -⟩
      refine ⟨h, hstatuses.mpr fun id hd => ?_⟩
      obtain ⟨hd, hno⟩ := (hdue id).mp hd
      exact hno (hrefunds id hd)

/-! ### Calls that leave the payments or settle one -/

theorem due_of_set {mock : MockProtectedPaymentProvider.Intents}
    {cashu : CashuProtectedPaymentProvider.Intents} (hc : Table.SetAt s.cashu id r cashu)
    (id' : Uuid) : Due ⟨mock, cashu, w⟩ now id' ↔
      if id' = id then r.intent.status = .claimable ∧ r.locktime ≤ now else Due s now id' := by
  simp only [Due, hc id']
  split_ifs <;> simp

theorem TrackedPayment.BackedBy.atTime (h : r.BackedBy w l) (now : DateTime) :
    r.BackedBy (w.atTime now) l := { h with lookup := h.lookup }

/-- Only the clock of the mint moves. -/
theorem Joint.idle (h : Twinned s) (hans : m.accepted = c.accepted)
    (haffordable : Affordable s call now) (hfree : ∀ id, call.Refunds id → ¬ Due s now id) :
    Joint s call now m c ⟨s.mock, s.cashu, s.ledger.atTime now⟩ := by
  have htwinned : Twinned ⟨s.mock, s.cashu, s.ledger.atTime now⟩ :=
    h.relock h.named fun r l hl => hl.atTime now
  exact .together hans haffordable htwinned fun id =>
    ⟨fun hd => ⟨hd, fun hr => hfree id hr hd⟩, fun hd => hd.1⟩

section
variable {mock : MockProtectedPaymentProvider.Intents}
  {cashu : CashuProtectedPaymentProvider.Intents}

/-- Both refuse the call, and the status of its payment stays. -/
theorem Joint.kept (h : Twinned s) (hi : s.mock.lookup id = some i)
    (hr : s.cashu.lookup id = some r) (hm : Table.SetAt s.mock id i mock)
    (hc : Table.SetAt s.cashu id { r with intent := j } cashu)
    (hst : j.status = r.intent.status) (hans : m.accepted = c.accepted)
    (haffordable : Affordable s call now) (hfree : ∀ id, call.Refunds id → ¬ Due s now id) :
    Joint s call now m c ⟨mock, cashu, s.ledger.atTime now⟩ := by
  have htw : Twins s.ledger i r := by
    rcases h.paired id with ⟨hnone, -⟩ | ⟨i', r', hi', hr', htw⟩
    · cases hi.symm.trans hnone
    · obtain rfl := Option.some.inj (hi.symm.trans hi')
      obtain rfl := Option.some.inj (hr.symm.trans hr')
      exact htw
  obtain ⟨l, hl⟩ := htw.backed
  have hback : { r with intent := j }.BackedBy (s.ledger.atTime now) l :=
    ⟨hl.lookup, hl.recipient, hl.refund, hl.locktime, by rw [hst]; exact hl.unspent⟩
  have hrest : AtRest j := by
    have := htw.rest
    unfold AtRest at this ⊢
    rwa [hst]
  have htwinned : Twinned ⟨mock, cashu, s.ledger.atTime now⟩ := by
    refine h.set h.named hm hc
      ⟨htw.status.trans hst.symm, htw.expiry, hrest, htw.era, l, hback⟩ ?_
    intro id' r' hne hr'
    exact ⟨fun htok => hne (h.apart id' id r' r hr' hr htok), fun l hl => hl.atTime now⟩
  have hdue : ∀ id', Due ⟨mock, cashu, s.ledger.atTime now⟩ now id' ↔ Due s now id' := by
    intro id'
    rw [due_of_set hc]
    split_ifs with he
    · subst he
      simp [Due, hr, hst]
    · rfl
  refine .together hans haffordable htwinned fun id' => ?_
  rw [hdue id']
  exact ⟨fun hd => ⟨hd, fun hr => hfree id' hr hd⟩, fun hd => hd.1⟩

/-- Both accept the call and settle its payment. -/
theorem Joint.settled (h : Twinned s) (hr : s.cashu.lookup id = some r)
    (hl : r.BackedBy s.ledger l) (hera : .epoch ≤ r.locktime) (hm : Table.SetAt s.mock id i mock)
    (hc : Table.SetAt s.cashu id { r with intent := j } cashu) (hst : i.status = j.status)
    (hexpiry : i.expiresAt = some r.locktime) (hsettled : j.Settled)
    (hans : m.accepted = c.accepted) (haffordable : Affordable s call now)
    (honly : ∀ id', call.Refunds id' → id' = id) (hdue : Due s now id → call.Refunds id) :
    Joint s call now m c
      ⟨mock, cashu, (s.ledger.atTime now).spend r.cashuToken l key⟩ := by
  have hne : j.status ≠ .claimable := by
    rcases hsettled with h | h <;> rw [h] <;> decide
  have hl' := hl.atTime now
  have hnamed : (s.ledger.atTime now).Named := h.named
  have htwinned : Twinned ⟨mock, cashu, (s.ledger.atTime now).spend r.cashuToken l key⟩ := by
    refine h.set (hnamed.spend hl'.lookup key) hm hc
      ⟨hst, hexpiry, .inr hsettled, hera, _, hl'.spend hne⟩ ?_
    intro id' r' hid hr'
    have htok : r'.cashuToken ≠ r.cashuToken := fun he => hid (h.apart id' id r' r hr' hr he)
    exact ⟨htok, fun l hl => (hl.atTime now).spend_other htok⟩
  refine .together hans haffordable htwinned fun id' => ?_
  rw [due_of_set hc]
  split_ifs with he
  · subst he
    exact ⟨fun hd => absurd hd.1 hne, fun hd => absurd (hdue hd.1) hd.2⟩
  · exact ⟨fun hd => ⟨hd, fun hr => he (honly id' hr)⟩, fun hd => hd.1⟩

end

end Hanbova
