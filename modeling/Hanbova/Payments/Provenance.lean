import Hanbova.Payments.System

/-! Who brought the stored status of a payment about. -/
namespace Hanbova

open Library

/-- The actor of a request matches the recipient of the intent. -/
def ActsAsRecipient (req : UpdatePaymentStatusRequest) (i : PaymentIntent) : Prop :=
  matchesActor req.userId req.username i.recipientIdentifier = true

/-- The actor of a request matches the sender of the intent. -/
def ActsAsSender (req : UpdatePaymentStatusRequest) (i : PaymentIntent) : Prop :=
  ∃ sender, i.senderId = some sender ∧ matchesActor req.userId req.username sender = true

/-- The step `x` is an accepted report that gave the intent `id` the status `status`. -/
def MovedBy (x : Transition PaymentState PaymentEvent) (req : UpdatePaymentStatusRequest)
    (id : Uuid) (status : PaymentStatus) : Prop :=
  ∃ u now a, x.label = .updateWritten u now (.ok a) ∧ u.request = req ∧ req.paymentId = id ∧
    req.newStatus = status ∧ ∃ i, x.pre.storage.lookup id = some i ∧ i.status ≠ status

/-- Every status was reported by a party entitled to report it, and the terms never change. -/
structure AuthorisedProvenance (tr : List (Transition PaymentState PaymentEvent))
    (s : PaymentState) : Prop where
  claimed : ∀ id i, s.storage.lookup id = some i → i.status = .claimed →
    ∃ x ∈ tr, ∃ req, MovedBy x req id .claimed ∧ ActsAsRecipient req i
  refunded : ∀ id i, s.storage.lookup id = some i → i.status = .refunded →
    ∃ x ∈ tr, ∃ req, MovedBy x req id .refunded ∧ ActsAsSender req i
  changes : ∀ x ∈ tr, ∀ id i j, x.pre.storage.lookup id = some i →
    x.post.storage.lookup id = some j → j.status ≠ i.status →
    ∃ req, MovedBy x req id j.status ∧ (ActsAsSender req j ∨ ActsAsRecipient req j) ∧
      (j.status = .claimed → ActsAsRecipient req j) ∧
      (j.status = .refunded → ActsAsSender req j)
  terms : ∀ x ∈ tr, ∀ id i, x.pre.storage.lookup id = some i →
    ∃ j, s.storage.lookup id = some j ∧ j.id = i.id ∧ j.paymentType = i.paymentType ∧
      j.amountSats = i.amountSats ∧ j.senderId = i.senderId ∧
      j.recipientIdentifier = i.recipientIdentifier ∧ j.expiresAt = i.expiresAt ∧
      j.claimReference = i.claimReference ∧ j.createdAt = i.createdAt

theorem actsAsSender_iff {req : UpdatePaymentStatusRequest} {i : PaymentIntent} :
    ActsAsSender req i ↔ PaymentService.isSender i req.userId req.username = true := by
  unfold ActsAsSender PaymentService.isSender
  cases i.senderId <;> simp

namespace PaymentState

/-- The stored intent `id` has the status `status`. -/
def HasStatus (id : Uuid) (status : PaymentStatus) (s : PaymentState) : Prop :=
  ∃ i, s.storage.lookup id = some i ∧ i.status = status

/-- A step into a status that no intent is created with is an authorised report. -/
theorem movedBy_of_entering {x : Transition PaymentState PaymentEvent} {id : Uuid}
    {status : PaymentStatus} (hr : paymentSystem.Reachable x.pre)
    (hl : Step x.pre x.label x.post) (hpre : ¬ HasStatus id status x.pre)
    (hpost : HasStatus id status x.post) (hc : status ≠ .created) (hp : status ≠ .pending) :
    ∃ req j, MovedBy x req id status ∧ x.post.storage.lookup id = some j ∧
      j.status = status ∧
      PaymentService.Authorised j req := by
  obtain ⟨j, hj, rfl⟩ := hpost
  have hne : ∀ i, x.pre.storage.lookup id = some i → i.status ≠ j.status :=
    fun i hi he => hpre ⟨i, hi, he⟩
  rcases hl.status_change (invariant_of_reachable hr) hj hne with
    ⟨-, h | h⟩ | ⟨u, now, a, i, he, hid, hst, hi, hauth⟩
  · exact absurd h hc
  · exact absurd h hp
  · exact ⟨u.request, j, ⟨u, now, a, he, rfl, hid, hst, i, hi, hne i hi⟩, hj, rfl, hauth⟩

/-- A status that no intent is created with was brought about by an authorised report. -/
theorem movedBy_of_hasStatus {tr : List (Transition PaymentState PaymentEvent)} {s : PaymentState}
    (h : paymentSystem.Trace tr s) {id : Uuid} {i : PaymentIntent}
    (hi : s.storage.lookup id = some i) (hc : i.status ≠ .created) (hp : i.status ≠ .pending) :
    ∃ x ∈ tr, ∃ req, MovedBy x req id i.status ∧ PaymentService.Authorised i req ∧
      req.newStatus = i.status := by
  have ht := h
  obtain ⟨s₀, rfl, hrun⟩ := ht
  have h₀ : ¬ HasStatus id i.status .initial := by
    rintro ⟨j, hj, -⟩
    simp [initial] at hj
  obtain ⟨x, hx, hpre, hpost⟩ := hrun.entering h₀ ⟨i, hi, rfl⟩
  obtain ⟨hr, hl, tr₂, hrest⟩ := h.split hx
  obtain ⟨req, j, hm, hj, -, hauth⟩ := movedBy_of_entering hr hl hpre hpost hc hp
  obtain ⟨k, hk, hlater⟩ := later_of_run hrest (System.Reachable.step hr hl) id j hj
  obtain rfl := Option.some.inj (hi.symm.trans hk)
  have hreq := hm
  obtain ⟨_, _, _, _, _, _, hst, _⟩ := hreq
  exact ⟨x, hx, req, hm, hauth.congr hlater.1, hst⟩

end PaymentState

open PaymentState in
theorem authorised_provenance {tr : List (Transition PaymentState PaymentEvent)}
    {s : PaymentState} (h : paymentSystem.Trace tr s) : AuthorisedProvenance tr s where
  claimed id i hi hst := by
    obtain ⟨x, hx, req, hm, hauth, he⟩ :=
      movedBy_of_hasStatus h hi (by rw [hst]; decide) (by rw [hst]; decide)
    exact ⟨x, hx, req, hst ▸ hm, hauth.1 (he.trans hst)⟩
  refunded id i hi hst := by
    obtain ⟨x, hx, req, hm, hauth, he⟩ :=
      movedBy_of_hasStatus h hi (by rw [hst]; decide) (by rw [hst]; decide)
    exact ⟨x, hx, req, hst ▸ hm, actsAsSender_iff.mpr (hauth.2.1 (he.trans hst))⟩
  changes x hx id i j hi hj hne := by
    obtain ⟨hr, hl, -⟩ := h.split hx
    have hne' : ∀ k, x.pre.storage.lookup id = some k → k.status ≠ j.status := by
      intro k hk he
      obtain rfl := Option.some.inj (hi.symm.trans hk)
      exact hne he.symm
    rcases Step.status_change hl (invariant_of_reachable hr) hj hne' with
      ⟨hn, -⟩ | ⟨u, now, a, k, he, hid, hst, hk, hauth⟩
    · rw [hi] at hn
      cases hn
    · refine ⟨u.request, ⟨u, now, a, he, rfl, hid, hst, k, hk, hne' k hk⟩, ?_, ?_, ?_⟩
      · exact hauth.2.2.imp actsAsSender_iff.mpr fun hrec => hrec
      · intro hc
        exact hauth.1 (hst.trans hc)
      · intro hc
        exact actsAsSender_iff.mpr (hauth.2.1 (hst.trans hc))
  terms x hx id i hi := by
    obtain ⟨hr, hl, tr₂, hrest⟩ := h.split hx
    obtain ⟨j, hj, hlater⟩ := later_of_run ((System.Run.single hl).append hrest) hr id i hi
    obtain ⟨h₁, h₂, h₃, h₄, h₅, -, h₇, h₈, h₉⟩ := hlater.1.fields
    exact ⟨j, hj, h₁, h₂, h₃, h₄, h₅, h₇, h₈, h₉⟩

open PaymentState in
/-- Bob claims the intent that Alice made out to him. -/
theorem authorised_provenance_claim : ∃ tr s, paymentSystem.Trace tr s ∧
    (s.storage.lookup (.ofNat 1)).map PaymentIntent.status = some .claimed ∧
    AuthorisedProvenance tr s := by
  have h₁ := System.Run.snoc (T := paymentSystem) .nil
    (Step.createPrepared (s := .initial) ⟨rfl, by simp [initial]⟩ createPaymentIntent_sample)
  have h₂ := h₁.snoc (@Step.createStored _ sampleIntent (by decide +kernel))
  have h₃ :=
    h₂.snoc (@Step.updateAuthorised _ (sampleReport .claimed "bob").request sampleIntent
      (by decide +kernel))
  have h₄ := h₃.snoc (@Step.updateWritten _ (sampleReport .claimed "bob") .epoch _ _
    (by decide +kernel) rfl)
  have ht : paymentSystem.Trace _ _ := ⟨_, rfl, h₄⟩
  exact ⟨_, _, ht, by decide +kernel, authorised_provenance ht⟩

end Hanbova
