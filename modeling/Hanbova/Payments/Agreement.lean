import Hanbova.Payments.System

/-! Agreement of concurrent payment calls on the outcome of a payment. -/
namespace Hanbova

open Library

/-- The answer that a step gives to its caller, when that is `Ok`. -/
def PaymentEvent.answer : PaymentEvent → Option PaymentIntentResponse
  | .createStored _ a => some a
  | .updateWritten _ _ (.ok a) => some a
  | _ => none

/-- Terminal statuses stand, accepted terminal reports agree, and an answer shows the record as
the call's own write left it, under the identifier and with the status that the call asked for. -/
structure TerminalAgreement (tr : List (Transition PaymentState PaymentEvent))
    (s : PaymentState) : Prop where
  stable : ∀ x ∈ tr, ∀ id i, x.pre.storage.lookup id = some i →
    i.status.isTerminal = true →
    ∃ j, s.storage.lookup id = some j ∧ j.status = i.status ∧ j.updatedAt = i.updatedAt
  unique : ∀ x ∈ tr, ∀ y ∈ tr, ∀ u v now now' a b,
    x.label = .updateWritten u now (.ok a) → y.label = .updateWritten v now' (.ok b) →
    u.request.paymentId = v.request.paymentId → u.request.newStatus.isTerminal = true →
    v.request.newStatus.isTerminal = true → u.request.newStatus = v.request.newStatus
  answers : ∀ x ∈ tr, ∀ a, x.label.answer = some a →
    ∃ i, x.post.storage.lookup a.id = some i ∧ a = .ofIntent i
  asked : ∀ x ∈ tr, ∀ u now a, x.label = .updateWritten u now (.ok a) →
    a.id = u.request.paymentId ∧ a.status = u.request.newStatus

namespace PaymentState

/-- After an accepted terminal report, only that status can be reported again. -/
theorem terminal_reports_agree {x y : Transition PaymentState PaymentEvent}
    {tr : List (Transition PaymentState PaymentEvent)} {u v : PendingUpdate} {now now' : DateTime}
    {a b : PaymentIntentResponse} (hxr : paymentSystem.Reachable x.pre)
    (hx : Step x.pre (.updateWritten u now (.ok a)) x.post)
    (hr : paymentSystem.Run x.post tr y.pre)
    (hy : Step y.pre (.updateWritten v now' (.ok b)) y.post)
    (hid : u.request.paymentId = v.request.paymentId)
    (ht : u.request.newStatus.isTerminal = true) :
    u.request.newStatus = v.request.newStatus := by
  have hpost : paymentSystem.Reachable x.post := System.Reachable.step (T := paymentSystem) hxr hx
  obtain ⟨_, j, -, -, hst, -, hm, -⟩ := hx.written (invariant_of_reachable hxr)
  obtain ⟨k, hk, hlater⟩ := later_of_run hr hpost _ _ hm.lookup_self
  obtain rfl : k = j := hlater.2 (by rw [hst]; exact ht)
  obtain ⟨i, _, hl, hc, -⟩ := hy.written (invariant_of_reachable (hpost.run hr))
  rw [← hid, hk] at hl
  obtain rfl := Option.some.inj hl
  rw [hst] at hc
  exact (PaymentStatus.eq_of_isTerminal ht hc).symm

/-- An update is answered with the record that it has written. -/
theorem Step.updated {s t : PaymentState} {u : PendingUpdate} {now : DateTime}
    {a : PaymentIntentResponse} (h : Step s (.updateWritten u now (.ok a)) t) (hs : s.Invariant) :
    ∃ i, t.storage.lookup u.request.paymentId = some i ∧ a = .ofIntent i ∧
      a.id = u.request.paymentId ∧ a.status = u.request.newStatus := by
  obtain ⟨i, j, hl, -, hstatus, hterms, hm, rfl, -⟩ := h.written hs
  exact ⟨j, hm.lookup_self, rfl, hterms.fields.1.trans (hs.inbound.keyed _ _ hl), hstatus⟩

theorem Step.answer {s t : PaymentState} {e : PaymentEvent} (h : Step s e t) (hs : s.Invariant)
    {a : PaymentIntentResponse} (ha : e.answer = some a) :
    ∃ i, t.storage.lookup a.id = some i ∧ a = .ofIntent i := by
  cases h with
  | @createStored i hi =>
    obtain rfl := Option.some.inj ha
    exact ⟨i, (InMemoryPaymentIntentRepository.setAt_save _ _).lookup_self, rfl⟩
  | @updateWritten u now answer storage hu hw =>
    cases answer with
    | error e => cases ha
    | ok b =>
      obtain rfl := Option.some.inj ha
      obtain ⟨i, hl, he, hid, -⟩ := (Step.updateWritten hu hw).updated hs
      exact ⟨i, hid ▸ hl, he⟩
  | _ => cases ha

end PaymentState

open PaymentState in
theorem terminal_agreement {tr : List (Transition PaymentState PaymentEvent)} {s : PaymentState}
    (h : paymentSystem.Trace tr s) : TerminalAgreement tr s where
  stable x hx id i hi ht := by
    obtain ⟨hr, hl, tr₂, hrest⟩ := h.split hx
    have hrun := (System.Run.single hl).append hrest
    obtain ⟨j, hj, hlater⟩ := later_of_run hrun hr id i hi
    obtain rfl := hlater.2 ht
    exact ⟨j, hj, rfl, rfl⟩
  unique x hx y hy u v now now' a b hxl hyl hid hu hv := by
    obtain ⟨hxr, hxs, -⟩ := h.split hx
    obtain ⟨hyr, hys, -⟩ := h.split hy
    rw [hxl] at hxs
    rw [hyl] at hys
    rcases h.order hx hy with rfl | ⟨tr', hr⟩ | ⟨tr', hr⟩
    · rw [hxl] at hyl
      cases hyl
      rfl
    · exact terminal_reports_agree hxr hxs hr hys hid hu
    · exact (terminal_reports_agree hyr hys hr hxs hid.symm hv).symm
  answers x hx a ha := by
    obtain ⟨hr, hl, -⟩ := h.split hx
    exact Step.answer hl (invariant_of_reachable hr) ha
  asked x hx u now a hlabel := by
    obtain ⟨hr, hl, -⟩ := h.split hx
    rw [hlabel] at hl
    obtain ⟨-, -, -, hid, hstatus⟩ := Step.updated hl (invariant_of_reachable hr)
    exact ⟨hid, hstatus⟩

open PaymentState in
/-- Both parties read the pending intent; Bob's claim is written first, so Alice's failure
report, authorised on the stale snapshot, is refused. -/
theorem terminal_agreement_race : ∃ tr s, paymentSystem.Trace tr s ∧
    (s.storage.lookup (.ofNat 1)).map PaymentIntent.status = some .claimed ∧
    TerminalAgreement tr s := by
  have h₁ := System.Run.snoc (T := paymentSystem) .nil
    (Step.createPrepared (s := .initial) ⟨rfl, by simp [initial]⟩ createPaymentIntent_sample)
  have h₂ := h₁.snoc (@Step.createStored _ sampleIntent (by decide +kernel))
  have h₃ :=
    h₂.snoc (@Step.updateAuthorised _ (sampleReport .claimed "bob").request sampleIntent
      (by decide +kernel))
  have h₄ :=
    h₃.snoc (@Step.updateAuthorised _ (sampleReport .failed "alice").request sampleIntent
      (by decide +kernel))
  have h₅ := h₄.snoc (@Step.updateWritten _ (sampleReport .claimed "bob") .epoch _ _
    (by decide +kernel) rfl)
  have h₆ := h₅.snoc (@Step.updateWritten _ (sampleReport .failed "alice") .epoch _ _
    (by decide +kernel) rfl)
  have ht : paymentSystem.Trace _ _ := ⟨_, rfl, h₆⟩
  exact ⟨_, _, ht, by decide +kernel, terminal_agreement ht⟩

end Hanbova
