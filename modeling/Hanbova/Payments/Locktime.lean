import Hanbova.Payments.WellFormed

/-! Whether the refund path of a protected payment opens only after its locktime. -/
namespace Hanbova

open Library
open Library.System (Timed readings)

/-- The statuses that a payment has once its refund path is open. -/
def PaymentStatus.onRefundPath : PaymentStatus → Bool
  | .expired | .refundAvailable | .refunding | .refunded => true
  | _ => false

/-- The stored intent `id` is on the refund path. -/
def OnRefundPath (id : Uuid) (s : PaymentState) : Prop :=
  ∃ i, s.storage.lookup id = some i ∧ i.status.onRefundPath = true

/-- The first step of the trace to put the intent `id` on the refund path reads the time `now`. -/
def EntersRefundPath (tr : List (Transition PaymentState PaymentEvent)) (id : Uuid)
    (now : DateTime) : Prop :=
  ∃ tr₁ x tr₂ u answer, tr = tr₁ ++ x :: tr₂ ∧
    (∀ y ∈ tr₁, ¬ OnRefundPath id y.post) ∧
    OnRefundPath id x.post ∧ x.label = .updateWritten u now answer

/-- Every protected intent on the refund path came there at its locktime or later. -/
def RefundsAfterLocktime (tr : List (Transition PaymentState PaymentEvent)) (s : PaymentState) :
    Prop :=
  ∀ id i, s.storage.lookup id = some i → i.paymentType = .«protected» →
    i.status.onRefundPath = true →
    ∃ now t, EntersRefundPath tr id now ∧ i.expiresAt = some t ∧ t ≤ now

/-- A report that the transition table allows puts a protected intent on the refund path before
its locktime. -/
def EarlyRefundReport (x : Transition PaymentState PaymentEvent) : Prop :=
  ∃ u now answer i t, x.label = .updateWritten u now answer ∧
    x.pre.storage.lookup u.request.paymentId = some i ∧ i.paymentType = .«protected» ∧
    i.status.onRefundPath = false ∧ u.request.newStatus.onRefundPath = true ∧
    i.status.canTransitionTo u.request.newStatus = true ∧ i.expiresAt = some t ∧ now < t

namespace PaymentState

/-- The step that puts a protected intent on the refund path is a report, and if none is early it
comes no earlier than the locktime. -/
theorem locktime_of_entering {x : Transition PaymentState PaymentEvent} {id : Uuid}
    {j : PaymentIntent} {t : DateTime} (hr : paymentSystem.Reachable x.pre)
    (hl : Step x.pre x.label x.post) (hx : ¬ EarlyRefundReport x) (hpre : ¬ OnRefundPath id x.pre)
    (hj : x.post.storage.lookup id = some j) (hpath : j.status.onRefundPath = true)
    (htype : j.paymentType = .«protected») (ht : j.expiresAt = some t) :
    ∃ u now answer, x.label = .updateWritten u now answer ∧ t ≤ now := by
  have hinv := invariant_of_reachable hr
  have hne : ∀ i, x.pre.storage.lookup id = some i → i.status ≠ j.status :=
    fun i hi he => hpre ⟨i, hi, he ▸ hpath⟩
  rcases hl.reported_change hinv hj hne with
    (he | he) | ⟨u, now, a, i, he, hi, hid, hst, hterms, hc⟩
  · rw [he] at hpath
    cases hpath
  · rw [he] at hpath
    cases hpath
  · refine ⟨u, now, .ok a, he, ?_⟩
    by_contra hlt
    obtain ⟨-, htypes, -, -, -, -, hexpires, -, -⟩ := hterms.fields
    have hout : i.status.onRefundPath = false := by
      rw [← Bool.not_eq_true]
      intro hin
      exact hpre ⟨i, hid ▸ hi, hin⟩
    exact hx ⟨u, now, .ok a, i, t, he, hi, htypes.symm.trans htype, hout,
      hst ▸ hpath, hst ▸ hc,
      hexpires.symm.trans ht, not_le.mp hlt⟩

theorem refunds_after_locktime_of {tr : List (Transition PaymentState PaymentEvent)}
    {s : PaymentState} (h : paymentSystem.Trace tr s) (hx : ∀ x ∈ tr, ¬ EarlyRefundReport x) :
    RefundsAfterLocktime tr s := by
  intro id i hi htype hpath
  obtain ⟨t, ht⟩ := expiresAt_of_protected h hi htype
  have htrace := h
  obtain ⟨s₀, rfl, hrun⟩ := htrace
  have h₀ : ¬ OnRefundPath id .initial := by
    intro hin
    obtain ⟨j, hj, -⟩ := hin
    simp [initial] at hj
  have hend : ∃ x ∈ tr, OnRefundPath id x.post := by
    rcases hrun.ending with he | ⟨x, hmem, he⟩
    · exact absurd ⟨i, he ▸ hi, hpath⟩ h₀
    · exact ⟨x, hmem, i, he ▸ hi, hpath⟩
  obtain ⟨tr₁, x, tr₂, hsplit, hfirst, hpre, j, hj, hjpath⟩ := hrun.entering_first h₀ hend
  have hmem : x ∈ tr := by rw [hsplit]; simp
  obtain ⟨hr, hl, tr', hrest⟩ := h.split hmem
  obtain ⟨k, hk, hterms, -⟩ := later_of_run hrest (System.Reachable.step hr hl) id j hj
  obtain rfl := Option.some.inj (hi.symm.trans hk)
  obtain ⟨-, htypes, -, -, -, -, hexpires, -, -⟩ := hterms.fields
  obtain ⟨u, now, answer, he, hle⟩ := locktime_of_entering hr hl (hx x hmem) hpre hj hjpath
    (htypes.symm.trans htype) (hexpires.symm.trans ht)
  exact ⟨now, t, ⟨tr₁, x, tr₂, u, answer, hsplit, hfirst, ⟨j, hj, hjpath⟩, he⟩,
    ht, hle⟩

/-- After an early report the intent is on the refund path, and cannot have come there later. -/
theorem not_refunds_of_early {tr : List (Transition PaymentState PaymentEvent)}
    {x : Transition PaymentState PaymentEvent} (hc : Timed PaymentEvent.clock (tr ++ [x]))
    (hl : Step x.pre x.label x.post) (hx : EarlyRefundReport x) :
    ¬ RefundsAfterLocktime (tr ++ [x]) x.post := by
  obtain ⟨pre, e, post⟩ := x
  obtain ⟨u, now, answer, i, t, rfl, hi, htype, -, hpath, hallowed, ht, hlt⟩ := hx
  simp only at hl hi ⊢
  have hpost := hl.allowed hi hallowed
  have hterms := InMemoryPaymentIntentRepository.sameTerms_reported i u.request.newStatus now
  obtain ⟨-, htypes, -, -, -, -, hexpires, -, -⟩ := hterms.fields
  intro hall
  obtain ⟨now', t', ⟨tr₁, y, tr₂, u', answer', hsplit, -, -, he⟩, ht', hle⟩ :=
    hall _ _ hpost (htypes.trans htype) (by simpa using hpath)
  obtain rfl : t' = t := Option.some.inj (ht'.symm.trans (hexpires.trans ht))
  have hread : now' ∈ y.label.clock := by rw [he]; exact List.mem_singleton_self _
  have hmem : y ∈ tr ++ [⟨pre, .updateWritten u now answer, post⟩] := by rw [hsplit]; simp
  have hnow : now' ≤ now := by
    rcases List.mem_append.mp hmem with hy | hy
    · exact hc.le (System.mem_readings hy hread)
        (System.mem_readings (List.mem_singleton_self _) (List.mem_singleton_self now))
    · rw [List.mem_singleton.mp hy] at hread
      exact (List.mem_singleton.mp hread).le
  exact absurd hlt (not_lt.mpr (hle.trans hnow))

end PaymentState

open PaymentState in
/-- In every state of a run with a clock that does not go back the refund paths opened after the
locktime if and only if no step of the run is an early report. -/
theorem refunds_after_locktime_iff {tr : List (Transition PaymentState PaymentEvent)}
    {s : PaymentState} (h : paymentSystem.Trace tr s) (hc : Timed PaymentEvent.clock tr) :
    paymentSystem.Throughout tr RefundsAfterLocktime ↔ ∀ x ∈ tr, ¬ EarlyRefundReport x := by
  apply h.throughout_iff
  · intro tr₁ x hp _ hl hearly
    exact not_refunds_of_early (hc.of_isPrefix hp) hl hearly
  · intro tr₁ s₁ _ ht hx
    exact refunds_after_locktime_of ht hx

/-- Alice has reported her payment protected. -/
def sampleWaiting (updating : List PendingUpdate) : PaymentState :=
  ⟨Table.insert ∅ (.ofNat 1) { sampleProtected with status := .«protected» }, [], updating⟩

open PaymentState in
theorem trace_sampleWaiting : ∃ tr, paymentSystem.Trace tr (sampleWaiting []) ∧
    readings PaymentEvent.clock tr = [.epoch, .epoch] := by
  obtain ⟨tr, ht, hread⟩ := trace_sampleProtected
  have h₁ := ht.snoc (@Step.updateAuthorised sampleStored
    (sampleReport .«protected» "alice").request sampleProtected (by decide +kernel))
  have h₂ := h₁.snoc (@Step.updateWritten _ ⟨(sampleReport .«protected» "alice").request,
    sampleProtected⟩ .epoch _ _ List.mem_cons_self rfl)
  refine ⟨_, h₂, ?_⟩
  simp only [Library.System.readings_append, hread]
  rfl

/-- Alice's report that the refund is available, authorised. -/
def sampleRefund : PendingUpdate :=
  ⟨(sampleReport .refundAvailable "alice").request,
    { sampleProtected with status := .«protected» }⟩

open PaymentState in
/-- Alice reports the refund available when the locktime has come. -/
theorem refunds_after_locktime_sample : ∃ tr s, paymentSystem.Trace tr s ∧
    Timed PaymentEvent.clock tr ∧
    (s.storage.lookup (.ofNat 1)).map PaymentIntent.status = some .refundAvailable ∧
    (paymentSystem.Throughout tr RefundsAfterLocktime ↔
      ∀ x ∈ tr, ¬ EarlyRefundReport x) := by
  obtain ⟨tr, ht, hread⟩ := trace_sampleWaiting
  have h₁ := ht.snoc (@Step.updateAuthorised (sampleWaiting []) sampleRefund.request
    sampleRefund.snapshot (by decide +kernel))
  have h₂ :=
    h₁.snoc (@Step.updateWritten (sampleWaiting [sampleRefund]) sampleRefund .nextDay _ _
      List.mem_cons_self rfl)
  refine ⟨_, _, h₂, ?clock, by decide +kernel, refunds_after_locktime_iff h₂ ?clock⟩
  apply Library.System.timed_of_readings [.epoch, .epoch, .nextDay]
  · simp only [Library.System.readings_append, hread]
    rfl
  · decide

open PaymentState in
/-- Alice reports the refund available as soon as the payment is protected. -/
theorem not_refunds_after_locktime : ∃ tr s, paymentSystem.Trace tr s ∧
    Timed PaymentEvent.clock tr ∧ ¬ RefundsAfterLocktime tr s := by
  obtain ⟨tr, ht, hread⟩ := trace_sampleWaiting
  have h₁ := ht.snoc (@Step.updateAuthorised (sampleWaiting []) sampleRefund.request
    sampleRefund.snapshot (by decide +kernel))
  have hl : Step (sampleWaiting [sampleRefund]) (.updateWritten sampleRefund .epoch _) _ :=
    Step.updateWritten List.mem_cons_self rfl
  refine ⟨_, _, h₁.snoc hl, ?clock, not_refunds_of_early ?clock hl ?_⟩
  · apply Library.System.timed_of_readings [.epoch, .epoch, .epoch]
    · simp only [Library.System.readings_append, hread]
      rfl
    · decide
  · exact ⟨sampleRefund, .epoch, _, sampleRefund.snapshot, .nextDay, rfl, rfl, rfl, rfl,
      rfl, rfl, rfl, by decide⟩

end Hanbova
