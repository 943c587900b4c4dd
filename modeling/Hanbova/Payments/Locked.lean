import Hanbova.Library.History
import Hanbova.Payments.WellFormed

/-! Whether a protected payment was locked before it was settled. -/
namespace Hanbova

open Library

namespace PaymentStatus

/-- Nothing has been locked yet. -/
def isEarly : PaymentStatus → Bool
  | .created | .funding | .pending => true
  | _ => false

/-- The statuses that a payment has after it was locked, or settled without a lock. -/
def isLate (s : PaymentStatus) : Bool := !s.isEarly && s != .failed

theorem isEarly_of_canTransitionTo {s t : PaymentStatus} (h : s.canTransitionTo t = true)
    (ht : t.isEarly = true) : s.isEarly = true := by
  cases t <;> simp only [isEarly, Bool.false_eq_true] at ht <;> cases s <;>
    simp_all [canTransitionTo, isEarly]

theorem of_canTransitionTo_late {s t : PaymentStatus} (h : s.canTransitionTo t = true)
    (hs : s.isLate = false) (ht : t.isLate = true) :
    (t = .«protected» ∨ t = .claimable) ∨ (s = .pending ∧ t = .claimed) := by
  cases s <;> simp [isLate, isEarly] at hs <;> cases t <;>
    simp_all [canTransitionTo, isLate, isEarly]

end PaymentStatus

/-- Every settled protected payment was stored as locked earlier in the trace. -/
def LockedBeforeSettled (tr : List (Transition PaymentState PaymentEvent)) (s : PaymentState) :
    Prop :=
  ∀ id i, s.storage.lookup id = some i → i.paymentType = .«protected» →
    i.status = .claimed ∨ i.status = .refunded →
    ∃ x ∈ tr, ∃ j, x.post.storage.lookup id = some j ∧
      (j.status = .«protected» ∨ j.status = .claimable)

/-- A claim is reported for a protected payment that is still pending. -/
def ClaimsUnlocked (x : Transition PaymentState PaymentEvent) : Prop :=
  ∃ u now answer i, x.label = .updateWritten u now answer ∧
    x.pre.storage.lookup u.request.paymentId = some i ∧ i.paymentType = .«protected» ∧
    i.status = .pending ∧ u.request.newStatus = .claimed

namespace PaymentState

/-- The protected payment `id` has left the early statuses. -/
def HasLeft (id : Uuid) (s : PaymentState) : Prop :=
  ∃ i, s.storage.lookup id = some i ∧ i.paymentType = .«protected» ∧ i.status.isLate = true

/-- A protected payment leaves the early statuses by being locked or by being claimed unlocked. -/
theorem locked_of_leaving {x : Transition PaymentState PaymentEvent} {id : Uuid}
    (hr : paymentSystem.Reachable x.pre) (hl : Step x.pre x.label x.post)
    (hpre : ¬ HasLeft id x.pre) (hpost : HasLeft id x.post) :
    ClaimsUnlocked x ∨ ∃ j, x.post.storage.lookup id = some j ∧
      (j.status = .«protected» ∨ j.status = .claimable) := by
  obtain ⟨j, hj, htype, hlate⟩ := hpost
  have hinv := invariant_of_reachable hr
  have hold : ∀ i, x.pre.storage.lookup id = some i →
      i.paymentType = .«protected» ∧ i.status.isLate = false := by
    intro i hi
    obtain ⟨j', hj', hterms, -⟩ := hl.evolves hinv id i hi
    obtain rfl := Option.some.inj (hj.symm.trans hj')
    have htype' : i.paymentType = .«protected» := hterms.fields.2.1.symm.trans htype
    refine ⟨htype', ?_⟩
    rw [← Bool.not_eq_true]
    intro hi'
    exact hpre ⟨i, hi, htype', hi'⟩
  have hne : ∀ i, x.pre.storage.lookup id = some i → i.status ≠ j.status := by
    intro i hi he
    rw [← he, (hold i hi).2] at hlate
    cases hlate
  rcases hl.reported_change hinv hj hne with (he | he) | ⟨u, now, a, i, he, hi, hid, hst, -, hc⟩
  · rw [he] at hlate
    cases hlate
  · rw [he] at hlate
    cases hlate
  · obtain ⟨htype', hearly⟩ := hold i (hid ▸ hi)
    rcases PaymentStatus.of_canTransitionTo_late hc hearly hlate with hlocked |
      ⟨hpending, hclaimed⟩
    · exact .inr ⟨j, hj, hlocked⟩
    · exact .inl ⟨u, now, .ok a, i, he, hi, htype', hpending, hst.trans hclaimed⟩

theorem early_of_run {s t : PaymentState} {tr : List (Transition PaymentState PaymentEvent)}
    (h : paymentSystem.Run s tr t) (hs : paymentSystem.Reachable s) :
    Table.Evolves (fun i j => j.status.isEarly = true → i.status.isEarly = true)
      s.storage t.storage := by
  refine h.relates (R := fun s t => Table.Evolves
    (fun i j : PaymentIntent => j.status.isEarly = true → i.status.isEarly = true)
    s.storage t.storage) hs (fun s => .refl (fun _ h => h) _) ?_ ?_
  · intro s t u h h'
    exact h.trans (fun hxy hyz hz => hxy (hyz hz)) h'
  intro s e t hr hl id i hi
  obtain ⟨j, hj, -, hmoved⟩ := Step.evolves hl (invariant_of_reachable hr) id i hi
  refine ⟨j, hj, fun hearly => ?_⟩
  rcases hmoved with rfl | ⟨-, hc⟩
  · exact hearly
  · exact PaymentStatus.isEarly_of_canTransitionTo hc hearly

theorem locked_before_settled_of {tr : List (Transition PaymentState PaymentEvent)}
    {s : PaymentState} (h : paymentSystem.Trace tr s) (hx : ∀ x ∈ tr, ¬ ClaimsUnlocked x) :
    LockedBeforeSettled tr s := by
  intro id i hi htype hsettled
  have hs : HasLeft id s := by
    refine ⟨i, hi, htype, ?_⟩
    rcases hsettled with he | he
    · rw [he]; rfl
    · rw [he]; rfl
  have ht := h
  obtain ⟨s₀, rfl, hrun⟩ := ht
  have h₀ : ¬ HasLeft id .initial := by
    intro hleft
    obtain ⟨j, hj, -⟩ := hleft
    simp [initial] at hj
  obtain ⟨x, hmem, hpre, hpost⟩ := hrun.entering h₀ hs
  obtain ⟨hr, hl, -⟩ := h.split hmem
  rcases locked_of_leaving hr hl hpre hpost with hclaim | hlocked
  · exact absurd hclaim (hx x hmem)
  · exact ⟨x, hmem, hlocked⟩

/-- A claim on a pending protected payment settles it without a lock. -/
theorem not_locked_of_claimsUnlocked {tr : List (Transition PaymentState PaymentEvent)}
    {x : Transition PaymentState PaymentEvent} (h : paymentSystem.Trace tr x.pre)
    (hl : Step x.pre x.label x.post) (hx : ClaimsUnlocked x) :
    ¬ LockedBeforeSettled (tr ++ [x]) x.post := by
  obtain ⟨pre, e, post⟩ := x
  obtain ⟨u, now, answer, i, rfl, hi, htype, hpending, hclaimed⟩ := hx
  simp only at h hl hi ⊢
  have hc : i.status.canTransitionTo u.request.newStatus = true := by
    rw [hpending, hclaimed]; rfl
  have hpost := hl.allowed hi hc
  have hstatus : (InMemoryPaymentIntentRepository.reported i u.request.newStatus now).status =
      .claimed := by
    rw [InMemoryPaymentIntentRepository.status_reported, hclaimed]
  have hterms := InMemoryPaymentIntentRepository.sameTerms_reported i u.request.newStatus now
  intro hlocked
  obtain ⟨y, hy, j, hj, hst⟩ :=
    hlocked _ _ hpost (hterms.fields.2.1.trans htype) (.inl hstatus)
  rcases List.mem_append.mp hy with hy | hy
  · obtain ⟨hr, hly, tr₂, hrest⟩ := h.split hy
    obtain ⟨i', hi', hearly⟩ :=
      early_of_run hrest (System.Reachable.step (T := paymentSystem) hr hly) _ _ hj
    obtain rfl := Option.some.inj (hi.symm.trans hi')
    have hj' := hearly (by rw [hpending]; rfl)
    rcases hst with he | he
    · rw [he] at hj'; cases hj'
    · rw [he] at hj'; cases hj'
  · rw [List.mem_singleton.mp hy] at hj
    obtain rfl := Option.some.inj (hpost.symm.trans hj)
    rw [hstatus] at hst
    rcases hst with he | he <;> cases he

end PaymentState

open PaymentState in
/-- In every state of a run the settled protected payments were locked before if and only if no
step of the run reports a claim for a protected payment that is still pending. -/
theorem locked_before_settled_iff {tr : List (Transition PaymentState PaymentEvent)}
    {s : PaymentState} (h : paymentSystem.Trace tr s) :
    paymentSystem.Throughout tr LockedBeforeSettled ↔ ∀ x ∈ tr, ¬ ClaimsUnlocked x := by
  apply h.throughout_iff
  · intro tr₁ x _ hpre hl hclaim
    exact not_locked_of_claimsUnlocked hpre hl hclaim
  · intro tr₁ s₁ _ ht hx
    exact locked_before_settled_of ht hx

open PaymentState in
theorem locked_before_settled_sample : ∃ tr s, paymentSystem.Trace tr s ∧
    (s.storage.lookup (.ofNat 1)).map PaymentIntent.status = some .claimed ∧
    (paymentSystem.Throughout tr LockedBeforeSettled ↔ ∀ x ∈ tr, ¬ ClaimsUnlocked x) := by
  let locked : PaymentIntent := { sampleProtected with status := .«protected» }
  let claimed : PaymentIntent := { sampleProtected with status := .claimed }
  let after : PaymentState := ⟨Table.insert ∅ (.ofNat 1) locked, [], []⟩
  obtain ⟨tr, ht, -⟩ := trace_sampleProtected
  obtain ⟨tr₁, h₁⟩ := @run_updatePaymentStatus sampleStored
    (sampleReport .«protected» "alice").request .epoch (.ok (.ofIntent locked)) after.storage
    (by decide +kernel)
  obtain ⟨tr₂, h₂⟩ :=
    @run_updatePaymentStatus after (sampleReport .claimed "bob").request .epoch
    (.ok (.ofIntent claimed)) (Table.insert ∅ (.ofNat 1) claimed) (by decide +kernel)
  have hrun := (ht.append h₁).append h₂
  exact ⟨_, _, hrun, by decide +kernel, locked_before_settled_iff hrun⟩

open PaymentState in
/-- Alice reports her protected payment pending, and Bob reports it claimed. -/
theorem not_locked_before_settled : ∃ tr s, paymentSystem.Trace tr s ∧
    ¬ LockedBeforeSettled tr s := by
  let pending : PaymentIntent := { sampleProtected with status := .pending }
  let claim : PendingUpdate := ⟨(sampleReport .claimed "bob").request, pending⟩
  let before : PaymentState := ⟨Table.insert ∅ (.ofNat 1) pending, [], [claim]⟩
  obtain ⟨tr, ht, -⟩ := trace_sampleProtected
  obtain ⟨tr', hrun⟩ := @run_updatePaymentStatus sampleStored
    (sampleReport .pending "alice").request .epoch (.ok (.ofIntent pending)) before.storage
    (by decide +kernel)
  have hpre := (ht.append hrun).snoc
    (@Step.updateAuthorised _ claim.request pending (by decide +kernel))
  have hl : Step before (.updateWritten claim .epoch _) _ :=
    Step.updateWritten List.mem_cons_self rfl
  refine ⟨_, _, hpre.snoc hl, not_locked_of_claimsUnlocked hpre hl ?_⟩
  exact ⟨_, _, _, pending, rfl, rfl, rfl, rfl, rfl⟩

end Hanbova
