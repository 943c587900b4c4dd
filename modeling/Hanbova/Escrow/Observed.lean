import Hanbova.Escrow.Invariant
import Hanbova.Library.History
import Mathlib.Logic.Relation

/-! The statuses that status queries report in the course of a run. -/
namespace Hanbova

open Library
open CashuProtectedPaymentProvider (Intents AtRest reportedStatus getPaymentStatus)

namespace PaymentStatus

/-- One step of the transition table. -/
def Leads (s t : PaymentStatus) : Prop := s.canTransitionTo t = true

/-- What an observer of a lawful payment may see at a later time. -/
structure LawfullyBefore (s t : PaymentStatus) : Prop where
  reachable : Relation.ReflTransGen Leads s t
  not_back : s = .refundAvailable → t ≠ .claimable
  settled : s = .claimed ∨ s = .refunded → t = s

/-- The order of the statuses that are ever reported. -/
def Precedes (s t : PaymentStatus) : Prop :=
  s = t ∨ (s = .claimable ∧ (t = .refundAvailable ∨ t = .claimed ∨ t = .refunded)) ∨
    (s = .refundAvailable ∧ (t = .claimed ∨ t = .refunded))

instance (s t : PaymentStatus) : Decidable (Precedes s t) := inferInstanceAs (Decidable (_ ∨ _))

theorem Precedes.refl (s : PaymentStatus) : Precedes s s := .inl rfl

theorem Precedes.trans {s t u : PaymentStatus} (h : Precedes s t) (h' : Precedes t u) :
    Precedes s u := by
  unfold Precedes at *
  rcases h with rfl | ⟨rfl, h⟩ | ⟨rfl, h⟩
  · exact h'
  · rcases h' with rfl | ⟨-, h'⟩ | ⟨-, h'⟩
    · exact .inr (.inl ⟨rfl, h⟩)
    · exact .inr (.inl ⟨rfl, h'⟩)
    · exact .inr (.inl ⟨rfl, .inr h'⟩)
  · rcases h' with rfl | ⟨rfl, -⟩ | ⟨-, h'⟩
    · exact .inr (.inr ⟨rfl, h⟩)
    · simp at h
    · exact .inr (.inr ⟨rfl, h'⟩)

theorem Precedes.lawful {s t : PaymentStatus} (h : Precedes s t) : LawfullyBefore s t := by
  have step : ∀ {s t}, s.canTransitionTo t = true → Relation.ReflTransGen Leads s t :=
    fun hst => Relation.ReflTransGen.single hst
  have toRefund : Relation.ReflTransGen Leads .claimable .refunded :=
    (step (t := .refundAvailable) rfl).trans (step rfl)
  unfold Precedes at h
  rcases h with rfl | ⟨rfl, rfl | rfl | rfl⟩ | ⟨rfl, rfl | rfl⟩
  · refine ⟨.refl, ?_, fun _ => rfl⟩
    rintro rfl
    decide
  · exact ⟨step rfl, by decide, by decide⟩
  · exact ⟨step rfl, by decide, by decide⟩
  · exact ⟨toRefund, by decide, by decide⟩
  · exact ⟨step rfl, by decide, by decide⟩
  · exact ⟨step rfl, by decide, by decide⟩

end PaymentStatus

inductive ObservedEvent (c : Cdk)
  | provider (e : EscrowEvent c)
  | status (paymentId : Uuid) (now : DateTime) (answer : Except ProtectedPaymentError PaymentStatus)

inductive ObservedStep (c : Cdk) (mintUrl : String) :
    EscrowState c → ObservedEvent c → EscrowState c → Prop
  | provider {s e t} : EscrowState.Step c mintUrl s e t → ObservedStep c mintUrl s (.provider e) t
  | status {s paymentId now} :
      ObservedStep c mintUrl s
        (.status paymentId now (getPaymentStatus s.intents paymentId now)) s

/-- The provider, whose status queries are now part of its runs. -/
def observedSystem (c : Cdk) (mintUrl : String) : System (EscrowState c) (ObservedEvent c) where
  init s := s.intents = ∅ ∧ s.creating = []
  step := ObservedStep c mintUrl

namespace ObservedEvent
variable {c : Cdk}

/-- The readings of the clock that queries take. -/
def clock : ObservedEvent c → List DateTime
  | .status _ now _ => [now]
  | _ => []

/-- What a query reports of the payment. -/
def reported (id : Uuid) : ObservedEvent c → Option PaymentStatus
  | .status paymentId _ (.ok st) => if paymentId = id then some st else none
  | _ => none

end ObservedEvent

open System

namespace EscrowState
variable {c : Cdk} {mintUrl : String} {s t : EscrowState c} {e : EscrowEvent c} {id : Uuid}
  {tr : List (Transition (EscrowState c) (ObservedEvent c))}

/-- The statuses reported of the payment, in order. -/
def reports (id : Uuid) (tr : List (Transition (EscrowState c) (ObservedEvent c))) :
    List PaymentStatus := (labels tr).filterMap (ObservedEvent.reported id)

/-- No payment is created under the identifier of one that is tracked. -/
def CreatedOnce (id : Uuid) (tr : List (Transition (EscrowState c) (ObservedEvent c))) : Prop :=
  ∀ x ∈ tr, ∀ l r receipt, x.label = .provider (.createTracked l r receipt) →
    r.intent.id = id →
    x.pre.intents.lookup id = none

theorem invariant_of_observed (h : (observedSystem c mintUrl).Reachable s) : s.Invariant := by
  have hr : (escrowSystem c mintUrl).Reachable s := by
    refine h.map (fun s => s) (fun s hi => hi) ?_
    intro s l t hl
    cases hl with
    | provider hl => exact .inr ⟨_, hl⟩
    | status => exact .inl rfl
  exact escrowInvariant_of_reachable hr

/-- At any time the report of the later record may follow that of the earlier one. -/
def Outlasts (r r' : TrackedPayment) : Prop :=
  ∀ now now', now ≤ now' → (reportedStatus r now).Precedes (reportedStatus r' now')

theorem outlasts_of_status {r r' : TrackedPayment} (hlock : r'.locktime = r.locktime)
    (hst : r'.intent.status = r.intent.status ∨ (r.intent.status = .claimable ∧
      (r'.intent.status = .claimed ∨ r'.intent.status = .refunded))) : Outlasts r r' := by
  intro now now' hle
  have settled : ∀ (p : TrackedPayment) now, p.intent.status ≠ .claimable →
      reportedStatus p now = p.intent.status := by
    intro p now hp
    rw [reportedStatus, if_neg fun h => hp h.2]
  by_cases hc : r.intent.status = .claimable
  · have before : reportedStatus r now = if r.locktime ≤ now then .refundAvailable
        else .claimable := by
      simp only [reportedStatus, hc, and_true]
    rw [before]
    rcases hst with he | ⟨-, he | he⟩
    · have after : reportedStatus r' now' = if r.locktime ≤ now' then .refundAvailable
          else .claimable := by
        simp only [reportedStatus, he, hc, hlock, and_true]
      rw [after]
      by_cases hn : r.locktime ≤ now
      · rw [if_pos hn, if_pos (hn.trans hle)]
        exact .refl _
      · rw [if_neg hn]
        split_ifs <;> decide
    · rw [settled r' now' (by rw [he]; decide), he]
      split_ifs <;> decide
    · rw [settled r' now' (by rw [he]; decide), he]
      split_ifs <;> decide
  · have he : r'.intent.status = r.intent.status := hst.resolve_right fun h => hc h.1
    rw [settled r now hc, settled r' now' (he ▸ hc), he]
    exact .refl _

/-- What a step of the provider does to the record of a payment that is not created again. -/
theorem Step.outlasts (h : Step c mintUrl s e t) (hs : s.Invariant) {r : TrackedPayment}
    (hr : s.intents.lookup id = some r)
    (honce : ∀ l r receipt, e = .createTracked l r receipt → r.intent.id = id →
      s.intents.lookup id = none) :
    ∃ r', t.intents.lookup id = some r' ∧ Outlasts r r' := by
  have hrest := hs.atRest _ _ hr
  have same : Outlasts r r := outlasts_of_status rfl (.inl rfl)
  rcases h.records with
    ⟨hi, -⟩ | ⟨l, r₁, rfl, -, hset, -⟩ |
    ⟨call, answer, r₁, r', key, how, now, -, hset⟩
  · exact ⟨r, by rw [hi, hr], same⟩
  · have hne : id ≠ r₁.intent.id := by
      intro he
      rw [honce l r₁ _ rfl he.symm] at hr
      cases hr
    exact ⟨r, by rw [hset.lookup_ne hne, hr], same⟩
  · by_cases he : id = call.paymentId
    · subst he
      obtain rfl := Option.some.inj (hset.lookup.symm.trans hr)
      refine ⟨r', hset.set.lookup_self, ?_⟩
      obtain ⟨hrec, -, hst⟩ := hset.record hrest
      apply outlasts_of_status (by rw [hrec])
      rcases hst with hst | ⟨hc, hst | hst⟩
      · exact .inl hst
      · cases hp : call.party <;> rw [hp] at hst
        · exact .inr ⟨hc, .inl hst⟩
        · exact .inr ⟨hc, .inr hst⟩
      · cases hp : call.party <;> rw [hp] at hst
        · exact .inl (hst.trans hc.symm)
        · exact .inr ⟨hc, .inl hst⟩
    · exact ⟨r, by rw [hset.set.lookup_ne he, hr], same⟩

/-- What the reports of a run leave true of the payment: each of them may precede what a query
would report from now on. -/
def Reported (id : Uuid) (tr : List (Transition (EscrowState c) (ObservedEvent c)))
    (s : EscrowState c) : Prop :=
  (reports id tr).Pairwise PaymentStatus.Precedes ∧
    ∀ st ∈ reports id tr, ∃ r, s.intents.lookup id = some r ∧
      ∀ now, (∀ time ∈ readings ObservedEvent.clock tr, time ≤ now) →
        st.Precedes (reportedStatus r now)

theorem Reported.initial (id : Uuid) (s : EscrowState c) : Reported id [] s :=
  ⟨.nil, by simp [reports, labels]⟩

/-- A step that no query makes. -/
theorem Reported.provider (h : Reported id tr s) (hs : s.Invariant) (hl : Step c mintUrl s e t)
    (honce : ∀ l r receipt, e = .createTracked l r receipt → r.intent.id = id →
      s.intents.lookup id = none) : Reported id (tr ++ [⟨s, .provider e, t⟩]) t := by
  have hreports : reports id (tr ++ [⟨s, .provider e, t⟩]) = reports id tr := by
    rw [reports, filterMap_labels_snoc]
    exact List.append_nil _
  have hclock : readings ObservedEvent.clock (tr ++ [⟨s, .provider e, t⟩]) =
      readings ObservedEvent.clock tr := by
    rw [readings_append]
    exact List.append_nil _
  unfold Reported
  rw [hreports, hclock]
  refine ⟨h.1, fun st hst => ?_⟩
  obtain ⟨r, hr, hlater⟩ := h.2 st hst
  obtain ⟨r', hr', hout⟩ := hl.outlasts hs hr honce
  exact ⟨r', hr', fun now hnow => (hlater now hnow).trans (hout now now le_rfl)⟩

/-- A query that tells nothing about the payment. -/
theorem Reported.other {l : ObservedEvent c} (h : Reported id tr s) (hl : l.reported id = none) :
    Reported id (tr ++ [⟨s, l, s⟩]) s := by
  have hreports : reports id (tr ++ [⟨s, l, s⟩]) = reports id tr := by
    rw [reports, filterMap_labels_snoc, hl]
    exact List.append_nil _
  unfold Reported
  rw [hreports, readings_append]
  refine ⟨h.1, fun st hst => ?_⟩
  obtain ⟨r, hr, hlater⟩ := h.2 st hst
  exact ⟨r, hr, fun now hnow => hlater now fun a ha => hnow a (List.mem_append_left _ ha)⟩

/-- A query about the payment, no earlier than the queries before it. -/
theorem Reported.query (h : Reported id tr s) {r : TrackedPayment}
    (hr : s.intents.lookup id = some r) {now : DateTime}
    (hnow : ∀ a ∈ readings ObservedEvent.clock tr, a ≤ now) :
    Reported id (tr ++ [⟨s, .status id now (.ok (reportedStatus r now)), s⟩]) s := by
  have hreports : reports id (tr ++ [⟨s, .status id now (.ok (reportedStatus r now)), s⟩]) =
      reports id tr ++ [reportedStatus r now] := by
    rw [reports, filterMap_labels_snoc, ObservedEvent.reported, if_pos rfl]
    rfl
  have later : ∀ st ∈ reports id tr, ∀ now,
    (∀ a ∈ readings ObservedEvent.clock tr, a ≤ now) →
      st.Precedes (reportedStatus r now) := by
    intro st hst
    obtain ⟨r', hr', hlater⟩ := h.2 st hst
    rwa [← Option.some.inj (hr.symm.trans hr')] at hlater
  unfold Reported
  rw [hreports, readings_append]
  constructor
  · apply List.pairwise_append.mpr
    refine ⟨h.1, List.pairwise_singleton _ _, ?_⟩
    intro st hst st' hst'
    rw [List.mem_singleton.mp hst']
    exact later st hst now hnow
  · intro st hst
    refine ⟨r, hr, fun now' hnow' => ?_⟩
    rcases List.mem_append.mp hst with hst | hst
    · exact later st hst now' fun a ha => hnow' a (List.mem_append_left _ ha)
    · rw [List.mem_singleton.mp hst]
      have hle : now ≤ now' := hnow' now (by simp [readings, ObservedEvent.clock])
      exact outlasts_of_status rfl (.inl rfl) now now' hle

theorem reported_of_trace (h : (observedSystem c mintUrl).Trace tr s)
    (ht : Timed ObservedEvent.clock tr) (honce : CreatedOnce id tr) : Reported id tr s := by
  refine h.induct (P := fun tr s => Timed ObservedEvent.clock tr → CreatedOnce id tr →
    Reported id tr s) (fun s _ _ _ => .initial id s) ?_ ht honce
  intro tr s l t htr ih hl ht honce
  have hprev : Reported id tr s :=
    ih (ht.of_isPrefix ⟨_, rfl⟩) fun x hx => honce x (List.mem_append_left _ hx)
  cases hl with
  | provider hl =>
    refine hprev.provider (invariant_of_observed htr.reachable) hl ?_
    rintro l r receipt rfl hid
    exact honce _ (List.mem_append_right _ (List.mem_singleton_self _)) l r receipt rfl hid
  | @status paymentId now =>
    have hnow : ∀ a ∈ readings ObservedEvent.clock tr, a ≤ now :=
      fun a ha => ht.le ha (by simp [readings, ObservedEvent.clock])
    cases hlook : s.intents.lookup paymentId with
    | none =>
      apply hprev.other
      simp [getPaymentStatus, hlook, ObservedEvent.reported]
    | some r =>
      have hget : getPaymentStatus s.intents paymentId now = .ok (reportedStatus r now) := by
        simp [getPaymentStatus, hlook]
      rw [hget]
      by_cases hid : paymentId = id
      · subst hid
        exact hprev.query hlook hnow
      · apply hprev.other
        simp [ObservedEvent.reported, hid]

end EscrowState

/-- Whoever asks for the status of a payment from time to time sees it take steps of the transition
table, never turn from open to the refund to claimable, and stand once it is settled. -/
theorem reports_lawful (c : Cdk) (mintUrl : String) (id : Uuid)
    (tr : List (Transition (EscrowState c) (ObservedEvent c))) (s : EscrowState c)
    (h : (observedSystem c mintUrl).Trace tr s) (ht : Timed ObservedEvent.clock tr)
    (honce : EscrowState.CreatedOnce id tr) :
    (EscrowState.reports id tr).Pairwise PaymentStatus.LawfullyBefore :=
  (EscrowState.reported_of_trace h ht honce).1.imp PaymentStatus.Precedes.lawful

/-- A run of the provider is one in which nobody asks. -/
theorem observed_of_escrow {c : Cdk} {mintUrl : String} {s : EscrowState c}
    {tr : List (Transition (EscrowState c) (EscrowEvent c))}
    (h : (escrowSystem c mintUrl).Trace tr s) :
    (observedSystem c mintUrl).Trace (tr.map fun x => ⟨x.pre, .provider x.label, x.post⟩) s := by
  obtain ⟨s₀, h₀, hr⟩ := h
  exact ⟨s₀, h₀,
    hr.lift (observedSystem c mintUrl) id .provider fun _ _ _ hl => .provider hl⟩

/-- Alice's payment to Bob, asked for before and at its locktime. -/
theorem reports_lawful_sample : ∃ tr s, (observedSystem sampleCdk "mint").Trace tr s ∧
    EscrowState.reports (.ofNat 1) tr = [.claimable, .refundAvailable] ∧
    (EscrowState.reports (.ofNat 1) tr).Pairwise PaymentStatus.LawfullyBefore := by
  obtain ⟨tr, htr, -, honce⟩ := trace_sampleTracked
  generalize hs : (⟨CashuProtectedPaymentProvider.track ∅ sampleTracked, [], sampleLockedLedger⟩ :
    EscrowState sampleCdk) = s at htr
  have query : ∀ now st, getPaymentStatus s.intents (.ofNat 1) now = .ok st →
      ObservedStep sampleCdk "mint" s (.status (.ofNat 1) now (.ok st)) s := by
    intro now st he
    rw [← he]
    exact .status
  have h₁ := query .epoch .claimable (by rw [← hs]; decide +kernel)
  have h₂ := query .nextDay .refundAvailable (by rw [← hs]; decide +kernel)
  have hrun := ((observed_of_escrow htr).snoc h₁).snoc h₂
  refine ⟨_, s, hrun, ?_, reports_lawful _ _ _ _ s hrun ?_ ?_⟩
  · simp [EscrowState.reports, labels, ObservedEvent.reported]
  · apply timed_of_readings [.epoch, .nextDay]
    · simp [readings, List.flatMap_map, ObservedEvent.clock]
    · decide
  · intro x hx l r receipt hl _
    simp only [List.append_assoc, List.mem_append, List.mem_map, List.cons_append,
      List.nil_append, List.mem_cons, List.not_mem_nil, or_false] at hx
    rcases hx with ⟨y, hy, rfl⟩ | rfl | rfl
    · rw [honce y hy l r receipt (ObservedEvent.provider.inj hl)]
      rfl
    · cases hl
    · cases hl

end Hanbova
