import Hanbova.Library.Transition
import Hanbova.Payments.Service

/-! Any number of concurrent payment calls over one repository. A step is one access to the
repository together with the computation up to the next one, so the runs are the interleavings of
the calls. -/
namespace Hanbova

open Library
open InMemoryPaymentIntentRepository (Storage)

/-- An update that has been authorised on a snapshot and has not yet been written. -/
structure PendingUpdate where
  request : UpdatePaymentStatusRequest
  snapshot : PaymentIntent
  deriving DecidableEq

structure PaymentState where
  storage : Storage
  creating : List PaymentIntent
  updating : List PendingUpdate

inductive PaymentEvent
  | createRefused (req : CreatePaymentIntentRequest) (fault : Fault)
  | createPrepared (req : CreatePaymentIntentRequest) (now now' : DateTime) (i : PaymentIntent)
  | createStored (i : PaymentIntent) (answer : PaymentIntentResponse)
  | updateRefused (req : UpdatePaymentStatusRequest) (e : ApiError)
  | updateAuthorised (u : PendingUpdate)
  | updateWritten (u : PendingUpdate) (now : DateTime)
      (answer : Except ApiError PaymentIntentResponse)

/-- The time at which a step is taken, where it reads the clock: its last reading. -/
def PaymentEvent.clock : PaymentEvent → List DateTime
  | .createPrepared _ _ now' _ => [now']
  | .updateWritten _ now _ => [now]
  | _ => []

namespace PaymentState

def initial : PaymentState := ⟨∅, [], []⟩

inductive Step : PaymentState → PaymentEvent → PaymentState → Prop
  | createRefused {s req id now now' fault} :
      PaymentService.createPaymentIntent req id now now' = .error fault →
      Step s (.createRefused req fault) s
  | createPrepared {s req id now now' i} :
      Table.Fresh PaymentIntent.id s.storage s.creating id →
      PaymentService.createPaymentIntent req id now now' = .ok i →
      Step s (.createPrepared req now now' i) { s with creating := i :: s.creating }
  | createStored {s i} :
      i ∈ s.creating →
      Step s (.createStored i (.ofIntent i))
        { s with
          storage := InMemoryPaymentIntentRepository.save s.storage i
          creating := s.creating.erase i }
  | updateRefused {s req e} :
      PaymentService.readAndAuthorise s.storage req = .error e →
      Step s (.updateRefused req e) s
  | updateAuthorised {s req i} :
      PaymentService.readAndAuthorise s.storage req = .ok i →
      Step s (.updateAuthorised ⟨req, i⟩) { s with updating := ⟨req, i⟩ :: s.updating }
  | updateWritten {s u now answer storage} :
      u ∈ s.updating →
      PaymentService.writeStatus s.storage u.request u.snapshot now = (answer, storage) →
      Step s (.updateWritten u now answer)
        { s with storage := storage, updating := s.updating.erase u }

end PaymentState

/-- Payment calls, by anyone and in any number, from an empty repository on. -/
def paymentSystem : System PaymentState PaymentEvent where
  init s := s = .initial
  step := PaymentState.Step

namespace PaymentState

/-- What every interleaving keeps: intents have identifiers of their own, and a snapshot shows
the terms of the stored intent. -/
structure Invariant (s : PaymentState) : Prop where
  inbound : Table.Inbound PaymentIntent.id s.storage s.creating
  creating_status : ∀ i ∈ s.creating, i.status = .created ∨ i.status = .pending
  snapshots : ∀ u ∈ s.updating, ∃ i, s.storage.lookup u.request.paymentId = some i ∧
    u.snapshot.SameTerms i ∧ PaymentService.Authorised u.snapshot u.request

/-- How one stored intent may differ from itself a step later. -/
def Reported (i j : PaymentIntent) : Prop :=
  i.SameTerms j ∧ (j = i ∨ (i.status ≠ j.status ∧ i.status.canTransitionTo j.status = true))

/-- How one stored intent may differ from itself later in the run. -/
def Later (i j : PaymentIntent) : Prop :=
  i.SameTerms j ∧ (i.status.isTerminal = true → j = i)

theorem Later.refl (i : PaymentIntent) : Later i i := ⟨.refl i, fun _ => rfl⟩

theorem Later.trans {i j k : PaymentIntent} (h : Later i j) (h' : Later j k) : Later i k := by
  refine ⟨h.1.trans h'.1, fun hi => ?_⟩
  obtain rfl := h.2 hi
  exact h'.2 hi

theorem Reported.later {i j : PaymentIntent} (h : Reported i j) : Later i j := by
  refine ⟨h.1, fun hi => ?_⟩
  rcases h.2 with rfl | ⟨hne, hc⟩
  · rfl
  · exact absurd (PaymentStatus.eq_of_isTerminal hi hc).symm hne

theorem reported_reported {i : PaymentIntent} {status : PaymentStatus} (now : DateTime)
    (h : i.status.canTransitionTo status = true) :
    Reported i (InMemoryPaymentIntentRepository.reported i status now) := by
  refine ⟨InMemoryPaymentIntentRepository.sameTerms_reported i status now, ?_⟩
  unfold InMemoryPaymentIntentRepository.reported
  split_ifs with he
  · exact .inl rfl
  · exact .inr ⟨he, h⟩

/-- What the writing step of an update does to the repository and answers. -/
theorem writeStatus_cases {m m' : Storage} {req : UpdatePaymentStatusRequest}
    {snapshot : PaymentIntent} {now : DateTime} {answer : Except ApiError PaymentIntentResponse}
    (h : PaymentService.writeStatus m req snapshot now = (answer, m')) :
    (∃ e, answer = .error e ∧ m' = m) ∨
    ∃ i j, m.lookup req.paymentId = some i ∧ i.status.canTransitionTo req.newStatus = true ∧
      j = InMemoryPaymentIntentRepository.reported i req.newStatus now ∧
      Table.SetAt m req.paymentId j m' ∧
      answer = .ok (.ofIntent { snapshot with status := j.status, updatedAt := j.updatedAt }) := by
  unfold PaymentService.writeStatus at h
  cases hu : InMemoryPaymentIntentRepository.updateStatus m req.paymentId req.newStatus now with
  | error e =>
    simp only [hu, Prod.mk.injEq] at h
    exact .inl ⟨e, h.1.symm, h.2.symm⟩
  | ok r =>
    obtain ⟨at_, m''⟩ := r
    simp only [hu, Prod.mk.injEq] at h
    obtain ⟨rfl, rfl⟩ := h
    obtain ⟨i, hl, hc, hm, rfl⟩ := InMemoryPaymentIntentRepository.updateStatus_ok hu
    exact .inr ⟨i, _, hl, hc, rfl, hm, by rw [InMemoryPaymentIntentRepository.status_reported]⟩

/-- What an allowed report leaves in the repository. -/
theorem Step.allowed {s t : PaymentState} {u : PendingUpdate} {now : DateTime}
    {answer : Except ApiError PaymentIntentResponse} (h : Step s (.updateWritten u now answer) t)
    {i : PaymentIntent} (hi : s.storage.lookup u.request.paymentId = some i)
    (hc : i.status.canTransitionTo u.request.newStatus = true) :
    t.storage.lookup u.request.paymentId =
      some (InMemoryPaymentIntentRepository.reported i u.request.newStatus now) := by
  cases h with
  | updateWritten _ hw =>
    obtain ⟨at_, m, hu, hm⟩ := InMemoryPaymentIntentRepository.updateStatus_of_allowed now hi hc
    simp only [PaymentService.writeStatus, hu, Prod.mk.injEq] at hw
    rw [← hw.2]
    exact hm.lookup_self

/-- An update without interruption is a run. -/
theorem run_updatePaymentStatus {s : PaymentState} {req : UpdatePaymentStatusRequest}
    {now : DateTime} {answer : Except ApiError PaymentIntentResponse}
    {storage : Storage}
    (h : PaymentService.updatePaymentStatus s.storage req now = (answer, storage)) :
    ∃ tr, paymentSystem.Run s tr { s with storage } := by
  unfold PaymentService.updatePaymentStatus at h
  cases hr : PaymentService.readAndAuthorise s.storage req with
  | error e =>
    simp only [hr, Prod.mk.injEq] at h
    obtain ⟨-, rfl⟩ := h
    exact ⟨_, .single (Step.updateRefused hr)⟩
  | ok snapshot =>
    simp only [hr] at h
    have h₁ := System.Run.single (T := paymentSystem) (Step.updateAuthorised hr)
    have h₂ := h₁.snoc (Step.updateWritten List.mem_cons_self h)
    simp only [List.erase_cons_head] at h₂
    exact ⟨_, h₂⟩

/-- No step loses an intent, and a step moves its status at most along one transition. -/
theorem Step.evolves {s t : PaymentState} {e : PaymentEvent} (h : Step s e t)
    (hs : s.Invariant) : Table.Evolves Reported s.storage t.storage := by
  have hrefl : ∀ i, Reported i i := fun i => ⟨.refl i, .inl rfl⟩
  cases h with
  | @createStored i hi =>
    have hm := InMemoryPaymentIntentRepository.setAt_save s.storage i
    exact .add hrefl hm (hs.inbound.new _ hi)
  | updateWritten _ hw =>
    rcases writeStatus_cases hw with ⟨_, -, rfl⟩ | ⟨i, _, hl, hc, rfl, hm, -⟩
    · exact .refl hrefl _
    · exact .set hrefl hm hl (reported_reported _ hc)
  | _ => exact .refl hrefl _

/-- A snapshot still shows the terms of its intent after a step. -/
theorem snapshots_of_evolves {m m' : Storage} (he : Table.Evolves Reported m m')
    {updating : List PendingUpdate}
    (h : ∀ u ∈ updating, ∃ i, m.lookup u.request.paymentId = some i ∧
      u.snapshot.SameTerms i ∧
      PaymentService.Authorised u.snapshot u.request) :
    ∀ u ∈ updating, ∃ i, m'.lookup u.request.paymentId = some i ∧ u.snapshot.SameTerms i ∧
      PaymentService.Authorised u.snapshot u.request := by
  intro u hu
  obtain ⟨i, hi, ht, ha⟩ := h u hu
  obtain ⟨j, hj, hij⟩ := he _ _ hi
  exact ⟨j, hj, ht.trans hij.1, ha⟩

theorem invariant_initial : Invariant .initial where
  inbound := Table.inbound_empty _
  creating_status := by simp [initial]
  snapshots := by simp [initial]

theorem Step.invariant {s t : PaymentState} {e : PaymentEvent} (h : Step s e t)
    (hs : s.Invariant) : t.Invariant := by
  have hsnap := snapshots_of_evolves (h.evolves hs) hs.snapshots
  cases h with
  | createRefused _ => exact hs
  | updateRefused _ => exact hs
  | @createPrepared req id now now' i hf hc =>
    obtain ⟨rfl, hst⟩ := PaymentService.createPaymentIntent_id hc
    refine ⟨hs.inbound.add hf, fun j hj => ?_, hsnap⟩
    rcases List.mem_cons.mp hj with rfl | hj
    · exact hst
    · exact hs.creating_status j hj
  | @createStored i hi =>
    exact ⟨hs.inbound.store hi (InMemoryPaymentIntentRepository.setAt_save _ _),
      fun j hj => hs.creating_status j (List.mem_of_mem_erase hj), hsnap⟩
  | @updateAuthorised req i ha =>
    obtain ⟨hl, hauth⟩ := PaymentService.readAndAuthorise_ok.mp ha
    refine ⟨hs.inbound, hs.creating_status, fun u hu => ?_⟩
    rcases List.mem_cons.mp hu with rfl | hu
    · exact ⟨i, hl, .refl i, hauth⟩
    · exact hs.snapshots u hu
  | @updateWritten u now answer storage hu hw =>
    refine ⟨?_, hs.creating_status, fun v hv => hsnap v (List.mem_of_mem_erase hv)⟩
    rcases writeStatus_cases hw with ⟨_, -, rfl⟩ | ⟨i, _, hl, -, rfl, hm, -⟩
    · exact hs.inbound
    · apply hs.inbound.set hl hm
      rw [(InMemoryPaymentIntentRepository.sameTerms_reported _ _ _).fields.1]
      exact hs.inbound.keyed _ _ hl

theorem invariant_of_reachable {s : PaymentState} (h : paymentSystem.Reachable s) : s.Invariant :=
  h.induct (fun _ hi => hi ▸ invariant_initial) fun _ _ _ _ hs hl => Step.invariant hl hs

/-- Along a run no intent is lost, its terms stand, and a terminal one stays as it is. -/
theorem later_of_run {s t : PaymentState} {tr : List (Transition PaymentState PaymentEvent)}
    (h : paymentSystem.Run s tr t) (hs : paymentSystem.Reachable s) :
    Table.Evolves Later s.storage t.storage := by
  refine h.relates (R := fun s t => Table.Evolves Later s.storage t.storage) hs
    (fun s => .refl Later.refl _) ?_ ?_
  · intro s t u h h'
    exact h.trans Later.trans h'
  intro s e t hr hl k i hi
  obtain ⟨j, hj, hij⟩ := Step.evolves hl (invariant_of_reachable hr) k i hi
  exact ⟨j, hj, hij.later⟩

/-- An answered update: the stored record before and after it, and the answer. -/
theorem Step.written {s t : PaymentState} {u : PendingUpdate} {now : DateTime}
    {a : PaymentIntentResponse} (h : Step s (.updateWritten u now (.ok a)) t) (hs : s.Invariant) :
    ∃ i j, s.storage.lookup u.request.paymentId = some i ∧
      i.status.canTransitionTo u.request.newStatus = true ∧ j.status = u.request.newStatus ∧
      i.SameTerms j ∧ Table.SetAt s.storage u.request.paymentId j t.storage ∧
      a = .ofIntent j ∧
      PaymentService.Authorised j u.request := by
  cases h with
  | updateWritten hu hw =>
    rcases writeStatus_cases hw with ⟨_, he, -⟩ | ⟨i, j, hl, hc, rfl, hm, ha⟩
    · cases he
    · obtain ⟨i', hl', hterms, hauth⟩ := hs.snapshots u hu
      obtain rfl := Option.some.inj (hl.symm.trans hl')
      have hij := InMemoryPaymentIntentRepository.sameTerms_reported i u.request.newStatus now
      refine ⟨i, _, hl, hc, by simp, hij, hm, ?_, hauth.congr (hterms.trans hij)⟩
      rw [Except.ok.inj ha, ← hterms.trans hij]

/-- Only a first save and an accepted report give an intent a status it did not have. -/
theorem Step.status_change {s t : PaymentState} {e : PaymentEvent} (h : Step s e t)
    (hs : s.Invariant) {id : Uuid} {j : PaymentIntent} (hj : t.storage.lookup id = some j)
    (hne : ∀ i, s.storage.lookup id = some i → i.status ≠ j.status) :
    (s.storage.lookup id = none ∧ (j.status = .created ∨ j.status = .pending)) ∨
    ∃ u now a i, e = .updateWritten u now (.ok a) ∧ u.request.paymentId = id ∧
      u.request.newStatus = j.status ∧ s.storage.lookup id = some i ∧
      PaymentService.Authorised j u.request := by
  have unchanged : t.storage = s.storage → False := fun he => hne j (he ▸ hj) rfl
  cases h with
  | @createStored i hi =>
    by_cases he : id = i.id
    · subst he
      have hm := InMemoryPaymentIntentRepository.setAt_save s.storage i
      obtain rfl := Option.some.inj (hm.lookup_self.symm.trans hj)
      exact .inl ⟨hs.inbound.new _ hi, hs.creating_status _ hi⟩
    · exact absurd rfl (hne j (((InMemoryPaymentIntentRepository.setAt_save _ _).lookup_ne
        he).symm.trans hj))
  | @updateWritten u now answer storage hu hw =>
    cases answer with
    | error e =>
      rcases writeStatus_cases hw with ⟨_, -, he⟩ | ⟨_, _, _, _, _, _, ha⟩
      · exact (unchanged he).elim
      · cases ha
    | ok a =>
      obtain ⟨i, j', hl, -, hst, -, hm, -, hauth⟩ := (Step.updateWritten hu hw).written hs
      by_cases he : id = u.request.paymentId
      · subst he
        obtain rfl := Option.some.inj (hm.lookup_self.symm.trans hj)
        exact .inr ⟨u, now, a, i, rfl, rfl, hst.symm, hl, hauth⟩
      · exact absurd rfl (hne j ((hm.lookup_ne he).symm.trans hj))
  | _ => exact (unchanged rfl).elim

/-- A report that gives an intent another status keeps its terms and follows the transition
table. -/
theorem Step.reported_change {s t : PaymentState} {e : PaymentEvent} (h : Step s e t)
    (hs : s.Invariant) {id : Uuid} {j : PaymentIntent} (hj : t.storage.lookup id = some j)
    (hne : ∀ i, s.storage.lookup id = some i → i.status ≠ j.status) :
    (j.status = .created ∨ j.status = .pending) ∨
    ∃ u now a i, e = .updateWritten u now (.ok a) ∧
      s.storage.lookup u.request.paymentId = some i ∧
      u.request.paymentId = id ∧ u.request.newStatus = j.status ∧ i.SameTerms j ∧
      i.status.canTransitionTo j.status = true := by
  rcases h.status_change hs hj hne with ⟨-, hnew⟩ | ⟨u, now, a, i, he, hid, hst, hi, -⟩
  · exact .inl hnew
  · obtain ⟨j', hj', hterms, hmoved⟩ := h.evolves hs id i hi
    obtain rfl := Option.some.inj (hj.symm.trans hj')
    have hc : i.status.canTransitionTo j.status = true := by
      rcases hmoved with heq | ⟨-, hc⟩
      · exact absurd (congrArg PaymentIntent.status heq).symm (hne i hi)
      · exact hc
    exact .inr ⟨u, now, a, i, he, hid.symm ▸ hi, hid, hst, hterms, hc⟩

end PaymentState

/-- Alice offers Bob 100 satoshis at once. -/
def sampleRequest : CreatePaymentIntentRequest where
  paymentType := .instant
  amountSats := 100
  recipientIdentifier := "bob"
  senderId := some "alice"
  description := none
  expiresInSeconds := none

def sampleIntent : PaymentIntent where
  id := .ofNat 1
  paymentType := .instant
  status := .pending
  amountSats := ⟨100⟩
  senderId := some "alice"
  recipientIdentifier := "bob"
  description := none
  expiresAt := none
  claimReference := none
  createdAt := .epoch
  updatedAt := .epoch

theorem createPaymentIntent_sample : PaymentService.createPaymentIntent sampleRequest (.ofNat 1)
    .epoch .epoch = .ok sampleIntent := by decide +kernel

def sampleReport (status : PaymentStatus) (actor : String) : PendingUpdate :=
  ⟨⟨.ofNat 1, status, actor, none⟩, sampleIntent⟩

end Hanbova
