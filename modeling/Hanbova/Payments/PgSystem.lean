import Hanbova.Payments.PgService

/-! Payment calls over PostgreSQL: whatever statements fail, they do what they do over the in-memory
repository. -/
namespace Hanbova

open Library Library.Text Library.System
open PgPaymentIntentRepository (Stores)

/-- An authorised update and the number of its transaction. -/
structure NumberedUpdate where
  update : PendingUpdate
  number : ℕ
  deriving DecidableEq

/-- The table with its transactions, the identifiers drawn so far, and the calls in flight. -/
structure PgPaymentCallState where
  table : PgPaymentState
  drawn : List Uuid
  creating : List PaymentIntent
  updating : List NumberedUpdate

/-- A part of a call is done, a transaction gets on, or a statement fails and ends its call. -/
inductive PgPaymentCallEvent
  | done (e : PaymentEvent)
  | advanced (t : StatusUpdate)
  | failed (e : SqlxError)

namespace PgPaymentCallState

def initial : PgPaymentCallState := ⟨.initial, [], [], []⟩

/-- Of the calls and the transactions in flight some have ended, and nothing else has happened. -/
structure Lost (s t : PgPaymentCallState) : Prop where
  rows : t.table.rows = s.table.rows
  begun : t.table.begun = s.table.begun
  updates : t.table.updates.Sublist s.table.updates
  drawn : t.drawn = s.drawn
  creating : t.creating.Sublist s.creating
  updating : t.updating.Sublist s.updating

/-- The steps of `PaymentState.Step` over the table. Any statement may fail at any time. -/
inductive Step (T : CaseTable) (P : Precision) :
    PgPaymentCallState → PgPaymentCallEvent → PgPaymentCallState → Prop
  | failed {s t} (e : SqlxError) : Lost s t → Step T P s (.failed e) t
  | createRefused {s req id now now' fault} :
      PaymentService.createPaymentIntent req id now now' = .error fault →
      Step T P s (.done (.createRefused req fault)) s
  | createPrepared {s req id now now' i} :
      id ∉ s.drawn → PaymentService.createPaymentIntent req id now now' = .ok i →
      Step T P s (.done (.createPrepared req now now' i))
        { s with creating := i :: s.creating, drawn := id :: s.drawn }
  | createStored {s i} :
      i ∈ s.creating →
      Step T P s (.done (.createStored i (.ofIntent i)))
        { s with
          table := { s.table with rows := PgPaymentIntentRepository.save P s.table.rows i }
          creating := s.creating.erase i }
  | updateRefused {s req e} :
      PgPaymentService.readAndAuthorise T s.table.rows req = .error e →
      Step T P s (.done (.updateRefused req e)) s
  | updateAuthorised {s req i table} :
      PgPaymentService.readAndAuthorise T s.table.rows req = .ok i →
      PgPaymentState.Step T P s.table
        (.began ⟨s.table.begun, req.paymentId, req.newStatus, .begun⟩) table →
      Step T P s (.done (.updateAuthorised ⟨req, i⟩))
        { s with table, updating := ⟨⟨req, i⟩, s.table.begun⟩ :: s.updating }
  | locked {s t table} :
      PgPaymentState.Step T P s.table (.locked t) table →
      Step T P s (.advanced t) { s with table }
  | written {s t table} :
      PgPaymentState.Step T P s.table (.written t) table →
      Step T P s (.advanced t) { s with table }
  | updateWritten {s u t now result table} :
      ⟨u, t.number⟩ ∈ s.updating → t.WroteAt now →
      PgPaymentState.Step T P s.table (.answered t result) table →
      Step T P s
        (.done (.updateWritten u now (result.map fun updatedAt =>
          .ofIntent { u.snapshot with status := u.request.newStatus, updatedAt })))
        { s with table, updating := s.updating.erase ⟨u, t.number⟩ }

end PgPaymentCallState

/-- How a call gets on shows, and nothing of how it does it. -/
def PgPaymentCallEvent.shown : PgPaymentCallEvent → Option PaymentEvent
  | .done e => some e
  | .advanced _ => none
  | .failed _ => none

namespace PgPaymentCallState
variable {T : CaseTable} {P : Precision} {s t : PgPaymentCallState} {e : PgPaymentCallEvent}

/-! ### Each transaction is that of its call -/

/-- The transactions that have begun are numbered, and those under the number of a call are about
what it asks for. -/
structure Owned (s : PgPaymentCallState) : Prop where
  begun : ∀ t ∈ s.table.updates, t.number < s.table.begun
  called : ∀ w ∈ s.updating, w.number < s.table.begun
  asked : ∀ w ∈ s.updating, ∀ t ∈ s.table.updates, t.number = w.number →
    t.id = w.update.request.paymentId ∧ t.status = w.update.request.newStatus

theorem owned_initial : Owned .initial where
  begun := by simp [initial, PgPaymentState.initial]
  called := by simp [initial]
  asked := by simp [initial]

theorem Owned.of_subset (h : s.Owned) (hbegun : t.table.begun = s.table.begun)
    (hupdates : ∀ v ∈ t.table.updates, ∃ u ∈ s.table.updates,
      u.number = v.number ∧ u.id = v.id ∧ u.status = v.status)
    (hupdating : t.updating ⊆ s.updating) : t.Owned where
  begun v hv := by
    obtain ⟨u, hu, hnumber, -⟩ := hupdates v hv
    rw [← hnumber, hbegun]
    exact h.begun u hu
  called w hw := hbegun ▸ h.called w (hupdating hw)
  asked w hw v hv hnumber := by
    obtain ⟨u, hu, hu', hid, hstatus⟩ := hupdates v hv
    rw [← hid, ← hstatus]
    exact h.asked w (hupdating hw) u hu (hu'.trans hnumber)

theorem Owned.lost (h : s.Owned) (hl : Lost s t) : t.Owned :=
  h.of_subset hl.begun (fun u hu => ⟨u, hl.updates.subset hu, rfl, rfl, rfl⟩) hl.updating.subset

theorem Step.owned (h : Step T P s e t) (hs : s.Owned) : t.Owned := by
  cases h with
  | failed e hl => exact hs.lost hl
  | createRefused _ => exact hs
  | createPrepared _ _ => exact ⟨hs.begun, hs.called, hs.asked⟩
  | createStored _ => exact ⟨hs.begun, hs.called, hs.asked⟩
  | updateRefused _ => exact hs
  | updateAuthorised _ hb =>
    cases hb with
    | began id status =>
      refine ⟨fun t ht => ?_, fun w hw => ?_, fun w hw t ht hnumber => ?_⟩
      · rcases List.mem_cons.mp ht with rfl | ht
        · exact Nat.lt_succ_self _
        · exact (hs.begun t ht).trans (Nat.lt_succ_self _)
      · rcases List.mem_cons.mp hw with rfl | hw
        · exact Nat.lt_succ_self _
        · exact (hs.called w hw).trans (Nat.lt_succ_self _)
      · rcases List.mem_cons.mp hw with rfl | hw
        · rcases List.mem_cons.mp ht with rfl | ht
          · exact ⟨rfl, rfl⟩
          · exact absurd hnumber (hs.begun t ht).ne
        · rcases List.mem_cons.mp ht with rfl | ht
          · exact absurd hnumber (hs.called w hw).ne'
          · exact hs.asked w hw t ht hnumber
  | locked hl =>
    cases hl with
    | locked ht _ _ _ =>
      refine hs.of_subset rfl (fun u hu => ?_) (List.Subset.refl _)
      rcases List.mem_cons.mp hu with rfl | hu
      · exact ⟨_, ht, rfl, rfl, rfl⟩
      · exact ⟨u, List.mem_of_mem_erase hu, rfl, rfl, rfl⟩
  | written hw =>
    cases hw with
    | written now ht _ _ _ _ =>
      refine hs.of_subset rfl (fun u hu => ?_) (List.Subset.refl _)
      rcases List.mem_cons.mp hu with rfl | hu
      · exact ⟨_, ht, rfl, rfl, rfl⟩
      · exact ⟨u, List.mem_of_mem_erase hu, rfl, rfl, rfl⟩
  | @updateWritten u t now result table _ _ ha =>
    have hclosed : table.begun = s.table.begun ∧ table.updates = s.table.updates.erase t := by
      cases ha <;> exact ⟨rfl, rfl⟩
    refine hs.of_subset hclosed.1 (fun v hv => ?_) (List.erase_subset)
    rw [hclosed.2] at hv
    exact ⟨v, List.mem_of_mem_erase hv, rfl, rfl, rfl⟩

/-! ### The simulation -/

/-- The table holds the intents of the map. Calls that a failure has ended are still in flight over
the map. -/
structure Refines (T : CaseTable) (P : Precision) (s : PgPaymentCallState) (s' : PaymentState) :
    Prop where
  rows : Stores P s.table.rows s'.storage
  table : s.table.Invariant T P
  owned : s.Owned
  drawn : Table.Drawn PaymentIntent.id s'.storage s'.creating s.drawn
  creating : s.creating.Subperm s'.creating
  updating : (s.updating.map NumberedUpdate.update).Subperm
    (s'.updating.map (PendingUpdate.rounded P))
  invariant : s'.Invariant

variable {s' : PaymentState}

theorem refines_initial : Refines T P .initial .initial where
  rows _ := rfl
  table := PgPaymentState.invariant_initial
  owned := owned_initial
  drawn _ _ := ⟨rfl, by simp [PaymentState.initial]⟩
  creating := List.Subperm.refl _
  updating := List.Subperm.refl _
  invariant := PaymentState.invariant_initial

theorem Refines.lost (h : Refines T P s s') (hl : Lost s t) : Refines T P t s' where
  rows := hl.rows ▸ h.rows
  table :=
    { valid := fun u hu => hl.rows ▸ h.table.valid u (hl.updates.subset hu)
      exclusive := h.table.exclusive.sublist ((hl.updates.filter _).map _) }
  owned := h.owned.lost hl
  drawn := hl.drawn ▸ h.drawn
  creating := hl.creating.subperm.trans h.creating
  updating := (hl.updating.map _).subperm.trans h.updating
  invariant := h.invariant

/-- The step of the in-memory repository that the step `e` comes down to. -/
def Matched (T : CaseTable) (P : Precision) (s' : PaymentState) (e : PgPaymentCallEvent)
    (t : PgPaymentCallState) : Prop :=
  (e.shown = none ∧ Refines T P t s') ∨
    ∃ l t', PaymentState.Step s' l t' ∧ e.shown = some (l.rounded P) ∧ Refines T P t t'

/-- A transaction that gets on by itself changes no row. -/
theorem Refines.advanced (h : Refines T P s s') {v : StatusUpdate} {pe : PgPaymentEvent}
    {table : PgPaymentState} (hstep : PgPaymentState.Step T P s.table pe table)
    (hrows : table.rows = s.table.rows) (howned : Owned { s with table }) :
    Matched T P s' (.advanced v) { s with table } :=
  .inl ⟨rfl, { h with
    rows := hrows ▸ h.rows
    table := hstep.invariant h.table
    owned := howned }⟩

theorem Refines.stored (h : Refines T P s s') {i : PaymentIntent} (hi : i ∈ s.creating) :
    Matched T P s' (.done (.createStored i (.ofIntent i)))
      { s with
        table := { s.table with rows := PgPaymentIntentRepository.save P s.table.rows i }
        creating := s.creating.erase i } := by
  have hi' := h.creating.subset hi
  have hnew : s.table.rows.lookup i.id = none := by
    rw [h.rows i.id, h.invariant.inbound.new i hi']
    rfl
  have hstep := PaymentState.Step.createStored hi'
  have hset := InMemoryPaymentIntentRepository.setAt_save s'.storage i
  refine .inr ⟨_, _, hstep, rfl, ?_, ?_, ?_, h.drawn.store hi' hset, ?_, h.updating,
    hstep.invariant h.invariant⟩
  · rw [PgPaymentIntentRepository.save_of_new hnew]
    exact h.rows.set (Table.setAt_insert _ _ _) hset
  · exact (PgPaymentState.Step.saved hnew).invariant h.table
  · exact ⟨h.owned.begun, h.owned.called, h.owned.asked⟩
  · exact h.creating.erase i

theorem Refines.refused (h : Refines T P s s') {req : UpdatePaymentStatusRequest} {e : ApiError}
    (ha : PgPaymentService.readAndAuthorise T s.table.rows req = .error e) :
    Matched T P s' (.done (.updateRefused req e)) s := by
  rw [PgPaymentService.readAndAuthorise_eq h.rows] at ha
  cases ha' : PaymentService.readAndAuthorise s'.storage req with
  | ok i => simp [ha', Except.map] at ha
  | error e' =>
    rw [ha'] at ha
    obtain rfl := Except.error.inj ha
    exact .inr ⟨_, s', .updateRefused ha', rfl, h⟩

theorem Refines.authorised (h : Refines T P s s') {req : UpdatePaymentStatusRequest}
    {i : PaymentIntent} {table : PgPaymentState}
    (ha : PgPaymentService.readAndAuthorise T s.table.rows req = .ok i)
    (hb : PgPaymentState.Step T P s.table
      (.began ⟨s.table.begun, req.paymentId, req.newStatus, .begun⟩) table)
    (howned : Owned { s with table, updating := ⟨⟨req, i⟩, s.table.begun⟩ :: s.updating }) :
    Matched T P s' (.done (.updateAuthorised ⟨req, i⟩))
      { s with table, updating := ⟨⟨req, i⟩, s.table.begun⟩ :: s.updating } := by
  rw [PgPaymentService.readAndAuthorise_eq h.rows] at ha
  cases ha' : PaymentService.readAndAuthorise s'.storage req with
  | error e => simp [ha', Except.map] at ha
  | ok j =>
    rw [ha'] at ha
    obtain rfl := Except.ok.inj ha
    have hstep := PaymentState.Step.updateAuthorised ha'
    have hrows : table.rows = s.table.rows := by cases hb; rfl
    exact .inr ⟨_, _, hstep, rfl, hrows ▸ h.rows, hb.invariant h.table, howned, h.drawn,
      h.creating, (List.subperm_cons _).mpr h.updating, hstep.invariant h.invariant⟩

/-- The transaction of a call is answered. -/
theorem Refines.answered (h : Refines T P s s') {u : PendingUpdate} {v : StatusUpdate}
    {now : DateTime} {result : Except ApiError DateTime} {table : PgPaymentState}
    (hu : ⟨u, v.number⟩ ∈ s.updating) (hnow : v.WroteAt now)
    (ha : PgPaymentState.Step T P s.table (.answered v result) table)
    (howned : Owned { s with table, updating := s.updating.erase ⟨u, v.number⟩ }) :
    Matched T P s'
      (.done (.updateWritten u now (result.map fun updatedAt =>
        .ofIntent { u.snapshot with status := u.request.newStatus, updatedAt })))
      { s with table, updating := s.updating.erase ⟨u, v.number⟩ } := by
  have hv : v ∈ s.table.updates := by cases ha <;> assumption
  obtain ⟨hid, hstatus⟩ := h.owned.asked _ hu v hv rfl
  obtain ⟨u', hu', rfl, hupdating⟩ := subperm_exists_erase h.updating hu
  have hanswers := ha.answers h.table h.rows hnow
  have hid' : v.id = u'.request.paymentId := hid
  have hstatus' : v.status = u'.request.newStatus := hstatus
  rw [hid', hstatus'] at hanswers
  rcases hanswers with ⟨e, rfl, hw, hrows⟩ | ⟨at_, m, rfl, hw, hrows⟩
  · have hstep : PaymentState.Step s' (.updateWritten u' now (.error e)) _ :=
      .updateWritten hu' (by rw [PaymentService.writeStatus, hw])
    exact .inr ⟨_, _, hstep, rfl, hrows, ha.invariant h.table, howned, h.drawn, h.creating,
      hupdating, hstep.invariant h.invariant⟩
  · have hstep : PaymentState.Step s' (.updateWritten u' now (.ok _)) _ :=
      .updateWritten hu' (by rw [PaymentService.writeStatus, hw])
    obtain ⟨i, hi, -, hset, -⟩ := InMemoryPaymentIntentRepository.updateStatus_ok hw
    refine .inr ⟨_, _, hstep, rfl, hrows, ha.invariant h.table, howned, h.drawn.congr ?_,
      h.creating, hupdating, hstep.invariant h.invariant⟩
    intro k hk
    rw [hset.lookup_ne, hk]
    rintro rfl
    cases hi.symm.trans hk

theorem Step.matched (h : Step T P s e t) (hs : Refines T P s s') : Matched T P s' e t := by
  have howned := h.owned hs.owned
  cases h with
  | failed e hl => exact .inl ⟨rfl, hs.lost hl⟩
  | createRefused hc => exact .inr ⟨_, s', .createRefused hc, rfl, hs⟩
  | @createPrepared req id now now' i hid hc =>
    have hstep := PaymentState.Step.createPrepared (s := s') (hs.drawn id hid) hc
    have hdrawn := hs.drawn.cons i
    rw [(PaymentService.createPaymentIntent_id hc).1] at hdrawn
    exact .inr ⟨_, _, hstep, rfl, hs.rows, hs.table, howned, hdrawn,
      (List.subperm_cons _).mpr hs.creating,
      hs.updating, hstep.invariant hs.invariant⟩
  | createStored hi => exact hs.stored hi
  | updateRefused ha => exact hs.refused ha
  | updateAuthorised ha hb => exact hs.authorised ha hb howned
  | locked hl => exact hs.advanced hl (by cases hl; rfl) howned
  | written hw => exact hs.advanced hw (by cases hw; rfl) howned
  | updateWritten hu hnow ha => exact hs.answered hu hnow ha howned

end PgPaymentCallState
end Hanbova
