import Hanbova.Library.Simulation
import Hanbova.Payments.LockOrder

/-! The transactions of the PostgreSQL repository do what the critical sections of the in-memory
repository do. -/
namespace Hanbova

open Library Library.Text
open InMemoryPaymentIntentRepository (Storage)
open PgPaymentIntentRepository (Rows encode checkTransition)

/-- A call of a payment-intent repository, with its result. -/
inductive PaymentCall
  | saved (intent : PaymentIntent)
  | found (id : Uuid) (result : Except ApiError (Option PaymentIntent))
  | updated (id : Uuid) (status : PaymentStatus) (result : Except ApiError DateTime)

namespace PaymentCall

/-- The record that the call is about. -/
def id : PaymentCall → Uuid
  | saved intent => intent.id
  | found id _ => id
  | updated id _ _ => id

/-- The call with a result of the database's precision. -/
def rounded (P : Precision) : PaymentCall → PaymentCall
  | saved intent => saved intent
  | found id result => found id (result.map (Option.map (PaymentIntent.rounded P)))
  | updated id status result => updated id status (result.map P.updatedAt)

/-- A critical section of the in-memory repository. Intents are saved under fresh identifiers. -/
inductive Step : Storage → PaymentCall → Storage → Prop
  | saved {m i} : m.lookup i.id = none →
      Step m (.saved i) (InMemoryPaymentIntentRepository.save m i)
  | found {m} (id : Uuid) :
      Step m (.found id (.ok (InMemoryPaymentIntentRepository.findById m id))) m
  | updated {m m' id status at_} (now : DateTime) :
      InMemoryPaymentIntentRepository.updateStatus m id status now = .ok (at_, m') →
      Step m (.updated id status (.ok at_)) m'
  | refused {m id status e} (now : DateTime) :
      InMemoryPaymentIntentRepository.updateStatus m id status now = .error e →
      Step m (.updated id status (.error e)) m

end PaymentCall

/-- The write-locked map. -/
def paymentMapSystem : System Storage PaymentCall where
  init m := m = ∅
  step := PaymentCall.Step

/-- What the caller of a statement or of a transaction sees. -/
def PgPaymentEvent.call : PgPaymentEvent → Option PaymentCall
  | .saved intent => some (.saved intent)
  | .found id result => some (.found id result)
  | .answered t result => some (.updated t.id t.status result)
  | _ => none

/-! ### The simulation -/

namespace PgPaymentIntentRepository
variable {T : CaseTable} {P : Precision} {rows : Rows} {m : Storage} {i : PaymentIntent}

/-- The rows are the intents of the map, as the columns take them. -/
def Stores (P : Precision) (rows : Rows) (m : Storage) : Prop :=
  ∀ id, rows.lookup id = (m.lookup id).map (encode P)

theorem Stores.none (h : Stores P rows m) {id : Uuid} (hl : rows.lookup id = none) :
    m.lookup id = none := by
  rw [h id] at hl
  exact Option.map_eq_none_iff.mp hl

theorem Stores.some (h : Stores P rows m) {id : Uuid} {row : PaymentIntentRow}
    (hl : rows.lookup id = some row) : ∃ i, m.lookup id = some i ∧ row = encode P i := by
  rw [h id] at hl
  obtain ⟨i, hi, rfl⟩ := Option.map_eq_some_iff.mp hl
  exact ⟨i, hi, rfl⟩

theorem Stores.set (h : Stores P rows m) {id : Uuid} {rows' : Rows} {m' : Storage}
    (hr : Table.SetAt rows id (encode P i) rows') (hm : Table.SetAt m id i m') :
    Stores P rows' m' := by
  intro k
  rw [hr k, hm k]
  split_ifs
  · rfl
  · exact h k

theorem stores_empty : Stores P ∅ ∅ := fun _ => rfl

theorem Stores.insert (h : Stores P rows m) (i : PaymentIntent) :
    Stores P (rows.insert i.id (encode P i)) (m.insert i.id i) :=
  h.set (Table.setAt_insert _ _ _) (Table.setAt_insert _ _ _)

/-- A lookup reads back the intent of the map. -/
def ReadsAs (T : CaseTable) (P : Precision) (rows : Rows) (m : Storage) : Prop :=
  ∀ id, findById T rows id =
    .ok ((InMemoryPaymentIntentRepository.findById m id).map (PaymentIntent.rounded P))

theorem Stores.readsAs (h : Stores P rows m) : ReadsAs T P rows m := by
  intro id
  unfold PgPaymentIntentRepository.findById InMemoryPaymentIntentRepository.findById
  rw [h id]
  cases m.lookup id with
  | none => rfl
  | some i =>
    simp only [Option.map_some, decode_encode]
    rfl

theorem checkTransition_ok {status current : PaymentStatus}
    (h : checkTransition T (encode P i).status status = .ok current) :
    current = i.status ∧ i.status.transitionTo status = .ok status := by
  rw [show (encode P i).status = i.status.toString from rfl, checkTransition_toString] at h
  cases ht : i.status.transitionTo status with
  | error e => simp [ht] at h
  | ok u =>
    simp only [ht, Except.ok.injEq] at h
    exact ⟨h.symm, congrArg Except.ok (PaymentStatus.transitionTo_ok.mp ht).2⟩

theorem checkTransition_error {status : PaymentStatus} {e : ApiError}
    (h : checkTransition T (encode P i).status status = .error e) :
    ∃ c, i.status.transitionTo status = .error c ∧ e = .core c := by
  rw [show (encode P i).status = i.status.toString from rfl, checkTransition_toString] at h
  cases ht : i.status.transitionTo status with
  | error c =>
    simp only [ht, Except.error.injEq] at h
    exact ⟨c, rfl, h.symm⟩
  | ok u => simp [ht] at h

end PgPaymentIntentRepository

namespace PgPaymentState
variable {T : CaseTable} {P : Precision} {s s' : PgPaymentState} {e : PgPaymentEvent}
variable {m : Storage}

open PgPaymentIntentRepository
open InMemoryPaymentIntentRepository (updateStatus_of_none updateStatus_of_error
  updateStatus_of_repeated updateStatus_of_moved)

/-- What a step answers is what the critical section answers, executed at that step. -/
theorem Step.refines (h : Step T P s e s') (hs : s.Invariant T P) (hm : Stores P s.rows m) :
    (e.call = none ∧ Stores P s'.rows m) ∨
      ∃ c m', PaymentCall.Step m c m' ∧ e.call = some (c.rounded P) ∧
        Stores P s'.rows m' := by
  cases h with
  | @saved i hnew =>
    right
    refine ⟨.saved i, _, .saved (hm.none hnew), rfl, ?_⟩
    rw [save_of_new hnew]
    exact hm.set (Table.setAt_insert _ _ _) (Table.setAt_insert _ _ _)
  | found id =>
    right
    refine ⟨.found id _, m, .found id, ?_, hm⟩
    rw [hm.readsAs id]
    rfl
  | began | locked | written | rolledBack => exact .inl ⟨rfl, hm⟩
  | @notFound t ht hp hl =>
    right
    exact ⟨.updated t.id t.status (.error _), m,
      .refused .epoch (updateStatus_of_none t.status .epoch (hm.none hl)), rfl, hm⟩
  | @refused t stored updatedAt e ht hp hc =>
    right
    have hv := hs.valid t ht
    simp only [StatusUpdate.Valid, hp] at hv
    obtain ⟨row, hl, rfl, -⟩ := hv
    obtain ⟨i, hi, rfl⟩ := hm.some hl
    obtain ⟨c, htrans, rfl⟩ := checkTransition_error hc
    exact ⟨.updated t.id t.status (.error _), m,
      .refused .epoch (updateStatus_of_error .epoch hi htrans), rfl, hm⟩
  | @repeated t stored updatedAt current ht hp hc he =>
    right
    have hv := hs.valid t ht
    simp only [StatusUpdate.Valid, hp] at hv
    obtain ⟨row, hl, rfl, rfl⟩ := hv
    obtain ⟨i, hi, rfl⟩ := hm.some hl
    obtain ⟨rfl, htrans⟩ := checkTransition_ok hc
    exact ⟨.updated t.id t.status (.ok i.updatedAt), m,
      .updated .epoch (updateStatus_of_repeated .epoch hi htrans he), rfl, hm⟩
  | @missing t stored updatedAt current ht hp hc hne hl =>
    -- the lock keeps the row where it is
    obtain ⟨row, hrow⟩ := (hs.valid t ht).row (holds_of_locked hp)
    rw [hl] at hrow
    cases hrow
  | @committed t row now ht hp =>
    right
    have hv := hs.valid t ht
    simp only [StatusUpdate.Valid, hp] at hv
    obtain ⟨row₀, current, hl, hc, hne, rfl⟩ := hv
    obtain ⟨i, hi, rfl⟩ := hm.some hl
    obtain ⟨rfl, htrans⟩ := checkTransition_ok hc
    have hrow : Table.SetAt s.rows t.id (encode P { i with status := t.status, updatedAt := now })
        (s.rows.insert t.id (reported P (encode P i) t.status now)) := by
      rw [reported_encode]
      exact Table.setAt_insert _ _ _
    exact ⟨.updated t.id t.status (.ok now), _,
      .updated now (updateStatus_of_moved now hi htrans hne), rfl,
      hm.set hrow (Table.setAt_insert _ _ _)⟩

/-- The rows and the transactions simulate the write-locked map. -/
theorem map_simulation (T : CaseTable) (P : Precision) :
    System.Simulation (pgPaymentSystem T P) paymentMapSystem PgPaymentEvent.call
      (PaymentCall.rounded P) (fun s m => Stores P s.rows m) where
  init s h := by
    subst h
    exact ⟨∅, rfl, fun _ => rfl⟩
  step _ _ _ _ hs hl hm := hl.refines (invariant_of_reachable hs) hm

end PgPaymentState

end Hanbova
