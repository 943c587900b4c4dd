import Hanbova.Api.Error
import Hanbova.Core.PaymentIntent
import Hanbova.Library.Table

/-! The in-memory payment-intent repository: `payment_intent_repo.rs`. Each operation is one
critical section under the lock of the map. -/
namespace Hanbova

open Library

namespace InMemoryPaymentIntentRepository

abbrev Storage := Table Uuid PaymentIntent

def save (storage : Storage) (intent : PaymentIntent) : Storage := storage.insert intent.id intent

def findById (storage : Storage) (id : Uuid) : Option PaymentIntent := storage.lookup id

/-- Validates and persists a transition; `now` is the clock as read under the lock. -/
def updateStatus (storage : Storage) (id : Uuid) (status : PaymentStatus) (now : DateTime) :
    Except ApiError (DateTime × Storage) :=
  match storage.lookup id with
  | none => .error (.notFound s!"Payment intent {id} not found")
  | some intent =>
    match intent.status.transitionTo status with
    | .error e => .error (.core e)
    | .ok _ =>
      if intent.status ≠ status then
        .ok (now, storage.insert id { intent with status, updatedAt := now })
      else .ok (intent.updatedAt, storage)

/-- The record an accepted report of `status` leaves behind. -/
def reported (i : PaymentIntent) (status : PaymentStatus) (now : DateTime) : PaymentIntent :=
  if i.status = status then i else { i with status, updatedAt := now }

theorem sameTerms_reported (i : PaymentIntent) (status : PaymentStatus) (now : DateTime) :
    i.SameTerms (reported i status now) := by
  unfold reported
  split_ifs
  · exact .refl i
  · exact i.sameTerms_report status now

@[simp] theorem status_reported (i : PaymentIntent) (status : PaymentStatus) (now : DateTime) :
    (reported i status now).status = status := by
  unfold reported
  split_ifs with h
  · exact h
  · rfl

theorem setAt_save (m : Storage) (i : PaymentIntent) : Table.SetAt m i.id i (save m i) :=
  Table.setAt_insert m i.id i

/-- Everything a successful `updateStatus` does. -/
theorem updateStatus_ok {m m' : Storage} {id : Uuid} {status : PaymentStatus} {now at_ : DateTime}
    (h : updateStatus m id status now = .ok (at_, m')) :
    ∃ i, m.lookup id = some i ∧ i.status.canTransitionTo status = true ∧
      Table.SetAt m id (reported i status now) m' ∧ at_ = (reported i status now).updatedAt := by
  unfold updateStatus at h
  cases hl : m.lookup id with
  | none => simp [hl] at h
  | some i =>
    cases ht : i.status.transitionTo status with
    | error e => simp [hl, ht] at h
    | ok u =>
      have hc := (PaymentStatus.transitionTo_ok.mp ht).1
      simp only [hl, ht] at h
      refine ⟨i, rfl, hc, ?_⟩
      split_ifs at h with he
      · obtain ⟨rfl, rfl⟩ := Prod.mk.inj (Except.ok.inj h)
        rw [reported, if_neg he]
        exact ⟨Table.setAt_insert _ _ _, rfl⟩
      · obtain ⟨rfl, rfl⟩ := Prod.mk.inj (Except.ok.inj h)
        rw [reported, if_pos (not_not.mp he)]
        exact ⟨Table.setAt_self hl, rfl⟩

section
variable {m : Storage} {id : Uuid} {i : PaymentIntent} {status : PaymentStatus}

theorem updateStatus_of_none (status : PaymentStatus) (now : DateTime) (hl : m.lookup id = none) :
    updateStatus m id status now = .error (.notFound s!"Payment intent {id} not found") := by
  simp only [updateStatus, hl]

theorem updateStatus_of_error {e : CoreError} (now : DateTime) (hl : m.lookup id = some i)
    (ht : i.status.transitionTo status = .error e) :
    updateStatus m id status now = .error (.core e) := by
  simp only [updateStatus, hl, ht]

/-- A repeated report changes nothing. -/
theorem updateStatus_of_repeated (now : DateTime) (hl : m.lookup id = some i)
    (ht : i.status.transitionTo status = .ok status) (he : i.status = status) :
    updateStatus m id status now = .ok (i.updatedAt, m) := by
  simp only [updateStatus, hl, ht]
  rw [if_neg (not_not.mpr he)]

theorem updateStatus_of_moved (now : DateTime) (hl : m.lookup id = some i)
    (ht : i.status.transitionTo status = .ok status) (hne : i.status ≠ status) :
    updateStatus m id status now =
      .ok (now, m.insert id { i with status, updatedAt := now }) := by
  simp only [updateStatus, hl, ht]
  rw [if_pos hne]

/-- A report that the transition table allows is written. -/
theorem updateStatus_of_allowed (now : DateTime) (hl : m.lookup id = some i)
    (hc : i.status.canTransitionTo status = true) :
    ∃ at_ m', updateStatus m id status now = .ok (at_, m') ∧
      Table.SetAt m id (reported i status now) m' := by
  have ht : i.status.transitionTo status = .ok status :=
    PaymentStatus.transitionTo_ok.mpr ⟨hc, rfl⟩
  unfold reported
  by_cases he : i.status = status
  · rw [if_pos he]
    exact ⟨_, _, updateStatus_of_repeated now hl ht he, Table.setAt_self hl⟩
  · rw [if_neg he]
    exact ⟨_, _, updateStatus_of_moved now hl ht he, Table.setAt_insert _ _ _⟩

end

end InMemoryPaymentIntentRepository
end Hanbova
