import Hanbova.Library.Rowwise
import Hanbova.Payments.Refinement

/-! Critical sections of the in-memory repository on different records can change places. -/
namespace Hanbova

open Library
open InMemoryPaymentIntentRepository (Storage)

namespace PaymentCall
variable {m m' n : Storage} {c : PaymentCall} {cs : List PaymentCall}

/-- The records of a map, by their identifiers. -/
def contents (m : Storage) : Uuid → Option PaymentIntent := fun id => m.lookup id

theorem contents_of_setAt {id : Uuid} {i : PaymentIntent} (h : Table.SetAt m id i m') :
    contents m' = Function.update (contents m) id (some i) := by
  funext k
  rw [contents, h k]
  split_ifs with hk
  · rw [hk, Function.update_self]
  · rw [Function.update_of_ne hk]
    rfl

/-- What a critical section does to the record it is about. -/
def Act (x : Option PaymentIntent) (c : PaymentCall) (z : Option PaymentIntent) : Prop :=
  ∃ m m', Step m c m' ∧ m.lookup c.id = x ∧ m'.lookup c.id = z

theorem updateStatus_congr (id : Uuid) (status : PaymentStatus) (now : DateTime)
    (hn : n.lookup id = m.lookup id) :
    (InMemoryPaymentIntentRepository.updateStatus n id status now).map Prod.fst =
      (InMemoryPaymentIntentRepository.updateStatus m id status now).map Prod.fst := by
  unfold InMemoryPaymentIntentRepository.updateStatus
  rw [hn]
  cases m.lookup id with
  | none => rfl
  | some i =>
    cases ht : i.status.transitionTo status with
    | error e => simp only [ht]
    | ok u =>
      simp only [ht]
      split_ifs <;> rfl

theorem Step.contents (h : Step m c m') :
    PaymentCall.contents m' = Function.update (PaymentCall.contents m) c.id (m'.lookup c.id) := by
  cases h with
  | @saved i hnew =>
    have hm := InMemoryPaymentIntentRepository.setAt_save m i
    have hi := hm.lookup_self
    rw [contents_of_setAt hm, ← hi]
    rfl
  | found id => exact (Function.update_eq_self _ _).symm
  | refused now h => exact (Function.update_eq_self _ _).symm
  | updated now h =>
    obtain ⟨i, -, -, hm, -⟩ := InMemoryPaymentIntentRepository.updateStatus_ok h
    have hi := hm.lookup_self
    rw [contents_of_setAt hm, ← hi]
    rfl

theorem Step.elsewhere (h : Step m c m') (hn : n.lookup c.id = m.lookup c.id) :
    ∃ n', Step n c n' ∧ n'.lookup c.id = m'.lookup c.id := by
  cases h with
  | @saved i hnew =>
    refine ⟨_, .saved (hn.trans hnew), ?_⟩
    have hm := InMemoryPaymentIntentRepository.setAt_save m i
    have hm' := InMemoryPaymentIntentRepository.setAt_save n i
    exact hm'.lookup_self.trans hm.lookup_self.symm
  | found id =>
    have hn' : n.lookup id = m.lookup id := hn
    refine ⟨n, ?_, hn⟩
    rw [InMemoryPaymentIntentRepository.findById, ← hn']
    exact .found id
  | @refused id status e now h =>
    have hc := updateStatus_congr id status now hn
    rw [h] at hc
    refine ⟨n, .refused now ?_, hn⟩
    cases hu : InMemoryPaymentIntentRepository.updateStatus n id status now with
    | error e' => simpa [hu, Except.map] using hc
    | ok x => simp [hu, Except.map] at hc
  | @updated _ id status at_ now h =>
    have hc := updateStatus_congr id status now hn
    rw [h] at hc
    cases hu : InMemoryPaymentIntentRepository.updateStatus n id status now with
    | error e' => simp [hu, Except.map] at hc
    | ok x =>
      obtain ⟨at', n'⟩ := x
      obtain rfl : at' = at_ := by simpa [hu, Except.map] using hc
      refine ⟨n', .updated now hu, ?_⟩
      obtain ⟨i, hi, -, hm, -⟩ := InMemoryPaymentIntentRepository.updateStatus_ok h
      obtain ⟨j, hj, -, hm', -⟩ := InMemoryPaymentIntentRepository.updateStatus_ok hu
      obtain rfl : i = j := Option.some.inj (hi.symm.trans (hn.symm.trans hj))
      exact hm'.lookup_self.trans hm.lookup_self.symm

theorem acts_of_run {tr : List (Transition Storage PaymentCall)}
    (h : paymentMapSystem.Run m tr m') :
    Acts PaymentCall.id Act (PaymentCall.contents m) (System.labels tr)
      (PaymentCall.contents m') := by
  induction h with
  | nil => exact .nil
  | @snoc tr n m' c hr hl ih =>
    rw [System.labels_append, Step.contents hl]
    exact ih.snoc ⟨n, m', hl, rfl, rfl⟩

theorem run_of_acts {g : Uuid → Option PaymentIntent}
    (h : Acts PaymentCall.id Act (PaymentCall.contents m) cs g) :
    ∃ tr m', paymentMapSystem.Run m tr m' ∧ System.labels tr = cs ∧
      PaymentCall.contents m' = g := by
  induction h with
  | nil => exact ⟨[], m, .nil, rfl, rfl⟩
  | @snoc cs g c z _ ha ih =>
    obtain ⟨tr, n, hr, hlabels, hn⟩ := ih
    obtain ⟨m₁, m₂, hstep, hpre, hpost⟩ := ha
    have hlookup : n.lookup c.id = m₁.lookup c.id := by
      rw [hpre, ← hn]
      rfl
    obtain ⟨n', hl, hn'⟩ := hstep.elsewhere hlookup
    refine ⟨_, n', hr.snoc hl, ?_, ?_⟩
    · rw [System.labels_append, hlabels]
      rfl
    · rw [hl.contents, hn, hn', hpost]

/-- Calls may change places as long as those on each record keep their order. -/
theorem exists_reordered {tr : List (Transition Storage PaymentCall)}
    (h : paymentMapSystem.Trace tr m) (cs : List PaymentCall)
    (hcs : ∀ id, (cs.filter fun c => c.id = id) =
      (System.labels tr).filter fun c => c.id = id) :
    ∃ tr' m', paymentMapSystem.Trace tr' m' ∧ System.labels tr' = cs ∧
      ∀ id, m'.lookup id = m.lookup id := by
  obtain ⟨m₀, h₀, hr⟩ := h
  obtain ⟨tr', m', hr', hlabels, hm'⟩ := run_of_acts ((acts_of_run hr).reorder hcs)
  exact ⟨tr', m', ⟨m₀, h₀, hr'⟩, hlabels, fun id => congrFun hm' id⟩

end PaymentCall

end Hanbova
