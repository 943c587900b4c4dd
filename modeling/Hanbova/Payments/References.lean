import Hanbova.Payments.Views
import Hanbova.Payments.WellFormed

/-! Whether a reference to a payment names one payment, and which. -/
namespace Hanbova

open Library
open InMemoryPaymentIntentRepository (Storage matchesReference findByReference)

/-- Each reference matches one payment at most, so that the order of the search does not matter,
and each payment is found by its own references. -/
structure ReferencesResolve (storage : Storage) : Prop where
  unique : ∀ reference, ∀ i ∈ storage.values, ∀ j ∈ storage.values,
    matchesReference reference i = true → matchesReference reference j = true → i = j
  stable : ∀ reference order order', storage.Visits order → storage.Visits order' →
    findByReference storage order reference = findByReference storage order' reference
  own : ∀ i ∈ storage.values, ∀ order, storage.Visits order →
    (∀ c, i.claimReference = some c → findByReference storage order c = some i) ∧
      findByReference storage order i.id.toString = some i ∧
      findByReference storage order i.id.simple = some i

/-- The claim reference, if there is one, is the one that creation has made. -/
def PaymentIntent.OwnReference (i : PaymentIntent) : Prop :=
  ∀ c, i.claimReference = some c → c = "hnbv_claim_" ++ i.id.simple

namespace InMemoryPaymentIntentRepository
variable {storage : Storage} {reference : String} {i j : PaymentIntent}

theorem matchesReference_iff : matchesReference reference i = true ↔
    i.claimReference = some reference ∨ i.id.toString = reference ∨
    i.id.simple = reference := by
  simp only [matchesReference, Bool.or_eq_true, beq_iff_eq, or_assoc]

/-- Each of the three forms ends with the digits of the identifier. -/
theorem trailing_of_matches (hi : i.OwnReference) (h : matchesReference reference i = true) :
    Uuid.trailing reference = i.id.simpleChars := by
  rcases matchesReference_iff.mp h with h | h | h
  · rw [hi reference h, Uuid.trailing_append_simple]
  · rw [← h, Uuid.trailing_toString]
  · have hempty : reference = "" ++ i.id.simple := by rw [h, String.empty_append]
    rw [hempty, Uuid.trailing_append_simple]

theorem id_eq_of_matches (hi : i.OwnReference) (hj : j.OwnReference)
    (hmi : matchesReference reference i = true) (hmj : matchesReference reference j = true) :
    i.id = j.id := by
  apply Uuid.simpleChars_injective
  rw [← trailing_of_matches hi hmi, ← trailing_of_matches hj hmj]

theorem referencesResolve (hk : Table.Keyed PaymentIntent.id storage)
    (ho : ∀ i ∈ storage.values, i.OwnReference) : ReferencesResolve storage := by
  have unique : ∀ reference, ∀ i ∈ storage.values, ∀ j ∈ storage.values,
      matchesReference reference i = true → matchesReference reference j = true → i = j :=
    fun reference i hi j hj hmi hmj =>
      hk.injOn hi hj (id_eq_of_matches (ho i hi) (ho j hj) hmi hmj)
  have found : ∀ i ∈ storage.values, ∀ order, storage.Visits order → ∀ reference,
      matchesReference reference i = true → findByReference storage order reference = some i := by
    intro i hi order horder reference hm
    exact find?_eq_some_of_unique (horder.mem_listed.mpr hi) hm
      fun j hj hmj => unique reference j (horder.mem_listed.mp hj) i hi hmj hm
  refine ⟨unique, ?_, ?_⟩
  · intro reference order order' horder horder'
    apply find?_eq_of_perm (horder.perm_values.trans horder'.perm_values.symm)
    intro i hi j hj
    exact unique reference i (horder'.mem_listed.mp hi) j (horder'.mem_listed.mp hj)
  · intro i hi order horder
    refine ⟨fun c hc => ?_, ?_, ?_⟩
    · exact found i hi order horder c (matchesReference_iff.mpr (.inl hc))
    · exact found i hi order horder _ (matchesReference_iff.mpr (.inr (.inl rfl)))
    · exact found i hi order horder _ (matchesReference_iff.mpr (.inr (.inr rfl)))

end InMemoryPaymentIntentRepository

namespace PaymentState
variable {s : PaymentState}

theorem ownReference_of_reachable (h : paymentSystem.Reachable s) :
    ∀ i ∈ s.storage.values, i.OwnReference := by
  intro i hi c hc
  obtain ⟨id, hl⟩ := Table.mem_values.mp hi
  have hw := wellFormed_of_reachable h hl
  cases ht : i.paymentType with
  | «protected» =>
    rw [hw.protected_claim ht] at hc
    exact (Option.some.inj hc).symm
  | instant =>
    rw [hw.instant_claim ht] at hc
    cases hc

theorem references_resolve (h : paymentSystem.Reachable s) : ReferencesResolve s.storage :=
  InMemoryPaymentIntentRepository.referencesResolve (invariant_of_reachable h).inbound.keyed
    (ownReference_of_reachable h)

/-- Two offers are stored, and each is found by its own reference. -/
theorem references_resolve_sample : paymentSystem.Reachable sampleStoredTwice ∧
    ReferencesResolve sampleStoredTwice.storage ∧
    findByReference sampleStoredTwice.storage [.ofNat 2, .ofNat 1]
      "hnbv_claim_00000000000000000000000000000001" = some sampleProtected ∧
    findByReference sampleStoredTwice.storage [.ofNat 2, .ofNat 1]
      "00000000-0000-0000-0000-000000000002" = some sampleSecondOffer :=
  ⟨reachable_sampleStoredTwice, references_resolve reachable_sampleStoredTwice, by decide +kernel,
    by decide +kernel⟩

end PaymentState
end Hanbova
