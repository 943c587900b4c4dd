import Hanbova.Payments.PgListing
import Hanbova.Payments.References
import Mathlib.Data.List.Find

/-! References to payments in PostgreSQL and in memory. -/
namespace Hanbova

open Library Library.Text
open InMemoryPaymentIntentRepository (Storage matchesReference matchesReference_iff)

namespace PgPaymentIntentRepository

/-- The `WHERE` clause of `find_by_reference`. A UUID as a text is in its hyphenated form. -/
def matchesRow (reference : String) (row : PaymentIntentRow) : Bool :=
  row.claimReference == some reference || row.id.toString == reference

/-- `find_by_reference` takes the first row of the scan that matches. -/
def findByReference (T : CaseTable) (rows : Rows) (order : List Uuid) (reference : String) :
    Except ApiError (Option PaymentIntent) :=
  match (rows.listed order).find? (matchesRow reference) with
  | some row => (decode T row).map some
  | none => .ok none

variable {T : CaseTable} {P : Precision} {rows : Rows} {m : Storage} {order order' : List Uuid}
  {reference : String} {i : PaymentIntent}

theorem matchesRow_encode : matchesRow reference (encode P i) = true ↔
    i.claimReference = some reference ∨ i.id.toString = reference := by
  simp only [matchesRow, encode, Bool.or_eq_true, beq_iff_eq]

theorem findByReference_eq (hs : Stores P rows m) (order : List Uuid) :
    findByReference T rows order reference =
      .ok (((m.listed order).find? fun i => matchesRow reference (encode P i)).map
        (PaymentIntent.rounded P)) := by
  unfold findByReference
  rw [hs.listed, List.find?_map]
  show (match ((m.listed order).find? fun i => matchesRow reference (encode P i)).map (encode P)
    with
    | some row => (decode T row).map some
    | none => .ok none) = _
  cases (m.listed order).find? fun i => matchesRow reference (encode P i) with
  | none => rfl
  | some i =>
    simp only [Option.map_some, decode_encode]
    rfl

theorem not_matchesRow_simple {j : PaymentIntent} (hj : j.OwnReference) :
    ¬ matchesRow i.id.simple (encode P j) = true := by
  rw [matchesRow_encode]
  rintro (h | h)
  · have hlen := congrArg (fun s => s.toList.length) (hj _ h)
    simp [Uuid.length_simple] at hlen
  · have hlen := congrArg (fun s => s.toList.length) h
    simp [Uuid.length_simple, Uuid.length_toString] at hlen

/-- Over the same intents the two repositories resolve a reference alike if and only if it is not
the text without hyphens of the identifier of one of them. -/
theorem resolve_alike_iff {s : PaymentState} (h : paymentSystem.Reachable s)
    (hs : Stores P rows s.storage) (ho : s.storage.Visits order) (ho' : rows.Visits order') :
    findByReference T rows order' reference =
        .ok ((InMemoryPaymentIntentRepository.findByReference s.storage order reference).map
          (PaymentIntent.rounded P)) ↔
      ∀ i ∈ s.storage.values, reference ≠ i.id.simple := by
  have hown := PaymentState.ownReference_of_reachable h
  have hkeyed := (PaymentState.invariant_of_reachable h).inbound.keyed
  have hresolve := InMemoryPaymentIntentRepository.referencesResolve hkeyed hown
  have hm := hs.visits ho'
  rw [findByReference_eq hs, hresolve.stable reference order order' ho hm]
  constructor
  · rintro he i hi rfl
    rw [(hresolve.own i hi order' hm).2.2] at he
    obtain ⟨j, hj, -⟩ := Option.map_eq_some_iff.mp (Except.ok.inj he)
    have hjm := hm.mem_listed.mp (List.mem_of_find?_eq_some hj)
    have hmatch := List.find?_some hj
    exact not_matchesRow_simple (hown j hjm) hmatch
  · intro hsimple
    have hsame : ∀ i ∈ s.storage.listed order',
        matchesRow reference (encode P i) = matchesReference reference i := by
      intro i hi
      have hne := hsimple i (hm.mem_listed.mp hi)
      rw [Bool.eq_iff_iff, matchesRow_encode, matchesReference_iff]
      constructor
      · rintro (h | h)
        · exact .inl h
        · exact .inr (.inl h)
      · rintro (h | h | h)
        · exact .inl h
        · exact .inr h
        · exact absurd h.symm hne
    unfold InMemoryPaymentIntentRepository.findByReference
    rw [List.find?_congr hsame]

theorem resolve_alike_sample :
    InMemoryPaymentIntentRepository.findByReference sampleStoredTwice.storage
      [.ofNat 1, .ofNat 2] "hnbv_claim_00000000000000000000000000000002" =
        some sampleSecondOffer ∧
    findByReference .ascii ((Table.insert ∅ (.ofNat 1) (encode ⟨id, id, id⟩ sampleProtected)).insert
        (.ofNat 2) (encode ⟨id, id, id⟩ sampleSecondOffer)) [.ofNat 2, .ofNat 1]
        "hnbv_claim_00000000000000000000000000000002" =
      .ok ((InMemoryPaymentIntentRepository.findByReference sampleStoredTwice.storage
        [.ofNat 1, .ofNat 2] "hnbv_claim_00000000000000000000000000000002").map
          (PaymentIntent.rounded ⟨id, id, id⟩)) := by
  refine ⟨by decide +kernel, (resolve_alike_iff reachable_sampleStoredTwice
    ((stores_empty.insert sampleProtected).insert sampleSecondOffer)
    (List.Perm.swap _ _ _) (List.Perm.refl _)).mpr ?_⟩
  decide +kernel

/-- The offer to Bob, under its identifier without hyphens. -/
theorem not_resolve_alike : ¬ ∀ (s : PaymentState) (rows : Rows) (order order' : List Uuid)
    (reference : String), paymentSystem.Reachable s → Stores ⟨id, id, id⟩ rows s.storage →
    s.storage.Visits order → rows.Visits order' →
    findByReference .ascii rows order' reference =
      .ok (InMemoryPaymentIntentRepository.findByReference s.storage order reference) := by
  intro hall
  obtain ⟨tr, ht, -⟩ := trace_sampleProtected
  have h :=
    hall sampleStored (Table.insert ∅ (.ofNat 1) (encode ⟨id, id, id⟩ sampleProtected))
    [.ofNat 1] [.ofNat 1] "00000000000000000000000000000001" ht.reachable
    (stores_empty.insert sampleProtected) (List.Perm.refl _) (List.Perm.refl _)
  revert h
  decide +kernel

end PgPaymentIntentRepository
end Hanbova
