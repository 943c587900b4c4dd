import Hanbova.Payments.System
import Hanbova.Payments.Views

/-! Whether the list of an actor's payments shows what the actor may open. -/
namespace Hanbova

open Library Library.Text
open InMemoryPaymentIntentRepository (Storage involves involves_iff findByUser)

namespace PaymentService

/-- The list has each payment that the actor can read by its identifier once, newest first. -/
structure ListsWhatMayBeOpened (storage : Storage) (order : List Uuid) (userId username : String) :
    Prop where
  nodup : ((listUserPaymentIntents storage order userId (some username)).map
    PaymentIntentResponse.id).Nodup
  sorted : (listUserPaymentIntents storage order userId (some username)).Pairwise
    fun r r' => r'.createdAt ≤ r.createdAt
  exact : ∀ r, r ∈ listUserPaymentIntents storage order userId (some username) ↔
    ∃ id, getPaymentIntent storage id (some userId) (some username) = .ok r

def MayOpen (userId username : String) (i : PaymentIntent) : Prop :=
  isSender i userId (some username) = true ∨ isRecipient i userId (some username) = true

def Shown (userId username : String) (i : PaymentIntent) : Prop :=
  involves userId i = true ∨ involves username i = true

/-- The text is the username, but for the case of its letters. -/
def Respelled (username t : String) : Prop :=
  unprefixed '@' t ≠ unprefixed '@' username ∧
    eqIgnoreAsciiCase (unprefixed '@' t) (unprefixed '@' username) = true

/-- A payment that is not shown, although its sender is an identifier of the actor behind an at
sign, or a party is the username in other letters. -/
def Overlooked (userId username : String) (i : PaymentIntent) : Prop :=
  ¬ Shown userId username i ∧
    ((∃ s, i.senderId = some s ∧ (stripPrefix '@' s = some (unprefixed '@' userId) ∨
      stripPrefix '@' s = some (unprefixed '@' username) ∨ Respelled username s)) ∨
    Respelled username i.recipientIdentifier)

/-- A payment that may not be opened, although a party is an identifier of the actor without the
first of its two leading at signs. -/
def Exposed (userId username : String) (i : PaymentIntent) : Prop :=
  ¬ MayOpen userId username i ∧
    ∃ x, (x = userId ∨ x = username) ∧ AtSigned (unprefixed '@' x) ∧
      (i.senderId = some (unprefixed '@' x) ∨ i.recipientIdentifier = unprefixed '@' x)

variable {storage : Storage} {order : List Uuid} {userId username t : String} {i : PaymentIntent}

/-! ### One payment -/

theorem mayOpen_iff : MayOpen userId username i ↔
    (∃ s, i.senderId = some s ∧ matchesActor userId (some username) s = true) ∨
      matchesActor userId (some username) i.recipientIdentifier = true := by
  unfold MayOpen isSender isRecipient
  rw [Option.any_eq_true]

theorem matchesActor_of_unprefixed
    (h : unprefixed '@' t = unprefixed '@' userId ∨ unprefixed '@' t = unprefixed '@' username) :
    matchesActor userId (some username) t = true := by
  rw [matchesActor_iff]
  rcases h with h | h
  · exact .inl h
  · right
    rw [h]
    exact eqIgnoreAsciiCase_refl _

theorem matchesActor_of_stripPrefix
    (h : stripPrefix '@' t = some (unprefixed '@' userId) ∨
      stripPrefix '@' t = some (unprefixed '@' username)) :
    matchesActor userId (some username) t = true := by
  apply matchesActor_of_unprefixed
  exact h.imp unprefixed_of_stripPrefix unprefixed_of_stripPrefix

/-- The ways in which a text names the actor. -/
theorem matchesActor_cases (h : matchesActor userId (some username) t = true) :
    (∃ x, (x = userId ∨ x = username) ∧ (t = unprefixed '@' x ∨
      stripPrefix '@' t = some (unprefixed '@' x))) ∨ Respelled username t := by
  have spelled : ∀ x, unprefixed '@' t = unprefixed '@' x →
      t = unprefixed '@' x ∨ stripPrefix '@' t = some (unprefixed '@' x) := by
    intro x hx
    rcases unprefixed_eq_iff.mp hx with hp | ⟨ht, -⟩
    · exact .inr hp
    · exact .inl ht
  rcases matchesActor_iff.mp h with h | h
  · exact .inl ⟨userId, .inl rfl, spelled userId h⟩
  · by_cases he : unprefixed '@' t = unprefixed '@' username
    · exact .inl ⟨username, .inr rfl, spelled username he⟩
    · exact .inr ⟨he, h⟩

theorem shown_iff : Shown userId username i ↔ ∃ x, (x = userId ∨ x = username) ∧
    (i.senderId = some x ∨ i.senderId = some (unprefixed '@' x) ∨
      i.recipientIdentifier = unprefixed '@' x ∨
      stripPrefix '@' i.recipientIdentifier = some (unprefixed '@' x)) := by
  simp only [Shown, involves_iff]
  constructor
  · rintro (h | h)
    · exact ⟨userId, .inl rfl, h⟩
    · exact ⟨username, .inr rfl, h⟩
  · rintro ⟨x, rfl | rfl, h⟩
    · exact .inl h
    · exact .inr h

theorem overlooked_iff :
    Overlooked userId username i ↔ MayOpen userId username i ∧ ¬ Shown userId username i := by
  rw [Overlooked, and_comm, mayOpen_iff]
  refine and_congr_left fun hshown => ?_
  rw [shown_iff, not_exists] at hshown
  constructor
  · rintro (⟨s, hs, h⟩ | h)
    · refine .inl ⟨s, hs, ?_⟩
      rcases h with h | h | h
      · exact matchesActor_of_stripPrefix (.inl h)
      · exact matchesActor_of_stripPrefix (.inr h)
      · exact matchesActor_iff.mpr (.inr h.2)
    · exact .inr (matchesActor_iff.mpr (.inr h.2))
  · rintro (⟨s, hs, h⟩ | h)
    · left
      refine ⟨s, hs, ?_⟩
      rcases matchesActor_cases h with ⟨x, hx, he | he⟩ | h
      · exact absurd ⟨hx, .inr (.inl (he ▸ hs))⟩ (hshown x)
      · rcases hx with rfl | rfl
        · exact .inl he
        · exact .inr (.inl he)
      · exact .inr (.inr h)
    · right
      rcases matchesActor_cases h with ⟨x, hx, he⟩ | h
      · exact absurd ⟨hx, .inr (.inr he)⟩ (hshown x)
      · exact h

theorem exposed_iff :
    Exposed userId username i ↔ Shown userId username i ∧ ¬ MayOpen userId username i := by
  rw [Exposed, and_comm, shown_iff]
  refine and_congr_left fun hopen => ?_
  rw [mayOpen_iff, not_or, not_exists] at hopen
  have named : ∀ {x t}, (x = userId ∨ x = username) → unprefixed '@' t = unprefixed '@' x →
      matchesActor userId (some username) t = true := by
    rintro x t (rfl | rfl) h
    · exact matchesActor_of_unprefixed (.inl h)
    · exact matchesActor_of_unprefixed (.inr h)
  have signed : ∀ {x}, (x = userId ∨ x = username) →
      matchesActor userId (some username) (unprefixed '@' x) ≠ true →
      AtSigned (unprefixed '@' x) := by
    intro x hx hno
    by_contra hat
    exact hno (named hx (unprefixed_eq_self hat))
  constructor
  · rintro ⟨x, hx, -, hs | hr⟩
    · exact ⟨x, hx, .inr (.inl hs)⟩
    · exact ⟨x, hx, .inr (.inr (.inl hr))⟩
  · rintro ⟨x, hx, hs | hs | hr | hr⟩
    · exact absurd ⟨hs, named hx rfl⟩ (hopen.1 x)
    · exact ⟨x, hx, signed hx fun h => hopen.1 _ ⟨hs, h⟩, .inl hs⟩
    · exact ⟨x, hx, signed hx fun h => hopen.2 (hr ▸ h), .inr hr⟩
    · exact absurd (named hx (unprefixed_of_stripPrefix hr)) hopen.2

/-! ### The list -/

theorem mem_findByUser (ho : storage.Visits order) {x : String} :
    i ∈ findByUser storage order x ↔ i ∈ storage.values ∧ involves x i = true := by
  rw [findByUser, (newestFirst_perm _ _).mem_iff, List.mem_filter, ho.mem_listed]

theorem getPaymentIntent_ok (hk : Table.Keyed PaymentIntent.id storage)
    {r : PaymentIntentResponse} :
    (∃ id, getPaymentIntent storage id (some userId) (some username) = .ok r) ↔
      ∃ i ∈ storage.values, MayOpen userId username i ∧ .ofIntent i = r := by
  have hread : ∀ i, authoriseRead i (some userId) (some username) = .ok r ↔
      MayOpen userId username i ∧ .ofIntent i = r := by
    intro i
    unfold authoriseRead MayOpen
    cases hs : isSender i userId (some username) <;>
      cases hr : isRecipient i userId (some username) <;> simp [hs, hr]
  constructor
  · rintro ⟨id, h⟩
    unfold getPaymentIntent InMemoryPaymentIntentRepository.findById at h
    cases hl : storage.lookup id with
    | none => simp [hl] at h
    | some i =>
      rw [hl] at h
      exact ⟨i, Table.mem_values.mpr ⟨id, hl⟩, (hread i).mp h⟩
  · rintro ⟨i, hi, h⟩
    refine ⟨i.id, ?_⟩
    unfold getPaymentIntent InMemoryPaymentIntentRepository.findById
    rw [hk.lookup hi]
    exact (hread i).mpr h

/-- The list has the payments that one of the two searches finds. -/
theorem listUserPaymentIntents_spec (userId username : String)
    (hk : Table.Keyed PaymentIntent.id storage) (ho : storage.Visits order) :
    ((listUserPaymentIntents storage order userId (some username)).map
        PaymentIntentResponse.id).Nodup ∧
      (listUserPaymentIntents storage order userId (some username)).Pairwise
        (fun r r' => r'.createdAt ≤ r.createdAt) ∧
      ∀ r, r ∈ listUserPaymentIntents storage order userId (some username) ↔
        ∃ i ∈ storage.values, Shown userId username i ∧ .ofIntent i = r := by
  have hids : Set.InjOn PaymentIntent.id {i | i ∈ storage.values} := hk.injOn
  have hfound : ∀ x, ∀ i ∈ findByUser storage order x, i ∈ storage.values :=
    fun x i hi => ((mem_findByUser ho).mp hi).1
  have hfirst : ((findByUser storage order userId).map PaymentIntent.id).Nodup := by
    rw [findByUser, ((newestFirst_perm _ _).map _).nodup_iff]
    exact (ho.nodup_listed hk).sublist (List.filter_sublist.map _)
  unfold listUserPaymentIntents
  refine ⟨?_, ?_, fun r => ?_⟩
  · rw [List.map_map]
    exact (((newestFirst_perm _ _).map _).nodup_iff).mpr (nodup_mergeById hfirst)
  · exact List.pairwise_map.mpr (newestFirst_pairwise _ _)
  · rw [List.mem_map]
    refine exists_congr fun i => ?_
    rw [← and_assoc]
    refine and_congr_left fun _ => ?_
    rw [(newestFirst_perm _ _).mem_iff, mem_mergeById hids (hfound userId) (hfound username),
      mem_findByUser ho, mem_findByUser ho, ← and_or_left, Shown]

theorem lists_what_may_be_opened_iff (hk : Table.Keyed PaymentIntent.id storage)
    (ho : storage.Visits order) :
    ListsWhatMayBeOpened storage order userId username ↔
      ∀ i ∈ storage.values, ¬ Overlooked userId username i ∧
        ¬ Exposed userId username i := by
  obtain ⟨hnodup, hsorted, hmem⟩ := listUserPaymentIntents_spec userId username hk ho
  constructor
  · rintro ⟨-, -, hexact⟩ i hi
    have same : ∀ j ∈ storage.values,
      PaymentIntentResponse.ofIntent j = .ofIntent i → j = i :=
      fun j hj he => hk.injOn hj hi (congrArg PaymentIntentResponse.id he)
    have hiff : Shown userId username i ↔ MayOpen userId username i := by
      have he := hexact (.ofIntent i)
      rw [hmem, getPaymentIntent_ok hk] at he
      constructor
      · intro h
        obtain ⟨j, hj, hopen, hij⟩ := he.mp ⟨i, hi, h, rfl⟩
        rwa [← same j hj hij]
      · intro h
        obtain ⟨j, hj, hshown, hij⟩ := he.mpr ⟨i, hi, h, rfl⟩
        rwa [← same j hj hij]
    rw [overlooked_iff, exposed_iff, hiff]
    simp
  · intro h
    refine ⟨hnodup, hsorted, fun r => ?_⟩
    rw [hmem, getPaymentIntent_ok hk]
    refine exists_congr fun i => and_congr_right fun hi => and_congr_left fun _ => ?_
    obtain ⟨hno, hne⟩ := h i hi
    rw [overlooked_iff] at hno
    rw [exposed_iff] at hne
    constructor
    · intro hs
      by_contra hm
      exact hne ⟨hs, hm⟩
    · intro hm
      by_contra hs
      exact hno ⟨hm, hs⟩

/-- Bob has paid Alice back the day after. -/
def sampleReturn : PaymentIntent :=
  { sampleIntent with
    id := .ofNat 2
    senderId := some "bob"
    recipientIdentifier := "alice"
    createdAt := .nextDay
    updatedAt := .nextDay }

def samplePair : Storage :=
  (Table.insert ∅ (.ofNat 1) sampleIntent).insert (.ofNat 2) sampleReturn

theorem keyed_samplePair : Table.Keyed PaymentIntent.id samplePair :=
  Table.Keyed.set (x := sampleReturn)
    (Table.Keyed.set (x := sampleIntent) (Table.keyed_empty _) (Table.setAt_insert _ _ _) rfl)
    (Table.setAt_insert _ _ _) rfl

/-- Bob is shown both payments, his own before the one that he has received. -/
theorem lists_what_may_be_opened_sample :
    (listUserPaymentIntents samplePair [.ofNat 1, .ofNat 2] "00000000-0000-0000-0000-000000000002"
      (some "bob")).map PaymentIntentResponse.id = [.ofNat 2, .ofNat 1] ∧
    ListsWhatMayBeOpened samplePair [.ofNat 1, .ofNat 2] "00000000-0000-0000-0000-000000000002"
      "bob" := by
  refine ⟨by decide +kernel, (lists_what_may_be_opened_iff keyed_samplePair
    (List.Perm.swap _ _ _)).mpr fun i hi => ?_⟩
  have hboth : ∀ i ∈ samplePair.values, Shown "00000000-0000-0000-0000-000000000002" "bob" i ∧
      MayOpen "00000000-0000-0000-0000-000000000002" "bob" i := by
    unfold Shown MayOpen
    decide +kernel
  obtain ⟨hshown, hopen⟩ := hboth i hi
  exact ⟨fun h => h.1 hshown, fun h => h.1 hopen⟩

/-- Alice has paid Bob under the name `Bob`. -/
theorem not_lists_what_may_be_opened : ¬ ∀ (storage : Storage) (order : List Uuid)
    (userId username : String), Table.Keyed PaymentIntent.id storage → storage.Visits order →
    ListsWhatMayBeOpened storage order userId username := by
  intro hall
  let bob : PaymentIntent := { sampleIntent with recipientIdentifier := "Bob" }
  have h := hall (Table.insert ∅ (.ofNat 1) bob) [.ofNat 1] "00000000-0000-0000-0000-000000000002"
    "bob" ((Table.keyed_empty _).set (Table.setAt_insert _ _ _) rfl) (List.Perm.refl _)
  have hmem := (h.exact (.ofIntent bob)).mpr ⟨.ofNat 1, by decide +kernel⟩
  revert hmem
  decide +kernel

end PaymentService
end Hanbova
