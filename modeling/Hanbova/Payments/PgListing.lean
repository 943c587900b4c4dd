import Hanbova.Library.Ranking
import Hanbova.Payments.Listing
import Hanbova.Payments.Refinement

/-! The payments of a user in PostgreSQL and in memory. -/
namespace Hanbova

open Library Library.Text
open InMemoryPaymentIntentRepository (Storage involves involves_iff)

namespace PgPaymentIntentRepository

/-- The `WHERE` clause of `find_by_user`. -/
def selects (userIdentifier : String) (row : PaymentIntentRow) : Bool :=
  let cleanId := unprefixed '@' userIdentifier
  row.senderId == some userIdentifier || row.recipientIdentifier == userIdentifier ||
    row.recipientIdentifier == cleanId

/-- `ORDER BY created_at DESC LIMIT 50`, over rows that are scanned in the given order. -/
def findByUser (T : CaseTable) (rows : Rows) (order : List Uuid) (userIdentifier : String) :
    Except ApiError (List PaymentIntent) :=
  ((newestFirst PaymentIntentRow.createdAt
    ((rows.listed order).filter (selects userIdentifier))).take 50).mapM (decode T)

/-- A payment that only the in-memory repository takes for one of the user's. -/
def Missed (userIdentifier : String) (i : PaymentIntent) : Prop :=
  (i.senderId = some (unprefixed '@' userIdentifier) ∨
      stripPrefix '@' i.recipientIdentifier = some (unprefixed '@' userIdentifier)) ∧
    i.senderId ≠ some userIdentifier ∧ i.recipientIdentifier ≠ userIdentifier ∧
    i.recipientIdentifier ≠ unprefixed '@' userIdentifier

/-- How many newer payments of the user there are. -/
def newer (m : Storage) (userIdentifier : String) (i : PaymentIntent) : ℕ :=
  m.values.countP fun j => involves userIdentifier j && decide (i.createdAt < j.createdAt)

variable {T : CaseTable} {P : Precision} {rows : Rows} {m : Storage} {order order' : List Uuid}
  {x : String} {i : PaymentIntent}

theorem selects_encode : selects x (encode P i) = true ↔
    i.senderId = some x ∨ i.recipientIdentifier = x ∨
    i.recipientIdentifier = unprefixed '@' x := by
  simp only [selects, encode, Bool.or_eq_true, beq_iff_eq, or_assoc]

theorem involves_of_selects (h : selects x (encode P i) = true) : involves x i = true := by
  simp only [involves, Bool.or_eq_true, beq_iff_eq]
  rcases selects_encode.mp h with h | h | h
  · simp [h]
  · simp [h]
  · simp [h]

theorem missed_iff :
    Missed x i ↔ involves x i = true ∧ ¬ selects x (encode P i) = true := by
  rw [Missed, involves_iff, selects_encode]
  tauto

theorem mapM_decode_encode (is : List PaymentIntent) :
    (is.map (encode P)).mapM (decode T) = .ok (is.map (PaymentIntent.rounded P)) := by
  induction is with
  | nil => rfl
  | cons i is ih =>
    rw [List.map_cons, List.mapM_cons, decode_encode, ih]
    rfl

/-! ### The rows of the intents -/

theorem Stores.listed (hs : Stores P rows m) (order : List Uuid) :
    rows.listed order = (m.listed order).map (encode P) := by
  rw [Table.listed, Table.listed, List.map_filterMap]
  exact List.filterMap_congr fun id _ => hs id

theorem Stores.visits (hs : Stores P rows m) (h : rows.Visits order) : m.Visits order := by
  refine h.trans ((List.perm_ext_iff_of_nodup rows.keys_nodup m.keys_nodup).mpr fun id => ?_)
  rw [AList.mem_keys.symm, AList.mem_keys.symm, ← AList.lookup_isSome,
    ← AList.lookup_isSome, hs id,
    Option.isSome_map]

/-! ### The order of the rows -/

/-- Payments that the column tells apart are told apart in memory. -/
theorem createdAt_injOn (hd : Set.InjOn (fun i => P.createdAt i.createdAt) {i | i ∈ m.values}) :
    Set.InjOn PaymentIntent.createdAt {i | i ∈ m.values} :=
  fun _ hi _ hj he => hd hi hj (congrArg P.createdAt he)

/-- The column keeps the order of the payments. -/
theorem createdAt_le_iff (hP : Monotone P.createdAt)
    (hd : Set.InjOn (fun i => P.createdAt i.createdAt) {i | i ∈ m.values}) {j : PaymentIntent}
    (hi : i ∈ m.values) (hj : j ∈ m.values) :
    i.createdAt ≤ j.createdAt ↔ P.createdAt i.createdAt ≤ P.createdAt j.createdAt := by
  refine ⟨fun h => hP h, fun h => ?_⟩
  by_contra hlt
  have hij : P.createdAt i.createdAt = P.createdAt j.createdAt :=
    le_antisymm h (hP (not_le.mp hlt).le)
  obtain rfl : i = j := hd hi hj hij
  exact hlt le_rfl

theorem newestFirst_map_encode {is : List PaymentIntent}
    (h : ∀ i ∈ is, ∀ j ∈ is,
      i.createdAt ≤ j.createdAt ↔ P.createdAt i.createdAt ≤ P.createdAt j.createdAt) :
    newestFirst PaymentIntentRow.createdAt (is.map (encode P)) =
      (newestFirst PaymentIntent.createdAt is).map (encode P) :=
  (List.map_insertionSort _ _ _ _ fun i hi j hj => h j hj i hi).symm

/-- The database makes its choice among the payments that the in-memory repository lists. -/
theorem findByUser_eq (hs : Stores P rows m) (ho : m.Visits order) (ho' : rows.Visits order')
    (hP : Monotone P.createdAt)
    (hd : Set.InjOn (fun i => P.createdAt i.createdAt) {i | i ∈ m.values}) :
    findByUser T rows order' x =
      .ok ((((InMemoryPaymentIntentRepository.findByUser m order x).filter
        fun i => selects x (encode P i)).take 50).map (PaymentIntent.rounded P)) := by
  have hm := hs.visits ho'
  have hmem : ∀ i ∈ (m.listed order').filter (fun i => selects x (encode P i)),
    i ∈ m.values :=
    fun i hi => hm.mem_listed.mp (List.mem_filter.mp hi).1
  have hselected : (rows.listed order').filter (selects x) =
      ((m.listed order').filter fun i => selects x (encode P i)).map (encode P) := by
    rw [hs.listed, List.filter_map]
    rfl
  have hsorted : newestFirst PaymentIntent.createdAt
        ((m.listed order').filter fun i => selects x (encode P i)) =
      (InMemoryPaymentIntentRepository.findByUser m order x).filter
        fun i => selects x (encode P i) := by
    apply perm_descending_eq (newestFirst_pairwise _ _)
      ((newestFirst_pairwise _ _).sublist List.filter_sublist)
    · refine (newestFirst_perm _ _).trans (.trans ?_ ((newestFirst_perm _ _).filter _).symm)
      have hboth : (fun i => selects x (encode P i) && involves x i) =
          fun i => selects x (encode P i) := by
        funext i
        cases hi : selects x (encode P i) with
        | true => rw [involves_of_selects hi, Bool.and_self]
        | false => rw [Bool.false_and]
      rw [List.filter_filter, hboth]
      exact (hm.perm_values.trans ho.perm_values.symm).filter _
    · refine (createdAt_injOn hd).mono fun i hi => hmem i ?_
      exact (newestFirst_perm _ _).mem_iff.mp hi
  rw [findByUser, hselected, newestFirst_map_encode fun i hi j hj =>
    createdAt_le_iff hP hd (hmem i hi) (hmem j hj), hsorted, ← List.map_take, mapM_decode_encode]

/-- A payment of the user is one of the first fifty if fewer than fifty are newer. -/
theorem mem_first_iff (hk : Table.Keyed PaymentIntent.id m) (ho : m.Visits order)
    (hd : Set.InjOn PaymentIntent.createdAt {i | i ∈ m.values}) :
    i ∈ (InMemoryPaymentIntentRepository.findByUser m order x).take 50 ↔
      i ∈ m.values ∧ involves x i = true ∧ newer m x i < 50 := by
  have hstrict : (InMemoryPaymentIntentRepository.findByUser m order x).Pairwise
      fun i j => j.createdAt < i.createdAt := by
    apply strictly_descending (newestFirst_pairwise _ _)
    · refine (newestFirst_perm _ _).nodup_iff.mpr (.filter _ ?_)
      exact .of_map _ (ho.nodup_listed hk)
    · exact hd.mono fun i hi => ((PaymentService.mem_findByUser ho).mp hi).1
  have hcount : (InMemoryPaymentIntentRepository.findByUser m order x).countP
      (fun j => decide (i.createdAt < j.createdAt)) = newer m x i := by
    rw [InMemoryPaymentIntentRepository.findByUser, (newestFirst_perm _ _).countP_eq,
      List.countP_filter, ho.perm_values.countP_eq, newer]
    simp only [Bool.and_comm]
  rw [mem_take_iff_countP hstrict, hcount, PaymentService.mem_findByUser ho, and_assoc]

/-- The database answers with the first fifty payments of the in-memory list if and only if each
payment that it misses has fifty newer ones before it. -/
theorem lists_alike_iff (hs : Stores P rows m) (hk : Table.Keyed PaymentIntent.id m)
    (ho : m.Visits order) (ho' : rows.Visits order') (hP : Monotone P.createdAt)
    (hd : Set.InjOn (fun i => P.createdAt i.createdAt) {i | i ∈ m.values}) :
    findByUser T rows order' x =
        .ok (((InMemoryPaymentIntentRepository.findByUser m order x).take 50).map
          (PaymentIntent.rounded P)) ↔
      ∀ i ∈ m.values, Missed x i → 50 ≤ newer m x i := by
  rw [findByUser_eq hs ho ho' hP hd]
  have hfirst : ∀ i, i ∈ (InMemoryPaymentIntentRepository.findByUser m order x).take 50 ↔
      i ∈ m.values ∧ involves x i = true ∧ newer m x i < 50 :=
    fun i => mem_first_iff hk ho (createdAt_injOn hd)
  constructor
  · intro h i hi hmissed
    obtain ⟨hinv, hsel⟩ := missed_iff.mp hmissed
    by_contra hfew
    have hmem := List.mem_map_of_mem (f := PaymentIntent.rounded P)
      ((hfirst i).mpr ⟨hi, hinv, by omega⟩)
    rw [← Except.ok.inj h] at hmem
    obtain ⟨j, hj, he⟩ := List.mem_map.mp hmem
    obtain ⟨hj, hjsel⟩ := List.mem_filter.mp (List.mem_of_mem_take hj)
    have hid : (j.rounded P).id = (i.rounded P).id := by rw [he]
    obtain rfl : j = i := hk.injOn ((PaymentService.mem_findByUser ho).mp hj).1 hi hid
    exact hsel hjsel
  · intro h
    congr 2
    rw [take_filter_eq_iff]
    intro i hi
    obtain ⟨hmem, hinv, hfew⟩ := (hfirst i).mp hi
    by_contra hsel
    have := h i hmem (missed_iff.mpr ⟨hinv, hsel⟩)
    omega

/-- Bob's two payments, whatever the order of the scan. -/
theorem lists_alike_sample :
    InMemoryPaymentIntentRepository.findByUser PaymentService.samplePair [.ofNat 1, .ofNat 2]
      "bob" = [PaymentService.sampleReturn, sampleIntent] ∧
    findByUser .ascii ((Table.insert ∅ (.ofNat 1) (encode ⟨id, id, id⟩ sampleIntent)).insert
        (.ofNat 2) (encode ⟨id, id, id⟩ PaymentService.sampleReturn)) [.ofNat 2, .ofNat 1] "bob" =
      .ok (((InMemoryPaymentIntentRepository.findByUser PaymentService.samplePair
        [.ofNat 1, .ofNat 2] "bob").take 50).map (PaymentIntent.rounded ⟨id, id, id⟩)) := by
  have hstores : Stores ⟨id, id, id⟩ _ PaymentService.samplePair :=
    (stores_empty.insert sampleIntent).insert PaymentService.sampleReturn
  have hmissed : ∀ i ∈ PaymentService.samplePair.values, ¬ Missed "bob" i := by
    unfold Missed
    decide +kernel
  have hdates : ∀ i ∈ PaymentService.samplePair.values,
    ∀ j ∈ PaymentService.samplePair.values,
      i.createdAt = j.createdAt → i = j := by decide +kernel
  exact ⟨by decide +kernel, (lists_alike_iff hstores PaymentService.keyed_samplePair
    (List.Perm.swap _ _ _) (List.Perm.refl _) monotone_id
    fun i hi j hj he => hdates i hi j hj he).mpr fun i hi h => absurd h (hmissed i hi)⟩

/-- Bob's payment under the name `bob`, when Alice has paid `@bob`. -/
theorem not_lists_alike : ¬ ∀ (rows : Rows) (m : Storage) (order order' : List Uuid)
    (x : String),
    Stores ⟨id, id, id⟩ rows m → Table.Keyed PaymentIntent.id m → m.Visits order →
    rows.Visits order' → Set.InjOn PaymentIntent.createdAt {i | i ∈ m.values} →
    findByUser .ascii rows order' x =
      .ok ((InMemoryPaymentIntentRepository.findByUser m order x).take 50) := by
  intro hall
  let paid : PaymentIntent := { sampleIntent with recipientIdentifier := "@bob" }
  have h := hall (Table.insert ∅ (.ofNat 1) (encode ⟨id, id, id⟩ paid))
    (Table.insert ∅ (.ofNat 1) paid) [.ofNat 1] [.ofNat 1] "bob"
    (stores_empty.insert paid)
    ((Table.keyed_empty _).set (Table.setAt_insert _ _ _) rfl) (List.Perm.refl _)
    (List.Perm.refl _)
    fun i hi j hj _ => (List.mem_singleton.mp hi).trans (List.mem_singleton.mp hj).symm
  revert h
  decide +kernel

end PgPaymentIntentRepository
end Hanbova
