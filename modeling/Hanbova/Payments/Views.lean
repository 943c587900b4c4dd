import Hanbova.Library.Alike
import Hanbova.Payments.Service
import Mathlib.Data.List.Sort

/-! What the payment service shows of its intents: the reads of `payment_service.rs` and of the
in-memory `payment_intent_repo.rs`. A read that iterates over the map takes the order of the
iteration as an argument. -/
namespace Hanbova

open Library Library.Text

/-- `sort_by_key(|x| Reverse(x.created_at))`, a stable sort. -/
def newestFirst {α : Type} (createdAt : α → DateTime) (xs : List α) : List α :=
  xs.insertionSort fun x y => createdAt y ≤ createdAt x

section
variable {α : Type} (createdAt : α → DateTime) (xs : List α)

theorem newestFirst_perm : (newestFirst createdAt xs).Perm xs := List.perm_insertionSort _ xs

theorem newestFirst_pairwise :
    (newestFirst createdAt xs).Pairwise fun x y => createdAt y ≤ createdAt x := by
  have : Std.Total fun x y => createdAt y ≤ createdAt x :=
    ⟨fun x y => le_total (createdAt y) (createdAt x)⟩
  have : IsTrans α fun x y => createdAt y ≤ createdAt x :=
    ⟨fun _ _ _ hxy hyz => hyz.trans hxy⟩
  exact List.pairwise_insertionSort _ xs

end

namespace InMemoryPaymentIntentRepository

def matchesReference (reference : String) (i : PaymentIntent) : Bool :=
  i.claimReference == some reference || i.id.toString == reference || i.id.simple == reference

def findByReference (storage : Storage) (order : List Uuid) (reference : String) :
    Option PaymentIntent := (storage.listed order).find? (matchesReference reference)

/-- The filter of `find_by_user`. -/
def involves (userIdentifier : String) (i : PaymentIntent) : Bool :=
  let clean := unprefixed '@' userIdentifier
  i.senderId == some userIdentifier || i.senderId == some clean ||
    i.recipientIdentifier == userIdentifier || i.recipientIdentifier == clean ||
    stripPrefix '@' i.recipientIdentifier == some clean

theorem involves_iff {x : String} {i : PaymentIntent} :
    involves x i = true ↔ i.senderId = some x ∨ i.senderId = some (unprefixed '@' x) ∨
      i.recipientIdentifier = unprefixed '@' x ∨
      stripPrefix '@' i.recipientIdentifier = some (unprefixed '@' x) := by
  have key : i.recipientIdentifier = x → i.recipientIdentifier = unprefixed '@' x ∨
      stripPrefix '@' i.recipientIdentifier = some (unprefixed '@' x) := by
    intro h
    rw [h]
    rcases unprefixed_eq_iff.mp (rfl : unprefixed '@' x = _) with hp | ⟨hx, -⟩
    · exact .inr hp
    · exact .inl hx
  simp only [involves, Bool.or_eq_true, beq_iff_eq]
  tauto

def findByUser (storage : Storage) (order : List Uuid) (userIdentifier : String) :
    List PaymentIntent :=
  newestFirst PaymentIntent.createdAt ((storage.listed order).filter (involves userIdentifier))

end InMemoryPaymentIntentRepository

namespace PaymentService

open InMemoryPaymentIntentRepository (Storage)

/-- The check that both single reads make before they answer. -/
def authoriseRead (intent : PaymentIntent) (userId username : Option String) :
    Except ApiError PaymentIntentResponse :=
  match userId with
  | some uid =>
    if !isSender intent uid username && !isRecipient intent uid username then
      .error (.forbidden "You do not have permission to access this payment intent")
    else .ok (.ofIntent intent)
  | none => .ok (.ofIntent intent)

def getPaymentIntent (storage : Storage) (id : Uuid) (userId username : Option String) :
    Except ApiError PaymentIntentResponse :=
  match InMemoryPaymentIntentRepository.findById storage id with
  | none => .error (.notFound s!"Payment intent {id} not found")
  | some intent => authoriseRead intent userId username

def getPaymentIntentByReference (storage : Storage) (order : List Uuid) (reference : String)
    (userId username : Option String) : Except ApiError PaymentIntentResponse :=
  match InMemoryPaymentIntentRepository.findByReference storage order reference with
  | none => .error (.notFound s!"Payment intent with reference '{reference}' not found")
  | some intent => authoriseRead intent userId username

/-- The intents of `byName` whose identifiers `list` does not have yet are pushed onto it. -/
def mergeById (list byName : List PaymentIntent) : List PaymentIntent :=
  byName.foldl (fun list item =>
    if !list.any (fun existing => existing.id == item.id) then list ++ [item] else list) list

section
variable {l b : List PaymentIntent} {i : PaymentIntent} {S : Set PaymentIntent}

theorem mergeById_cons (l b : List PaymentIntent) (j : PaymentIntent) :
    mergeById l (j :: b) =
      if ∃ x ∈ l, x.id = j.id then mergeById l b else mergeById (l ++ [j]) b := by
  rw [mergeById, List.foldl_cons, ← mergeById]
  by_cases hj : ∃ x ∈ l, x.id = j.id
  · have hany : (l.any fun existing => existing.id == j.id) = true := by simpa using hj
    rw [if_pos hj, hany, if_neg (by simp)]
  · have hany : (l.any fun existing => existing.id == j.id) = false := by simpa using hj
    rw [if_neg hj, hany, if_pos (by simp)]

/-- Where identifiers tell payments apart none is left out. -/
theorem mem_mergeById (hS : S.InjOn PaymentIntent.id) (hl : ∀ x ∈ l, x ∈ S)
    (hb : ∀ x ∈ b, x ∈ S) : i ∈ mergeById l b ↔ i ∈ l ∨ i ∈ b := by
  induction b generalizing l with
  | nil => simp [mergeById]
  | cons j b ih =>
    obtain ⟨hjS, hbS⟩ := List.forall_mem_cons.mp hb
    rw [mergeById_cons]
    split_ifs with hj
    · obtain ⟨x, hx, he⟩ := hj
      obtain rfl : x = j := hS (hl x hx) hjS he
      rw [ih hl hbS, List.mem_cons]
      constructor
      · exact Or.imp_right .inr
      · rintro (h | rfl | h)
        · exact .inl h
        · exact .inl hx
        · exact .inr h
    · have hl' : ∀ x ∈ l ++ [j], x ∈ S := by
        intro x hx
        rcases List.mem_append.mp hx with hx | hx
        · exact hl x hx
        · exact List.mem_singleton.mp hx ▸ hjS
      rw [ih hl' hbS, List.mem_append, List.mem_singleton, List.mem_cons, or_assoc]

theorem nodup_mergeById (h : (l.map PaymentIntent.id).Nodup) :
    ((mergeById l b).map PaymentIntent.id).Nodup := by
  induction b generalizing l with
  | nil => exact h
  | cons j b ih =>
    rw [mergeById_cons]
    split_ifs with hj
    · exact ih h
    · apply ih
      rw [List.map_append, List.map_singleton, ← List.concat_eq_append]
      refine h.concat fun hmem => ?_
      obtain ⟨x, hx, he⟩ := List.mem_map.mp hmem
      exact hj ⟨x, hx, he⟩

end

def listUserPaymentIntents (storage : Storage) (order : List Uuid) (userId : String)
    (username : Option String) : List PaymentIntentResponse :=
  let list := InMemoryPaymentIntentRepository.findByUser storage order userId
  let list := match username with
    | some uname =>
      mergeById list (InMemoryPaymentIntentRepository.findByUser storage order uname)
    | none => list
  (newestFirst PaymentIntent.createdAt list).map .ofIntent

end PaymentService
end Hanbova
