import Hanbova.Accounts.Identity
import Hanbova.Payments.System
import Hanbova.Payments.Views
import Hanbova.Library.Service

/-! What an actor learns about the intents of others, and what it can do to them: two in-memory
stores that differ only there, served the same requests. -/
namespace Hanbova

open Library Library.Text
open InMemoryPaymentIntentRepository (Storage)

/-- Whoever makes a request, as the handlers pass it to the service. -/
structure Actor where
  userId : String
  username : Option String
  deriving DecidableEq

namespace Actor

def HasIdentifier (a : Actor) (x : String) : Prop := x = a.userId ∨ a.username = some x

/-- Each identifier of the actor, less one leading at sign, names the actor. -/
def KnowsItself (a : Actor) : Prop :=
  ∀ x, a.HasIdentifier x → matchesActor a.userId a.username (unprefixed '@' x) = true

/-- Neither party of the intent is the actor. -/
def Outside (a : Actor) (i : PaymentIntent) : Prop :=
  PaymentService.isSender i a.userId a.username = false ∧
    PaymentService.isRecipient i a.userId a.username = false

instance (a : Actor) (i : PaymentIntent) : Decidable (a.Outside i) :=
  inferInstanceAs (Decidable (_ ∧ _))

end Actor

/-- The actor that the handlers make of a caller. -/
def User.actor (u : User) : Actor := ⟨u.id.toString, some u.username⟩

/-- What every request may be told about an intent: its identifier and its claim reference. -/
def PaymentIntent.SameReference (i j : PaymentIntent) : Prop :=
  i.id = j.id ∧ i.claimReference = j.claimReference

inductive PaymentQuery
  | get (id : Uuid)
  | getByReference (order : List Uuid) (reference : String)
  | list (order : List Uuid)
  | updateStatus (id : Uuid) (newStatus : PaymentStatus) (now : DateTime)

inductive PaymentAnswer
  | one (answer : Except ApiError PaymentIntentResponse)
  | many (answer : List PaymentIntentResponse)
  deriving DecidableEq

/-- The service's answer to one request of the actor, and the store it leaves. -/
def Actor.serve (a : Actor) (storage : Storage) : PaymentQuery → PaymentAnswer × Storage
  | .get id =>
    (.one (PaymentService.getPaymentIntent storage id (some a.userId) a.username), storage)
  | .getByReference order reference =>
    (.one (PaymentService.getPaymentIntentByReference storage order reference (some a.userId)
      a.username), storage)
  | .list order =>
    (.many (PaymentService.listUserPaymentIntents storage order a.userId a.username), storage)
  | .updateStatus id newStatus now =>
    let (answer, storage') :=
      PaymentService.updatePaymentStatus storage ⟨id, newStatus, a.userId, a.username⟩ now
    (.one answer, storage')

namespace Actor
variable {a : Actor} {x t : String} {i j : PaymentIntent} {m m' : Storage}

/-- A text that is an identifier of the actor up to one at sign names the actor. -/
theorem matches_of_clean (hx : a.HasIdentifier x) (ht : unprefixed '@' t = unprefixed '@' x) :
    matchesActor a.userId a.username t = true := by
  unfold matchesActor
  rcases hx with rfl | hx
  · simp [ht]
  · simp [hx, ht]

/-- The filter of the list lets only intents of the actor through. -/
theorem not_outside_of_involves (ha : a.KnowsItself) (hx : a.HasIdentifier x)
    (hi : InMemoryPaymentIntentRepository.involves x i = true) : ¬ a.Outside i := by
  have sender : ∀ t, i.senderId = some t → matchesActor a.userId a.username t = true →
      ¬ a.Outside i := by
    intro t ht hm hout
    have hs := hout.1
    rw [PaymentService.isSender, ht, Option.any_some, hm] at hs
    cases hs
  have recipient : matchesActor a.userId a.username i.recipientIdentifier = true →
      ¬ a.Outside i := by
    intro hm hout
    have hr := hout.2
    rw [PaymentService.isRecipient, hm] at hr
    cases hr
  rcases InMemoryPaymentIntentRepository.involves_iff.mp hi with hi | hi | hi | hi
  · exact sender _ hi (matches_of_clean hx rfl)
  · exact sender _ hi (ha x hx)
  · apply recipient
    rw [hi]
    exact ha x hx
  · exact recipient (matches_of_clean hx (unprefixed_of_stripPrefix hi))

/-- The names that registration allows need no second look. -/
theorem knowsItself_of_wellNamed {T : CaseTable} {u : User} (h : AuthService.WellNamed T u) :
    u.actor.KnowsItself := by
  intro x hx
  apply matches_of_clean hx
  have hx' : ¬ AtSigned x := by
    rcases hx with rfl | hx
    · exact u.id.not_atSigned_toString
    · obtain rfl := Option.some.inj hx
      exact h.username_unsigned
  rw [unprefixed_eq_self hx', unprefixed_eq_self hx']

/-! ### Two stores, one request -/

/-- The two intents are one and the same, or neither concerns the actor. -/
def Twins (a : Actor) (i j : PaymentIntent) : Prop :=
  Indistinct a.Outside PaymentIntent.SameReference i j

theorem matchesReference_congr (h : a.Twins i j) (reference : String) :
    InMemoryPaymentIntentRepository.matchesReference reference i =
      InMemoryPaymentIntentRepository.matchesReference reference j := by
  rcases h with rfl | ⟨-, -, hid, href⟩
  · rfl
  · simp only [InMemoryPaymentIntentRepository.matchesReference, hid, href]

theorem authoriseRead_congr (h : a.Twins i j) :
    PaymentService.authoriseRead i (some a.userId) a.username =
      PaymentService.authoriseRead j (some a.userId) a.username := by
  rcases h with rfl | ⟨⟨hs, hr⟩, ⟨hs', hr'⟩, -⟩
  · rfl
  · simp [PaymentService.authoriseRead, hs, hr, hs', hr']

theorem findByUser_congr (ha : a.KnowsItself) (hx : a.HasIdentifier x)
    (h : Table.Alike a.Twins m m') (order : List Uuid) :
    InMemoryPaymentIntentRepository.findByUser m order x =
      InMemoryPaymentIntentRepository.findByUser m' order x := by
  have hfails : ∀ k, a.Outside k → InMemoryPaymentIntentRepository.involves x k = false := by
    intro k hk
    rw [Bool.eq_false_iff]
    intro hi
    exact not_outside_of_involves ha hx hi hk
  unfold InMemoryPaymentIntentRepository.findByUser
  rw [filter_eq_of_forall₂ (h.listed order) fun _ _ hij => hij.eq_or_fails hfails]

theorem list_congr (ha : a.KnowsItself) (h : Table.Alike a.Twins m m') (order : List Uuid) :
    PaymentService.listUserPaymentIntents m order a.userId a.username =
      PaymentService.listUserPaymentIntents m' order a.userId a.username := by
  unfold PaymentService.listUserPaymentIntents
  rw [findByUser_congr ha (.inl rfl) h]
  cases hu : a.username with
  | none => rfl
  | some uname => simp only [findByUser_congr ha (.inr hu) h]

theorem get_congr (h : Table.Alike a.Twins m m') (id : Uuid) :
    PaymentService.getPaymentIntent m id (some a.userId) a.username =
      PaymentService.getPaymentIntent m' id (some a.userId) a.username := by
  unfold PaymentService.getPaymentIntent InMemoryPaymentIntentRepository.findById
  rcases h.lookup_cases id with ⟨hm, hm'⟩ | ⟨i, j, hm, hm', hij⟩
  · rw [hm, hm']
  · rw [hm, hm']
    exact authoriseRead_congr hij

theorem getByReference_congr (h : Table.Alike a.Twins m m') (order : List Uuid)
    (reference : String) :
    PaymentService.getPaymentIntentByReference m order reference (some a.userId) a.username =
      PaymentService.getPaymentIntentByReference m' order reference (some a.userId)
        a.username := by
  have hfound := find?_rel_of_forall₂ (h.listed order)
    fun i j hij => matchesReference_congr (a := a) hij reference
  unfold PaymentService.getPaymentIntentByReference InMemoryPaymentIntentRepository.findByReference
  revert hfound
  generalize (m.listed order).find? _ = i
  generalize (m'.listed order).find? _ = j
  rintro (hij | -)
  · exact authoriseRead_congr hij
  · rfl

/-- An update by the actor: refused with the same words over both stores, or made to the same
record of both, which concerns the actor. -/
theorem updatePaymentStatus_twin (h : Table.Alike a.Twins m m') (id : Uuid)
    (status : PaymentStatus) (now : DateTime) :
    let req : UpdatePaymentStatusRequest := ⟨id, status, a.userId, a.username⟩
    (∃ e, PaymentService.updatePaymentStatus m req now = (.error e, m) ∧
      PaymentService.updatePaymentStatus m' req now = (.error e, m')) ∨
    ∃ i j n n' answer, PaymentService.updatePaymentStatus m req now = (answer, n) ∧
      PaymentService.updatePaymentStatus m' req now = (answer, n') ∧ m.lookup id = some i ∧
      m'.lookup id = some i ∧ ¬ a.Outside i ∧ Table.SetAt m id j n ∧
      Table.SetAt m' id j n' := by
  intro req
  unfold PaymentService.updatePaymentStatus PaymentService.readAndAuthorise
    InMemoryPaymentIntentRepository.findById
  rcases h.lookup_cases id with ⟨hm, hm'⟩ | ⟨i, j, hm, hm', rfl | ⟨hi, hj, -⟩⟩
  · left
    simp only [req, hm, hm']
    exact ⟨_, rfl, rfl⟩
  · simp only [req, hm, hm']
    cases hauth : PaymentService.authoriseUpdate i req with
    | error e => exact .inl ⟨e, rfl, rfl⟩
    | ok u =>
      have hout : ¬ a.Outside i := by
        rintro ⟨hs, hr⟩
        rcases (PaymentService.authoriseUpdate_ok.mp hauth).2.2 with hs' | hr'
        · rw [hs] at hs'; cases hs'
        · rw [hr] at hr'; cases hr'
      simp only [PaymentService.writeStatus]
      cases ht : i.status.transitionTo status with
      | error e =>
        rw [InMemoryPaymentIntentRepository.updateStatus_of_error now hm ht,
          InMemoryPaymentIntentRepository.updateStatus_of_error now hm' ht]
        exact .inl ⟨_, rfl, rfl⟩
      | ok t =>
        obtain ⟨-, rfl⟩ := PaymentStatus.transitionTo_ok.mp ht
        by_cases he : i.status = t
        · rw [InMemoryPaymentIntentRepository.updateStatus_of_repeated now hm ht he,
            InMemoryPaymentIntentRepository.updateStatus_of_repeated now hm' ht he]
          exact .inr ⟨i, i, _, _, _, rfl, rfl, rfl, rfl, hout, Table.setAt_self hm,
            Table.setAt_self hm'⟩
        · rw [InMemoryPaymentIntentRepository.updateStatus_of_moved now hm ht he,
            InMemoryPaymentIntentRepository.updateStatus_of_moved now hm' ht he]
          exact .inr ⟨i, _, _, _, _, rfl, rfl, rfl, rfl, hout, Table.setAt_insert _ _ _,
            Table.setAt_insert _ _ _⟩
  · left
    obtain ⟨hs, hr⟩ := hi
    obtain ⟨hs', hr'⟩ := hj
    simp only [req, hm, hm', PaymentService.authoriseUpdate, hs, hr, hs', hr']
    cases status <;> exact ⟨_, rfl, rfl⟩

/-- One request over two stores that differ only in what does not concern the actor. -/
theorem serve_twin (ha : a.KnowsItself) (h : Table.Alike a.Twins m m') (q : PaymentQuery) :
    (a.serve m q).1 = (a.serve m' q).1 ∧ Table.Alike a.Twins (a.serve m q).2 (a.serve m' q).2 ∧
      Table.Untouched a.Outside m (a.serve m q).2 ∧
      Table.Untouched a.Outside m' (a.serve m' q).2 := by
  have idle : Table.Untouched a.Outside m m ∧ Table.Untouched a.Outside m' m' :=
    ⟨.refl _ m, .refl _ m'⟩
  cases q with
  | get id =>
    simp only [serve, get_congr h id]
    exact ⟨trivial, h, idle⟩
  | getByReference order reference =>
    simp only [serve, getByReference_congr h order reference]
    exact ⟨trivial, h, idle⟩
  | list order =>
    simp only [serve, list_congr ha h order]
    exact ⟨trivial, h, idle⟩
  | updateStatus id status now =>
    rcases updatePaymentStatus_twin h id status now with
      ⟨e, he, he'⟩ | ⟨i, j, n, n', answer, hn, hn', hm, hm', hi, hset, hset'⟩
    · simp only [serve, he, he']
      exact ⟨trivial, h, idle⟩
    · have visible : ∀ k, some i = some k → ¬ a.Outside k := by
        rintro k hk
        rwa [← Option.some.inj hk]
      simp only [serve, hn, hn']
      refine ⟨trivial, h.set hset hset' (.refl j), .set hset ?_, .set hset' ?_⟩
      · rw [hm]; exact visible
      · rw [hm']; exact visible

/-- An actor whose identifiers name it even without a leading at sign gets the same answers to any
requests from two stores that differ only in what does not concern it, and changes nothing of
that. -/
theorem answers_independent_of_others (a : Actor) (ha : a.KnowsItself) (m m' : Storage)
    (h : Table.Alike a.Twins m m') (qs : List PaymentQuery) :
    (serveAll a.serve m qs).1 = (serveAll a.serve m' qs).1 ∧
      Table.Untouched a.Outside m (serveAll a.serve m qs).2 ∧
      Table.Untouched a.Outside m' (serveAll a.serve m' qs).2 :=
  serveAll_twin (R := fun _ => Table.Alike a.Twins) (Table.Untouched.refl _) Table.Untouched.trans
    (fun q _ _ _ hm => serve_twin ha hm q) qs h

end Actor

/-- A payment of some amount to a recipient whose name starts with an at sign. -/
def sampleSigned (sats : UInt64) : PaymentIntent :=
  { sampleIntent with recipientIdentifier := "@bob", amountSats := ⟨sats⟩ }

def sampleSignedStore (sats : UInt64) : Storage :=
  Table.insert ∅ (.ofNat 1) (sampleSigned sats)

/-- No account has an identifier like this one. -/
def sampleDoublySigned : Actor := ⟨"@@bob", none⟩

theorem alike_sampleSignedStore : Table.Alike sampleDoublySigned.Twins (sampleSignedStore 100)
    (sampleSignedStore 200) := by
  have hempty : Table.Alike sampleDoublySigned.Twins (∅ : Storage) ∅ := .refl .refl ∅
  refine hempty.set (Table.setAt_insert _ _ _) (Table.setAt_insert _ _ _)
    (.inr ⟨?_, ?_, rfl, rfl⟩)
  · decide +kernel
  · decide +kernel

/-- The list shows such an actor payments that the other requests deny it. -/
theorem answers_depend_on_others : ¬ ∀ (a : Actor) (m m' : Storage), Table.Alike a.Twins m m' →
    ∀ q, (a.serve m q).1 = (a.serve m' q).1 ∧ Table.Untouched a.Outside m (a.serve m q).2 ∧
      Table.Untouched a.Outside m' (a.serve m' q).2 := by
  intro hall
  have he := (hall sampleDoublySigned _ _ alike_sampleSignedStore (.list [.ofNat 1])).1
  have hne : (sampleDoublySigned.serve (sampleSignedStore 100) (.list [.ofNat 1])).1 ≠
      (sampleDoublySigned.serve (sampleSignedStore 200) (.list [.ofNat 1])).1 := by decide +kernel
  exact hne he

/-- Carol lists and asks for a payment between Alice and Bob. -/
theorem answers_independent_of_others_sample :
    let a : Actor := ⟨"00000000-0000-0000-0000-000000000002", some "carol"⟩
    let qs : List PaymentQuery := [.list [.ofNat 1], .get (.ofNat 1),
      .updateStatus (.ofNat 1) .claimed .epoch]
    let m : Storage := Table.insert ∅ (.ofNat 1) sampleIntent
    let m' : Storage := Table.insert ∅ (.ofNat 1) { sampleIntent with amountSats := ⟨200⟩ }
    (serveAll a.serve m qs).1 = (serveAll a.serve m' qs).1 ∧
      Table.Untouched a.Outside m (serveAll a.serve m qs).2 ∧
      Table.Untouched a.Outside m' (serveAll a.serve m' qs).2 := by
  intro a qs m m'
  have ha : a.KnowsItself := by
    rintro x (rfl | hx)
    · decide +kernel
    · obtain rfl := Option.some.inj hx
      decide +kernel
  have hempty : Table.Alike a.Twins (∅ : Storage) ∅ := .refl .refl ∅
  have hm : Table.Alike a.Twins m m' := by
    refine hempty.set (Table.setAt_insert _ _ _) (Table.setAt_insert _ _ _)
      (.inr ⟨?_, ?_, rfl, rfl⟩)
    · decide +kernel
    · decide +kernel
  exact Actor.answers_independent_of_others a ha m m' hm qs

end Hanbova
