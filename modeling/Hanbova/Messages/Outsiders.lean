import Hanbova.Messages.System
import Hanbova.Messages.Views
import Hanbova.Library.Service

/-! What a user learns about the messages of others, and what the user's requests do to them: two
repositories that differ only there, served the same requests. -/
namespace Hanbova

open Library Library.Text
open InMemoryUserRepository (Users)
open InMemoryProtectedMessageRepository (Messages)
open InMemoryPaymentIntentRepository (Storage)

/-- A request of one user, with what it meets outside the repository: the accounts and payments of
the moment, the identifier it draws and the clock it reads. -/
inductive MessageQuery
  | inbox (order : List Uuid)
  | outbox (order : List Uuid)
  | getById (id : Uuid)
  | create (users : Users) (payments : Storage) (payload : CreateProtectedMessageRequest)
      (id : Uuid) (now : DateTime)
  | ack (id : Uuid) (payload : AcknowledgeMessageRequest) (now : DateTime)

inductive MessageAnswer
  | listed (answer : List ProtectedMessageResponse)
  | one (answer : Except ApiError ProtectedMessageResponse)
  | acknowledged (answer : Except ApiError AcknowledgeMessageResponse)
  deriving DecidableEq

/-- The identifier that a request would store a message under. -/
def MessageQuery.newId : MessageQuery → Option Uuid
  | .create _ _ _ id _ => some id
  | _ => none

namespace AuthUser

/-- The message was not sent by the user and is not for the user. -/
def Outside (u : AuthUser) (row : ProtectedMessageRow) : Prop :=
  row.senderUserId ≠ u.userId ∧ row.recipientUserId ≠ u.userId

instance (u : AuthUser) (row : ProtectedMessageRow) : Decidable (u.Outside row) :=
  inferInstanceAs (Decidable (_ ∧ _))

/-- The rows are one and the same, or neither concerns the user. -/
def Twins (u : AuthUser) (r r' : ProtectedMessageRow) : Prop :=
  Indistinct u.Outside (fun _ _ => True) r r'

/-- `create_protected_message_handler` run without interruption. -/
def createMessage (T : CaseTable) (u : AuthUser) (messages : Messages) (users : Users)
    (payments : Storage) (payload : CreateProtectedMessageRequest) (id : Uuid) (now : DateTime) :
    Except ApiError ProtectedMessageResponse × Messages :=
  match CreateProtectedMessage.run T users payments u payload id now with
  | .error e => (.error e, messages)
  | .ok row => (.ok (.ofRow row), InMemoryProtectedMessageRepository.saveMessage messages row)

/-- `ack_message_handler` run without interruption. -/
def ackMessage (u : AuthUser) (messages : Messages) (id : Uuid)
    (payload : AcknowledgeMessageRequest) (now : DateTime) :
    Except ApiError AcknowledgeMessageResponse × Messages :=
  match AckMessage.readAndCheck messages u id payload with
  | .error e => (.error e, messages)
  | .ok p => AckMessage.write messages p now

/-- The answer to one request of the user, and the messages it leaves. -/
def serve (T : CaseTable) (u : AuthUser) (messages : Messages) :
    MessageQuery → MessageAnswer × Messages
  | .inbox order => (.listed (getInbox messages order u), messages)
  | .outbox order => (.listed (getOutbox messages order u), messages)
  | .getById id => (.one (getMessageById messages u id), messages)
  | .create users payments payload id now =>
    let (answer, messages') := createMessage T u messages users payments payload id now
    (.one answer, messages')
  | .ack id payload now =>
    let (answer, messages') := ackMessage u messages id payload now
    (.acknowledged answer, messages')

variable {T : CaseTable} {u : AuthUser} {m m' : Messages}

theorem inbox_congr (h : Table.Alike u.Twins m m') (order : List Uuid) :
    getInbox m order u = getInbox m' order u := by
  have hfails : ∀ r, u.Outside r → (r.recipientUserId == u.userId) = false := by
    intro r hr
    simpa using hr.2
  unfold getInbox InMemoryProtectedMessageRepository.findInboxByUserId
  rw [filter_eq_of_forall₂ (h.listed order) fun _ _ hr => hr.eq_or_fails hfails]

theorem outbox_congr (h : Table.Alike u.Twins m m') (order : List Uuid) :
    getOutbox m order u = getOutbox m' order u := by
  have hfails : ∀ r, u.Outside r → (r.senderUserId == u.userId) = false := by
    intro r hr
    simpa using hr.1
  unfold getOutbox InMemoryProtectedMessageRepository.findOutboxByUserId
  rw [filter_eq_of_forall₂ (h.listed order) fun _ _ hr => hr.eq_or_fails hfails]

theorem getById_congr (h : Table.Alike u.Twins m m') (id : Uuid) :
    getMessageById m u id = getMessageById m' u id := by
  unfold getMessageById InMemoryProtectedMessageRepository.findMessageById
  rcases h.lookup_cases id with ⟨hm, hm'⟩ | ⟨r, r', hm, hm', rfl | ⟨hr, hr', -⟩⟩
  · rw [hm, hm']
  · rw [hm, hm']
  · unfold Outside at hr hr'
    simp only [hm, hm']
    rw [if_pos hr, if_pos hr']

/-- A message is stored in both repositories, or the request is refused with the same words. -/
theorem createMessage_twin (m m' : Messages) (users : Users) (payments : Storage)
    (payload : CreateProtectedMessageRequest) (id : Uuid) (now : DateTime) :
    (∃ e, createMessage T u m users payments payload id now = (.error e, m) ∧
      createMessage T u m' users payments payload id now = (.error e, m')) ∨
    ∃ row n n' answer, createMessage T u m users payments payload id now = (answer, n) ∧
      createMessage T u m' users payments payload id now = (answer, n') ∧
      Table.SetAt m id row n ∧ Table.SetAt m' id row n' := by
  unfold createMessage
  cases hr : CreateProtectedMessage.run T users payments u payload id now with
  | error e => exact .inl ⟨e, rfl, rfl⟩
  | ok row =>
    have hid : row.id = id := by
      obtain ⟨-, -, rfl⟩ := CreateProtectedMessage.run_ok hr
      rfl
    subst hid
    exact .inr ⟨row, _, _, _, rfl, rfl, InMemoryProtectedMessageRepository.setAt_save m row,
      InMemoryProtectedMessageRepository.setAt_save m' row⟩

/-- An acknowledgement is refused with the same words over both repositories, or made to the same
row of both, which concerns the user. -/
theorem ackMessage_twin (h : Table.Alike u.Twins m m') (id : Uuid)
    (payload : AcknowledgeMessageRequest) (now : DateTime) :
    (∃ e, ackMessage u m id payload now = (.error e, m) ∧
      ackMessage u m' id payload now = (.error e, m')) ∨
    ∃ r row n n' answer, ackMessage u m id payload now = (answer, n) ∧
      ackMessage u m' id payload now = (answer, n') ∧ m.lookup id = some r ∧
      m'.lookup id = some r ∧ ¬ u.Outside r ∧ Table.SetAt m id row n ∧
      Table.SetAt m' id row n' := by
  unfold ackMessage AckMessage.readAndCheck InMemoryProtectedMessageRepository.findMessageById
  rcases h.lookup_cases id with ⟨hm, hm'⟩ | ⟨r, r', hm, hm', rfl | ⟨hr, hr', -⟩⟩
  · left
    simp only [hm, hm']
    exact ⟨_, rfl, rfl⟩
  · simp only [hm, hm']
    by_cases hout : r.senderUserId ≠ u.userId ∧ r.recipientUserId ≠ u.userId
    · left
      rw [if_pos hout]
      exact ⟨_, rfl, rfl⟩
    · rw [if_neg hout]
      cases AckMessage.checkRole u r (payload.status.getD "acknowledged") with
      | error e => exact .inl ⟨e, rfl, rfl⟩
      | ok _ =>
        simp only [AckMessage.write, InMemoryProtectedMessageRepository.updateMessageStatus]
        cases allowedMessageSources (payload.status.getD "acknowledged") with
        | error e => exact .inl ⟨e, rfl, rfl⟩
        | ok allowed =>
          simp only [hm, hm']
          by_cases hc : (!allowed.contains r.status) = true
          · rw [if_pos hc, if_pos hc]
            exact .inl ⟨_, rfl, rfl⟩
          · rw [if_neg hc, if_neg hc]
            exact .inr ⟨r, _, _, _, _, rfl, rfl, rfl, rfl, hout, Table.setAt_insert _ _ _,
              Table.setAt_insert _ _ _⟩
  · left
    unfold Outside at hr hr'
    simp only [hm, hm']
    rw [if_pos hr, if_pos hr']
    exact ⟨_, rfl, rfl⟩

/-- The identifiers that the requests draw are new to the repository, and no two are the same. -/
structure DrawsFresh (qs : List MessageQuery) (m : Messages) : Prop where
  nodup : (qs.filterMap MessageQuery.newId).Nodup
  new : ∀ id ∈ qs.filterMap MessageQuery.newId, m.lookup id = none

theorem DrawsFresh.head {q : MessageQuery} {qs : List MessageQuery}
    (h : DrawsFresh (q :: qs) m) : ∀ id ∈ q.newId, m.lookup id = none := by
  intro id hid
  apply h.new
  rw [List.filterMap_cons, Option.mem_def.mp hid]
  exact List.mem_cons_self

/-- The requests to come still draw new identifiers after the repository has gained at most the
one of the first request. -/
theorem DrawsFresh.tail {q : MessageQuery} {qs : List MessageQuery} {n : Messages}
    (h : DrawsFresh (q :: qs) m)
    (hn : ∀ id, m.lookup id = none → id ∉ q.newId → n.lookup id = none) :
    DrawsFresh qs n := by
  obtain ⟨hnodup, hnew⟩ := h
  cases hq : q.newId with
  | none =>
    rw [List.filterMap_cons, hq] at hnodup hnew
    exact ⟨hnodup, fun id hid => hn id (hnew id hid) (by rw [hq]; simp)⟩
  | some k =>
    rw [List.filterMap_cons, hq] at hnodup hnew
    have hk := List.nodup_cons.mp hnodup
    refine ⟨hk.2, fun id hid => hn id (hnew id (List.mem_cons_of_mem _ hid)) ?_⟩
    rw [hq, Option.mem_some]
    rintro rfl
    exact hk.1 hid

/-- One request over two repositories that differ only in what does not concern the user. -/
theorem serve_twin (h : Table.Alike u.Twins m m') (q : MessageQuery)
    (hq : ∀ id ∈ q.newId, m.lookup id = none) :
    (serve T u m q).1 = (serve T u m' q).1 ∧
      Table.Alike u.Twins (serve T u m q).2 (serve T u m' q).2 ∧
      (∀ id, m.lookup id = none → id ∉ q.newId → (serve T u m q).2.lookup id = none) ∧
      Table.Untouched u.Outside m (serve T u m q).2 ∧
      Table.Untouched u.Outside m' (serve T u m' q).2 := by
  have idle : (∀ id, m.lookup id = none → id ∉ q.newId → m.lookup id = none) ∧
      Table.Untouched u.Outside m m ∧ Table.Untouched u.Outside m' m' :=
    ⟨fun _ hid _ => hid, .refl _ m, .refl _ m'⟩
  cases q with
  | inbox order =>
    simp only [serve, inbox_congr h order]
    exact ⟨trivial, h, idle⟩
  | outbox order =>
    simp only [serve, outbox_congr h order]
    exact ⟨trivial, h, idle⟩
  | getById id =>
    simp only [serve, getById_congr h id]
    exact ⟨trivial, h, idle⟩
  | create users payments payload id now =>
    have hm : m.lookup id = none := hq id rfl
    have hm' : m'.lookup id = none := h.lookup_none id hm
    rcases createMessage_twin (T := T) (u := u) m m' users payments payload id now with
      ⟨e, he, he'⟩ | ⟨row, n, n', answer, hn, hn', hset, hset'⟩
    · simp only [serve, he, he']
      exact ⟨trivial, h, idle⟩
    · simp only [serve, hn, hn']
      refine ⟨trivial, h.set hset hset' (.refl row), ?_, .set hset ?_, .set hset' ?_⟩
      · intro id' hid' hne
        rw [hset.lookup_ne, hid']
        rintro rfl
        exact hne rfl
      · rw [hm]
        simp
      · rw [hm']
        simp
  | ack id payload now =>
    rcases ackMessage_twin h id payload now with
      ⟨e, he, he'⟩ | ⟨r, row, n, n', answer, hn, hn', hm, hm', hr, hset, hset'⟩
    · simp only [serve, he, he']
      exact ⟨trivial, h, idle⟩
    · have visible : ∀ k, some r = some k → ¬ u.Outside k := by
        rintro k hk
        rwa [← Option.some.inj hk]
      simp only [serve, hn, hn']
      refine ⟨trivial, h.set hset hset' (.refl row), ?_, .set hset ?_, .set hset' ?_⟩
      · intro id' hid' _
        rw [hset.lookup_ne, hid']
        rintro rfl
        rw [hm] at hid'
        cases hid'
      · rw [hm]; exact visible
      · rw [hm']; exact visible

/-- A user gets the same answers to any requests from two repositories that differ only in the
messages of others, and changes nothing of those. -/
theorem answers_independent_of_letters (T : CaseTable) (u : AuthUser) (m m' : Messages)
    (h : Table.Alike u.Twins m m') (qs : List MessageQuery) (hqs : DrawsFresh qs m) :
    (serveAll (serve T u) m qs).1 = (serveAll (serve T u) m' qs).1 ∧
      Table.Untouched u.Outside m (serveAll (serve T u) m qs).2 ∧
      Table.Untouched u.Outside m' (serveAll (serve T u) m' qs).2 := by
  apply serveAll_twin (R := fun qs m m' => DrawsFresh qs m ∧ Table.Alike u.Twins m m')
    (Table.Untouched.refl _) Table.Untouched.trans
  · rintro q qs m m' ⟨hfresh, hm⟩
    obtain ⟨ha, hn, hkeys, hout, hout'⟩ := serve_twin (T := T) hm q hfresh.head
    exact ⟨ha, ⟨hfresh.tail hkeys, hn⟩, hout, hout'⟩
  · exact ⟨hqs, h⟩

end AuthUser

/-- Carol, on her own message to Bob and on one between others. -/
theorem answers_independent_of_letters_sample :
    let others (payload : String) : ProtectedMessageRow :=
      { sampleRow with
        id := .ofNat 4
        senderUserId := .ofNat 1
        recipientUserId := .ofNat 5
        encryptedPayload := payload }
    let stored (payload : String) : Messages :=
      Table.insert (Table.insert ∅ (.ofNat 3) sampleRow) (.ofNat 4) (others payload)
    let qs : List MessageQuery := [.outbox [.ofNat 4, .ofNat 3], .getById (.ofNat 4),
      .create sampleUsers ∅ sampleMessage (.ofNat 6) .epoch,
      .ack (.ofNat 4) ⟨some "refunded"⟩ .epoch]
    (serveAll (AuthUser.serve .ascii sampleCarol) (stored "x") qs).1 =
        (serveAll (AuthUser.serve .ascii sampleCarol) (stored "y") qs).1 ∧
      Table.Untouched sampleCarol.Outside (stored "x")
        (serveAll (AuthUser.serve .ascii sampleCarol) (stored "x") qs).2 ∧
      Table.Untouched sampleCarol.Outside (stored "y")
        (serveAll (AuthUser.serve .ascii sampleCarol) (stored "y") qs).2 := by
  intro others stored qs
  have hown : Table.Alike sampleCarol.Twins (Table.insert ∅ (.ofNat 3) sampleRow : Messages)
      (Table.insert ∅ (.ofNat 3) sampleRow) := .refl .refl _
  have hm : Table.Alike sampleCarol.Twins (stored "x") (stored "y") := by
    refine hown.set (Table.setAt_insert _ _ _) (Table.setAt_insert _ _ _)
      (.inr ⟨?_, ?_, trivial⟩)
    · exact ⟨by decide +kernel, by decide +kernel⟩
    · exact ⟨by decide +kernel, by decide +kernel⟩
  have hqs : AuthUser.DrawsFresh qs (stored "x") := by
    refine ⟨List.nodup_singleton _, ?_⟩
    intro id hid
    obtain rfl := List.mem_singleton.mp hid
    decide +kernel
  exact AuthUser.answers_independent_of_letters .ascii sampleCarol _ _ hm qs hqs

end Hanbova
