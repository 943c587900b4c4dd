import Hanbova.Library.Ranking
import Hanbova.Messages.Overtaken
import Hanbova.Messages.System
import Hanbova.Messages.Views

/-! Inbox and outbox: what they hold after a run, and that PostgreSQL fills them like the map. -/
namespace Hanbova

open Library Library.Text
open InMemoryProtectedMessageRepository (Messages findInboxByUserId findOutboxByUserId)

/-- The fields of a message that stay as they were when it was sent. -/
def ProtectedMessageResponse.SameLetter (r r' : ProtectedMessageResponse) : Prop :=
  r' = { r with status := r'.status, acknowledgedAt := r'.acknowledgedAt }

theorem ProtectedMessageRow.SameLetter.ofRow {row row' : ProtectedMessageRow}
    (h : row.SameLetter row') :
    (ProtectedMessageResponse.ofRow row).SameLetter (.ofRow row') := by
  rw [h]
  rfl

/-- The message has been stored, and its sender has been told so. -/
def Sent (es : List MessageEvent) (row : ProtectedMessageRow) : Prop :=
  ∃ answer, .createStored row answer ∈ es

/-- The box holds the messages of this owner, each of them once and the newest ones first. -/
structure Holds (es : List MessageEvent) (owner : ProtectedMessageRow → Uuid) (userId : Uuid)
    (box : List ProtectedMessageResponse) : Prop where
  nodup : (box.map ProtectedMessageResponse.id).Nodup
  sorted : box.Pairwise fun r r' => r'.createdAt ≤ r.createdAt
  complete : ∀ row, Sent es row → owner row = userId →
    ∃ r ∈ box, (ProtectedMessageResponse.ofRow row).SameLetter r
  genuine : ∀ r ∈ box, ∃ row, Sent es row ∧ owner row = userId ∧
    (ProtectedMessageResponse.ofRow row).SameLetter r

/-! ### Stored messages are those that were sent -/

namespace MessageState
variable {T : CaseTable} {s : MessageState} {tr : List (Transition MessageState MessageEvent)}
  {row r : ProtectedMessageRow} {id : Uuid}

theorem Step.stored {users : InMemoryUserRepository.Users}
    {storage : InMemoryPaymentIntentRepository.Storage} {t : MessageState}
    {answer : ProtectedMessageResponse}
    (h : Step T users storage s (.createStored row answer) t) :
    Table.SetAt s.messages row.id row t.messages := by
  cases h with
  | createStored _ => exact InMemoryProtectedMessageRepository.setAt_save _ _

theorem stored_of_sent (h : (messageSystem T).Trace tr s) (hs : Sent (System.labels tr) row) :
    ∃ r, s.messages.lookup row.id = some r ∧ row.SameLetter r := by
  obtain ⟨answer, hlabel⟩ := hs
  obtain ⟨⟨p, e, q⟩, hx, rfl⟩ := System.mem_labels.mp hlabel
  obtain ⟨hreach, hstep, tr', hrun⟩ := h.split hx
  have hq : (messageSystem T).Reachable q := hreach.step hstep
  obtain ⟨users, storage, hl⟩ := hstep
  obtain ⟨r, hr, hlater⟩ := later_of_run hrun hq _ _ hl.stored.lookup_self
  exact ⟨r, hr, hlater.letter⟩

theorem sent_of_stored (h : (messageSystem T).Trace tr s) (hr : s.messages.lookup id = some r) :
    ∃ row, Sent (System.labels tr) row ∧ row.SameLetter r := by
  obtain ⟨s₀, h₀, hrun⟩ := h
  induction hrun generalizing id r with
  | nil =>
    rw [h₀] at hr
    cases hr
  | @snoc tr s t e hrun hl ih =>
    have hmore : ∀ {row}, Sent (System.labels tr) row →
        Sent (System.labels (tr ++ [⟨s, e, t⟩])) row := by
      rintro row ⟨answer, ha⟩
      rw [System.labels_append]
      exact ⟨answer, List.mem_append_left _ ha⟩
    obtain ⟨users, storage, hl⟩ := hl
    rcases hl.messages with he | ⟨row, he, -, hm⟩ |
      ⟨p, now, allowed, row, -, -, -, hp, -, hm⟩
    · obtain ⟨row, hsent, hletter⟩ := ih (he ▸ hr)
      exact ⟨row, hmore hsent, hletter⟩
    · rw [hm id] at hr
      split_ifs at hr
      · obtain rfl := Option.some.inj hr
        exact ⟨row, ⟨.ofRow row, by simp [System.labels, he]⟩, .refl row⟩
      · obtain ⟨row', hsent, hletter⟩ := ih hr
        exact ⟨row', hmore hsent, hletter⟩
    · rw [hm id] at hr
      split_ifs at hr
      · obtain rfl := Option.some.inj hr
        obtain ⟨row', hsent, hletter⟩ := ih hp
        exact ⟨row', hmore hsent, hletter.trans rfl⟩
      · obtain ⟨row', hsent, hletter⟩ := ih hr
        exact ⟨row', hmore hsent, hletter⟩

/-! ### The boxes -/

theorem mem_box {messages : Messages} {order : List Uuid} (ho : messages.Visits order)
    {p : ProtectedMessageRow → Bool} :
    r ∈ newestFirst ProtectedMessageRow.createdAt ((messages.listed order).filter p) ↔
      r ∈ messages.values ∧ p r = true := by
  rw [(newestFirst_perm _ _).mem_iff, List.mem_filter, ho.mem_listed]

theorem holds_box (h : (messageSystem T).Trace tr s) {order : List Uuid}
    (ho : s.messages.Visits order) {owner : ProtectedMessageRow → Uuid}
    (howner : ∀ {row row'}, ProtectedMessageRow.SameLetter row row' → owner row' = owner row)
    (userId : Uuid) :
    Holds (System.labels tr) owner userId
      ((newestFirst ProtectedMessageRow.createdAt
        ((s.messages.listed order).filter fun v => owner v == userId)).map .ofRow) := by
  have hinv := invariant_of_reachable h.reachable
  constructor
  · rw [List.map_map]
    refine ((newestFirst_perm _ _).map _).nodup_iff.mpr ?_
    exact (ho.nodup_listed hinv.inbound.keyed).sublist (List.filter_sublist.map _)
  · exact List.pairwise_map.mpr (newestFirst_pairwise _ _)
  · intro row hsent hrow
    obtain ⟨r, hr, hletter⟩ := stored_of_sent h hsent
    refine ⟨.ofRow r, List.mem_map_of_mem ((mem_box ho).mpr ⟨?_, ?_⟩), hletter.ofRow⟩
    · exact Table.mem_values.mpr ⟨_, hr⟩
    · rw [howner hletter, hrow, beq_self_eq_true]
  · intro answer hanswer
    obtain ⟨r, hr, rfl⟩ := List.mem_map.mp hanswer
    obtain ⟨hvalue, hmine⟩ := (mem_box ho).mp hr
    obtain ⟨id, hid⟩ := Table.mem_values.mp hvalue
    obtain ⟨row, hsent, hletter⟩ := sent_of_stored h hid
    exact ⟨row, hsent, (howner hletter).symm.trans (eq_of_beq hmine), hletter.ofRow⟩

/-- A message can be opened if it is in one of the boxes. -/
theorem getMessageById_ok_iff {messages : Messages} {order : List Uuid}
    (hk : Table.Keyed ProtectedMessageRow.id messages) (ho : messages.Visits order) (u : AuthUser)
    (id : Uuid) (answer : ProtectedMessageResponse) :
    getMessageById messages u id = .ok answer ↔ answer.id = id ∧
      (answer ∈ getInbox messages order u ∨ answer ∈ getOutbox messages order u) := by
  have hboxes : (answer ∈ getInbox messages order u ∨ answer ∈ getOutbox messages order u) ↔
      ∃ r ∈ messages.values, (r.recipientUserId = u.userId ∨ r.senderUserId = u.userId) ∧
        .ofRow r = answer := by
    unfold getInbox getOutbox findInboxByUserId findOutboxByUserId
    simp only [List.mem_map, mem_box ho, beq_iff_eq]
    constructor
    · rintro (⟨r, ⟨hr, hu⟩, he⟩ | ⟨r, ⟨hr, hu⟩, he⟩)
      · exact ⟨r, hr, .inl hu, he⟩
      · exact ⟨r, hr, .inr hu, he⟩
    · rintro ⟨r, hr, hu | hu, he⟩
      · exact .inl ⟨r, ⟨hr, hu⟩, he⟩
      · exact .inr ⟨r, ⟨hr, hu⟩, he⟩
  rw [hboxes]
  unfold getMessageById InMemoryProtectedMessageRepository.findMessageById
  constructor
  · intro h
    cases hl : messages.lookup id with
    | none => simp only [hl, reduceCtorEq] at h
    | some r =>
      simp only [hl] at h
      split_ifs at h with hout
      obtain rfl := Except.ok.inj h
      refine ⟨hk id r hl, r, Table.mem_values.mpr ⟨id, hl⟩, ?_, rfl⟩
      tauto
  · rintro ⟨hid, r, hr, hu, rfl⟩
    have hl : messages.lookup id = some r := by
      rw [← hid]
      exact hk.lookup hr
    simp only [hl]
    refine if_neg ?_
    tauto

end MessageState

open MessageState in
/-- After any interleaving of requests a user's inbox holds the messages that were sent to the
user, the outbox those that the user sent, and these two together are what the user can open. -/
theorem mailboxes_are_exact {T : CaseTable} {tr : List (Transition MessageState MessageEvent)}
    {s : MessageState} (h : (messageSystem T).Trace tr s) {order : List Uuid}
    (ho : s.messages.Visits order) (u : AuthUser) :
    Holds (System.labels tr) ProtectedMessageRow.recipientUserId u.userId
        (getInbox s.messages order u) ∧
      Holds (System.labels tr) ProtectedMessageRow.senderUserId u.userId
        (getOutbox s.messages order u) ∧
      ∀ id answer, getMessageById s.messages u id = .ok answer ↔ answer.id = id ∧
        (answer ∈ getInbox s.messages order u ∨ answer ∈ getOutbox s.messages order u) := by
  have hkeyed := (invariant_of_reachable h.reachable).inbound.keyed
  exact ⟨holds_box h ho (fun hl => hl.parties.2.2.2.1) u.userId,
    holds_box h ho (fun hl => hl.parties.2.2.1) u.userId, getMessageById_ok_iff hkeyed ho u⟩

/-- Carol's second message to Bob. -/
def sampleSecondRow : ProtectedMessageRow :=
  CreateProtectedMessage.row sampleAddressed (.ofNat 4) (.ofSeconds 150 (by decide))

def sampleTwice : MessageState :=
  { sampleDelivered with messages := sampleDelivered.messages.insert (.ofNat 4) sampleSecondRow }

open MessageState in
theorem trace_sampleTwice : ∃ tr, (messageSystem .ascii).Trace tr sampleTwice := by
  obtain ⟨tr, h₃, -⟩ := trace_sampleDelivered
  have h₄ :=
    h₃.snoc ⟨sampleUsers, ∅, @Step.createAddressed _ _ _ _ sampleCarol sampleMessage
      sampleAddressed (by decide +kernel)⟩
  have h₅ := h₄.snoc ⟨sampleUsers, ∅, @Step.createLinked _ _ _ _ sampleAddressed (.ofNat 4)
    (.ofSeconds 150 (by decide)) (by decide +kernel) rfl ⟨rfl, by simp [sampleDelivered]⟩⟩
  have h₆ := h₅.snoc
    ⟨sampleUsers, ∅, @Step.createStored _ _ _ _ sampleSecondRow (by decide +kernel)⟩
  exact ⟨_, h₆⟩

/-- Carol's messages to Bob lie in his inbox, the newer one first, and none lies in his outbox. -/
theorem mailboxes_are_exact_sample : ∃ tr, (messageSystem .ascii).Trace tr sampleTwice ∧
    getInbox sampleTwice.messages [.ofNat 3, .ofNat 4] sampleBob =
      [.ofRow sampleSecondRow, .ofRow sampleRow] ∧
    getOutbox sampleTwice.messages [.ofNat 3, .ofNat 4] sampleBob = [] ∧
    Holds (System.labels tr) ProtectedMessageRow.recipientUserId sampleBob.userId
      (getInbox sampleTwice.messages [.ofNat 3, .ofNat 4] sampleBob) ∧
    Holds (System.labels tr) ProtectedMessageRow.senderUserId sampleBob.userId
      (getOutbox sampleTwice.messages [.ofNat 3, .ofNat 4] sampleBob) := by
  obtain ⟨tr, h⟩ := trace_sampleTwice
  have ho : sampleTwice.messages.Visits [.ofNat 3, .ofNat 4] := List.Perm.swap _ _ _
  obtain ⟨hinbox, houtbox, -⟩ := mailboxes_are_exact h ho sampleBob
  exact ⟨tr, h, by decide +kernel, by decide +kernel, hinbox, houtbox⟩

/-! ### The boxes in PostgreSQL -/

namespace PgProtectedMessageRepository

/-- `WHERE … = $1 ORDER BY created_at DESC`, over rows that are scanned in the given order. -/
def findByOwner (owner : ProtectedMessageRow → Uuid) (rows : Messages) (order : List Uuid)
    (userId : Uuid) : List ProtectedMessageRow :=
  newestFirst ProtectedMessageRow.createdAt
    ((rows.listed order).filter fun row => owner row == userId)

def findInboxByUserId (rows : Messages) (order : List Uuid) (recipientUserId : Uuid) :
    List ProtectedMessageRow :=
  findByOwner ProtectedMessageRow.recipientUserId rows order recipientUserId

def findOutboxByUserId (rows : Messages) (order : List Uuid) (senderUserId : Uuid) :
    List ProtectedMessageRow :=
  findByOwner ProtectedMessageRow.senderUserId rows order senderUserId

variable {P : MessagePrecision} {rows messages : Messages} {order order' : List Uuid}
  {owner : ProtectedMessageRow → Uuid}

theorem Stores.listed (hs : Stores P rows messages) (order : List Uuid) :
    rows.listed order = (messages.listed order).map (ProtectedMessageRow.rounded P) := by
  rw [Table.listed, Table.listed, List.map_filterMap]
  exact List.filterMap_congr fun id _ => hs id

theorem Stores.visits (hs : Stores P rows messages) (h : rows.Visits order) :
    messages.Visits order := by
  refine h.trans ((List.perm_ext_iff_of_nodup rows.keys_nodup messages.keys_nodup).mpr
    fun id => ?_)
  rw [AList.mem_keys.symm, AList.mem_keys.symm, ← AList.lookup_isSome,
    ← AList.lookup_isSome, hs id,
    Option.isSome_map]

theorem Stores.filter_listed (hs : Stores P rows messages)
    (howner : ∀ row, owner (row.rounded P) = owner row) (order : List Uuid) (userId : Uuid) :
    (rows.listed order).filter (fun row => owner row == userId) =
      ((messages.listed order).filter fun row => owner row == userId).map
        (ProtectedMessageRow.rounded P) := by
  rw [hs.listed, List.filter_map]
  congr 2
  funext row
  simp only [Function.comp_apply, howner]

/-- A box of the database has the messages of the one in memory, as the columns take them. -/
theorem Stores.box_perm (hs : Stores P rows messages) (ho : rows.Visits order)
    (ho' : messages.Visits order') (howner : ∀ row, owner (row.rounded P) = owner row)
    (userId : Uuid) : (findByOwner owner rows order userId).Perm
      ((newestFirst ProtectedMessageRow.createdAt
        ((messages.listed order').filter fun row => owner row == userId)).map
        (ProtectedMessageRow.rounded P)) := by
  have hlisted := (hs.visits ho).perm_values.trans ho'.perm_values.symm
  unfold findByOwner
  rw [hs.filter_listed howner]
  exact (newestFirst_perm _ _).trans
    (((hlisted.filter _).map _).trans ((newestFirst_perm _ _).map _).symm)

/-- They stand in the same order when the column tells all messages apart. -/
theorem Stores.box_eq (hs : Stores P rows messages) (ho : rows.Visits order)
    (ho' : messages.Visits order') (howner : ∀ row, owner (row.rounded P) = owner row)
    (hP : Monotone P.createdAt)
    (hd : Set.InjOn (fun row => P.createdAt row.createdAt) {row | row ∈ messages.values})
    (userId : Uuid) : findByOwner owner rows order userId =
      (newestFirst ProtectedMessageRow.createdAt
        ((messages.listed order').filter fun row => owner row == userId)).map
        (ProtectedMessageRow.rounded P) := by
  have hperm := hs.box_perm ho ho' howner userId
  have hmem : ∀ {row}, row ∈ newestFirst ProtectedMessageRow.createdAt
      ((messages.listed order').filter fun row => owner row == userId) →
      row ∈ messages.values := fun hr => (MessageState.mem_box ho').mp hr |>.1
  refine perm_descending_eq (newestFirst_pairwise _ _) ?_ hperm ?_
  · refine List.pairwise_map.mpr ((newestFirst_pairwise _ _).imp ?_)
    exact fun h => hP h
  · intro row hrow row' hrow' he
    obtain ⟨r, hr, rfl⟩ := List.mem_map.mp (hperm.mem_iff.mp hrow)
    obtain ⟨r', hr', rfl⟩ := List.mem_map.mp (hperm.mem_iff.mp hrow')
    rw [hd (hmem hr) (hmem hr') he]

/-- The boxes of the database hold what those in memory hold, as the columns take it, and in the
same order if the column tells all messages apart. -/
def BoxesAgree (P : MessagePrecision) (rows messages : Messages) : Prop :=
  ∀ order order', rows.Visits order → messages.Visits order' → ∀ userId,
    (findInboxByUserId rows order userId).Perm
      ((InMemoryProtectedMessageRepository.findInboxByUserId messages order' userId).map
        (ProtectedMessageRow.rounded P)) ∧
    (findOutboxByUserId rows order userId).Perm
      ((InMemoryProtectedMessageRepository.findOutboxByUserId messages order' userId).map
        (ProtectedMessageRow.rounded P)) ∧
    (Set.InjOn (fun row => P.createdAt row.createdAt) {row | row ∈ messages.values} →
      findInboxByUserId rows order userId =
        (InMemoryProtectedMessageRepository.findInboxByUserId messages order' userId).map
          (ProtectedMessageRow.rounded P) ∧
      findOutboxByUserId rows order userId =
        (InMemoryProtectedMessageRepository.findOutboxByUserId messages order' userId).map
          (ProtectedMessageRow.rounded P))

theorem Stores.boxesAgree (hs : Stores P rows messages) (hP : Monotone P.createdAt) :
    BoxesAgree P rows messages :=
  fun _ _ ho ho' userId =>
    ⟨hs.box_perm ho ho' (fun _ => rfl) userId, hs.box_perm ho ho' (fun _ => rfl) userId, fun hd =>
      ⟨hs.box_eq ho ho' (fun _ => rfl) hP hd userId,
        hs.box_eq ho ho' (fun _ => rfl) hP hd userId⟩⟩

end PgProtectedMessageRepository

open PgProtectedMessageRepository (BoxesAgree)

/-- A run of the write-locked map that answers its status updates as `answer` says has the same
calls with the same results, and leaves the same boxes. -/
def MailboxesAgree (answer : Messages → ExecutedUpdate → Except ApiError Unit)
    (P : MessagePrecision) (tr : List (Transition PgMessageState MessageCall))
    (s : PgMessageState) : Prop :=
  ∃ tr' m, (messageMapSystem answer).Trace tr' m ∧
    System.labels tr = (System.labels tr').map (MessageCall.rounded P) ∧
    BoxesAgree P s.rows m.messages

end Hanbova
