import Hanbova.Accounts.PgUsers
import Hanbova.Messages.Refinement
import Hanbova.Messages.System
import Hanbova.Payments.PgService

/-! Message requests over PostgreSQL: whatever statements fail, they do what they do over the
in-memory repositories. -/
namespace Hanbova

open Library Library.Text Library.System
open InMemoryUserRepository (Users)
open InMemoryPaymentIntentRepository (Storage)
open InMemoryProtectedMessageRepository (Messages)
open PgUserRepository (UserRows)
open PgProtectedMessageRepository (Stores)

/-- `Display for sqlx::Error`. -/
def SqlxError.display : SqlxError → String
  | .rowNotFound => "no rows returned by a query that expected to return at least one row"
  | .other message => message

namespace PgAuthService

def findUserByUsername (T : CaseTable) (lower : String → String) (rows : UserRows)
    (username : String) : Except ApiError (Option User) :=
  match PgUserRepository.findByUsernameOrEmail T lower rows
      (AuthService.cleanUsername T username) with
  | .error e => .error (.internal s!"Database error looking up user: {e.display}")
  | .ok found => .ok found

end PgAuthService

namespace PgCreateProtectedMessage

/-- The handler up to the lookup of the recipient. -/
def address (T : CaseTable) (lower : String → String) (users : UserRows) (authUser : AuthUser)
    (payload : CreateProtectedMessageRequest) : Except ApiError AddressedMessage :=
  let cleanRecipient := unprefixed '@' payload.recipientUsername
  match PgAuthService.findUserByUsername T lower users cleanRecipient with
  | .error e => .error e
  | .ok none => .error (.notFound s!"Recipient user '@{cleanRecipient}' does not exist")
  | .ok (some recipient) => .ok { authUser, payload, recipient }

/-- The check of the payment that the message is to be linked to. -/
def link (T : CaseTable) (payments : PgPaymentIntentRepository.Rows) (m : AddressedMessage) :
    Except ApiError Unit :=
  match m.payload.paymentIntentId with
  | none => .ok ()
  | some paymentId =>
    PgPaymentService.validateProtectedMessageLink T payments paymentId m.authUser.userId
      m.authUser.username m.recipient.id m.recipient.username

variable {T : CaseTable} {lower : String → String} {users : Users} {rows : UserRows}

/-- Over a map that is iterated in the order of the rows. -/
theorem address_cases (hlower : ∀ s, lower (T.toLowercase s) = T.toLowercase s)
    (h : Roster T users) (hvalues : users.values = rows) (authUser : AuthUser)
    (payload : CreateProtectedMessageRequest) :
    (∃ message, address T lower rows authUser payload = .error (.internal message)) ∨
      address T lower rows authUser payload =
        CreateProtectedMessage.address T users authUser payload := by
  unfold address PgAuthService.findUserByUsername CreateProtectedMessage.address
    AuthService.findUserByUsername
  simp only
  generalize AuthService.cleanUsername T (unprefixed '@' payload.recipientUsername) = login
  by_cases htext : PgUserRepository.isText (InMemoryUserRepository.cleanLogin T login) = true
  · right
    rw [PgUserRepository.findByUsernameOrEmail_eq hlower h hvalues htext]
    cases InMemoryUserRepository.findByUsernameOrEmail T users login <;> rfl
  · left
    rw [PgUserRepository.findByUsernameOrEmail, if_neg htext]
    exact ⟨_, rfl⟩

theorem link_eq {P : Precision} {payments : PgPaymentIntentRepository.Rows} {storage : Storage}
    (h : PgPaymentIntentRepository.Stores P payments storage) (m : AddressedMessage) :
    link T payments m = CreateProtectedMessage.link storage m := by
  unfold link CreateProtectedMessage.link
  cases m.payload.paymentIntentId with
  | none => rfl
  | some paymentId => exact PgPaymentService.validateProtectedMessageLink_eq h _ _ _ _ _

end PgCreateProtectedMessage

/-! ### The requests -/

/-- An acknowledgement whose `UPDATE` has still to be executed, or has found no row that it may
change. -/
structure SentAck where
  ack : PendingAck
  unmatched : Bool
  deriving DecidableEq

/-- The table, the identifiers drawn so far, and the requests in flight. -/
structure PgMessageCallState where
  rows : Messages
  drawn : List Uuid
  addressed : List AddressedMessage
  creating : List ProtectedMessageRow
  acking : List SentAck

/-- A part of a request is done, an `UPDATE` changes nothing, or a statement fails and ends its
request. -/
inductive PgMessageCallEvent
  | done (e : MessageEvent)
  | unmatched (p : PendingAck)
  | failed (e : SqlxError)

namespace PgMessageCallState

def initial : PgMessageCallState := ⟨∅, [], [], [], []⟩

/-- Of the requests in flight some have ended, and nothing else has happened. -/
structure Lost (s t : PgMessageCallState) : Prop where
  rows : t.rows = s.rows
  drawn : t.drawn = s.drawn
  addressed : t.addressed.Sublist s.addressed
  creating : t.creating.Sublist s.creating
  acking : t.acking.Sublist s.acking

/-- The steps of `MessageState.Step` over the tables. Any statement may fail at any time. -/
inductive Step (T : CaseTable) (lower : String → String) (Q : MessagePrecision)
    (users : UserRows) (payments : PgPaymentIntentRepository.Rows) :
    PgMessageCallState → PgMessageCallEvent → PgMessageCallState → Prop
  | failed {s t} (e : SqlxError) : Lost s t → Step T lower Q users payments s (.failed e) t
  | createRefused {s authUser payload e} :
      PgCreateProtectedMessage.address T lower users authUser payload = .error e →
      Step T lower Q users payments s (.done (.createRefused authUser payload e)) s
  | createAddressed {s authUser payload m} :
      PgCreateProtectedMessage.address T lower users authUser payload = .ok m →
      Step T lower Q users payments s (.done (.createAddressed m))
        { s with addressed := m :: s.addressed }
  | createUnlinked {s m e} :
      m ∈ s.addressed → PgCreateProtectedMessage.link T payments m = .error e →
      Step T lower Q users payments s (.done (.createUnlinked m e))
        { s with addressed := s.addressed.erase m }
  | createLinked {s m id now} :
      m ∈ s.addressed → PgCreateProtectedMessage.link T payments m = .ok () →
      id ∉ s.drawn →
      Step T lower Q users payments s
        (.done (.createLinked m (CreateProtectedMessage.row m id now)))
        { s with
          drawn := id :: s.drawn
          addressed := s.addressed.erase m
          creating := CreateProtectedMessage.row m id now :: s.creating }
  | createStored {s row} :
      row ∈ s.creating → s.rows.lookup row.id = none →
      Step T lower Q users payments s (.done (.createStored row (.ofRow row)))
        { s with
          rows := PgProtectedMessageRepository.saveMessage Q s.rows row
          creating := s.creating.erase row }
  | ackRefused {s authUser id payload e} :
      AckMessage.readAndCheck s.rows authUser id payload = .error e →
      Step T lower Q users payments s (.done (.ackRefused authUser id payload e)) s
  | ackChecked {s authUser id payload p} :
      AckMessage.readAndCheck s.rows authUser id payload = .ok p →
      Step T lower Q users payments s (.done (.ackChecked p))
        { s with acking := ⟨p, false⟩ :: s.acking }
  | ackRejected {s p e} (now : DateTime) :
      ⟨p, false⟩ ∈ s.acking → allowedMessageSources p.newStatus = .error e →
      Step T lower Q users payments s (.done (.ackWritten p now (.error e)))
        { s with acking := s.acking.erase ⟨p, false⟩ }
  | ackMatched {s p now allowed rows affected} :
      ⟨p, false⟩ ∈ s.acking → allowedMessageSources p.newStatus = .ok allowed →
      PgProtectedMessageRepository.updateMatching Q s.rows p.id p.newStatus allowed now =
        (rows, affected) →
      affected ≠ 0 →
      Step T lower Q users payments s
        (.done (.ackWritten p now (.ok ⟨p.id, p.newStatus, true⟩)))
        { s with rows, acking := s.acking.erase ⟨p, false⟩ }
  | ackUnmatched {s p now allowed rows} :
      ⟨p, false⟩ ∈ s.acking → allowedMessageSources p.newStatus = .ok allowed →
      PgProtectedMessageRepository.updateMatching Q s.rows p.id p.newStatus allowed now =
        (rows, 0) →
      Step T lower Q users payments s (.unmatched p)
        { s with rows, acking := ⟨p, true⟩ :: s.acking.erase ⟨p, false⟩ }
  | ackAnswered {s p e} (now : DateTime) :
      ⟨p, true⟩ ∈ s.acking →
      PgProtectedMessageRepository.outcome s.rows p.id 0 = .error e →
      Step T lower Q users payments s (.done (.ackWritten p now (.error e)))
        { s with acking := s.acking.erase ⟨p, true⟩ }

end PgMessageCallState

/-! ### What shows of a step -/

def PendingAck.rounded (Q : MessagePrecision) (p : PendingAck) : PendingAck :=
  { p with message := p.message.rounded Q }

/-- A message is answered as it has been created, and read with the times of the columns. -/
def MessageEvent.rounded (Q : MessagePrecision) : MessageEvent → MessageEvent
  | .ackChecked p => .ackChecked (p.rounded Q)
  | .ackWritten p now answer => .ackWritten (p.rounded Q) now answer
  | e => e

/-- How a request gets on shows, but no failure of the database. -/
def PgMessageCallEvent.shown : PgMessageCallEvent → Option MessageEvent
  | .done (.createRefused _ _ (.internal _)) => none
  | .done e => some e
  | .unmatched _ => none
  | .failed _ => none

/-- A refusal that the database has no part in shows. -/
theorem PgMessageCallEvent.shown_refused {T : CaseTable} {users : Users} {authUser : AuthUser}
    {payload : CreateProtectedMessageRequest} {fault : ApiError}
    (h : CreateProtectedMessage.address T users authUser payload = .error fault) :
    (done (.createRefused authUser payload fault)).shown =
      some (.createRefused authUser payload fault) := by
  simp only [CreateProtectedMessage.address] at h
  cases hf : AuthService.findUserByUsername T users
    (unprefixed '@' payload.recipientUsername) with
  | none =>
    rw [hf] at h
    obtain rfl := Except.error.inj h
    rfl
  | some recipient => simp [hf] at h

namespace AckMessage
variable {Q : MessagePrecision} {rows messages : Messages}

/-- The snapshot has the times of the columns. -/
theorem readAndCheck_rounded (h : Stores Q rows messages) (authUser : AuthUser) (id : Uuid)
    (payload : AcknowledgeMessageRequest) : readAndCheck rows authUser id payload =
      (readAndCheck messages authUser id payload).map (PendingAck.rounded Q) := by
  unfold readAndCheck InMemoryProtectedMessageRepository.findMessageById
  rw [h id]
  cases messages.lookup id with
  | none => rfl
  | some message =>
    have hrole : ∀ status, checkRole authUser (message.rounded Q) status =
        checkRole authUser message status := fun _ => rfl
    simp only [Option.map_some, hrole]
    show (if message.senderUserId ≠ authUser.userId ∧
        message.recipientUserId ≠ authUser.userId then _ else _) = _
    split_ifs
    · rfl
    · cases checkRole authUser message (payload.status.getD "acknowledged") <;> rfl

end AckMessage

/-! ### The simulation -/

/-- The message is stored, and has got too far for the acknowledgement. -/
def PendingAck.Late (messages : Messages) (p : PendingAck) : Prop :=
  ∃ allowed row, allowedMessageSources p.newStatus = .ok allowed ∧
    messages.lookup p.id = some row ∧ row.status ∉ allowed

namespace PendingAck
variable {messages messages' : Messages} {p : PendingAck}

theorem Late.evolves (h : p.Late messages)
    (hstatus : ∀ id r, messages.lookup id = some r → ∃ d : Delivery, d.name = r.status)
    (he : Table.Evolves ProtectedMessageRow.Later messages messages') : p.Late messages' := by
  obtain ⟨allowed, row, ha, hl, hn⟩ := h
  obtain ⟨row', hl', hlater⟩ := he _ _ hl
  obtain ⟨d, hd⟩ := hstatus _ _ hl
  exact ⟨allowed, row', ha, hl', hlater.status.not_allowed hd ha hn⟩

theorem Late.write (h : p.Late messages) (now : DateTime) :
    AckMessage.write messages p now = (.error MessageMapState.conflict, messages) := by
  obtain ⟨allowed, row, ha, hl, hn⟩ := h
  simp [AckMessage.write, InMemoryProtectedMessageRepository.updateMessageStatus, ha, hl, hn,
    MessageMapState.conflict]

end PendingAck

namespace PgMessageCallState
variable {T : CaseTable} {lower : String → String} {P : Precision} {Q : MessagePrecision}
variable {users : Users} {rows : UserRows} {payments : PgPaymentIntentRepository.Rows}
variable {storage : Storage} {s t : PgMessageCallState} {s' : MessageState}
variable {e : PgMessageCallEvent}

/-- The table holds the messages of the map. Requests that a failure has ended are still in flight
over the map. -/
structure Refines (Q : MessagePrecision) (s : PgMessageCallState) (s' : MessageState) : Prop where
  rows : Stores Q s.rows s'.messages
  drawn : Table.Drawn ProtectedMessageRow.id s'.messages s'.creating s.drawn
  addressed : s.addressed.Subperm s'.addressed
  creating : s.creating.Subperm s'.creating
  acking : (s.acking.map SentAck.ack).Subperm (s'.acking.map (PendingAck.rounded Q))
  late : ∀ a ∈ s.acking, a.unmatched = true → a.ack.Late s'.messages
  invariant : s'.Invariant

theorem refines_initial : Refines Q .initial .initial where
  rows _ := rfl
  drawn _ _ := ⟨rfl, by simp [MessageState.initial]⟩
  addressed := List.Subperm.refl _
  creating := List.Subperm.refl _
  acking := List.Subperm.refl _
  late a ha := by cases ha
  invariant := MessageState.invariant_initial

theorem Refines.lost (h : Refines Q s s') (hl : Lost s t) : Refines Q t s' where
  rows := hl.rows ▸ h.rows
  drawn := hl.drawn ▸ h.drawn
  addressed := hl.addressed.subperm.trans h.addressed
  creating := hl.creating.subperm.trans h.creating
  acking := (hl.acking.map _).subperm.trans h.acking
  late a ha := h.late a (hl.acking.subset ha)
  invariant := h.invariant

/-- The step of the in-memory repository that the step `e` comes down to. -/
def Matched (T : CaseTable) (Q : MessagePrecision) (users : Users) (storage : Storage)
    (s' : MessageState) (e : PgMessageCallEvent) (t : PgMessageCallState) : Prop :=
  (e.shown = none ∧ Refines Q t s') ∨
    ∃ l t', MessageState.Step T users storage s' l t' ∧ e.shown = some (l.rounded Q) ∧
      Refines Q t t'

theorem Refines.refused (h : Refines Q s s')
    (hlower : ∀ s, lower (T.toLowercase s) = T.toLowercase s) (hroster : Roster T users)
    (hvalues : users.values = rows) {authUser : AuthUser}
    {payload : CreateProtectedMessageRequest} {fault : ApiError}
    (ha : PgCreateProtectedMessage.address T lower rows authUser payload = .error fault) :
    Matched T Q users storage s' (.done (.createRefused authUser payload fault)) s := by
  rcases PgCreateProtectedMessage.address_cases hlower hroster hvalues authUser payload with
    ⟨message, he⟩ | heq
  · obtain rfl := Except.error.inj (ha.symm.trans he)
    exact .inl ⟨rfl, h⟩
  · have ha' := heq.symm.trans ha
    exact .inr ⟨_, s', .createRefused ha', PgMessageCallEvent.shown_refused ha', h⟩

theorem Refines.sent (h : Refines Q s s')
    (hlower : ∀ s, lower (T.toLowercase s) = T.toLowercase s) (hroster : Roster T users)
    (hvalues : users.values = rows) {authUser : AuthUser}
    {payload : CreateProtectedMessageRequest} {m : AddressedMessage}
    (ha : PgCreateProtectedMessage.address T lower rows authUser payload = .ok m) :
    Matched T Q users storage s' (.done (.createAddressed m))
      { s with addressed := m :: s.addressed } := by
  rcases PgCreateProtectedMessage.address_cases hlower hroster hvalues authUser payload with
    ⟨message, he⟩ | heq
  · cases ha.symm.trans he
  · have hstep : MessageState.Step T users storage s' _ _ :=
      .createAddressed (heq.symm.trans ha)
    exact .inr ⟨_, _, hstep, rfl,
      { h with
        addressed := (List.subperm_cons _).mpr h.addressed
        invariant := hstep.invariant h.invariant }⟩

theorem Refines.linked (h : Refines Q s s')
    (hpayments : PgPaymentIntentRepository.Stores P payments storage) {m : AddressedMessage}
    {id : Uuid} {now : DateTime} (hm : m ∈ s.addressed)
    (hlink : PgCreateProtectedMessage.link T payments m = .ok ()) (hid : id ∉ s.drawn) :
    Matched T Q users storage s'
      (.done (.createLinked m (CreateProtectedMessage.row m id now)))
      { s with
        drawn := id :: s.drawn
        addressed := s.addressed.erase m
        creating := CreateProtectedMessage.row m id now :: s.creating } := by
  rw [PgCreateProtectedMessage.link_eq hpayments] at hlink
  have hstep : MessageState.Step T users storage s'
      (.createLinked m (CreateProtectedMessage.row m id now)) _ :=
    .createLinked (h.addressed.subset hm) hlink (h.drawn id hid)
  exact .inr ⟨_, _, hstep, rfl,
    { h with
      drawn := h.drawn.cons (CreateProtectedMessage.row m id now)
      addressed := h.addressed.erase m
      creating := (List.subperm_cons _).mpr h.creating
      invariant := hstep.invariant h.invariant }⟩

theorem Refines.stored (h : Refines Q s s') {row : ProtectedMessageRow} (hr : row ∈ s.creating) :
    Matched T Q users storage s' (.done (.createStored row (.ofRow row)))
      { s with
        rows := PgProtectedMessageRepository.saveMessage Q s.rows row
        creating := s.creating.erase row } := by
  have hr' := h.creating.subset hr
  have hset := InMemoryProtectedMessageRepository.setAt_save s'.messages row
  have hstep : MessageState.Step T users storage s' _ _ := .createStored hr'
  exact .inr ⟨_, _, hstep, rfl,
    { h with
      rows := h.rows.set (Table.setAt_insert _ _ _) hset
      drawn := h.drawn.store hr' hset
      creating := h.creating.erase row
      late := fun a ha hu => (h.late a ha hu).evolves h.invariant.status (hstep.evolves h.invariant)
      invariant := hstep.invariant h.invariant }⟩

theorem Refines.checked (h : Refines Q s s') {authUser : AuthUser} {id : Uuid}
    {payload : AcknowledgeMessageRequest} {p : PendingAck}
    (hc : AckMessage.readAndCheck s.rows authUser id payload = .ok p) :
    Matched T Q users storage s' (.done (.ackChecked p))
      { s with acking := ⟨p, false⟩ :: s.acking } := by
  rw [AckMessage.readAndCheck_rounded h.rows] at hc
  cases hc' : AckMessage.readAndCheck s'.messages authUser id payload with
  | error fault => simp [hc', Except.map] at hc
  | ok p' =>
    rw [hc'] at hc
    obtain rfl := Except.ok.inj hc
    have hstep : MessageState.Step T users storage s' _ _ := .ackChecked hc'
    refine .inr ⟨_, _, hstep, rfl,
      { h with
        acking := (List.subperm_cons _).mpr h.acking
        late := fun a ha hu => ?_
        invariant := hstep.invariant h.invariant }⟩
    rcases List.mem_cons.mp ha with rfl | ha
    · cases hu
    · exact h.late a ha hu

theorem Refines.checkRefused (h : Refines Q s s') {authUser : AuthUser} {id : Uuid}
    {payload : AcknowledgeMessageRequest} {fault : ApiError}
    (hc : AckMessage.readAndCheck s.rows authUser id payload = .error fault) :
    Matched T Q users storage s' (.done (.ackRefused authUser id payload fault)) s := by
  rw [AckMessage.readAndCheck_rounded h.rows] at hc
  cases hc' : AckMessage.readAndCheck s'.messages authUser id payload with
  | ok p' => simp [hc', Except.map] at hc
  | error fault' =>
    rw [hc'] at hc
    obtain rfl := Except.error.inj hc
    exact .inr ⟨_, s', .ackRefused hc', rfl, h⟩

/-- An acknowledgement is answered as the write-locked map answers it. -/
theorem Refines.answered (h : Refines Q s s') {a : SentAck} (ha : a ∈ s.acking) {now : DateTime}
    {answer : Except ApiError AcknowledgeMessageResponse} {messages rows' : Messages}
    (hw : AckMessage.write s'.messages a.ack now = (answer, messages))
    (hrows : Stores Q rows' messages)
    (hkept : ∀ k, s'.messages.lookup k = none → messages.lookup k = none) :
    Matched T Q users storage s' (.done (.ackWritten a.ack now answer))
      { s with rows := rows', acking := s.acking.erase a } := by
  obtain ⟨p', hp', hround, hacking⟩ := subperm_exists_erase h.acking ha
  -- the write does not look at the snapshot
  have hw' : AckMessage.write s'.messages p' now = (answer, messages) := by
    rw [← hw, ← hround]
    rfl
  have hstep : MessageState.Step T users storage s' _ _ := .ackWritten hp' hw'
  refine .inr ⟨_, _, hstep, ?_,
    { h with
      rows := hrows
      drawn := h.drawn.congr hkept
      acking := hacking
      late := fun b hb hu => (h.late b (List.mem_of_mem_erase hb) hu).evolves h.invariant.status
        (hstep.evolves h.invariant)
      invariant := hstep.invariant h.invariant }⟩
  rw [← hround]
  rfl

theorem Refines.rejected (h : Refines Q s s') {p : PendingAck} {fault : ApiError} (now : DateTime)
    (hp : ⟨p, false⟩ ∈ s.acking) (ha : allowedMessageSources p.newStatus = .error fault) :
    Matched T Q users storage s' (.done (.ackWritten p now (.error fault)))
      { s with acking := s.acking.erase ⟨p, false⟩ } := by
  refine h.answered (a := ⟨p, false⟩) hp ?_ h.rows fun _ hk => hk
  rw [AckMessage.write, InMemoryProtectedMessageRepository.updateMessageStatus, ha]

/-- The `UPDATE` finds its message. -/
theorem Refines.exists_row (h : Refines Q s s') {a : SentAck} (ha : a ∈ s.acking) :
    ∃ row, s'.messages.lookup a.ack.id = some row ∧
      s.rows.lookup a.ack.id = some (row.rounded Q) := by
  obtain ⟨p', hp', hround, -⟩ := subperm_exists_erase h.acking ha
  obtain ⟨row, hl, -⟩ := h.invariant.permitted p' hp'
  have hid : p'.id = a.ack.id := by rw [← hround]; rfl
  rw [hid] at hl
  exact ⟨row, hl, by rw [h.rows, hl]; rfl⟩

theorem Refines.matched (h : Refines Q s s') {p : PendingAck} {now : DateTime}
    {allowed : List String} {rows' : Messages} {affected : ℕ} (hp : ⟨p, false⟩ ∈ s.acking)
    (ha : allowedMessageSources p.newStatus = .ok allowed)
    (hu : PgProtectedMessageRepository.updateMatching Q s.rows p.id p.newStatus allowed now =
      (rows', affected)) (hne : affected ≠ 0) :
    Matched T Q users storage s' (.done (.ackWritten p now (.ok ⟨p.id, p.newStatus, true⟩)))
      { s with rows := rows', acking := s.acking.erase ⟨p, false⟩ } := by
  obtain ⟨row, hl, hl'⟩ := h.exists_row hp
  by_cases hr : row.status ∈ allowed
  · rw [PgProtectedMessageRepository.updateMatching_of_allowed hl' hr,
      PgProtectedMessageRepository.reported_rounded] at hu
    obtain ⟨rfl, -⟩ := Prod.mk.inj hu
    have hw : AckMessage.write s'.messages p now = (.ok ⟨p.id, p.newStatus, true⟩,
        s'.messages.insert p.id
          (InMemoryProtectedMessageRepository.reported row p.newStatus now)) := by
      simp [AckMessage.write, InMemoryProtectedMessageRepository.updateMessageStatus, ha, hl, hr]
    refine h.answered (a := ⟨p, false⟩) hp hw
      (h.rows.set (Table.setAt_insert _ _ _) (Table.setAt_insert _ _ _)) fun k hk => ?_
    rw [(Table.setAt_insert _ _ _).lookup_ne, hk]
    rintro rfl
    cases hl.symm.trans hk
  · rw [PgProtectedMessageRepository.updateMatching_of_not_allowed hl' hr] at hu
    exact absurd (Prod.mk.inj hu).2.symm hne

/-- What an `UPDATE` leaves alone has got too far. -/
theorem Refines.unmatched (h : Refines Q s s') {p : PendingAck} {now : DateTime}
    {allowed : List String} {rows' : Messages} (hp : ⟨p, false⟩ ∈ s.acking)
    (ha : allowedMessageSources p.newStatus = .ok allowed)
    (hu : PgProtectedMessageRepository.updateMatching Q s.rows p.id p.newStatus allowed now =
      (rows', 0)) :
    Refines Q
      { s with rows := rows', acking := ⟨p, true⟩ :: s.acking.erase ⟨p, false⟩ } s' := by
  obtain ⟨row, hl, hl'⟩ := h.exists_row hp
  by_cases hr : row.status ∈ allowed
  · rw [PgProtectedMessageRepository.updateMatching_of_allowed hl' hr] at hu
    cases (Prod.mk.inj hu).2
  · rw [PgProtectedMessageRepository.updateMatching_of_not_allowed hl' hr] at hu
    obtain ⟨rfl, -⟩ := Prod.mk.inj hu
    refine { h with acking := ?_, late := fun a hmem htrue => ?_ }
    · have hperm := (List.perm_cons_erase hp).map SentAck.ack
      exact hperm.symm.subperm.trans h.acking
    · rcases List.mem_cons.mp hmem with rfl | hmem
      · exact ⟨allowed, row, ha, hl, hr⟩
      · exact h.late a (List.mem_of_mem_erase hmem) htrue

theorem Refines.answeredLate (h : Refines Q s s') {p : PendingAck} {fault : ApiError}
    (now : DateTime) (hp : ⟨p, true⟩ ∈ s.acking)
    (ho : PgProtectedMessageRepository.outcome s.rows p.id 0 = .error fault) :
    Matched T Q users storage s' (.done (.ackWritten p now (.error fault)))
      { s with acking := s.acking.erase ⟨p, true⟩ } := by
  obtain ⟨row, -, hl'⟩ := h.exists_row hp
  have hconflict : fault = MessageMapState.conflict := by
    simp [PgProtectedMessageRepository.outcome, PgProtectedMessageRepository.findMessageById,
      hl'] at ho
    exact ho.symm
  rw [hconflict]
  exact h.answered (a := ⟨p, true⟩) hp ((h.late _ hp rfl).write now) h.rows fun _ hk => hk

theorem Step.matched (hstep : Step T lower Q rows payments s e t) (h : Refines Q s s')
    (hlower : ∀ s, lower (T.toLowercase s) = T.toLowercase s) (hroster : Roster T users)
    (hvalues : users.values = rows)
    (hpayments : PgPaymentIntentRepository.Stores P payments storage) :
    Matched T Q users storage s' e t := by
  cases hstep with
  | failed e hl => exact .inl ⟨rfl, h.lost hl⟩
  | createRefused ha => exact h.refused hlower hroster hvalues ha
  | createAddressed ha => exact h.sent hlower hroster hvalues ha
  | createUnlinked hm hlink =>
    rw [PgCreateProtectedMessage.link_eq hpayments] at hlink
    have hl : MessageState.Step T users storage s' _ _ :=
      .createUnlinked (h.addressed.subset hm) hlink
    exact .inr ⟨_, _, hl, rfl,
      { h with addressed := h.addressed.erase _, invariant := hl.invariant h.invariant }⟩
  | createLinked hm hlink hid => exact h.linked hpayments hm hlink hid
  | createStored hr _ => exact h.stored hr
  | ackRefused hc => exact h.checkRefused hc
  | ackChecked hc => exact h.checked hc
  | ackRejected now hp ha => exact h.rejected now hp ha
  | ackMatched hp ha hu hne => exact h.matched hp ha hu hne
  | ackUnmatched hp ha hu => exact .inl ⟨rfl, h.unmatched hp ha hu⟩
  | ackAnswered now hp ho => exact h.answeredLate now hp ho

end PgMessageCallState
end Hanbova
