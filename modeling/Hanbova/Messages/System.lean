import Hanbova.Accounts.System
import Hanbova.Messages.Delivery
import Hanbova.Messages.Handlers

/-! Any number of concurrent message requests over one repository. The accounts and the payments
that a step reads belong to other components and may be anything. -/
namespace Hanbova

open Library Library.Text
open InMemoryUserRepository (Users)
open InMemoryProtectedMessageRepository (Messages)
open InMemoryPaymentIntentRepository (Storage)

structure MessageState where
  messages : Messages
  addressed : List AddressedMessage
  creating : List ProtectedMessageRow
  acking : List PendingAck

inductive MessageEvent
  | createRefused (authUser : AuthUser) (payload : CreateProtectedMessageRequest) (e : ApiError)
  | createAddressed (m : AddressedMessage)
  | createUnlinked (m : AddressedMessage) (e : ApiError)
  | createLinked (m : AddressedMessage) (row : ProtectedMessageRow)
  | createStored (row : ProtectedMessageRow) (answer : ProtectedMessageResponse)
  | ackRefused (authUser : AuthUser) (id : Uuid) (payload : AcknowledgeMessageRequest)
      (e : ApiError)
  | ackChecked (p : PendingAck)
  | ackWritten (p : PendingAck) (now : DateTime)
      (answer : Except ApiError AcknowledgeMessageResponse)

/-- The answer that a step gives to its caller, if it gives one. -/
def MessageEvent.answer : MessageEvent → Option (Except ApiError Unit)
  | .createRefused _ _ e => some (.error e)
  | .createAddressed _ => none
  | .createUnlinked _ e => some (.error e)
  | .createLinked _ _ => none
  | .createStored _ _ => some (.ok ())
  | .ackRefused _ _ _ e => some (.error e)
  | .ackChecked _ => none
  | .ackWritten _ _ (.ok _) => some (.ok ())
  | .ackWritten _ _ (.error e) => some (.error e)

namespace MessageState

def initial : MessageState := ⟨∅, [], [], []⟩

/-- One step of a message request, while the accounts are `users` and the payments `storage`. -/
inductive Step (T : CaseTable) (users : Users) (storage : Storage) :
    MessageState → MessageEvent → MessageState → Prop
  | createRefused {s authUser payload e} :
      CreateProtectedMessage.address T users authUser payload = .error e →
      Step T users storage s (.createRefused authUser payload e) s
  | createAddressed {s authUser payload m} :
      CreateProtectedMessage.address T users authUser payload = .ok m →
      Step T users storage s (.createAddressed m) { s with addressed := m :: s.addressed }
  | createUnlinked {s m e} :
      m ∈ s.addressed → CreateProtectedMessage.link storage m = .error e →
      Step T users storage s (.createUnlinked m e) { s with addressed := s.addressed.erase m }
  | createLinked {s m id now} :
      m ∈ s.addressed → CreateProtectedMessage.link storage m = .ok () →
      Table.Fresh ProtectedMessageRow.id s.messages s.creating id →
      Step T users storage s (.createLinked m (CreateProtectedMessage.row m id now))
        { s with
          addressed := s.addressed.erase m
          creating := CreateProtectedMessage.row m id now :: s.creating }
  | createStored {s row} :
      row ∈ s.creating →
      Step T users storage s (.createStored row (.ofRow row))
        { s with
          messages := InMemoryProtectedMessageRepository.saveMessage s.messages row
          creating := s.creating.erase row }
  | ackRefused {s authUser id payload e} :
      AckMessage.readAndCheck s.messages authUser id payload = .error e →
      Step T users storage s (.ackRefused authUser id payload e) s
  | ackChecked {s authUser id payload p} :
      AckMessage.readAndCheck s.messages authUser id payload = .ok p →
      Step T users storage s (.ackChecked p) { s with acking := p :: s.acking }
  | ackWritten {s p now answer messages} :
      p ∈ s.acking → AckMessage.write s.messages p now = (answer, messages) →
      Step T users storage s (.ackWritten p now answer)
        { s with messages, acking := s.acking.erase p }

end MessageState

/-- Message requests, by anyone and in any number, from an empty repository on. -/
def messageSystem (T : CaseTable) : System MessageState MessageEvent where
  init s := s = .initial
  step s e t := ∃ users storage, MessageState.Step T users storage s e t

/-- The parts of a message that are fixed when it is created. -/
def ProtectedMessageRow.SameLetter (r r' : ProtectedMessageRow) : Prop :=
  r' = { r with status := r'.status, acknowledgedAt := r'.acknowledgedAt }

namespace ProtectedMessageRow
variable {r r' r'' : ProtectedMessageRow}

theorem SameLetter.refl (r : ProtectedMessageRow) : SameLetter r r := rfl

theorem SameLetter.trans (h : SameLetter r r') (h' : SameLetter r' r'') : SameLetter r r'' := by
  unfold SameLetter at *
  rw [h'] at *
  rw [h]

theorem SameLetter.parties (h : SameLetter r r') :
    r'.id = r.id ∧ r'.paymentIntentId = r.paymentIntentId ∧ r'.senderUserId = r.senderUserId ∧
      r'.recipientUserId = r.recipientUserId ∧ r'.senderUsername = r.senderUsername ∧
      r'.recipientUsername = r.recipientUsername := by
  rw [h]
  exact ⟨rfl, rfl, rfl, rfl, rfl, rfl⟩

/-- How one stored message may differ from itself later in the run. -/
structure Later (r r' : ProtectedMessageRow) : Prop where
  letter : SameLetter r r'
  status : Delivery.Follows r.status r'.status
  acknowledged : ∀ t, r.acknowledgedAt = some t → r'.acknowledgedAt = some t

theorem Later.refl (r : ProtectedMessageRow) : Later r r := ⟨.refl r, .refl _, fun _ h => h⟩

theorem Later.trans (h : Later r r') (h' : Later r' r'') : Later r r'' :=
  ⟨h.letter.trans h'.letter, h.status.trans h'.status,
    fun t ht => h'.acknowledged t (h.acknowledged t ht)⟩

theorem later_reported {status : String} {allowed : List String} {now : DateTime}
    (ha : allowedMessageSources status = .ok allowed) (hr : r.status ∈ allowed) :
    Later r (InMemoryProtectedMessageRepository.reported r status now) where
  letter := rfl
  status := Delivery.follows_of_allowed ha hr
  acknowledged t ht := by simp [InMemoryProtectedMessageRepository.reported, ht]

end ProtectedMessageRow

namespace MessageState

/-- What every interleaving keeps: messages have identifiers of their own and a status of the
table, new ones are delivered and not acknowledged, and a pending acknowledgement is one that the
stored message permits. -/
structure Invariant (s : MessageState) : Prop where
  inbound : Table.Inbound ProtectedMessageRow.id s.messages s.creating
  creating_new : ∀ r ∈ s.creating, r.status = "delivered" ∧ r.acknowledgedAt = none
  status : ∀ id r, s.messages.lookup id = some r → ∃ d : Delivery, d.name = r.status
  permitted : ∀ p ∈ s.acking, ∃ r, s.messages.lookup p.id = some r ∧
    AckMessage.Permitted p.authUser.userId r p.newStatus

variable {T : CaseTable} {users : Users} {storage : Storage} {s t : MessageState}
  {e : MessageEvent}

/-- The two steps that write a message. -/
theorem Step.messages (h : Step T users storage s e t) :
    t.messages = s.messages ∨
    (∃ row, e = .createStored row (.ofRow row) ∧ row ∈ s.creating ∧
      Table.SetAt s.messages row.id row t.messages) ∨
    ∃ p now allowed row, e = .ackWritten p now (.ok ⟨p.id, p.newStatus, true⟩) ∧
      p ∈ s.acking ∧
      allowedMessageSources p.newStatus = .ok allowed ∧ s.messages.lookup p.id = some row ∧
      row.status ∈ allowed ∧ Table.SetAt s.messages p.id
        (InMemoryProtectedMessageRepository.reported row p.newStatus now) t.messages := by
  cases h with
  | @createStored row hr =>
    exact .inr (.inl ⟨row, rfl, hr, InMemoryProtectedMessageRepository.setAt_save _ _⟩)
  | @ackWritten p now answer messages hp hw =>
    rcases AckMessage.write_cases hw with ⟨_, -, rfl⟩ | ⟨allowed, row, rfl, ha, hl, hr, hm⟩
    · exact .inl rfl
    · exact .inr (.inr ⟨p, now, allowed, row, rfl, hp, ha, hl, hr, hm⟩)
  | _ => exact .inl rfl

/-- Only a request that is granted writes. -/
theorem Step.writes (h : Step T users storage s e t) (ha : e.answer ≠ some (.ok ())) :
    t.messages = s.messages := by
  rcases h.messages with he | ⟨row, rfl, -⟩ | ⟨p, now, allowed, row, rfl, -⟩
  · exact he
  · exact absurd rfl ha
  · exact absurd rfl ha

/-- No step loses a message, and a step moves its status at most forward. -/
theorem Step.evolves (h : Step T users storage s e t) (hs : s.Invariant) :
    Table.Evolves ProtectedMessageRow.Later s.messages t.messages := by
  rcases h.messages with he | ⟨row, -, hr, hm⟩ |
    ⟨p, now, allowed, row, -, -, ha, hl, hr, hm⟩
  · rw [he]
    exact .refl .refl _
  · exact .add .refl hm (hs.inbound.new row hr)
  · exact .set .refl hm hl (ProtectedMessageRow.later_reported ha hr)

theorem permitted_of_evolves {m m' : Messages}
    (he : Table.Evolves ProtectedMessageRow.Later m m') {acking : List PendingAck}
    (h : ∀ p ∈ acking, ∃ r, m.lookup p.id = some r ∧
      AckMessage.Permitted p.authUser.userId r p.newStatus) :
    ∀ p ∈ acking, ∃ r, m'.lookup p.id = some r ∧
      AckMessage.Permitted p.authUser.userId r p.newStatus := by
  intro p hp
  obtain ⟨r, hr, hperm⟩ := h p hp
  obtain ⟨r', hr', hlater⟩ := he _ _ hr
  obtain ⟨-, -, hsender, hrecipient, -⟩ := hlater.letter.parties
  refine ⟨r', hr', ?_⟩
  unfold AckMessage.Permitted at *
  rwa [hsender, hrecipient]

theorem Step.inbound (h : Step T users storage s e t) (hs : s.Invariant) :
    Table.Inbound ProtectedMessageRow.id t.messages t.creating := by
  cases h with
  | createLinked _ _ hf => exact hs.inbound.add hf
  | createStored hr => exact hs.inbound.store hr (InMemoryProtectedMessageRepository.setAt_save _ _)
  | @ackWritten p now answer messages hp hw =>
    rcases AckMessage.write_cases hw with ⟨_, -, rfl⟩ | ⟨_, row, -, -, hl, -, hm⟩
    · exact hs.inbound
    · have hid : row.id = p.id := hs.inbound.keyed _ _ hl
      exact hs.inbound.set hl hm hid
  | _ => exact hs.inbound

theorem Step.status (h : Step T users storage s e t) (hs : s.Invariant) :
    ∀ id r, t.messages.lookup id = some r → ∃ d : Delivery, d.name = r.status := by
  intro id r hr
  rcases h.messages with he | ⟨row, -, hrow, hm⟩ |
    ⟨p, now, allowed, row, -, -, ha, hl, -, hm⟩
  · exact hs.status id r (he ▸ hr)
  · rw [hm id] at hr
    split_ifs at hr
    · obtain rfl := Option.some.inj hr
      exact ⟨.delivered, (hs.creating_new row hrow).1.symm⟩
    · exact hs.status id r hr
  · rw [hm id] at hr
    split_ifs at hr
    · obtain rfl := Option.some.inj hr
      obtain ⟨d, hd, -⟩ := Delivery.sources_of_allowed ha
      exact ⟨d, hd⟩
    · exact hs.status id r hr

theorem invariant_initial : Invariant .initial where
  inbound := Table.inbound_empty _
  creating_new := by simp [initial]
  status := by simp [initial]
  permitted := by simp [initial]

theorem Step.invariant (h : Step T users storage s e t) (hs : s.Invariant) : t.Invariant := by
  have hi := h.inbound hs
  have hst := h.status hs
  have hp := permitted_of_evolves (h.evolves hs) hs.permitted
  cases h with
  | createLinked _ _ _ =>
    refine ⟨hi, fun r hr => ?_, hst, hp⟩
    rcases List.mem_cons.mp hr with rfl | hr
    · exact ⟨rfl, rfl⟩
    · exact hs.creating_new r hr
  | createStored _ =>
    exact ⟨hi, fun r hr => hs.creating_new r (List.mem_of_mem_erase hr), hst, hp⟩
  | @ackChecked authUser id payload p hc =>
    refine ⟨hi, hs.creating_new, hst, fun q hq => ?_⟩
    rcases List.mem_cons.mp hq with rfl | hq
    · obtain ⟨hl, -, -, -, hperm⟩ := AckMessage.readAndCheck_ok hc
      exact ⟨_, hl, hperm⟩
    · exact hp q hq
  | ackWritten _ _ =>
    exact ⟨hi, hs.creating_new, hst, fun q hq => hp q (List.mem_of_mem_erase hq)⟩
  | _ => exact ⟨hi, hs.creating_new, hst, hp⟩

theorem invariant_of_reachable (h : (messageSystem T).Reachable s) : s.Invariant :=
  h.induct (fun _ hi => hi ▸ invariant_initial)
    fun _ _ _ _ hs ⟨_, _, hl⟩ => Step.invariant hl hs

/-- Along a run no message is lost, and its status only moves forward. -/
theorem later_of_run {tr : List (Transition MessageState MessageEvent)}
    (h : (messageSystem T).Run s tr t) (hs : (messageSystem T).Reachable s) :
    Table.Evolves ProtectedMessageRow.Later s.messages t.messages := by
  refine h.relates (R := fun s t => Table.Evolves ProtectedMessageRow.Later s.messages t.messages)
    hs (fun s => .refl .refl _) ?_ ?_
  · intro s t u h h'
    exact h.trans .trans h'
  · rintro s e t hr ⟨_, _, hl⟩
    exact Step.evolves hl (invariant_of_reachable hr)

end MessageState

def sampleBob : AuthUser := ⟨.ofNat 1, "bob"⟩

def sampleCarol : AuthUser := ⟨.ofNat 2, "carol"⟩

/-- A message to Bob that belongs to no payment. -/
def sampleMessage : CreateProtectedMessageRequest where
  recipientUsername := "@Bob"
  encryptedPayload := "ciphertext"
  payloadVersion := 1
  paymentIntentId := none
  recipientTransportKeyFingerprint := none
  recipientP2pkKeyFingerprint := none
  walletEnvironment := none

def sampleAddressed : AddressedMessage := ⟨sampleCarol, sampleMessage, sampleUser 1 "bob"⟩

def sampleRow : ProtectedMessageRow := CreateProtectedMessage.row sampleAddressed (.ofNat 3) .epoch

def sampleAck (authUser : AuthUser) (newStatus : String) : PendingAck :=
  ⟨authUser, .ofNat 3, newStatus, sampleRow⟩

def sampleDelivered : MessageState := ⟨Table.insert ∅ (.ofNat 3) sampleRow, [], [], []⟩

open MessageState in
theorem trace_sampleDelivered : ∃ tr, (messageSystem .ascii).Trace tr sampleDelivered ∧
    ∀ x ∈ tr, ∀ p now answer, x.label ≠ .ackWritten p now answer := by
  have h₁ := System.Run.snoc (T := messageSystem .ascii) .nil ⟨sampleUsers, ∅,
    @Step.createAddressed _ _ _ .initial sampleCarol sampleMessage sampleAddressed
      (by decide +kernel)⟩
  have h₂ :=
    h₁.snoc ⟨sampleUsers, ∅, @Step.createLinked _ _ _ _ sampleAddressed (.ofNat 3) .epoch
      (by decide +kernel) rfl ⟨rfl, by simp [initial]⟩⟩
  have h₃ :=
    h₂.snoc ⟨sampleUsers, ∅, @Step.createStored _ _ _ _ sampleRow (by decide +kernel)⟩
  exact ⟨_, ⟨.initial, rfl, h₃⟩, by simp⟩

end Hanbova
