import Hanbova.Api.System

/-! Messages that are linked to a payment go from its sender to its recipient. -/
namespace Hanbova

open Library Library.Text
open InMemoryUserRepository (Users)
open InMemoryPaymentIntentRepository (Storage)

/-- The message goes from one stored account to another, and if it is linked to a payment, that
is a stored protected payment from the one to the other. -/
structure Linked (users : Users) (storage : Storage) (r : ProtectedMessageRow) (u v : User) :
    Prop where
  sender : users.lookup r.senderUserId = some u
  recipient : users.lookup r.recipientUserId = some v
  payment : ∀ p, r.paymentIntentId = some p → ∃ i, storage.lookup p = some i ∧
    i.paymentType = .«protected» ∧ IsSender i u ∧ IsRecipient i v

/-- Linked messages follow the parties of the payment, also among each other, and only granted
requests store anything. -/
structure FollowsParties {T : CaseTable} (tr : List (Transition (ApiState T) (ApiEvent T)))
    (s : ApiState T) : Prop where
  linked : ∀ id r p, s.messages.messages.lookup id = some r → r.paymentIntentId = some p →
    ∃ i u v, s.payments.storage.lookup p = some i ∧ i.paymentType = .«protected» ∧
      s.accounts.users.lookup r.senderUserId = some u ∧ IsSender i u ∧
      s.accounts.users.lookup r.recipientUserId = some v ∧ IsRecipient i v
  agree : ∀ id id' r r' p, s.messages.messages.lookup id = some r →
    s.messages.messages.lookup id' = some r' → r.paymentIntentId = some p →
    r'.paymentIntentId = some p →
    r.senderUserId = r'.senderUserId ∧ r.recipientUserId = r'.recipientUserId
  rejected : ∀ x ∈ tr, ∀ e, x.label = .message e → e.answer ≠ some (.ok ()) →
    x.post.messages.messages = x.pre.messages.messages

section
variable {T : CaseTable} {users users' : Users} {storage storage' : Storage}
  {r r' : ProtectedMessageRow} {u v : User} {i j : PaymentIntent}

theorem IsSender.congr (h : i.SameTerms j) (hi : IsSender i u) : IsSender j u := by
  obtain ⟨-, -, -, hs, -⟩ := h.fields
  unfold IsSender PaymentService.isSender at *
  rwa [hs]

theorem IsRecipient.congr (h : i.SameTerms j) (hi : IsRecipient i u) : IsRecipient j u := by
  obtain ⟨-, -, -, -, hr, -⟩ := h.fields
  unfold IsRecipient PaymentService.isRecipient at *
  rwa [hr]

/-- The accounts and the payments may move on. -/
theorem Linked.mono (h : Linked users storage r u v) (hu : Table.Evolves Eq users users')
    (hp : Table.Evolves PaymentState.Reported storage storage') : Linked users' storage' r u v where
  sender := by
    obtain ⟨_, hl, rfl⟩ := hu _ _ h.sender
    exact hl
  recipient := by
    obtain ⟨_, hl, rfl⟩ := hu _ _ h.recipient
    exact hl
  payment p hr := by
    obtain ⟨i, hi, ht, hs, hrec⟩ := h.payment p hr
    obtain ⟨j, hj, hij⟩ := hp _ _ hi
    have htype : j.paymentType = i.paymentType := hij.1.fields.2.1
    exact ⟨j, hj, htype.trans ht, hs.congr hij.1, hrec.congr hij.1⟩

/-- So may the status of the message. -/
theorem Linked.letter (h : Linked users storage r u v) (hr : r.SameLetter r') :
    Linked users storage r' u v := by
  obtain ⟨-, hp, hs, hrec, -⟩ := hr.parties
  exact ⟨hs ▸ h.sender, hrec ▸ h.recipient, fun p hp' => h.payment p (hp ▸ hp')⟩

/-- The check of the handler, for a caller and a recipient that are stored accounts. -/
theorem linked_row {m : AddressedMessage} {id : Uuid} {now : DateTime}
    (hs : users.lookup m.authUser.userId = some u) (hid : u.id = m.authUser.userId)
    (hname : u.username = m.authUser.username)
    (hr : users.lookup m.recipient.id = some m.recipient)
    (hl : CreateProtectedMessage.link storage m = .ok ()) :
    Linked users storage (CreateProtectedMessage.row m id now) u m.recipient where
  sender := hs
  recipient := hr
  payment p hp := by
    have hp' : m.payload.paymentIntentId = some p := hp
    simp only [CreateProtectedMessage.link, hp'] at hl
    obtain ⟨i, hi, ht, hsender, hrecipient⟩ :=
      PaymentService.validateProtectedMessageLink_ok.mp hl
    rw [← hid, ← hname] at hsender
    exact ⟨i, hi, ht, hsender, hrecipient⟩

end

namespace ApiState
variable {T : CaseTable} {s t : ApiState T} {e : ApiEvent T}

/-- What links the three components: the caller and the recipient of a message on its way in are
stored accounts, and messages that are stored or about to be are linked. -/
structure Invariant (s : ApiState T) : Prop where
  addressed : ∀ m ∈ s.messages.addressed, Authentic s.accounts.users m.authUser ∧
    s.accounts.users.lookup m.recipient.id = some m.recipient
  creating : ∀ r ∈ s.messages.creating, ∃ u v,
    Linked s.accounts.users s.payments.storage r u v
  stored : ∀ id r, s.messages.messages.lookup id = some r → ∃ u v,
    Linked s.accounts.users s.payments.storage r u v

theorem invariant_initial : Invariant (T := T) .initial where
  addressed := by simp [initial, MessageState.initial]
  creating := by simp [initial, MessageState.initial]
  stored := by simp [initial, MessageState.initial]

/-- Steps of the other components leave the messages as they are. -/
theorem Invariant.mono (hs : s.Invariant) (hm : t.messages = s.messages)
    (hu : Table.Evolves Eq s.accounts.users t.accounts.users)
    (hp : Table.Evolves PaymentState.Reported s.payments.storage t.payments.storage) :
    t.Invariant := by
  refine ⟨?_, ?_, ?_⟩ <;> rw [hm]
  · intro m hmem
    obtain ⟨⟨u, hl, hname⟩, hr⟩ := hs.addressed m hmem
    obtain ⟨_, hl', rfl⟩ := hu _ _ hl
    obtain ⟨_, hr', rfl⟩ := hu _ _ hr
    exact ⟨⟨u, hl', hname⟩, hr'⟩
  · intro r hr
    obtain ⟨u, v, h⟩ := hs.creating r hr
    exact ⟨u, v, h.mono hu hp⟩
  · intro id r hr
    obtain ⟨u, v, h⟩ := hs.stored id r hr
    exact ⟨u, v, h.mono hu hp⟩

/-- A message step, seen from the accounts and the payments it reads. -/
theorem invariant_message {messages : MessageState} {e : MessageEvent}
    (hroster : Roster T s.accounts.users) (hs : s.Invariant)
    (hauth : ∀ authUser ∈ e.caller, Authentic s.accounts.users authUser)
    (hl : MessageState.Step T s.accounts.users s.payments.storage s.messages e messages) :
    Invariant { s with messages } := by
  have hstored : ∀ id r, messages.messages.lookup id = some r → ∃ u v,
      Linked s.accounts.users s.payments.storage r u v := by
    intro id r hr
    rcases hl.messages with he | ⟨row, -, hrow, hm⟩ |
      ⟨p, now, allowed, row, -, -, -, hp, -, hm⟩
    · exact hs.stored id r (he ▸ hr)
    · rw [hm id] at hr
      split_ifs at hr
      · obtain rfl := Option.some.inj hr
        exact hs.creating row hrow
      · exact hs.stored id r hr
    · rw [hm id] at hr
      split_ifs at hr
      · obtain rfl := Option.some.inj hr
        obtain ⟨u, v, h⟩ := hs.stored p.id row hp
        exact ⟨u, v, h.letter rfl⟩
      · exact hs.stored id r hr
  cases hl with
  | @createAddressed authUser payload m ha =>
    refine ⟨fun m' hm' => ?_, hs.creating, hstored⟩
    rcases List.mem_cons.mp hm' with rfl | hm'
    · obtain ⟨hfind, -, -⟩ := CreateProtectedMessage.address_ok ha
      have hmem := (InMemoryUserRepository.findByUsernameOrEmail_some hfind).1
      exact ⟨hauth _ rfl, hroster.keyed.lookup hmem⟩
    · exact hs.addressed m' hm'
  | createUnlinked _ _ =>
    exact ⟨fun m hm => hs.addressed m (List.mem_of_mem_erase hm), hs.creating, hstored⟩
  | @createLinked m id now hm hlink _ =>
    refine ⟨fun m hm => hs.addressed m (List.mem_of_mem_erase hm), fun r hr => ?_, hstored⟩
    rcases List.mem_cons.mp hr with rfl | hr
    · obtain ⟨⟨u, hu, hname⟩, hrec⟩ := hs.addressed m hm
      exact ⟨u, m.recipient, linked_row hu (hroster.keyed _ _ hu) hname hrec hlink⟩
    · exact hs.creating r hr
  | createStored _ =>
    exact ⟨hs.addressed, fun r hr => hs.creating r (List.mem_of_mem_erase hr), hstored⟩
  | _ => exact ⟨hs.addressed, hs.creating, hstored⟩

theorem Step.invariant (h : Step s e t) (hr : (apiSystem T).Reachable s) (hs : s.Invariant) :
    t.Invariant := by
  have hu := h.users hr
  have hp := h.storage hr
  cases h with
  | account _ => exact hs.mono rfl hu hp
  | payment _ => exact hs.mono rfl hu hp
  | message hauth hl =>
    exact invariant_message (roster_of_reachable hr) hs hauth hl

theorem invariant_of_reachable (h : (apiSystem T).Reachable s) : s.Invariant :=
  h.induct (fun _ hi => hi ▸ invariant_initial) fun _ _ _ hr hs hl => Step.invariant hl hr hs

end ApiState

theorem linked_messages_follow_parties {T : CaseTable}
    {tr : List (Transition (ApiState T) (ApiEvent T))} {s : ApiState T}
    (h : (apiSystem T).Trace tr s) : FollowsParties tr s := by
  have hs := ApiState.invariant_of_reachable h.reachable
  have hroster := ApiState.roster_of_reachable h.reachable
  refine ⟨?_, ?_, ?_⟩
  · intro id r p hr hp
    obtain ⟨u, v, hl⟩ := hs.stored id r hr
    obtain ⟨i, hi, ht, hsender, hrecipient⟩ := hl.payment p hp
    exact ⟨i, u, v, hi, ht, hl.sender, hsender, hl.recipient, hrecipient⟩
  · intro id id' r r' p hr hr' hp hp'
    obtain ⟨u, v, hl⟩ := hs.stored id r hr
    obtain ⟨u', v', hl'⟩ := hs.stored id' r' hr'
    obtain ⟨i, hi, -, hsender, hrecipient⟩ := hl.payment p hp
    obtain ⟨i', hi', -, hsender', hrecipient'⟩ := hl'.payment p hp'
    obtain rfl := Option.some.inj (hi.symm.trans hi')
    have mem : ∀ {k w}, s.accounts.users.lookup k = some w → w ∈ s.accounts.users.values :=
      fun hw => Table.mem_values.mpr ⟨_, hw⟩
    have hu : u = u' := hroster.sender_unique (mem hl.sender) (mem hl'.sender) hsender hsender'
    have hv : v = v' :=
      hroster.recipient_unique (mem hl.recipient) (mem hl'.recipient) hrecipient hrecipient'
    subst hu hv
    exact ⟨(hroster.keyed _ _ hl.sender).symm.trans (hroster.keyed _ _ hl'.sender),
      (hroster.keyed _ _ hl.recipient).symm.trans (hroster.keyed _ _ hl'.recipient)⟩
  · rintro ⟨pre, label, post⟩ hx e rfl ha
    have hl : ApiState.Step pre (.message e) post := (h.split hx).2.1
    cases hl with
    | message _ hl => exact hl.writes ha

/-- Carol locks 100 satoshis for Bob. -/
def sampleLock : CreatePaymentIntentRequest where
  paymentType := .«protected»
  amountSats := 100
  recipientIdentifier := " @BOB"
  senderId := some (Uuid.ofNat 2).toString
  description := none
  expiresInSeconds := none

def sampleLocked : PaymentIntent where
  id := .ofNat 4
  paymentType := .«protected»
  status := .created
  amountSats := ⟨100⟩
  senderId := some (Uuid.ofNat 2).toString
  recipientIdentifier := "@BOB"
  description := none
  expiresAt := some .nextDay
  claimReference := some "hnbv_claim_00000000000000000000000000000004"
  createdAt := .epoch
  updatedAt := .epoch

def sampleLinked : AddressedMessage :=
  ⟨sampleCarol, { sampleMessage with paymentIntentId := some (.ofNat 4) }, sampleUser 1 "bob"⟩

open ApiState in
theorem linked_messages_follow_parties_sample :
    ∃ (tr : List (Transition (ApiState .ascii) (ApiEvent .ascii))) (s : ApiState .ascii),
      (apiSystem .ascii).Trace tr s ∧
      (s.messages.messages.lookup (.ofNat 5)).map ProtectedMessageRow.paymentIntentId =
        some (some (.ofNat 4)) ∧ FollowsParties tr s := by
  obtain ⟨tr, _, rfl, hrun⟩ := reachable_sampleUsers
  have hlift := hrun.lift (apiSystem .ascii) (fun accounts => ⟨accounts, .initial, .initial⟩)
    .account fun _ _ _ hl => .account hl
  have h₀ : (apiSystem .ascii).Trace _ ⟨⟨sampleUsers, [], []⟩, .initial, .initial⟩ :=
    ⟨_, rfl, hlift⟩
  have h₁ := h₀.snoc (.payment (@PaymentState.Step.createPrepared .initial sampleLock (.ofNat 4)
    .epoch .epoch sampleLocked ⟨rfl, by simp [PaymentState.initial]⟩ (by decide +kernel)))
  have h₂ := h₁.snoc (.payment (@PaymentState.Step.createStored _ sampleLocked
    (by decide +kernel)))
  have h₃ := h₂.snoc (.message (by rintro _ ⟨⟩; exact ⟨sampleUser 2 "carol", rfl, rfl⟩)
    (@MessageState.Step.createAddressed .ascii _ _ .initial sampleCarol sampleLinked.payload
      sampleLinked (by decide +kernel)))
  have h₄ :=
    h₃.snoc (.message (by rintro _ ⟨⟩) (@MessageState.Step.createLinked .ascii _ _ _
      sampleLinked (.ofNat 5) .epoch (by decide +kernel) (by decide +kernel)
      ⟨rfl, by simp [MessageState.initial]⟩))
  have h₅ :=
    h₄.snoc (.message (by rintro _ ⟨⟩) (@MessageState.Step.createStored .ascii _ _ _
      (CreateProtectedMessage.row sampleLinked (.ofNat 5) .epoch) (by decide +kernel)))
  exact ⟨_, _, h₅, by decide +kernel, linked_messages_follow_parties h₅⟩

end Hanbova
