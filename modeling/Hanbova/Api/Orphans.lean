import Hanbova.Api.Server

/-! Whose payments and messages the server holds: those of stored users. -/
namespace Hanbova

open Library Library.Text
open InMemoryUserRepository (Users)

/-- The sender that a payment names by their identifier is a stored user. -/
def SenderStored (users : Users) (i : PaymentIntent) : Prop :=
  ∃ userId, users.lookup userId ≠ none ∧ i.senderId = some userId.toString

/-- Both parties of a message are stored users, under the names that the message shows. -/
def PartiesStored (users : Users) (r : ProtectedMessageRow) : Prop :=
  Authentic users ⟨r.senderUserId, r.senderUsername⟩ ∧
    Authentic users ⟨r.recipientUserId, r.recipientUsername⟩

theorem Authentic.evolves {users users' : Users} {authUser : AuthUser}
    (h : Authentic users authUser) (he : Table.Evolves User.SameAccount users users') :
    Authentic users' authUser := by
  obtain ⟨u, hu, hname⟩ := h
  obtain ⟨v, hv, hsame⟩ := he _ u hu
  exact ⟨v, hv, hsame.names.2.1.trans hname⟩

theorem SenderStored.evolves {users users' : Users} {i j : PaymentIntent}
    (h : SenderStored users i) (he : Table.Evolves User.SameAccount users users')
    (hij : j.senderId = i.senderId) : SenderStored users' j := by
  obtain ⟨userId, hu, hi⟩ := h
  obtain ⟨u, hl⟩ := Option.ne_none_iff_exists'.mp hu
  obtain ⟨v, hv, -⟩ := he _ u hl
  exact ⟨userId, by rw [hv]; exact Option.some_ne_none v, hij.trans hi⟩

namespace ServerState
variable {T : CaseTable} {J : JsonWebToken} {secret : String} {env : AuthEnv}
variable {s t : ServerState T} {e : ServerEvent T}
variable {tr : List (Transition (ServerState T) (ServerEvent T))}

/-- Nothing that is stored, or on its way to the store, has lost its users. -/
structure Owned (s : ServerState T) : Prop where
  creating : ∀ i ∈ s.payments.creating, SenderStored s.sessions.accounts.users i
  payments : ∀ k i, s.payments.storage.lookup k = some i →
    SenderStored s.sessions.accounts.users i
  addressed : ∀ m ∈ s.messages.addressed, Authentic s.sessions.accounts.users m.authUser ∧
    Authentic s.sessions.accounts.users ⟨m.recipient.id, m.recipient.username⟩
  linked : ∀ r ∈ s.messages.creating, PartiesStored s.sessions.accounts.users r
  messages : ∀ k r, s.messages.messages.lookup k = some r →
    PartiesStored s.sessions.accounts.users r

theorem owned_initial : Owned (T := T) .initial where
  creating := by simp [initial, PaymentState.initial]
  payments _ _ h := by cases h
  addressed := by simp [initial, MessageState.initial]
  linked := by simp [initial, MessageState.initial]
  messages _ _ h := by cases h

/-- The users may get on. -/
theorem Owned.sessions (h : s.Owned) {sessions : SessionState T}
    (he : Table.Evolves User.SameAccount s.sessions.accounts.users sessions.accounts.users) :
    Owned { s with sessions } where
  creating i hi := (h.creating i hi).evolves he rfl
  payments k i hi := (h.payments k i hi).evolves he rfl
  addressed m hm := ⟨(h.addressed m hm).1.evolves he, (h.addressed m hm).2.evolves he⟩
  linked r hr := ⟨(h.linked r hr).1.evolves he, (h.linked r hr).2.evolves he⟩
  messages k r hr := ⟨(h.messages k r hr).1.evolves he, (h.messages k r hr).2.evolves he⟩

/-- A payment call by a stored user, or the rest of one. -/
theorem Owned.payment (h : s.Owned) {pe : PaymentEvent} {payments : PaymentState}
    (hs : PaymentState.Step s.payments pe payments)
    (hcaller : pe.Continues ∨ ∃ authUser, pe.CalledBy authUser ∧
      Authentic s.sessions.accounts.users authUser) : Owned { s with payments } := by
  cases hs with
  | @createPrepared req id now now' i _ hc =>
    refine ⟨fun j hj => ?_, h.payments, h.addressed, h.linked, h.messages⟩
    rcases List.mem_cons.mp hj with rfl | hj
    · rcases hcaller with hcont | ⟨authUser, hsender, u, hu, -⟩
      · exact hcont.elim
      · have hi := (PaymentService.createPaymentIntent_sender hc).trans hsender
        exact ⟨authUser.userId, by rw [hu]; exact Option.some_ne_none u, hi⟩
    · exact h.creating j hj
  | @createStored i hi =>
    refine ⟨fun j hj => h.creating j (List.mem_of_mem_erase hj), fun k j hj => ?_, h.addressed,
      h.linked, h.messages⟩
    rw [InMemoryPaymentIntentRepository.setAt_save s.payments.storage i k] at hj
    split_ifs at hj
    · obtain rfl := Option.some.inj hj
      exact h.creating _ hi
    · exact h.payments k j hj
  | @updateWritten u now answer storage _ hw =>
    refine ⟨h.creating, fun k j hj => ?_, h.addressed, h.linked, h.messages⟩
    rcases PaymentState.writeStatus_cases hw with ⟨_, -, rfl⟩ | ⟨i, j', hi, -, rfl, hm, -⟩
    · exact h.payments k j hj
    · rw [hm k] at hj
      split_ifs at hj with hk
      · obtain rfl := Option.some.inj hj
        have hterms := InMemoryPaymentIntentRepository.sameTerms_reported i u.request.newStatus now
        exact (h.payments _ i hi).evolves (.refl User.SameAccount.refl _)
          hterms.fields.2.2.2.1
      · exact h.payments k j hj
  | _ => exact ⟨h.creating, h.payments, h.addressed, h.linked, h.messages⟩

/-- A message call by a stored user, or the rest of one. -/
theorem Owned.message (h : s.Owned) {me : MessageEvent} {messages : MessageState}
    (hkeyed : Table.Keyed User.id s.sessions.accounts.users)
    (hs : MessageState.Step T s.sessions.accounts.users s.payments.storage s.messages me messages)
    (hcaller : ∀ authUser ∈ me.caller, Authentic s.sessions.accounts.users authUser) :
    Owned { s with messages } := by
  cases hs with
  | @createAddressed authUser payload m ha =>
    refine ⟨h.creating, h.payments, fun m' hm => ?_, h.linked, h.messages⟩
    rcases List.mem_cons.mp hm with rfl | hm
    · obtain ⟨hfind, -, -⟩ := CreateProtectedMessage.address_ok ha
      have hmem := (InMemoryUserRepository.findByUsernameOrEmail_some hfind).1
      exact ⟨hcaller _ rfl, _, hkeyed.lookup hmem, rfl⟩
    · exact h.addressed m' hm
  | createUnlinked hm _ =>
    exact ⟨h.creating, h.payments, fun m' hm' => h.addressed m' (List.mem_of_mem_erase hm'),
      h.linked, h.messages⟩
  | @createLinked m id now hm _ _ =>
    refine ⟨h.creating, h.payments, fun m' hm' => h.addressed m' (List.mem_of_mem_erase hm'),
      fun r hr => ?_, h.messages⟩
    rcases List.mem_cons.mp hr with rfl | hr
    · exact h.addressed m hm
    · exact h.linked r hr
  | @createStored row hr =>
    refine ⟨h.creating, h.payments, h.addressed,
      fun r hr => h.linked r (List.mem_of_mem_erase hr), fun k r hl => ?_⟩
    rw [InMemoryProtectedMessageRepository.setAt_save s.messages.messages row k] at hl
    split_ifs at hl
    · obtain rfl := Option.some.inj hl
      exact h.linked _ hr
    · exact h.messages k r hl
  | ackWritten _ hw =>
    refine ⟨h.creating, h.payments, h.addressed, h.linked, fun k r hl => ?_⟩
    rcases AckMessage.write_cases hw with ⟨_, -, rfl⟩ | ⟨_, row, -, -, hrow, -, hm⟩
    · exact h.messages k r hl
    · rw [hm k] at hl
      split_ifs at hl
      · obtain rfl := Option.some.inj hl
        exact h.messages _ row hrow
      · exact h.messages k r hl
  | _ => exact ⟨h.creating, h.payments, h.addressed, h.linked, h.messages⟩

theorem owned_of_trace (hJ : J.Lawful) (h : (serverSystem T J secret env).Trace tr s)
    (hun : Unforged (System.labels tr)) : s.Owned := by
  revert hun
  refine h.induct (P := fun tr s => Unforged (System.labels tr) → s.Owned) ?_ ?_
  · intro s hi _
    obtain rfl : s = .initial := hi
    exact owned_initial
  · intro tr s e t ht ih hl hun
    have hs := ih (by rw [System.labels_append] at hun; exact hun.of_append)
    have hsessions := sessions_reachable ht.reachable
    have hkeyed := (SessionState.inbound_of_reachable hsessions).keyed
    have hl' : Step J secret env s e t := hl
    cases hl' with
    | session _ _ hstep _ => exact hs.sessions (hstep.evolves_users hsessions)
    | payment hcont hstep => exact hs.payment hstep (.inl hcont)
    | message hnone hstep => exact hs.message hkeyed hstep (by simp [hnone])
    | denied _ => exact hs
    | @request cr authUser call _ hauth hc =>
      have he : System.labels (tr ++ [⟨s, .request cr authUser call, t⟩]) =
          System.labels tr ++ .request cr authUser call :: [] := System.labels_append _ _
      have hauthentic := ServerState.authentic hJ (ht.snoc hl) hun he
      cases hc with
      | profile => exact hs
      | logout hstep => exact hs.sessions (hstep.evolves_users hsessions)
      | payment hcalled hstep => exact hs.payment hstep (.inr ⟨authUser, hcalled, hauthentic⟩)
      | message hcaller hstep =>
        refine hs.message hkeyed hstep fun authUser' ha => ?_
        rw [hcaller] at ha
        obtain rfl := Option.some.inj ha
        exact hauthentic

end ServerState
/-- In every run that nobody has forged a token for, the sender of each stored payment is a stored
user, and so are both parties of each stored message, under the names that it shows. -/
theorem no_orphans {T : CaseTable} {J : JsonWebToken} {secret : String} {env : AuthEnv}
    (hJ : J.Lawful) {tr : List (Transition (ServerState T) (ServerEvent T))} {s : ServerState T}
    (h : (serverSystem T J secret env).Trace tr s) (hun : Unforged (System.labels tr)) :
    (∀ i ∈ s.payments.storage.values, SenderStored s.sessions.accounts.users i) ∧
    ∀ r ∈ s.messages.messages.values, PartiesStored s.sessions.accounts.users r := by
  have hs := ServerState.owned_of_trace hJ h hun
  constructor
  · intro i hi
    obtain ⟨k, hk⟩ := Table.mem_values.mp hi
    exact hs.payments k i hk
  · intro r hr
    obtain ⟨k, hk⟩ := Table.mem_values.mp hr
    exact hs.messages k r hk

def sampleBobRequest : CreatePaymentIntentRequest :=
  { sampleRequest with senderId := some (Uuid.ofNat 1).toString }

/-- Bob's payment of 100 satoshis. -/
def sampleBobPayment : PaymentIntent :=
  { sampleIntent with senderId := some (Uuid.ofNat 1).toString }

/-- Bob pays. -/
theorem no_orphans_sample : ∃ tr s,
    (serverSystem .ascii sampleJsonWebToken sampleSecret sampleEnv).Trace tr s ∧
      s.payments.storage.lookup (.ofNat 1) = some sampleBobPayment ∧
      ∀ i ∈ s.payments.storage.values, SenderStored s.sessions.accounts.users i := by
  have hprepared : PaymentState.Step sampleServer.payments
      (.createPrepared sampleBobRequest .epoch .epoch sampleBobPayment)
      ⟨∅, [sampleBobPayment], []⟩ :=
    @PaymentState.Step.createPrepared sampleServer.payments _ (.ofNat 1) .epoch .epoch
      sampleBobPayment ⟨rfl, by simp [sampleServer, PaymentState.initial]⟩ (by decide +kernel)
  have hcalled : PaymentEvent.CalledBy sampleBob
      (.createPrepared sampleBobRequest .epoch .epoch sampleBobPayment) := rfl
  obtain ⟨tr, as, h, -, hun⟩ := trace_sampleCall (.payment hcalled hprepared)
  have hstored := PaymentState.Step.createStored (s := ⟨∅, [sampleBobPayment], []⟩)
    (List.mem_singleton_self sampleBobPayment)
  have hcont : PaymentEvent.Continues
      (.createStored sampleBobPayment (.ofIntent sampleBobPayment)) :=
    trivial
  have h' := h.snoc (.payment hcont hstored)
  have hun' := hun.payment (.createStored sampleBobPayment (.ofIntent sampleBobPayment))
  have howned := no_orphans lawful_sampleJsonWebToken h' (by
    rw [System.labels_append]
    exact hun')
  exact ⟨_, _, h', AList.lookup_insert _, howned.1⟩

end Hanbova
