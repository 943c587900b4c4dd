import Hanbova.Api.Server

/-! The server does what `apiSystem` does, whose callers are authentic by assumption: once its
passwords are forgotten, a run of the one is a run of the other. -/
namespace Hanbova

open Library Library.Text
open InMemoryUserRepository (Users)

/-- The user without what a change of password changes. -/
def User.withoutPassword (u : User) : User :=
  { u with passwordHash := "", updatedAt := u.createdAt }

def AddressedMessage.withoutPassword (m : AddressedMessage) : AddressedMessage :=
  { m with recipient := m.recipient.withoutPassword }

/-- Users without their passwords. -/
def withoutPasswords (users : Users) : Users := users.mapValues User.withoutPassword

section
variable {T : CaseTable} {users users' : Users}

theorem rehash_withoutPasswords (h : Table.Rehash users users') :
    Table.Rehash (withoutPasswords users) (withoutPasswords users') := h.mapValues _

/-- A change of password shows in the order of the users, if at all. -/
theorem rehash_updatePasswordHash (users : Users) (userId : Uuid) (newHash : String)
    (now : DateTime) :
    Table.Rehash (withoutPasswords users) (withoutPasswords
      (InMemoryUserRepository.updatePasswordHash users userId newHash now)) := by
  apply Table.rehash_of_lookup
  intro k
  unfold InMemoryUserRepository.updatePasswordHash withoutPasswords
  cases hl : users.lookup userId with
  | none => rfl
  | some user =>
    simp only [Table.lookup_mapValues, Table.setAt_insert users userId _ k]
    split_ifs with hk
    · rw [hk, hl]
      rfl
    · rfl

/-- Users are found without their passwords. -/
theorem find_withoutPasswords (login : String) :
    InMemoryUserRepository.findByUsernameOrEmail T (withoutPasswords users) login =
      (InMemoryUserRepository.findByUsernameOrEmail T users login).map User.withoutPassword := by
  have hp : ∀ clean, InMemoryUserRepository.matchesLogin T clean ∘ User.withoutPassword =
      InMemoryUserRepository.matchesLogin T clean := by
    intro clean
    funext u
    simp only [Function.comp_apply, InMemoryUserRepository.matchesLogin, User.withoutPassword]
  unfold InMemoryUserRepository.findByUsernameOrEmail withoutPasswords
  rw [Table.values_mapValues, List.find?_map, hp]

theorem checkUsername_withoutPasswords (r : AuthService.Registration T) :
    AuthService.checkUsername T (withoutPasswords users) r =
      AuthService.checkUsername T users r := by
  rw [AuthService.checkUsername, AuthService.checkUsername, find_withoutPasswords,
    Option.isSome_map]

theorem checkEmail_withoutPasswords (r : AuthService.Registration T) :
    AuthService.checkEmail T (withoutPasswords users) r = AuthService.checkEmail T users r := by
  rw [AuthService.checkEmail, AuthService.checkEmail, find_withoutPasswords, Option.isSome_map]

theorem any_withoutPasswords (u : User) :
    ((withoutPasswords users).values.any fun v => InMemoryUserRepository.sameUsername v
        u.withoutPassword || InMemoryUserRepository.sameEmail v u.withoutPassword) =
      users.values.any fun v => InMemoryUserRepository.sameUsername v u ||
        InMemoryUserRepository.sameEmail v u := by
  unfold withoutPasswords
  rw [Table.values_mapValues, List.any_map]
  congr 1

theorem createUser_withoutPasswords {u v : User}
    (h : AuthService.createUser users u = .ok (v, users')) :
    AuthService.createUser (withoutPasswords users) u.withoutPassword =
      .ok (v.withoutPassword, withoutPasswords users') := by
  have hc := AuthService.createUser_ok h
  unfold InMemoryUserRepository.createUser at hc
  unfold AuthService.createUser InMemoryUserRepository.createUser
  rw [any_withoutPasswords]
  split_ifs at hc ⊢
  obtain ⟨rfl, rfl⟩ := Prod.mk.inj (Except.ok.inj hc)
  rw [withoutPasswords, withoutPasswords, Table.mapValues_insert]
  rfl

theorem createUser_error_withoutPasswords {u : User} {e : ApiError}
    (h : AuthService.createUser users u = .error e) :
    AuthService.createUser (withoutPasswords users) u.withoutPassword = .error e := by
  unfold AuthService.createUser InMemoryUserRepository.createUser at h ⊢
  rw [any_withoutPasswords]
  split_ifs at h ⊢
  · exact h
  · cases h

theorem newUser_withoutPassword {r : AuthService.Registration T} {d : AuthService.Draw} {u : User}
    (h : AuthService.newUser r d = .ok u) :
    AuthService.newUser r { d with hash := .ok "", updatedAt := d.createdAt } =
      .ok u.withoutPassword := by
  unfold AuthService.newUser at h ⊢
  cases hd : d.hash with
  | error e => simp [hd] at h
  | ok passwordHash =>
    simp only [hd] at h
    obtain rfl := Except.ok.inj h
    rfl

end

/-- The accounts without their passwords. -/
structure AccountState.Forgets {T : CaseTable} (a a' : AccountState T) : Prop where
  users : a'.users = withoutPasswords a.users
  lookups : a'.lookups = a.lookups
  creating : (a.creating.map User.withoutPassword).Perm a'.creating

namespace AccountState.Forgets
variable {T : CaseTable} {a b a' : AccountState T} {e : AccountEvent T}

theorem step (h : AccountState.Forgets a a') (hs : AccountState.Step a e b) :
    ∃ e' b', AccountState.Step a' e' b' ∧ AccountState.Forgets b b' := by
  obtain ⟨users', lookups', creating'⟩ := a'
  obtain ⟨rfl, rfl, hcreating⟩ := h
  cases hs with
  | rehashed hr => exact ⟨_, _, .rehashed (rehash_withoutPasswords hr), rfl, rfl, hcreating⟩
  | refused hv => exact ⟨_, _, .refused hv, rfl, rfl, hcreating⟩
  | validated hv => exact ⟨_, _, .validated hv, rfl, rfl, hcreating⟩
  | usernameTaken hr hc =>
    exact ⟨_, _, .usernameTaken hr ((checkUsername_withoutPasswords _).trans hc), rfl, rfl,
      hcreating⟩
  | usernameFree hr hc =>
    exact ⟨_, _, .usernameFree hr ((checkUsername_withoutPasswords _).trans hc), rfl, rfl,
      hcreating⟩
  | emailTaken hr hc =>
    exact ⟨_, _, .emailTaken hr ((checkEmail_withoutPasswords _).trans hc), rfl, rfl, hcreating⟩
  | hashFailed hr hc hn =>
    exact ⟨_, _, .hashFailed hr ((checkEmail_withoutPasswords _).trans hc) hn, rfl, rfl,
      hcreating⟩
  | emailFree hr hc hf hn =>
    refine ⟨_, _, .emailFree hr ((checkEmail_withoutPasswords _).trans hc)
      ⟨?_, fun v hv => ?_⟩
      (newUser_withoutPassword hn), rfl, rfl, hcreating.cons _⟩
    · rw [withoutPasswords, Table.lookup_mapValues, hf.1, Option.map_none]
    · obtain ⟨w, hw, rfl⟩ := List.mem_map.mp (hcreating.mem_iff.mpr hv)
      exact hf.2 w hw
  | created hu hc =>
    have hmem := hcreating.mem_iff.mp (List.mem_map_of_mem (f := User.withoutPassword) hu)
    exact ⟨_, _, .created hmem (createUser_withoutPasswords hc), rfl, rfl,
      perm_map_erase hcreating hu⟩
  | conflicted hu hc =>
    have hmem := hcreating.mem_iff.mp (List.mem_map_of_mem (f := User.withoutPassword) hu)
    exact ⟨_, _, .conflicted hmem (createUser_error_withoutPasswords hc), rfl, rfl,
      perm_map_erase hcreating hu⟩

end AccountState.Forgets
theorem address_withoutPasswords {T : CaseTable} {users : Users} {authUser : AuthUser}
    {payload : CreateProtectedMessageRequest} :
    CreateProtectedMessage.address T (withoutPasswords users) authUser payload =
      (CreateProtectedMessage.address T users authUser payload).map
        AddressedMessage.withoutPassword := by
  unfold CreateProtectedMessage.address AuthService.findUserByUsername
  simp only [find_withoutPasswords]
  cases InMemoryUserRepository.findByUsernameOrEmail T users
    (AuthService.cleanUsername T (unprefixed '@' payload.recipientUsername)) <;> rfl

/-- The messages, without the passwords of the recipients that have been found. -/
structure MessageState.Forgets (m m' : MessageState) : Prop where
  messages : m'.messages = m.messages
  addressed : (m.addressed.map AddressedMessage.withoutPassword).Perm m'.addressed
  creating : m'.creating = m.creating
  acking : m'.acking = m.acking

theorem MessageState.Forgets.step {T : CaseTable} {users : Users}
    {storage : InMemoryPaymentIntentRepository.Storage} {m n m' : MessageState} {e : MessageEvent}
    (h : MessageState.Forgets m m') (hs : MessageState.Step T users storage m e n) :
    ∃ e' n', MessageState.Step T (withoutPasswords users) storage m' e' n' ∧
      MessageState.Forgets n n' ∧ e'.caller = e.caller := by
  obtain ⟨messages', addressed', creating', acking'⟩ := m'
  obtain ⟨rfl, haddressed, rfl, rfl⟩ := h
  cases hs with
  | createRefused ha =>
    refine ⟨_, _, .createRefused ?_, ⟨rfl, haddressed, rfl, rfl⟩, rfl⟩
    rw [address_withoutPasswords, ha]
    rfl
  | @createAddressed authUser payload m ha =>
    have ha' : CreateProtectedMessage.address T (withoutPasswords users) authUser payload =
        .ok m.withoutPassword := by
      rw [address_withoutPasswords, ha]
      rfl
    exact ⟨.createAddressed m.withoutPassword, _, .createAddressed ha',
      ⟨rfl, haddressed.cons _, rfl, rfl⟩, rfl⟩
  | @createUnlinked m e hm hl =>
    have hmem := haddressed.mem_iff.mp (List.mem_map_of_mem hm)
    exact ⟨.createUnlinked m.withoutPassword e, _, .createUnlinked hmem hl,
      ⟨rfl, perm_map_erase haddressed hm, rfl, rfl⟩, rfl⟩
  | @createLinked m id now hm hl hf =>
    have hmem := haddressed.mem_iff.mp (List.mem_map_of_mem hm)
    exact ⟨.createLinked m.withoutPassword (CreateProtectedMessage.row m id now), _,
      .createLinked hmem hl hf, ⟨rfl, perm_map_erase haddressed hm, rfl, rfl⟩, rfl⟩
  | createStored hr => exact ⟨_, _, .createStored hr, ⟨rfl, haddressed, rfl, rfl⟩, rfl⟩
  | ackRefused hc => exact ⟨_, _, .ackRefused hc, ⟨rfl, haddressed, rfl, rfl⟩, rfl⟩
  | ackChecked hc => exact ⟨_, _, .ackChecked hc, ⟨rfl, haddressed, rfl, rfl⟩, rfl⟩
  | ackWritten hp hw => exact ⟨_, _, .ackWritten hp hw, ⟨rfl, haddressed, rfl, rfl⟩, rfl⟩

/-- The server without its sessions and passwords. -/
structure ServerState.Forgets {T : CaseTable} (s : ServerState T) (s' : ApiState T) : Prop where
  accounts : AccountState.Forgets s.sessions.accounts s'.accounts
  payments : s'.payments = s.payments
  messages : MessageState.Forgets s.messages s'.messages

namespace ServerState.Forgets
variable {T : CaseTable} {J : JsonWebToken} {secret : String} {env : AuthEnv}
variable {s t : ServerState T} {s' : ApiState T}

/-- A step of the sessions is a step of the accounts, or nothing. -/
theorem session (h : s.Forgets s') {e : SessionEvent T} {sessions : SessionState T}
    (hs : SessionState.Step env s.sessions e sessions) (hr : (apiSystem T).Reachable s') :
    ∃ t', (apiSystem T).Reachable t' ∧ ServerState.Forgets { s with sessions } t' := by
  have account : ∀ {ae accounts}, AccountState.Step s.sessions.accounts ae accounts →
      sessions.accounts = accounts →
      ∃ t', (apiSystem T).Reachable t' ∧ ServerState.Forgets { s with sessions } t' := by
    rintro ae accounts hl rfl
    obtain ⟨e', b', hl', hb⟩ := h.accounts.step hl
    exact ⟨_, hr.step (.account hl'), hb, h.payments, h.messages⟩
  cases hs with
  | account hl => exact account hl rfl
  | registered hl _ _ => exact account hl rfl
  | @passwordUpdated r now _ =>
    have hrehash := rehash_updatePasswordHash s.sessions.accounts.users r.userId r.newHash now
    rw [← h.accounts.users] at hrehash
    exact ⟨_, hr.step (.account (.rehashed hrehash)),
      ⟨rfl, h.accounts.lookups, h.accounts.creating⟩, h.payments,
      h.messages⟩
  | _ => exact ⟨s', hr, h.accounts, h.payments, h.messages⟩

theorem payment (h : s.Forgets s') {e : PaymentEvent} {payments : PaymentState}
    (hs : PaymentState.Step s.payments e payments) (hr : (apiSystem T).Reachable s') :
    ∃ t', (apiSystem T).Reachable t' ∧ ServerState.Forgets { s with payments } t' := by
  rw [← h.payments] at hs
  exact ⟨_, hr.step (.payment hs), h.accounts, rfl, h.messages⟩

theorem message (h : s.Forgets s') {e : MessageEvent} {messages : MessageState}
    (hs : MessageState.Step T s.sessions.accounts.users s.payments.storage s.messages e messages)
    (hc : ∀ authUser ∈ e.caller, Authentic s.sessions.accounts.users authUser)
    (hr : (apiSystem T).Reachable s') :
    ∃ t', (apiSystem T).Reachable t' ∧ ServerState.Forgets { s with messages } t' := by
  obtain ⟨e', n', hl, hn, hcaller⟩ := h.messages.step hs
  rw [← h.accounts.users, ← h.payments] at hl
  refine ⟨_, hr.step (.message (fun authUser ha => ?_) hl), h.accounts, h.payments, hn⟩
  obtain ⟨u, hu, hname⟩ := hc authUser (hcaller ▸ ha)
  refine ⟨u.withoutPassword, ?_, hname⟩
  rw [h.accounts.users, withoutPasswords, Table.lookup_mapValues, hu, Option.map_some]

end ServerState.Forgets

/-- A run of the server without forged tokens is, without its passwords, a run of `apiSystem`, each
of whose callers is a stored user. -/
theorem server_refines_api {T : CaseTable} {J : JsonWebToken} {secret : String} {env : AuthEnv}
    (hJ : J.Lawful) {tr : List (Transition (ServerState T) (ServerEvent T))} {s : ServerState T}
    (h : (serverSystem T J secret env).Trace tr s) (hun : Unforged (System.labels tr)) :
    ∃ s', (apiSystem T).Reachable s' ∧ s.Forgets s' := by
  revert hun
  refine h.induct (P := fun tr s => Unforged (System.labels tr) →
    ∃ s', (apiSystem T).Reachable s' ∧ s.Forgets s') ?_ ?_
  · intro s hi _
    obtain rfl : s = .initial := hi
    exact ⟨.initial, .init rfl, ⟨rfl, rfl, .nil⟩, rfl, rfl, .nil, rfl, rfl⟩
  · intro tr s e t ht ih hl hun
    obtain ⟨s', hr, hs⟩ := ih (by rw [System.labels_append] at hun; exact hun.of_append)
    have hl' : ServerState.Step J secret env s e t := hl
    cases hl' with
    | session _ _ hstep _ => exact hs.session hstep hr
    | payment _ hstep => exact hs.payment hstep hr
    | message hnone hstep => exact hs.message hstep (by simp [hnone]) hr
    | denied _ => exact ⟨s', hr, hs⟩
    | @request cr authUser call _ hauth hc =>
      have he : System.labels (tr ++ [⟨s, .request cr authUser call, t⟩]) =
          System.labels tr ++ .request cr authUser call :: [] := System.labels_append _ _
      have hauthentic := ServerState.authentic hJ (ht.snoc hl) hun he
      cases hc with
      | profile => exact ⟨s', hr, hs⟩
      | logout hstep => exact hs.session hstep hr
      | payment _ hstep => exact hs.payment hstep hr
      | message hcaller hstep =>
        refine hs.message hstep (fun authUser' ha => ?_) hr
        rw [hcaller] at ha
        obtain rfl := Option.some.inj ha
        exact hauthentic

/-- Bob logs out. -/
theorem server_refines_api_sample : ∃ s s',
    (serverSystem .ascii sampleJsonWebToken sampleSecret sampleEnv).Reachable s ∧
      s.sessions.accounts.users = sampleServer.sessions.accounts.users ∧
      (apiSystem .ascii).Reachable s' ∧ s.Forgets s' := by
  obtain ⟨tr, as, h, -, hun⟩ := trace_sampleCall (.logout (.loggedOut _ .epoch))
  obtain ⟨s', hr, hs⟩ := server_refines_api lawful_sampleJsonWebToken h hun
  exact ⟨_, s', h.reachable, rfl, hr, hs⟩

end Hanbova
