import Hanbova.Accounts.PgHistory
import Hanbova.Api.Orphans
import Hanbova.Messages.PgSystem
import Hanbova.Payments.PgSystem

/-! The API server over PostgreSQL: whatever statements fail, it does what it does over the
in-memory repositories. -/
namespace Hanbova

open Library Library.Text Library.System
open InMemoryUserRepository (Users)
open PgUserRepository (UserRows Holds)

/-- What the database makes of a text, and of a time in each of the columns. -/
structure Database where
  lower : String → String
  auth : DateTime → DateTime
  payments : Precision
  messages : MessagePrecision

/-- `LOWER` leaves lower case as it is, and the columns keep whole seconds. -/
structure Database.Lawful (T : CaseTable) (D : Database) : Prop where
  lower : ∀ s, D.lower (T.toLowercase s) = T.toLowercase s
  auth : Coarsens D.auth

structure PgServerState (T : CaseTable) where
  sessions : PgSessionState T
  payments : PgPaymentCallState
  messages : PgMessageCallState

/-- A part of a call is done, a transaction gets on, an `UPDATE` changes nothing, or a statement
fails and ends its call. -/
inductive PgServerEvent (T : CaseTable)
  | done (e : ServerEvent T)
  | advanced (t : StatusUpdate)
  | unmatched (p : PendingAck)
  | failed (e : SqlxError)

namespace PgAuthService

def getProfile (rows : UserRows) (userId : Uuid) : Except ApiError UserProfileResponse :=
  match PgUserRepository.findById rows userId with
  | none => .error (.notFound "User not found")
  | some user => .ok (.ofUser user)

theorem getProfile_eq {rows : UserRows} {users : Users} {userId : Uuid}
    (h : PgUserRepository.findById rows userId = InMemoryUserRepository.findById users userId) :
    getProfile rows userId = AuthService.getProfile users userId := by
  cases hu : InMemoryUserRepository.findById users userId <;>
    simp [getProfile, AuthService.getProfile, h, hu]

end PgAuthService

namespace PgServerState
variable {T : CaseTable}

def initial : PgServerState T := ⟨.initial, .initial, .initial⟩

/-- Of the calls in flight some have ended, and nothing else has happened. -/
structure Lost (s t : PgServerState T) : Prop where
  sessions : s.sessions.Lost t.sessions
  payments : s.payments.Lost t.payments
  messages : s.messages.Lost t.messages

inductive CallStep (D : Database) (env : AuthEnv) (authUser : AuthUser) :
    PgServerState T → Call → PgServerState T → Prop
  | profile {s} :
      CallStep D env authUser s
        (.profile (PgAuthService.getProfile s.sessions.accounts.rows authUser.userId)) s
  | logout {s now sessions} :
      PgSessionState.Step D.lower env D.auth s.sessions (.done (.loggedOut authUser.userId now))
        sessions →
      CallStep D env authUser s (.logout now) { s with sessions }
  | payment {s e payments} :
      e.CalledBy authUser →
      PgPaymentCallState.Step T D.payments s.payments (.done e) payments →
      CallStep D env authUser s (.payment e) { s with payments }
  | message {s e messages} :
      e.caller = some authUser →
      PgMessageCallState.Step T D.lower D.messages s.sessions.accounts.rows
        s.payments.table.rows s.messages (.done e) messages →
      CallStep D env authUser s (.message e) { s with messages }

/-- The steps of `ServerState.Step` over the tables. Any statement may fail at any time. -/
inductive Step (J : JsonWebToken) (secret : String) (env : AuthEnv) (D : Database) :
    PgServerState T → PgServerEvent T → PgServerState T → Prop
  | failed {s t} (e : SqlxError) : Lost s t → Step J secret env D s (.failed e) t
  | session {s e sessions} (signedAt : DateTime) :
      ¬ e.IsLogout → PgSessionState.Step D.lower env D.auth s.sessions (.done e) sessions →
      (∀ p ∈ e.issues, generateAccessToken J p.user.id p.user.username secret
        AuthService.accessTokenExpiryMinutes signedAt = some (.ok p.accessToken)) →
      Step J secret env D s (.done (.session e signedAt)) { s with sessions }
  | payment {s e payments} :
      e.Continues → PgPaymentCallState.Step T D.payments s.payments (.done e) payments →
      Step J secret env D s (.done (.payment e)) { s with payments }
  | advanced {s t payments} :
      PgPaymentCallState.Step T D.payments s.payments (.advanced t) payments →
      Step J secret env D s (.advanced t) { s with payments }
  | message {s e messages} :
      e.caller = none →
      PgMessageCallState.Step T D.lower D.messages s.sessions.accounts.rows
        s.payments.table.rows s.messages (.done e) messages →
      Step J secret env D s (.done (.message e)) { s with messages }
  | unmatched {s p messages} :
      PgMessageCallState.Step T D.lower D.messages s.sessions.accounts.rows
        s.payments.table.rows s.messages (.unmatched p) messages →
      Step J secret env D s (.unmatched p) { s with messages }
  | request {s cr authUser call t} :
      AuthUser.fromRequestParts J secret cr.authorization cr.now = .ok authUser →
      CallStep D env authUser s call t →
      Step J secret env D s (.done (.request cr authUser call)) t
  | denied {s cr e} :
      AuthUser.fromRequestParts J secret cr.authorization cr.now = .error e →
      Step J secret env D s (.done (.denied cr e)) s

end PgServerState

def pgServerSystem (T : CaseTable) (J : JsonWebToken) (secret : String) (env : AuthEnv)
    (D : Database) : System (PgServerState T) (PgServerEvent T) where
  init s := s = .initial
  step := PgServerState.Step J secret env D

/-! ### What shows of a step -/

namespace Call

/-- Times show as the columns keep them, and failures of the database not at all. -/
def asStored (D : Database) : Call → Option Call
  | .logout now => some (.logout (D.auth now))
  | .message e => (PgMessageCallEvent.done e).shown.map .message
  | call => some call

/-- The call with answers of the database's precision. -/
def rounded (D : Database) : Call → Call
  | .payment e => .payment (e.rounded D.payments)
  | .message e => .message (e.rounded D.messages)
  | call => call

end Call

namespace ServerEvent
variable {T : CaseTable}

def asStored (D : Database) : ServerEvent T → Option (ServerEvent T)
  | .session e signedAt => (e.asStored D.auth).map fun e => .session e signedAt
  | .message e => (PgMessageCallEvent.done e).shown.map .message
  | .request cr authUser call => (call.asStored D).map fun call => .request cr authUser call
  | e => some e

/-- The order of the accounts does not show, and answers do at the database's precision. -/
def visible (D : Database) : ServerEvent T → Option (ServerEvent T)
  | .session e signedAt => e.visible.map fun e => .session e signedAt
  | .payment e => some (.payment (e.rounded D.payments))
  | .message e => some (.message (e.rounded D.messages))
  | .request cr authUser call => some (.request cr authUser (call.rounded D))
  | .denied cr e => some (.denied cr e)

end ServerEvent

def PgServerEvent.asStored {T : CaseTable} (D : Database) :
    PgServerEvent T → Option (ServerEvent T)
  | .done e => e.asStored D
  | _ => none

namespace SessionEvent
variable {T : CaseTable} {round : DateTime → DateTime} {e e' : SessionEvent T}

theorem asStored_isLogout (h : e.asStored round = some e') : e'.IsLogout ↔ e.IsLogout := by
  unfold asStored at h
  split at h
  · obtain ⟨ae, -, hv⟩ := Option.bind_eq_some_iff.mp h
    rw [visible_some hv]
    exact Iff.rfl
  all_goals cases h <;> exact Iff.rfl

/-- Only the expiry of a session is rounded. -/
theorem asStored_issues (h : e.asStored round = some e') :
    e'.issues = e.issues.map (PendingAuth.rounded round) := by
  cases e with
  | account ae =>
    obtain ⟨ae', -, hv⟩ := Option.bind_eq_some_iff.mp h
    rw [visible_some hv]
    rfl
  | loginRefused req fault =>
    cases fault with
    | panicked =>
      cases h
      rfl
    | error fault => cases fault <;> cases h <;> rfl
  | forgotFailed req fault =>
    cases fault with
    | panicked =>
      cases h
      rfl
    | error fault => cases fault <;> cases h <;> rfl
  | _ =>
    cases h
    rfl

/-- A step that does not show issues nothing. -/
theorem visible_none (h : e.visible = none) : ¬ e.IsLogout ∧ e.issues = none := by
  unfold visible at h
  split at h
  · exact ⟨id, rfl⟩
  · cases h

end SessionEvent

namespace PaymentEvent
variable {P : Precision} {e : PaymentEvent} {authUser : AuthUser}

theorem CalledBy.of_rounded (h : (e.rounded P).CalledBy authUser) : e.CalledBy authUser := by
  cases e <;> exact h

theorem Continues.of_rounded (h : (e.rounded P).Continues) : e.Continues := by
  cases e <;> exact h

end PaymentEvent

theorem MessageEvent.caller_rounded {Q : MessagePrecision} (e : MessageEvent) :
    (e.rounded Q).caller = e.caller := by
  cases e <;> rfl

theorem PgMessageCallEvent.shown_done {e l : MessageEvent} (h : (done e).shown = some l) :
    l = e := by
  cases e with
  | createRefused authUser payload fault => cases fault <;> cases h <;> rfl
  | _ =>
    cases h
    rfl

/-! ### The simulation -/

namespace ServerState
variable {T : CaseTable} {J : JsonWebToken} {secret : String} {env : AuthEnv}
  {tr : List (Transition (SessionState T) (SessionEvent T))}

/-- The sessions may run by themselves. -/
theorem run_sessions {s : ServerState T} {sessions : SessionState T} (signedAt : DateTime)
    (hrun : (sessionSystem T env).Run s.sessions tr sessions)
    (h : ∀ e ∈ labels tr, ¬ e.IsLogout ∧ ∀ p ∈ e.issues,
      generateAccessToken J p.user.id p.user.username secret AuthService.accessTokenExpiryMinutes
        signedAt = some (.ok p.accessToken)) :
    ∃ tr', (serverSystem T J secret env).Run s tr' { s with sessions } ∧
      labels tr' = (labels tr).map fun e => .session e signedAt := by
  refine hrun.embed (fun sessions => { s with sessions }) _ fun x hx hl => ?_
  obtain ⟨hnot, hsigned⟩ := h x.label (List.mem_map_of_mem hx)
  exact .session signedAt hnot hl hsigned

end ServerState

namespace PgServerState
variable {T : CaseTable} {J : JsonWebToken} {secret : String} {env : AuthEnv} {D : Database}
  {s t : PgServerState T} {s' t' : ServerState T} {e : PgServerEvent T}

structure Refines (env : AuthEnv) (D : Database) (s : PgServerState T) (s' : ServerState T) :
    Prop where
  sessions : PgSessionState.Refines env D.auth s.sessions s'.sessions
  payments : PgPaymentCallState.Refines T D.payments s.payments s'.payments
  messages : PgMessageCallState.Refines D.messages s.messages s'.messages

/-- The steps of the in-memory server that the step `e` comes down to. -/
def Matched (J : JsonWebToken) (secret : String) (env : AuthEnv) (D : Database)
    (s' : ServerState T) (e : PgServerEvent T) (t : PgServerState T) : Prop :=
  ∃ tr t', (serverSystem T J secret env).Run s' tr t' ∧
    (labels tr).filterMap (ServerEvent.visible D) = (e.asStored D).toList ∧ Refines env D t t'

theorem Matched.hidden (hview : e.asStored D = none) (h : Refines env D t s') :
    Matched J secret env D s' e t := ⟨[], s', .nil, by rw [hview]; rfl, h⟩

theorem Matched.moved {l : ServerEvent T} (hstep : ServerState.Step J secret env s' l t')
    (hview : l.visible D = e.asStored D) (h : Refines env D t t') :
    Matched J secret env D s' e t := by
  refine ⟨_, t', .single hstep, ?_, h⟩
  cases hl : l.visible D <;> simp [labels, hl, ← hview]

/-- A step of the sessions that issues nothing. -/
theorem Step.quiet {es : SessionEvent T} {sessions : PgSessionState T} (signedAt : DateTime)
    (hnot : ¬ es.IsLogout) (hnone : es.issues = none)
    (hstep : PgSessionState.Step D.lower env D.auth s.sessions (.done es) sessions) :
    Step J secret env D s (.done (.session es signedAt)) { s with sessions } :=
  .session signedAt hnot hstep (by simp [hnone])

variable (h : Refines env D s s')
include h

/-- The accounts may be iterated in the order of the rows. -/
theorem Refines.exists_rehash (J : JsonWebToken) (secret : String) : ∃ users,
    users.values = s.sessions.accounts.rows ∧ Roster T users ∧
    (∀ k, users.lookup k = s'.sessions.accounts.users.lookup k) ∧
    ∃ s'' : ServerState T, s''.sessions.accounts.users = users ∧ Refines env D s s'' ∧
      ∀ e t, Matched J secret env D s'' e t → Matched J secret env D s' e t := by
  obtain ⟨users, hr, hvalues, hroster, hR⟩ := h.sessions.exists_rehash
  refine ⟨users, hvalues, hroster, hr.lookup,
    { s' with sessions := { s'.sessions with accounts := { s'.sessions.accounts with users } } },
    rfl, { h with sessions := hR }, ?_⟩
  rintro e t ⟨tr, t', hrun, hview, ht⟩
  have hstep : (serverSystem T J secret env).step s' _ _ :=
    ServerState.Step.quiet .epoch id rfl (.account (.rehashed hr))
  refine ⟨_, t', (System.Run.single hstep).append hrun, ?_, ht⟩
  rw [labels_append, List.filterMap_append, hview]
  rfl

theorem Refines.lost (hl : Lost s t) : Refines env D t s' where
  sessions := h.sessions.lost hl.sessions
  payments := h.payments.lost hl.payments
  messages := h.messages.lost hl.messages

theorem Refines.session (hD : D.Lawful T) {es : SessionEvent T} {signedAt : DateTime}
    {sessions : PgSessionState T} (hnot : ¬ es.IsLogout)
    (hstep : PgSessionState.Step D.lower env D.auth s.sessions (.done es) sessions)
    (hsigned : ∀ p ∈ es.issues, generateAccessToken J p.user.id p.user.username secret
      AuthService.accessTokenExpiryMinutes signedAt = some (.ok p.accessToken)) :
    Matched J secret env D s' (.done (.session es signedAt)) { s with sessions } := by
  obtain ⟨tr, sessions', hrun, hview, hR⟩ := h.sessions.step hD.lower hD.auth hstep
  have hlabels : ∀ l ∈ labels tr, ¬ l.IsLogout ∧ ∀ p ∈ l.issues,
      generateAccessToken J p.user.id p.user.username secret AuthService.accessTokenExpiryMinutes
        signedAt = some (.ok p.accessToken) := by
    intro l hl
    cases hv : l.visible with
    | none =>
      obtain ⟨hnot, hnone⟩ := SessionEvent.visible_none hv
      exact ⟨hnot, by simp [hnone]⟩
    | some l' =>
      obtain rfl := SessionEvent.visible_some hv
      have hmem := List.mem_filterMap.mpr ⟨l', hl, hv⟩
      rw [hview] at hmem
      have hstored : es.asStored D.auth = some l' := Option.mem_toList.mp hmem
      refine ⟨fun hl => hnot ((SessionEvent.asStored_isLogout hstored).mp hl), fun p hp => ?_⟩
      rw [SessionEvent.asStored_issues hstored] at hp
      obtain ⟨q, hq, rfl⟩ := Option.mem_map.mp hp
      exact hsigned q hq
  obtain ⟨tr', hrun', he⟩ := ServerState.run_sessions signedAt hrun hlabels
  refine ⟨tr', _, hrun', ?_, { h with sessions := hR }⟩
  have hmap : (labels tr').filterMap (ServerEvent.visible D) =
      ((labels tr).filterMap SessionEvent.visible).map fun e => .session e signedAt := by
    rw [he, List.filterMap_map, List.map_filterMap]
    rfl
  rw [hmap, hview]
  show (es.asStored D.auth).toList.map _ = ((es.asStored D.auth).map _).toList
  cases es.asStored D.auth <;> rfl

theorem Refines.exists_payment {pe : PaymentEvent} {payments : PgPaymentCallState}
    (hstep : PgPaymentCallState.Step T D.payments s.payments (.done pe) payments) :
    ∃ l payments', PaymentState.Step s'.payments l payments' ∧ pe = l.rounded D.payments ∧
      Refines env D { s with payments } { s' with payments := payments' } := by
  rcases hstep.matched h.payments with ⟨hnone, -⟩ | ⟨l, payments', hl, hview, hR⟩
  · cases hnone
  · exact ⟨l, payments', hl, Option.some.inj hview, { h with payments := hR }⟩

/-- A step of a message request, which shows as the event `f` of the server. -/
theorem Refines.message (hD : D.Lawful T) {pe : PgMessageCallEvent}
    {messages : PgMessageCallState}
    (hstep : PgMessageCallState.Step T D.lower D.messages s.sessions.accounts.rows
      s.payments.table.rows s.messages pe messages)
    {f : MessageEvent → ServerEvent T} (hstored : e.asStored D = pe.shown.map f)
    (hf : ∀ l, (f l).visible D = some (f (l.rounded D.messages)))
    (hmoved : ∀ (s' : ServerState T) l messages', pe.shown = some (l.rounded D.messages) →
      MessageState.Step T s'.sessions.accounts.users s'.payments.storage s'.messages l messages' →
      ServerState.Step J secret env s' (f l) { s' with messages := messages' }) :
    Matched J secret env D s' e { s with messages } := by
  obtain ⟨users, hvalues, hroster, -, s'', rfl, hR, hback⟩ := h.exists_rehash J secret
  apply hback
  rcases hstep.matched hR.messages hD.lower hroster hvalues hR.payments.rows with
    ⟨hnone, hm⟩ | ⟨l, messages', hl, hview, hm⟩
  · exact .hidden (by rw [hstored, hnone]; rfl) { hR with messages := hm }
  · exact .moved (hmoved s'' l messages' hview hl) (by rw [hf, hstored, hview]; rfl)
      { hR with messages := hm }

theorem Refines.request (hD : D.Lawful T) {cr : Credentials} {authUser : AuthUser} {call : Call}
    (hauth : AuthUser.fromRequestParts J secret cr.authorization cr.now = .ok authUser)
    (hstep : CallStep D env authUser s call t) :
    Matched J secret env D s' (.done (.request cr authUser call)) t := by
  cases hstep with
  | profile =>
    obtain ⟨users, hvalues, hroster, hlookup, -⟩ := h.exists_rehash J secret
    have hfind := (PgUserRepository.findById_eq hroster hvalues authUser.userId).trans (hlookup _)
    rw [PgAuthService.getProfile_eq hfind]
    exact .moved (.request hauth .profile) rfl h
  | @logout now sessions hl =>
    cases hl with
    | loggedOut =>
      exact .moved (.request hauth (.logout (.loggedOut _ (D.auth now)))) rfl
        { h with sessions := h.sessions.loggedOut _ _ }
  | payment hcalled hl =>
    obtain ⟨l, payments', hl', rfl, hR⟩ := h.exists_payment hl
    exact .moved (.request hauth (.payment (hcalled.of_rounded) hl')) rfl hR
  | @message me messages hcaller hl =>
    refine h.message hD hl (f := fun me => .request cr authUser (.message me)) ?_
      (fun _ => rfl) fun s' l messages' hview hl' => ?_
    · show (((PgMessageCallEvent.done me).shown.map Call.message).map _) = _
      rw [Option.map_map]
      rfl
    · refine .request hauth (.message ?_ hl')
      rw [← hcaller, ← MessageEvent.caller_rounded l, PgMessageCallEvent.shown_done hview]

theorem Refines.step (hD : D.Lawful T) (hstep : Step J secret env D s e t) :
    Matched J secret env D s' e t := by
  cases hstep with
  | failed e hl => exact .hidden rfl (h.lost hl)
  | session signedAt hnot hl hsigned => exact h.session hD hnot hl hsigned
  | payment hcont hl =>
    obtain ⟨l, payments', hl', rfl, hR⟩ := h.exists_payment hl
    exact .moved (.payment (hcont.of_rounded) hl') rfl hR
  | advanced hl =>
    rcases hl.matched h.payments with ⟨-, hR⟩ | ⟨l, payments', -, hview, -⟩
    · exact .hidden rfl { h with payments := hR }
    · cases hview
  | message hnone hl =>
    refine h.message hD hl (f := .message) rfl (fun _ => rfl) fun s' l messages' hview hl' => ?_
    refine .message ?_ hl'
    rw [← hnone, ← MessageEvent.caller_rounded l, PgMessageCallEvent.shown_done hview]
  | unmatched hl =>
    exact h.message hD hl (f := .message) rfl (fun _ => rfl) fun s' l messages' hview _ => by
      cases hview
  | request hauth hc => exact h.request hD hauth hc
  | denied hauth => exact .moved (.denied hauth) rfl h

omit h in
theorem simulation (hD : D.Lawful T) :
    WeakSimulation (pgServerSystem T J secret env D) (serverSystem T J secret env)
      (PgServerEvent.asStored D) (ServerEvent.visible D) (Refines env D) where
  init := by
    rintro s rfl
    exact ⟨.initial, rfl, PgSessionState.refines_initial, PgPaymentCallState.refines_initial,
      PgMessageCallState.refines_initial⟩
  step _ _ _ _ _ hstep hR := hR.step hD hstep

end PgServerState

/-- Lower case is ASCII, and times are kept in microseconds. -/
def sampleDatabase : Database where
  lower := CaseTable.ascii.toLowercase
  auth := toMicros
  payments := ⟨toMicros, toMicros, toMicros⟩
  messages := ⟨toMicros, toMicros⟩

theorem lawful_sampleDatabase : sampleDatabase.Lawful .ascii :=
  ⟨CaseTable.toLowercase_idem, coarsens_toMicros⟩

def sampleNote : AddressedMessage := ⟨sampleBob, sampleMessage, sampleUser 1 "bob"⟩

/-- Bob's message to himself. -/
def sampleNoteRow : ProtectedMessageRow := CreateProtectedMessage.row sampleNote (.ofNat 3) .epoch

/-- Bob has registered, paid and sent himself a message. -/
def samplePgServer : PgServerState .ascii where
  sessions := ⟨⟨[sampleUser 1 "bob"], [.ofNat 1], [], []⟩,
    [sampleTokenRecord 0 nextMonth none], [], [sampleDigest 0], [], [], [], [], [], []⟩
  payments := ⟨⟨Table.insert ∅ (.ofNat 1)
    (PgPaymentIntentRepository.encode sampleDatabase.payments sampleBobPayment), [], 0⟩,
    [.ofNat 2, .ofNat 1], [], []⟩
  messages := ⟨Table.insert ∅ (.ofNat 3) (sampleNoteRow.rounded sampleDatabase.messages),
    [.ofNat 3], [], [], []⟩

/-- What the server has done for Bob; of his second payment nothing is left. -/
def samplePgEvents : List (ServerEvent .ascii) :=
  [.session (.account (.validated sampleRegistration)) .epoch,
    .session (.account (.usernameFree sampleRegistration)) .epoch,
    .session (.account (.emailFree sampleRegistration (sampleUser 1 "bob"))) .epoch,
    .session (.registered sampleIssue) .epoch,
    .session (.stored sampleIssue (AuthService.authResponse sampleIssue)) .epoch,
    .request (sampleBearer false) sampleBob
      (.payment (.createPrepared sampleBobRequest .epoch .epoch sampleBobPayment)),
    .payment (.createStored sampleBobPayment (.ofIntent sampleBobPayment)),
    .request (sampleBearer false) sampleBob
      (.payment (.createPrepared sampleBobRequest .epoch .epoch
        { sampleBobPayment with id := .ofNat 2 })),
    .request (sampleBearer false) sampleBob (.message (.createAddressed sampleNote)),
    .message (.createLinked sampleNote sampleNoteRow),
    .message (.createStored sampleNoteRow (.ofRow sampleNoteRow))]

open PgServerState in
theorem trace_samplePgServer : ∃ tr,
    (pgServerSystem .ascii sampleJsonWebToken sampleSecret sampleEnv sampleDatabase).Trace tr
      samplePgServer ∧
    (labels tr).filterMap (PgServerEvent.asStored sampleDatabase) = samplePgEvents := by
  have h₀ : (pgServerSystem .ascii sampleJsonWebToken sampleSecret sampleEnv sampleDatabase).Trace
      [] .initial := ⟨_, rfl, .nil⟩
  have hvalid : AuthService.validate .ascii (sampleAccount "bob") = .ok sampleRegistration := by
    decide +kernel
  have hname : PgUserRepository.checkUsername sampleDatabase.lower [] sampleRegistration =
      .ok () := by decide +kernel
  have hemail : PgUserRepository.checkEmail sampleDatabase.lower [] sampleRegistration =
      .ok () := by decide +kernel
  have hnew : AuthService.newUser sampleRegistration (sampleDraw 1) = .ok (sampleUser 1 "bob") := by
    decide +kernel
  have hcreate : PgUserRepository.createUser toMicros [] (sampleUser 1 "bob") =
      .ok (sampleUser 1 "bob", [sampleUser 1 "bob"]) := by decide +kernel
  have hprep : AuthService.prepareAuthResponse (sampleUser 1 "bob")
      ⟨.ok sampleJwt, sampleToken 0, .epoch⟩ = .ok sampleIssue := by decide +kernel
  have hstore : PgAuthService.storeAuth sampleEnv toMicros [] sampleIssue ⟨.ofNat 10, .epoch⟩ =
      .ok (AuthService.authResponse sampleIssue, [sampleTokenRecord 0 nextMonth none]) := by
    decide +kernel
  have hpay : PaymentService.createPaymentIntent sampleBobRequest (.ofNat 1) .epoch .epoch =
      .ok sampleBobPayment := by decide +kernel
  have hpay' : PaymentService.createPaymentIntent sampleBobRequest (.ofNat 2) .epoch .epoch =
      .ok { sampleBobPayment with id := .ofNat 2 } := by decide +kernel
  have haddress : PgCreateProtectedMessage.address .ascii sampleDatabase.lower
      [sampleUser 1 "bob"] sampleBob sampleMessage = .ok sampleNote := by decide +kernel
  have hcalled : ∀ i, PaymentEvent.CalledBy sampleBob
      (.createPrepared sampleBobRequest .epoch .epoch i) := fun _ => rfl
  have hcont : PaymentEvent.Continues
      (.createStored sampleBobPayment (.ofIntent sampleBobPayment)) := trivial
  have h₁ := h₀.snoc (Step.quiet .epoch id rfl (.account (.validated hvalid)))
  have h₂ :=
    h₁.snoc (Step.quiet .epoch id rfl (.account (.usernameFree List.mem_cons_self hname)))
  have h₃ := h₂.snoc (Step.quiet .epoch id rfl
    (.account (.emailFree List.mem_cons_self hemail List.not_mem_nil hnew)))
  have h₄ := h₃.snoc (Step.session .epoch id
    (.registered (.created List.mem_cons_self hcreate) hprep List.not_mem_nil) (by
      intro p hp
      obtain rfl := Option.some.inj hp
      decide +kernel))
  have h₅ := h₄.snoc (Step.quiet .epoch id rfl (.stored List.mem_cons_self hstore))
  have h₆ := h₅.snoc (Step.request fromRequestParts_sampleBearer
    (.payment (hcalled _) (.createPrepared List.not_mem_nil hpay)))
  have h₇ := h₆.snoc (Step.payment hcont (.createStored List.mem_cons_self))
  have h₈ := h₇.snoc (Step.request fromRequestParts_sampleBearer
    (.payment (hcalled _) (.createPrepared (by decide) hpay')))
  have h₉ := h₈.snoc (Step.request fromRequestParts_sampleBearer
    (.message rfl (.createAddressed haddress)))
  have h₁₀ := h₉.snoc (Step.message (e := .createLinked sampleNote sampleNoteRow) rfl
    (.createLinked List.mem_cons_self rfl List.not_mem_nil))
  have h₁₁ := h₁₀.snoc (Step.message rfl (.createStored List.mem_cons_self rfl))
  simp only [List.erase_cons_head] at h₁₁
  have h₁₂ := h₁₁.snoc (t := samplePgServer) (Step.failed (.other "pool timed out")
    (by
      refine ⟨?_, ?_, ?_⟩ <;> constructor <;>
        simp [samplePgServer, PgServerState.initial, PgSessionState.initial,
          PgPaymentCallState.initial, PgMessageCallState.initial, PgPaymentState.initial] <;>
        rfl))
  exact ⟨_, h₁₂, rfl⟩

end Hanbova
