import Hanbova.Accounts.Passwords
import Hanbova.Api.Bearer
import Hanbova.Api.System

/-! The API server with its sessions: whoever makes a request is known by the access token that the
request presents. -/
namespace Hanbova

open Library Library.Text

structure ServerState (T : CaseTable) where
  sessions : SessionState T
  payments : PaymentState
  messages : MessageState

/-- What identifies the caller of a request: its header, at a time. -/
structure Credentials where
  authorization : Option (List UInt8)
  now : DateTime
  deriving DecidableEq

/-- A call that only an identified caller can make. -/
inductive Call
  | profile (answer : Except ApiError UserProfileResponse)
  | logout (now : DateTime)
  | payment (e : PaymentEvent)
  | message (e : MessageEvent)

inductive ServerEvent (T : CaseTable)
  | session (e : SessionEvent T) (signedAt : DateTime)
  | payment (e : PaymentEvent)
  | message (e : MessageEvent)
  | request (cr : Credentials) (authUser : AuthUser) (call : Call)
  | denied (cr : Credentials) (e : ApiError)

/-- The session for which a step draws its tokens. -/
def SessionEvent.issues {T : CaseTable} : SessionEvent T → Option PendingAuth
  | .registered p => some p
  | .loggedIn _ p => some p
  | .refreshed _ p => some p
  | _ => none

/-- The handlers of payments take the caller from the token, whatever the body of the request
says. -/
def PaymentEvent.CalledBy (authUser : AuthUser) : PaymentEvent → Prop
  | .createRefused req _ => req.senderId = some authUser.userId.toString
  | .createPrepared req _ _ _ => req.senderId = some authUser.userId.toString
  | .updateRefused req _ =>
    req.userId = authUser.userId.toString ∧ req.username = some authUser.username
  | .updateAuthorised u =>
    u.request.userId = authUser.userId.toString ∧ u.request.username = some authUser.username
  | _ => False

/-- The step takes no request in. -/
def PaymentEvent.Continues : PaymentEvent → Prop
  | .createStored _ _ => True
  | .updateWritten _ _ _ => True
  | _ => False

def SessionEvent.IsLogout {T : CaseTable} : SessionEvent T → Prop
  | .loggedOut _ _ => True
  | _ => False

namespace ServerState
variable {T : CaseTable}

def initial : ServerState T := ⟨.initial, .initial, .initial⟩

inductive CallStep (env : AuthEnv) (authUser : AuthUser) :
    ServerState T → Call → ServerState T → Prop
  | profile {s} :
      CallStep env authUser s
        (.profile (AuthService.getProfile s.sessions.accounts.users authUser.userId)) s
  | logout {s now sessions} :
      SessionState.Step env s.sessions (.loggedOut authUser.userId now) sessions →
      CallStep env authUser s (.logout now) { s with sessions }
  | payment {s e payments} :
      e.CalledBy authUser → PaymentState.Step s.payments e payments →
      CallStep env authUser s (.payment e) { s with payments }
  | message {s e messages} :
      e.caller = some authUser →
      MessageState.Step T s.sessions.accounts.users s.payments.storage s.messages e messages →
      CallStep env authUser s (.message e) { s with messages }

/-- A step that draws the tokens of a session signs the access token for its user. -/
inductive Step (J : JsonWebToken) (secret : String) (env : AuthEnv) :
    ServerState T → ServerEvent T → ServerState T → Prop
  | session {s e sessions} (signedAt : DateTime) :
      ¬ e.IsLogout → SessionState.Step env s.sessions e sessions →
      (∀ p ∈ e.issues, generateAccessToken J p.user.id p.user.username secret
        AuthService.accessTokenExpiryMinutes signedAt = some (.ok p.accessToken)) →
      Step J secret env s (.session e signedAt) { s with sessions }
  | payment {s e payments} :
      e.Continues → PaymentState.Step s.payments e payments →
      Step J secret env s (.payment e) { s with payments }
  | message {s e messages} :
      e.caller = none →
      MessageState.Step T s.sessions.accounts.users s.payments.storage s.messages e messages →
      Step J secret env s (.message e) { s with messages }
  | request {s cr authUser call t} :
      AuthUser.fromRequestParts J secret cr.authorization cr.now = .ok authUser →
      CallStep env authUser s call t → Step J secret env s (.request cr authUser call) t
  | denied {s cr e} :
      AuthUser.fromRequestParts J secret cr.authorization cr.now = .error e →
      Step J secret env s (.denied cr e) s

end ServerState

/-- The whole server, from its start on. -/
def serverSystem (T : CaseTable) (J : JsonWebToken) (secret : String) (env : AuthEnv) :
    System (ServerState T) (ServerEvent T) where
  init s := s = .initial
  step := ServerState.Step J secret env

/-- The access token of the session `p` was signed at the time `signedAt`. -/
def IssuedAt {T : CaseTable} (es : List (ServerEvent T)) (p : PendingAuth) (signedAt : DateTime) :
    Prop := ∃ e, .session e signedAt ∈ es ∧ e.issues = some p

/-- Nobody but the server signs tokens: a request that passes presents a token that was issued
before. -/
def Unforged {T : CaseTable} (es : List (ServerEvent T)) : Prop :=
  ∀ as bs cr authUser call, es = as ++ .request cr authUser call :: bs →
    ∃ p signedAt, IssuedAt as p signedAt ∧ presented cr.authorization = some p.accessToken

variable {T : CaseTable} {J : JsonWebToken} {secret : String} {env : AuthEnv}

theorem IssuedAt.mono {es es' : List (ServerEvent T)} {p : PendingAuth} {signedAt : DateTime}
    (h : IssuedAt es p signedAt) (hes : es ⊆ es') : IssuedAt es' p signedAt := by
  obtain ⟨e, he, hp⟩ := h
  exact ⟨e, hes he, hp⟩

theorem Unforged.of_append {es es' : List (ServerEvent T)} (h : Unforged (es ++ es')) :
    Unforged es := by
  intro as bs cr authUser call he
  exact h as (bs ++ es') cr authUser call (by rw [he, List.append_assoc, List.cons_append])

/-- All requests present a token that was issued before the first of them. -/
theorem unforged_of_issued {as bs : List (ServerEvent T)} {p : PendingAuth} {signedAt : DateTime}
    (hp : IssuedAt as p signedAt) (has : ∀ cr authUser call, .request cr authUser call ∉ as)
    (hbs : ∀ cr authUser call, .request cr authUser call ∈ bs →
      presented cr.authorization = some p.accessToken) : Unforged (as ++ bs) := by
  intro cs ds cr authUser call he
  rcases List.append_eq_append_iff.mp he with ⟨xs, rfl, hxs⟩ | ⟨xs, rfl, hxs⟩
  · refine ⟨p, signedAt, hp.mono (List.subset_append_left _ _), hbs cr authUser call ?_⟩
    rw [hxs]
    exact List.mem_append_right _ List.mem_cons_self
  · cases xs with
    | nil =>
      rw [List.append_nil] at hp
      refine ⟨p, signedAt, hp, hbs cr authUser call ?_⟩
      rw [← List.nil_append bs, ← hxs]
      exact List.mem_cons_self
    | cons x xs =>
      obtain ⟨rfl, -⟩ := List.cons.inj hxs
      exact absurd (List.mem_append_right _ List.mem_cons_self) (has cr authUser call)

theorem Unforged.snoc {es : List (ServerEvent T)} {e : ServerEvent T} (h : Unforged es)
    (he : ∀ cr authUser call, e = .request cr authUser call →
      ∃ p signedAt, IssuedAt es p signedAt ∧ presented cr.authorization = some p.accessToken) :
    Unforged (es ++ [e]) := by
  intro as bs cr authUser call hsplit
  rcases List.eq_nil_or_concat bs with rfl | ⟨cs, e', rfl⟩
  · obtain ⟨rfl, hlast⟩ := List.append_inj' hsplit rfl
    exact he cr authUser call (List.singleton_inj.mp hlast)
  · have hcons : as ++ .request cr authUser call :: (cs ++ [e']) =
        (as ++ .request cr authUser call :: cs) ++ [e'] := by simp
    rw [List.concat_eq_append, hcons] at hsplit
    exact h as cs cr authUser call (List.append_inj' hsplit rfl).1

theorem Unforged.payment {es : List (ServerEvent T)} (h : Unforged es) (pe : PaymentEvent) :
    Unforged (es ++ [.payment pe]) := by
  refine h.snoc fun cr authUser call hreq => ?_
  cases hreq

namespace ServerState
variable {s t : ServerState T} {e : ServerEvent T}
variable {tr : List (Transition (ServerState T) (ServerEvent T))}

/-- The sessions run as they would alone. -/
theorem sessions_reachable (h : (serverSystem T J secret env).Reachable s) :
    (sessionSystem T env).Reachable s.sessions := by
  apply h.map ServerState.sessions (fun _ hi => by rw [hi]; rfl)
  intro s e t hl
  cases hl with
  | session _ _ hl _ => exact .inr ⟨_, hl⟩
  | request _ hc =>
    cases hc with
    | logout hl => exact .inr ⟨_, hl⟩
    | _ => exact .inl rfl
  | _ => exact .inl rfl

theorem Step.evolves_users (h : Step J secret env s e t)
    (hs : (serverSystem T J secret env).Reachable s) :
    Table.Evolves User.SameAccount s.sessions.accounts.users t.sessions.accounts.users := by
  have hsessions := sessions_reachable hs
  have same := Table.Evolves.refl User.SameAccount.refl s.sessions.accounts.users
  cases h with
  | session _ _ hl _ => exact hl.evolves_users hsessions
  | request _ hc =>
    cases hc with
    | logout hl => exact hl.evolves_users hsessions
    | _ => exact same
  | _ => exact same

theorem run_evolves_users (h : (serverSystem T J secret env).Run s tr t)
    (hs : (serverSystem T J secret env).Reachable s) :
    Table.Evolves User.SameAccount s.sessions.accounts.users t.sessions.accounts.users := by
  refine h.relates
    (R := fun s t => Table.Evolves User.SameAccount s.sessions.accounts.users
      t.sessions.accounts.users)
    hs (fun _ => .refl User.SameAccount.refl _) ?_ fun _ _ _ hr hl => Step.evolves_users hl hr
  intro s t u h h'
  exact h.trans .trans h'

/-- A step of the sessions that issues nothing. -/
theorem Step.quiet {es : SessionEvent T} {sessions : SessionState T} (signedAt : DateTime)
    (hnot : ¬ es.IsLogout) (hnone : es.issues = none)
    (h : SessionState.Step env s.sessions es sessions) :
    Step J secret env s (.session es signedAt) { s with sessions } :=
  .session signedAt hnot h (by simp [hnone])

theorem Step.session_inv {es : SessionEvent T} {signedAt : DateTime}
    (h : Step J secret env s (.session es signedAt) t) :
    SessionState.Step env s.sessions es t.sessions ∧
      ∀ p ∈ es.issues, generateAccessToken J p.user.id p.user.username secret
        AuthService.accessTokenExpiryMinutes signedAt = some (.ok p.accessToken) := by
  cases h with
  | session _ _ hl hsigned => exact ⟨hl, hsigned⟩

theorem Step.request_inv {cr : Credentials} {authUser : AuthUser} {call : Call}
    (h : Step J secret env s (.request cr authUser call) t) :
    AuthUser.fromRequestParts J secret cr.authorization cr.now = .ok authUser ∧
      CallStep env authUser s call t := by
  cases h with
  | request ha hc => exact ⟨ha, hc⟩

/-- Whoever is issued a token is a stored user. -/
theorem issued_known (hs : (sessionSystem T env).Reachable s.sessions) {es : SessionEvent T}
    {sessions : SessionState T} (h : SessionState.Step env s.sessions es sessions) {p : PendingAuth}
    (hp : es.issues = some p) : sessions.accounts.users.lookup p.user.id = some p.user := by
  have hinbound := SessionState.inbound_of_reachable hs
  cases h with
  | registered hl hprep _ =>
    obtain rfl := Option.some.inj hp
    rw [(AuthService.prepareAuthResponse_ok hprep).1]
    cases hl with
    | created _ hc =>
      have hc' := InMemoryUserRepository.createUser_ok (AuthService.createUser_ok hc)
      exact hc'.2.1.lookup_self
  | loggedIn hlogin _ =>
    obtain rfl := Option.some.inj hp
    obtain ⟨user, hfind, -, hprep⟩ := AuthService.login_ok hlogin
    rw [(AuthService.prepareAuthResponse_ok hprep).1]
    exact hinbound.keyed.lookup (InMemoryUserRepository.findByUsernameOrEmail_some hfind).1
  | refreshed _ huser _ =>
    obtain rfl := Option.some.inj hp
    obtain ⟨user, hl, hprep⟩ := AuthService.refreshUser_ok huser
    rw [(AuthService.prepareAuthResponse_ok hprep).1, hinbound.keyed _ _ hl]
    exact hl
  | _ => cases hp

/-- Every token was signed for a user who is stored, under this name, ever since. -/
theorem issued (h : (serverSystem T J secret env).Trace tr s) {p : PendingAuth}
    {signedAt : DateTime} (hp : IssuedAt (System.labels tr) p signedAt) :
    generateAccessToken J p.user.id p.user.username secret AuthService.accessTokenExpiryMinutes
      signedAt = some (.ok p.accessToken) ∧
    ∃ u, s.sessions.accounts.users.lookup p.user.id = some u ∧ p.user.SameAccount u := by
  obtain ⟨e, he, hissues⟩ := hp
  obtain ⟨x, hx, hlabel⟩ := System.mem_labels.mp he
  obtain ⟨hpre, hl, tr₂, hrun⟩ := h.split hx
  obtain ⟨pre, label, post⟩ := x
  obtain rfl : label = .session e signedAt := hlabel
  have hevolves := run_evolves_users hrun (hpre.step hl)
  obtain ⟨hsession, hsigned⟩ := Step.session_inv hl
  exact ⟨hsigned p hissues,
    hevolves _ _ (issued_known (sessions_reachable hpre) hsession hissues)⟩

/-- Whoever makes a request is the stored user to whom the presented token was issued, at most as
long ago as tokens are valid. -/
theorem identified (hJ : J.Lawful) (h : (serverSystem T J secret env).Trace tr s)
    (hun : Unforged (System.labels tr)) {as bs : List (ServerEvent T)} {cr : Credentials}
    {authUser : AuthUser} {call : Call}
    (he : System.labels tr = as ++ .request cr authUser call :: bs) :
    ∃ p signedAt, IssuedAt as p signedAt ∧ presented cr.authorization = some p.accessToken ∧
      authUser = ⟨p.user.id, p.user.username⟩ ∧
      cr.now.timestamp ≤ signedAt.timestamp + 15 * 60 + leeway ∧
      ∃ u, s.sessions.accounts.users.lookup authUser.userId = some u ∧
        p.user.SameAccount u := by
  obtain ⟨p, signedAt, hp, ht⟩ := hun as bs cr authUser call he
  have hmono : IssuedAt (System.labels tr) p signedAt := by
    rw [he]
    exact hp.mono (List.subset_append_left _ _)
  obtain ⟨hsigned, u, hu, hsame⟩ := issued h hmono
  obtain ⟨s₀, -, hrun⟩ := h
  obtain ⟨tr₁, q, q', tr₂, -, -, -, -, hl, -⟩ := hrun.cut_label he
  obtain ⟨token, c, ht', hc, hid, hname⟩ := fromRequestParts_ok hl.request_inv.1
  obtain rfl := Option.some.inj (ht.symm.trans ht')
  have hencode := generateAccessToken_ok hsigned
  have hd := validateAccessToken_ok.mp hc
  obtain rfl := hJ.claims hencode hd
  have hsub : p.user.id = authUser.userId :=
    Option.some.inj ((Uuid.parseStr_toString p.user.id).symm.trans hid)
  have hauth : authUser = ⟨p.user.id, p.user.username⟩ := by
    rw [hsub, show p.user.username = authUser.username from hname]
  refine ⟨p, signedAt, hp, ht, hauth, hJ.unexpired hd, u, ?_, hsame⟩
  rw [hauth]
  exact hu

theorem authentic (hJ : J.Lawful) (h : (serverSystem T J secret env).Trace tr s)
    (hun : Unforged (System.labels tr)) {as bs : List (ServerEvent T)} {cr : Credentials}
    {authUser : AuthUser} {call : Call}
    (he : System.labels tr = as ++ .request cr authUser call :: bs) :
    Authentic s.sessions.accounts.users authUser := by
  obtain ⟨p, signedAt, -, -, hauth, -, u, hu, hsame⟩ := identified hJ h hun he
  refine ⟨u, hu, ?_⟩
  rw [hauth]
  exact hsame.names.2.1

end ServerState

/-- In every run that nobody has forged a token for, whoever makes a request is the stored user to
whom the presented token was issued no longer than sixteen minutes before. -/
theorem requests_are_authentic (hJ : J.Lawful)
    {tr : List (Transition (ServerState T) (ServerEvent T))} {s : ServerState T}
    (h : (serverSystem T J secret env).Trace tr s) (hun : Unforged (System.labels tr)) :
    ∀ as bs cr authUser call, System.labels tr = as ++ .request cr authUser call :: bs →
      Authentic s.sessions.accounts.users authUser ∧
      ∃ p signedAt, IssuedAt as p signedAt ∧ presented cr.authorization = some p.accessToken ∧
        authUser = ⟨p.user.id, p.user.username⟩ ∧
        cr.now.timestamp ≤ signedAt.timestamp + 16 * 60 := by
  intro as bs cr authUser call he
  obtain ⟨p, signedAt, hp, ht, hauth, hnow, -⟩ := ServerState.identified hJ h hun he
  refine ⟨ServerState.authentic hJ h hun he, p, signedAt, hp, ht, hauth, ?_⟩
  unfold leeway at hnow
  omega

theorem ofUser_of_sameAccount {u v : User} (h : u.SameAccount v) :
    UserProfileResponse.ofUser v = .ofUser u := by
  rw [h]
  rfl

/-- Whatever has happened since, logouts and resets included, an access token gets its user the
profile until sixteen minutes after it was issued, and nothing afterwards. -/
theorem tokens_last_sixteen_minutes (hJ : J.Lawful)
    {tr : List (Transition (ServerState T) (ServerEvent T))} {s : ServerState T}
    (h : (serverSystem T J secret env).Trace tr s) {p : PendingAuth} {signedAt : DateTime}
    (hp : IssuedAt (System.labels tr) p signedAt) (hepoch : .epoch ≤ signedAt) (now : DateTime) :
    getMe J secret s.sessions.accounts.users (some (bearer p.accessToken)) now =
      if now.timestamp ≤ signedAt.timestamp + 16 * 60 then .ok (.ofUser p.user)
      else .error authenticationRequired := by
  obtain ⟨hsigned, u, hu, hsame⟩ := ServerState.issued h hp
  have hstart : 0 ≤ signedAt.timestamp := Int.ediv_nonneg hepoch (by decide)
  have hiff : ∀ authUser, AuthUser.fromRequestParts J secret (some (bearer p.accessToken)) now =
      .ok authUser ↔ authUser = ⟨p.user.id, p.user.username⟩ ∧
        now.timestamp ≤ signedAt.timestamp + 15 * 60 + 60 :=
    fun _ => fromRequestParts_issued hJ hsigned (by omega)
  unfold getMe
  cases hauth : AuthUser.fromRequestParts J secret (some (bearer p.accessToken)) now with
  | error e =>
    have hlate : ¬ now.timestamp ≤ signedAt.timestamp + 16 * 60 := by
      intro hnow
      have hok := (hiff ⟨p.user.id, p.user.username⟩).mpr ⟨rfl, by omega⟩
      rw [hauth] at hok
      cases hok
    rw [if_neg hlate, fromRequestParts_error hauth]
    rfl
  | ok authUser =>
    obtain ⟨rfl, hnow⟩ := (hiff authUser).mp hauth
    rw [if_pos (by omega), ← ofUser_of_sameAccount hsame]
    show AuthService.getProfile s.sessions.accounts.users p.user.id = _
    rw [AuthService.getProfile, InMemoryUserRepository.findById, hu]

def sampleSecret : String := "test-jwt-secret-key-1234567890123456"

/-- What Bob's first access token says. -/
def sampleClaims : Claims where
  sub := "00000000-0000-0000-0000-000000000001"
  username := "bob"
  exp := 900
  iat := 0

/-- These claims, signed under the secret with HMAC-SHA256. -/
def sampleJwt : String :=
  "eyJ0eXAiOiJKV1QiLCJhbGciOiJIUzI1NiJ9." ++
  "eyJzdWIiOiIwMDAwMDAwMC0wMDAwLTAwMDAtMDAwMC0wMDAwMDAwMDAwMDEiLCJ1c2VybmFtZSI6ImJvYiIs" ++
  "ImV4cCI6OTAwLCJpYXQiOjB9.BZzt1b140aj7GrIwwH17a_tGd-iQggAoIYCu8wcqNm4"

def sampleJsonWebToken : JsonWebToken where
  encode c secret :=
    if c = sampleClaims ∧ secret = sampleSecret then .ok sampleJwt else .error "InvalidKeyFormat"
  decode token secret now :=
    if token = sampleJwt ∧ secret = sampleSecret then
      if now.timestamp ≤ sampleClaims.exp + leeway then .ok sampleClaims
      else .error "ExpiredSignature"
    else .error "InvalidSignature"

theorem encode_sample {c : Claims} {secret token : String}
    (h : sampleJsonWebToken.encode c secret = .ok token) :
    c = sampleClaims ∧ secret = sampleSecret ∧ token = sampleJwt := by
  unfold sampleJsonWebToken at h
  simp only at h
  split_ifs at h with hc
  exact ⟨hc.1, hc.2, (Except.ok.inj h).symm⟩

theorem decode_sample {c : Claims} {secret token : String} {now : DateTime}
    (h : sampleJsonWebToken.decode token secret now = .ok c) :
    c = sampleClaims ∧ now.timestamp ≤ sampleClaims.exp + leeway := by
  unfold sampleJsonWebToken at h
  simp only at h
  split_ifs at h with _ hnow
  exact ⟨(Except.ok.inj h).symm, hnow⟩

theorem signed_sampleJwt :
    sampleJsonWebToken.encode sampleClaims sampleSecret = .ok sampleJwt := by
  unfold sampleJsonWebToken
  simp only [and_self, if_true]

theorem isTokenChar_sampleJwt : ∀ c ∈ sampleJwt.toList, isTokenChar c = true :=
  List.all_eq_true.mp (by decide +kernel)

theorem lawful_sampleJsonWebToken : sampleJsonWebToken.Lawful where
  text h := by
    obtain ⟨-, -, rfl⟩ := encode_sample h
    exact isTokenChar_sampleJwt
  claims h hd := by
    obtain ⟨rfl, -, -⟩ := encode_sample h
    exact (decode_sample hd).1
  unexpired hd := by
    obtain ⟨rfl, hnow⟩ := decode_sample hd
    exact hnow
  accepts h _ hnow := by
    obtain ⟨rfl, rfl, rfl⟩ := encode_sample h
    unfold sampleJsonWebToken
    simp only [and_self, if_true, if_pos hnow]

def sampleIssue : PendingAuth := ⟨sampleUser 1 "bob", sampleJwt, sampleToken 0, nextMonth⟩

/-- Bob has registered and holds a signed access token. -/
def sampleServer : ServerState .ascii := ⟨sampleSession, .initial, .initial⟩

open SessionState in
theorem trace_sampleServer : ∃ tr es,
    (serverSystem .ascii sampleJsonWebToken sampleSecret sampleEnv).Trace tr sampleServer ∧
    System.labels tr = es ∧ (∀ cr authUser call, .request cr authUser call ∉ es) ∧
    IssuedAt es sampleIssue .epoch := by
  let r : AuthService.Registration .ascii :=
    ⟨sampleAccount "bob", by decide +kernel, by decide +kernel, by decide +kernel⟩
  have h₁ := System.Run.single
    (T := serverSystem .ascii sampleJsonWebToken sampleSecret sampleEnv) (s := .initial)
    (ServerState.Step.quiet (s := .initial) .epoch id rfl (Step.account
      (@AccountState.Step.validated .ascii _ (sampleAccount "bob") r (by decide +kernel))))
  have h₂ := h₁.snoc (ServerState.Step.quiet .epoch id rfl (Step.account
    (AccountState.Step.usernameFree List.mem_cons_self (by decide +kernel))))
  have h₃ := h₂.snoc (ServerState.Step.quiet .epoch id rfl (Step.account
    (@AccountState.Step.emailFree .ascii _ r (sampleDraw 1) (sampleUser 1 "bob")
    (by decide +kernel) (by decide +kernel)
    ⟨rfl, by simp [AccountState.initial, SessionState.initial, ServerState.initial]⟩
    (by decide +kernel))))
  have h₄ := h₃.snoc (ServerState.Step.session .epoch id (@Step.registered .ascii sampleEnv _ _
    ⟨.ok sampleJwt, sampleToken 0, .epoch⟩ sampleIssue _
    (@AccountState.Step.created .ascii _ (sampleUser 1 "bob") _ List.mem_cons_self rfl)
    (by decide +kernel) ⟨rfl, by simp [SessionState.initial, ServerState.initial]⟩)
    (by
      intro p hp
      obtain rfl := Option.some.inj hp
      decide +kernel))
  have h₅ := h₄.snoc (ServerState.Step.quiet .epoch id rfl (@Step.stored .ascii sampleEnv _
    sampleIssue ⟨.ofNat 10, .epoch⟩ _ _ List.mem_cons_self rfl))
  simp only [List.erase_cons_head] at h₅
  refine ⟨_, _, ⟨_, rfl, h₅⟩, rfl, ?_, ?_⟩
  · simp [System.labels]
  · exact ⟨.registered sampleIssue, by simp [System.labels], rfl⟩

/-- A header with Bob's access token, half an hour or half a minute after the epoch. -/
def sampleBearer (late : Bool) : Credentials where
  authorization := some (bearer sampleJwt)
  now := cond late (.ofSeconds 1800 (by decide)) (.ofSeconds 30 (by decide))

theorem presented_sampleBearer : presented (sampleBearer false).authorization = some sampleJwt :=
  presented_bearer isTokenChar_sampleJwt

theorem fromRequestParts_sampleBearer :
    AuthUser.fromRequestParts sampleJsonWebToken sampleSecret (sampleBearer false).authorization
      (sampleBearer false).now = .ok sampleBob := by
  have hvalid : sampleJsonWebToken.decode sampleJwt sampleSecret (sampleBearer false).now =
      .ok sampleClaims :=
    lawful_sampleJsonWebToken.accepts signed_sampleJwt (by decide) (by decide)
  exact fromRequestParts_presented presented_sampleBearer (validateAccessToken_ok.mpr hvalid)
    (by decide +kernel) rfl

/-- Bob makes a call. -/
theorem trace_sampleCall {call : Call} {t : ServerState .ascii}
    (hc : ServerState.CallStep sampleEnv sampleBob sampleServer call t) : ∃ tr as,
    (serverSystem .ascii sampleJsonWebToken sampleSecret sampleEnv).Trace tr t ∧
    System.labels tr = as ++ [.request (sampleBearer false) sampleBob call] ∧
    Unforged (System.labels tr) := by
  obtain ⟨tr, es, ht, rfl, hnone, hissued⟩ := trace_sampleServer
  have hstep : ServerState.Step sampleJsonWebToken sampleSecret sampleEnv sampleServer
      (.request (sampleBearer false) sampleBob call) t := .request fromRequestParts_sampleBearer hc
  refine ⟨_, _, ht.snoc hstep, System.labels_append _ _, ?_⟩
  rw [System.labels_append]
  refine unforged_of_issued hissued hnone fun cr authUser call hmem => ?_
  obtain ⟨rfl, -, -⟩ := ServerEvent.request.inj (List.mem_singleton.mp hmem)
  exact presented_sampleBearer

/-- Bob asks for his profile. -/
theorem requests_are_authentic_sample : ∃ tr as answer p signedAt,
    (serverSystem .ascii sampleJsonWebToken sampleSecret sampleEnv).Trace tr sampleServer ∧
    System.labels tr = as ++ [.request (sampleBearer false) sampleBob (.profile answer)] ∧
    Authentic sampleServer.sessions.accounts.users sampleBob ∧
    IssuedAt as p signedAt ∧
    presented (sampleBearer false).authorization = some p.accessToken ∧
    sampleBob = ⟨p.user.id, p.user.username⟩ := by
  obtain ⟨tr, as, h, he, hun⟩ := trace_sampleCall .profile
  obtain ⟨hknown, p, signedAt, hp, ht, hauth, -⟩ :=
    requests_are_authentic lawful_sampleJsonWebToken h hun as [] _ _ _ he
  exact ⟨tr, as, _, p, signedAt, h, he, hknown, hp, ht, hauth⟩

/-- Half an hour later his token has expired. -/
theorem tokens_last_sixteen_minutes_sample :
    ∃ tr,
      (serverSystem .ascii sampleJsonWebToken sampleSecret sampleEnv).Trace tr sampleServer ∧
      getMe sampleJsonWebToken sampleSecret sampleServer.sessions.accounts.users
        (sampleBearer true).authorization (sampleBearer true).now =
          .error authenticationRequired := by
  obtain ⟨tr, es, ht, hl, -, hissued⟩ := trace_sampleServer
  have h := tokens_last_sixteen_minutes lawful_sampleJsonWebToken ht (hl ▸ hissued) le_rfl
    (sampleBearer true).now
  rw [if_neg (by decide +kernel)] at h
  exact ⟨tr, ht, h⟩

end Hanbova
