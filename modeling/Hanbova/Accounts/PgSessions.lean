import Hanbova.Accounts.PgService

/-! Sessions over PostgreSQL: whatever statements fail, registrations, logins, refreshes, logouts
and password resets do what they do over the in-memory repository. -/
namespace Hanbova

open Library Library.Text Library.System
open InMemoryUserRepository (RecordDraw)
open PgUserRepository (TokenRows Holds)

/-- The tables, the hashes of the tokens that have been drawn so far, and the calls in flight. -/
structure PgSessionState (T : CaseTable) where
  accounts : PgAccountState T
  refreshTokens : TokenRows
  resetTokens : TokenRows
  drawnRefresh : List String
  drawnReset : List String
  refreshing : List PendingRefresh
  storing : List PendingAuth
  forgetting : List PendingReset
  resetting : List PendingPassword
  revoking : List PendingPassword

/-- A statement is done, or fails and ends its call. -/
inductive PgSessionEvent (T : CaseTable)
  | done (e : SessionEvent T)
  | failed (e : SqlxError)

namespace PgSessionState
variable {T : CaseTable}

def initial : PgSessionState T := ⟨⟨[], [], [], []⟩, [], [], [], [], [], [], [], [], []⟩

/-- Of the calls in flight some have ended, and nothing else has happened. -/
structure Lost (s t : PgSessionState T) : Prop where
  rows : t.accounts.rows = s.accounts.rows
  drawn : t.accounts.drawn = s.accounts.drawn
  lookups : t.accounts.lookups.Sublist s.accounts.lookups
  creating : t.accounts.creating.Sublist s.accounts.creating
  refreshTokens : t.refreshTokens = s.refreshTokens
  resetTokens : t.resetTokens = s.resetTokens
  drawnRefresh : t.drawnRefresh = s.drawnRefresh
  drawnReset : t.drawnReset = s.drawnReset
  refreshing : t.refreshing.Sublist s.refreshing
  storing : t.storing.Sublist s.storing
  forgetting : t.forgetting.Sublist s.forgetting
  resetting : t.resetting.Sublist s.resetting
  revoking : t.revoking.Sublist s.revoking

/-- The steps of `SessionState.Step` over the tables. Any statement may fail at any time. -/
inductive Step (lower : String → String) (env : AuthEnv) (round : DateTime → DateTime) :
    PgSessionState T → PgSessionEvent T → PgSessionState T → Prop
  | failed {s t} (e : SqlxError) : Lost s t → Step lower env round s (.failed e) t
  | account {s e accounts} :
      PgAccountState.Step lower round s.accounts e accounts →
      Step lower env round s (.done (.account e)) { s with accounts }
  | registered {s u d p accounts} :
      PgAccountState.Step lower round s.accounts (.created u) accounts →
      AuthService.prepareAuthResponse u d = .ok p →
      env.hashToken p.refreshToken ∉ s.drawnRefresh →
      Step lower env round s (.done (.registered p))
        { s with
          accounts, storing := p :: s.storing
          drawnRefresh := env.hashToken p.refreshToken :: s.drawnRefresh }
  | loggedIn {s req d p} :
      PgAuthService.login T lower env s.accounts.rows req d = .ok p →
      env.hashToken p.refreshToken ∉ s.drawnRefresh →
      Step lower env round s (.done (.loggedIn req p))
        { s with
          storing := p :: s.storing
          drawnRefresh := env.hashToken p.refreshToken :: s.drawnRefresh }
  | loginRefused {s req d fault} :
      PgAuthService.login T lower env s.accounts.rows req d = .error fault →
      Step lower env round s (.done (.loginRefused req fault)) s
  | exchanged {s req now r refreshTokens} :
      PgAuthService.exchange env round s.refreshTokens req now = (.ok r, refreshTokens) →
      Step lower env round s (.done (.exchanged req now r))
        { s with refreshTokens, refreshing := r :: s.refreshing }
  | exchangeRefused {s req now e refreshTokens} :
      PgAuthService.exchange env round s.refreshTokens req now = (.error e, refreshTokens) →
      Step lower env round s (.done (.exchangeRefused req now e)) { s with refreshTokens }
  | refreshed {s r d p} :
      r ∈ s.refreshing → PgAuthService.refreshUser s.accounts.rows r d = .ok p →
      env.hashToken p.refreshToken ∉ s.drawnRefresh →
      Step lower env round s (.done (.refreshed r p))
        { s with
          refreshing := s.refreshing.erase r, storing := p :: s.storing
          drawnRefresh := env.hashToken p.refreshToken :: s.drawnRefresh }
  | refreshFailed {s r d fault} :
      r ∈ s.refreshing → PgAuthService.refreshUser s.accounts.rows r d = .error fault →
      Step lower env round s (.done (.refreshFailed r fault))
        { s with refreshing := s.refreshing.erase r }
  | stored {s p d answer refreshTokens} :
      p ∈ s.storing →
      PgAuthService.storeAuth env round s.refreshTokens p d = .ok (answer, refreshTokens) →
      Step lower env round s (.done (.stored p answer))
        { s with refreshTokens, storing := s.storing.erase p }
  | loggedOut {s} (userId : Uuid) (now : DateTime) :
      Step lower env round s (.done (.loggedOut userId now))
        { s with
          refreshTokens :=
            PgUserRepository.revokeAllUserRefreshTokens round s.refreshTokens userId now }
  | forgotUnknown {s req token now} :
      PgAuthService.forgotPassword T lower s.accounts.rows req token now = .ok none →
      Step lower env round s
        (.done (.forgotUnknown req (AuthService.forgotPasswordResponse env none))) s
  | forgotFailed {s req token now fault} :
      PgAuthService.forgotPassword T lower s.accounts.rows req token now = .error fault →
      Step lower env round s (.done (.forgotFailed req fault)) s
  | resetDrawn {s req token now p} :
      PgAuthService.forgotPassword T lower s.accounts.rows req token now = .ok (some p) →
      env.hashToken p.token ∉ s.drawnReset →
      Step lower env round s (.done (.resetDrawn req p))
        { s with
          forgetting := p :: s.forgetting
          drawnReset := env.hashToken p.token :: s.drawnReset }
  | resetStored {s p d answer resetTokens} :
      p ∈ s.forgetting →
      PgAuthService.storeReset env round s.resetTokens p d = .ok (answer, resetTokens) →
      Step lower env round s (.done (.resetStored p answer))
        { s with resetTokens, forgetting := s.forgetting.erase p }
  | resetRefused {s req now e resetTokens} :
      PgAuthService.consumeResetToken env round s.resetTokens req now = (.error e, resetTokens) →
      Step lower env round s (.done (.resetRefused req now e)) { s with resetTokens }
  | resetAccepted {s req now userId hash r resetTokens} :
      PgAuthService.consumeResetToken env round s.resetTokens req now =
        (.ok userId, resetTokens) →
      AuthService.hashNewPassword req userId hash = .ok r →
      Step lower env round s (.done (.resetAccepted req now r))
        { s with resetTokens, resetting := r :: s.resetting }
  | resetUnhashed {s req now userId hash e resetTokens} :
      PgAuthService.consumeResetToken env round s.resetTokens req now =
        (.ok userId, resetTokens) →
      AuthService.hashNewPassword req userId hash = .error e →
      Step lower env round s (.done (.resetUnhashed req now userId e)) { s with resetTokens }
  | passwordUpdated {s r} (now : DateTime) :
      r ∈ s.resetting →
      Step lower env round s (.done (.passwordUpdated r now))
        { s with
          accounts :=
            { s.accounts with
              rows := PgUserRepository.updatePasswordHash round s.accounts.rows r.userId r.newHash
                now }
          resetting := s.resetting.erase r
          revoking := r :: s.revoking }
  | sessionsRevoked {s r} (now : DateTime) :
      r ∈ s.revoking →
      Step lower env round s (.done (.sessionsRevoked r now))
        { s with
          refreshTokens :=
            PgUserRepository.revokeAllUserRefreshTokens round s.refreshTokens r.userId now
          revoking := s.revoking.erase r }

end PgSessionState

def pgSessionSystem (T : CaseTable) (lower : String → String) (env : AuthEnv)
    (round : DateTime → DateTime) : System (PgSessionState T) (PgSessionEvent T) where
  init s := s = .initial
  step := PgSessionState.Step lower env round

/-! ### What shows of a step -/

namespace SessionEvent
variable {T : CaseTable}

/-- The order of the accounts does not show. -/
def visible : SessionEvent T → Option (SessionEvent T)
  | .account .rehashed => none
  | e => some e

/-- Times show as the columns keep them, and failures of the database not at all. -/
def asStored (round : DateTime → DateTime) : SessionEvent T → Option (SessionEvent T)
  | .account e => (e.stored round).bind fun e => visible (.account e)
  | .registered p => some (.registered (p.rounded round))
  | .loggedIn req p => some (.loggedIn req (p.rounded round))
  | .loginRefused _ (.error (.database _)) => none
  | .exchanged req now r => some (.exchanged req (round now) r)
  | .exchangeRefused req now e => some (.exchangeRefused req (round now) e)
  | .refreshed r p => some (.refreshed r (p.rounded round))
  | .stored p answer => some (.stored (p.rounded round) answer)
  | .loggedOut userId now => some (.loggedOut userId (round now))
  | .forgotFailed _ (.error (.database _)) => none
  | .resetDrawn req p => some (.resetDrawn req (p.rounded round))
  | .resetStored p answer => some (.resetStored (p.rounded round) answer)
  | .resetRefused req now e => some (.resetRefused req (round now) e)
  | .resetAccepted req now r => some (.resetAccepted req (round now) r)
  | .resetUnhashed req now userId e => some (.resetUnhashed req (round now) userId e)
  | .passwordUpdated r now => some (.passwordUpdated r (round now))
  | .sessionsRevoked r now => some (.sessionsRevoked r (round now))
  | e => some e

variable {round : DateTime → DateTime} {fault : Fault}

theorem asStored_loginRefused (req : LoginRequest) (h : fault.Own) :
    (loginRefused (T := T) req fault).asStored round = some (.loginRefused req fault) := by
  cases fault with
  | panicked => rfl
  | error e =>
    cases e with
    | database e => exact absurd rfl (h e)
    | _ => rfl

theorem asStored_forgotFailed (req : ForgotPasswordRequest) (h : fault.Own) :
    (forgotFailed (T := T) req fault).asStored round = some (.forgotFailed req fault) := by
  cases fault with
  | panicked => rfl
  | error e =>
    cases e with
    | database e => exact absurd rfl (h e)
    | _ => rfl

end SessionEvent

def PgSessionEvent.asStored {T : CaseTable} (round : DateTime → DateTime) :
    PgSessionEvent T → Option (SessionEvent T)
  | .done e => e.asStored round
  | .failed _ => none

/-! ### The simulation -/

namespace PgSessionState
variable {T : CaseTable} {lower : String → String} {env : AuthEnv} {round : DateTime → DateTime}
  {s t : PgSessionState T} {s' t' : SessionState T} {e : PgSessionEvent T} {l : SessionEvent T}

/-- The tables hold the accounts and the tokens of the maps. Calls that a failure has ended are
still in flight over the maps. -/
structure Refines (env : AuthEnv) (round : DateTime → DateTime) (s : PgSessionState T)
    (s' : SessionState T) : Prop where
  accounts : PgAccountState.Refines round s.accounts s'.accounts
  refreshTokens : Holds s'.refreshTokens s.refreshTokens
  resetTokens : Holds s'.resetTokens s.resetTokens
  drawnRefresh : Table.Drawn (fun p : PendingAuth => env.hashToken p.refreshToken)
    s'.refreshTokens s'.storing s.drawnRefresh
  drawnReset : Table.Drawn (fun p : PendingReset => env.hashToken p.token)
    s'.resetTokens s'.forgetting s.drawnReset
  refreshing : s.refreshing.Subperm s'.refreshing
  storing : (s.storing.map (PendingAuth.rounded round)).Subperm s'.storing
  forgetting : (s.forgetting.map (PendingReset.rounded round)).Subperm s'.forgetting
  resetting : s.resetting.Subperm s'.resetting
  revoking : s.revoking.Subperm s'.revoking

/-- The steps of the in-memory service that the step `e` comes down to. -/
def Matched (env : AuthEnv) (round : DateTime → DateTime) (s' : SessionState T)
    (e : PgSessionEvent T) (t : PgSessionState T) : Prop :=
  ∃ tr t', (sessionSystem T env).Run s' tr t' ∧
    (labels tr).filterMap SessionEvent.visible = (e.asStored round).toList ∧
    Refines env round t t'

theorem Matched.hidden (hview : e.asStored round = none) (h : Refines env round t s') :
    Matched env round s' e t := ⟨[], s', .nil, by rw [hview]; rfl, h⟩

theorem Matched.moved (hstep : SessionState.Step env s' l t')
    (hview : l.visible = e.asStored round) (h : Refines env round t t') :
    Matched env round s' e t := by
  refine ⟨_, t', .single hstep, ?_, h⟩
  cases hl : l.visible <;> simp [labels, hl, ← hview]

/-- The map of the accounts may be iterated in another order first. -/
theorem Matched.rehashed {users : InMemoryUserRepository.Users}
    (hr : Table.Rehash s'.accounts.users users)
    (h : Matched env round { s' with accounts := { s'.accounts with users } } e t) :
    Matched env round s' e t := by
  obtain ⟨tr, t', hrun, hview, ht⟩ := h
  have hstep := System.Run.single (T := sessionSystem T env)
    (SessionState.Step.account (AccountState.Step.rehashed hr))
  refine ⟨_, t', hstep.append hrun, ?_, ht⟩
  rw [labels_append, List.filterMap_append, hview]
  rfl

variable (h : Refines env round s s')
include h

/-- In the order of the rows. -/
theorem Refines.exists_rehash : ∃ users, Table.Rehash s'.accounts.users users ∧
    users.values = s.accounts.rows ∧ Roster T users ∧
    Refines env round s { s' with accounts := { s'.accounts with users } } := by
  have ⟨hrows, hlookups, hcreating, hstored, hdrawn, hinv⟩ := h.accounts
  obtain ⟨users, hr, hvalues⟩ := hinv.roster.keyed.exists_rehash hrows
  refine ⟨users, hr, hvalues, hinv.roster.rehash hr, { h with accounts := ?_ }⟩
  exact
    { rows := hvalues ▸ List.Perm.refl _, lookups := hlookups, creating := hcreating
      drawn_stored := fun u hu => hstored u (hr.mem_values.mp hu), drawn_creating := hdrawn
      invariant := (AccountState.Step.rehashed hr).invariant hinv }

theorem Refines.fresh_refresh {p : PendingAuth}
    (hp : env.hashToken p.refreshToken ∉ s.drawnRefresh) :
    SessionState.FreshRefresh T env s' (p.rounded round) := h.drawnRefresh _ hp

theorem Refines.fresh_reset {p : PendingReset} (hp : env.hashToken p.token ∉ s.drawnReset) :
    SessionState.FreshReset env s' (p.rounded round) := h.drawnReset _ hp

theorem Refines.lost (hl : Lost s t) : Refines env round t s' := by
  have hacc := h.accounts
  refine ⟨⟨?_, ?_, ?_, ?_, ?_, hacc.invariant⟩, ?_, ?_, ?_, ?_, ?_, ?_, ?_, ?_, ?_⟩
  · exact hl.rows ▸ hacc.rows
  · exact hl.lookups.subperm.trans hacc.lookups
  · exact (hl.creating.map _).subperm.trans hacc.creating
  · exact hl.drawn ▸ hacc.drawn_stored
  · exact hl.drawn ▸ hacc.drawn_creating
  · exact hl.refreshTokens ▸ h.refreshTokens
  · exact hl.resetTokens ▸ h.resetTokens
  · exact hl.drawnRefresh ▸ h.drawnRefresh
  · exact hl.drawnReset ▸ h.drawnReset
  · exact hl.refreshing.subperm.trans h.refreshing
  · exact (hl.storing.map _).subperm.trans h.storing
  · exact (hl.forgetting.map _).subperm.trans h.forgetting
  · exact hl.resetting.subperm.trans h.resetting
  · exact hl.revoking.subperm.trans h.revoking

/-- A session gets a refresh token. -/
theorem Refines.draw (p : PendingAuth) :
    Refines env round
      { s with
        storing := p :: s.storing
        drawnRefresh := env.hashToken p.refreshToken :: s.drawnRefresh }
      { s' with storing := p.rounded round :: s'.storing } :=
  { h with
    storing := (List.subperm_cons _).mpr h.storing
    drawnRefresh := h.drawnRefresh.cons (p.rounded round) }

/-- The refresh tokens change, but not their hashes. -/
theorem Refines.setRefreshTokens {rows : TokenRows} {store : InMemoryUserRepository.Tokens}
    (hholds : Holds store rows)
    (hnew : ∀ k, s'.refreshTokens.lookup k = none → store.lookup k = none) :
    Refines env round { s with refreshTokens := rows } { s' with refreshTokens := store } :=
  { h with refreshTokens := hholds, drawnRefresh := h.drawnRefresh.congr hnew }

theorem Refines.setResetTokens {rows : TokenRows} {store : InMemoryUserRepository.Tokens}
    (hholds : Holds store rows)
    (hnew : ∀ k, s'.resetTokens.lookup k = none → store.lookup k = none) :
    Refines env round { s with resetTokens := rows } { s' with resetTokens := store } :=
  { h with resetTokens := hholds, drawnReset := h.drawnReset.congr hnew }

theorem Refines.loggedOut (userId : Uuid) (now : DateTime) :
    Refines env round
      { s with
        refreshTokens :=
          PgUserRepository.revokeAllUserRefreshTokens round s.refreshTokens userId now }
      { s' with
        refreshTokens :=
          InMemoryUserRepository.revokeAllUserRefreshTokens s'.refreshTokens userId (round now) } :=
  h.setRefreshTokens (h.refreshTokens.revokeAll userId now)
    fun _ => InMemoryUserRepository.lookup_revokeAll_none

/-- A reset changes the password of its user. -/
theorem Refines.updatePassword (userId : Uuid) (newHash : String) (now : DateTime) :
    PgAccountState.Refines round
      { s.accounts with
        rows := PgUserRepository.updatePasswordHash round s.accounts.rows userId newHash now }
      { s'.accounts with
        users := InMemoryUserRepository.updatePasswordHash s'.accounts.users userId newHash
          (round now) } := by
  have ⟨hrows, hlookups, hcreating, hstored, hdrawn, hinv⟩ := h.accounts
  have hrehash := rehash_repassed hinv.roster.keyed userId newHash (round now)
  have hnames := User.repassed_names userId newHash (round now)
  have hroster := hinv.roster.mapValues (fun u => (hnames u).1) (fun u => (hnames u).2.1)
    fun u => (hnames u).2.2
  refine ⟨?_, hlookups, hcreating, fun u hu => ?_, hdrawn, hroster.rehash hrehash, ?_,
    hinv.creating_named⟩
  · have hvalues := hrehash.values
    rw [Table.values_mapValues] at hvalues
    exact (hrows.map _).trans hvalues
  · have hu := hrehash.mem_values.mp hu
    rw [Table.values_mapValues] at hu
    obtain ⟨v, hv, rfl⟩ := List.mem_map.mp hu
    rw [(hnames v).1]
    exact hstored v hv
  · exact InMemoryUserRepository.inbound_updatePasswordHash hinv.inbound _ _ _

/-- A registration step, or the storing of an account, as `PgAccountState.Refines.step` has it. -/
theorem Refines.account (hlower : ∀ s, lower (T.toLowercase s) = T.toLowercase s)
    {ae : AccountEvent T} {accounts : PgAccountState T}
    (hl : PgAccountState.Step lower round s.accounts ae accounts) :
    Matched env round s' (.done (.account ae)) { s with accounts } := by
  rcases h.accounts.step hlower hl with ⟨hview, ha⟩ | ⟨ae', accounts', hl', hview, ha⟩
  · refine .hidden ?_ { h with accounts := ha }
    show (ae.stored round).bind _ = none
    rw [hview]
    rfl
  · refine .moved (.account hl') ?_ { h with accounts := ha }
    show _ = (ae.stored round).bind _
    rw [hview]
    rfl

theorem Refines.registered (hlower : ∀ s, lower (T.toLowercase s) = T.toLowercase s)
    (hround : Coarsens round) {u : User} {d : TokenDraw} {p : PendingAuth}
    {accounts : PgAccountState T}
    (hl : PgAccountState.Step lower round s.accounts (.created u) accounts)
    (hp : AuthService.prepareAuthResponse u d = .ok p)
    (hf : env.hashToken p.refreshToken ∉ s.drawnRefresh) :
    Matched env round s' (.done (.registered p))
      { s with
        accounts, storing := p :: s.storing
        drawnRefresh := env.hashToken p.refreshToken :: s.drawnRefresh } := by
  rcases h.accounts.step hlower hl with ⟨hview, -⟩ | ⟨ae', accounts', hl', hview, ha⟩
  · cases hview
  · obtain rfl := Option.some.inj hview
    obtain ⟨now, hp'⟩ := AuthService.prepareAuthResponse_rounded hround hp
    have hR : Refines env round { s with accounts } { s' with accounts := accounts' } :=
      { h with accounts := ha }
    exact .moved (.registered hl' hp' (h.fresh_refresh hf)) rfl (hR.draw p)

theorem Refines.loggedIn (hlower : ∀ s, lower (T.toLowercase s) = T.toLowercase s)
    (hround : Coarsens round) {req : LoginRequest} {d : TokenDraw} {p : PendingAuth}
    (hp : PgAuthService.login T lower env s.accounts.rows req d = .ok p)
    (hf : env.hashToken p.refreshToken ∉ s.drawnRefresh) :
    Matched env round s' (.done (.loggedIn req p))
      { s with
        storing := p :: s.storing
        drawnRefresh := env.hashToken p.refreshToken :: s.drawnRefresh } := by
  obtain ⟨users, hr, hvalues, hroster, hR⟩ := h.exists_rehash
  apply Matched.rehashed hr
  rcases PgAuthService.login_cases env hlower hroster hvalues req d with
    ⟨e, he⟩ | ⟨found, heq, heq'⟩
  · cases hp.symm.trans he
  · obtain ⟨now, hp'⟩ := AuthService.checkLogin_rounded hround (heq.symm.trans hp)
    exact .moved (.loggedIn ((heq' _).trans hp') (h.fresh_refresh hf)) rfl (hR.draw p)

theorem Refines.loginRefused (hlower : ∀ s, lower (T.toLowercase s) = T.toLowercase s)
    {req : LoginRequest} {d : TokenDraw} {fault : Fault}
    (hp : PgAuthService.login T lower env s.accounts.rows req d = .error fault) :
    Matched env round s' (.done (.loginRefused req fault)) s := by
  obtain ⟨users, hr, hvalues, hroster, hR⟩ := h.exists_rehash
  rcases PgAuthService.login_cases env hlower hroster hvalues req d with
    ⟨e, he⟩ | ⟨found, heq, heq'⟩
  · obtain rfl := Except.error.inj (hp.symm.trans he)
    exact .hidden rfl h
  · have hfault := heq.symm.trans hp
    have hown := AuthService.checkLogin_own hfault
    apply Matched.rehashed hr
    exact .moved (.loginRefused ((heq' d).trans hfault))
      (SessionEvent.asStored_loginRefused req hown).symm hR

theorem Refines.refreshed (hround : Coarsens round) {r : PendingRefresh} {d : TokenDraw}
    {p : PendingAuth} (hr : r ∈ s.refreshing)
    (hp : PgAuthService.refreshUser s.accounts.rows r d = .ok p)
    (hf : env.hashToken p.refreshToken ∉ s.drawnRefresh) :
    Matched env round s' (.done (.refreshed r p))
      { s with
        refreshing := s.refreshing.erase r, storing := p :: s.storing
        drawnRefresh := env.hashToken p.refreshToken :: s.drawnRefresh } := by
  obtain ⟨users, hrehash, hvalues, hroster, hR⟩ := h.exists_rehash
  apply Matched.rehashed hrehash
  obtain ⟨user, hl, hprep⟩ := AuthService.refreshUser_ok
    ((PgAuthService.refreshUser_eq hroster hvalues r d).symm.trans hp)
  obtain ⟨now, hprep'⟩ := AuthService.prepareAuthResponse_rounded hround hprep
  have hp' : AuthService.refreshUser users r { d with now } = .ok (p.rounded round) := by
    rw [AuthService.refreshUser, InMemoryUserRepository.findById, hl]
    exact hprep'
  refine .moved (.refreshed (h.refreshing.subset hr) hp' (h.fresh_refresh hf)) rfl ?_
  exact { hR.draw p with refreshing := h.refreshing.erase r }

theorem Refines.refreshFailed {r : PendingRefresh} {d : TokenDraw} {fault : Fault}
    (hr : r ∈ s.refreshing) (hp : PgAuthService.refreshUser s.accounts.rows r d = .error fault) :
    Matched env round s' (.done (.refreshFailed r fault))
      { s with refreshing := s.refreshing.erase r } := by
  obtain ⟨users, hrehash, hvalues, hroster, hR⟩ := h.exists_rehash
  apply Matched.rehashed hrehash
  have hp' := (PgAuthService.refreshUser_eq hroster hvalues r d).symm.trans hp
  exact .moved (.refreshFailed (h.refreshing.subset hr) hp') rfl
    { hR with refreshing := h.refreshing.erase r }

theorem Refines.stored {p : PendingAuth} {d : RecordDraw} {answer : AuthResponse}
    {refreshTokens : TokenRows} (hp : p ∈ s.storing)
    (hst : PgAuthService.storeAuth env round s.refreshTokens p d = .ok (answer, refreshTokens)) :
    Matched env round s' (.done (.stored p answer))
      { s with refreshTokens, storing := s.storing.erase p } := by
  obtain ⟨store', hst', hholds⟩ := PgAuthService.storeAuth_agrees h.refreshTokens hst
  have hmem := h.storing.subset (List.mem_map_of_mem hp)
  refine .moved (.stored hmem hst') rfl ?_
  obtain ⟨-, rfl⟩ := Prod.mk.inj hst'
  exact
    { h with
      refreshTokens := hholds
      drawnRefresh :=
        h.drawnRefresh.store hmem (InMemoryUserRepository.setAt_storeToken _ _ _ _ _)
      storing := subperm_map_erase h.storing hp }

theorem Refines.forgot (hlower : ∀ s, lower (T.toLowercase s) = T.toLowercase s)
    {req : ForgotPasswordRequest} {token : String} {now : DateTime}
    (hp : PgAuthService.forgotPassword T lower s.accounts.rows req token now = .ok none) :
    Matched env round s'
      (.done (.forgotUnknown req (AuthService.forgotPasswordResponse env none))) s := by
  obtain ⟨users, hr, hvalues, hroster, hR⟩ := h.exists_rehash
  apply Matched.rehashed hr
  rcases PgAuthService.forgotPassword_cases hlower hroster hvalues req token now with
    ⟨e, he⟩ | ⟨found, heq, heq'⟩
  · cases hp.symm.trans he
  · exact .moved (.forgotUnknown ((heq' now).trans (heq.symm.trans hp))) rfl hR

theorem Refines.forgotFailed (hlower : ∀ s, lower (T.toLowercase s) = T.toLowercase s)
    {req : ForgotPasswordRequest} {token : String} {now : DateTime} {fault : Fault}
    (hp : PgAuthService.forgotPassword T lower s.accounts.rows req token now = .error fault) :
    Matched env round s' (.done (.forgotFailed req fault)) s := by
  obtain ⟨users, hr, hvalues, hroster, hR⟩ := h.exists_rehash
  rcases PgAuthService.forgotPassword_cases hlower hroster hvalues req token now with
    ⟨e, he⟩ | ⟨found, heq, heq'⟩
  · obtain rfl := Except.error.inj (hp.symm.trans he)
    exact .hidden rfl h
  · have hfault := heq.symm.trans hp
    have hown := AuthService.drawReset_own hfault
    apply Matched.rehashed hr
    exact .moved (.forgotFailed ((heq' now).trans hfault))
      (SessionEvent.asStored_forgotFailed req hown).symm hR

theorem Refines.resetDrawn (hlower : ∀ s, lower (T.toLowercase s) = T.toLowercase s)
    (hround : Coarsens round) {req : ForgotPasswordRequest} {token : String} {now : DateTime}
    {p : PendingReset}
    (hp : PgAuthService.forgotPassword T lower s.accounts.rows req token now = .ok (some p))
    (hf : env.hashToken p.token ∉ s.drawnReset) :
    Matched env round s' (.done (.resetDrawn req p))
      { s with
        forgetting := p :: s.forgetting
        drawnReset := env.hashToken p.token :: s.drawnReset } := by
  obtain ⟨users, hr, hvalues, hroster, hR⟩ := h.exists_rehash
  apply Matched.rehashed hr
  rcases PgAuthService.forgotPassword_cases hlower hroster hvalues req token now with
    ⟨e, he⟩ | ⟨found, heq, heq'⟩
  · cases hp.symm.trans he
  · obtain ⟨now', hp'⟩ := AuthService.drawReset_rounded hround (heq.symm.trans hp)
    refine .moved (.resetDrawn ((heq' now').trans hp') (h.fresh_reset hf)) rfl ?_
    exact
      { hR with
        forgetting := (List.subperm_cons _).mpr h.forgetting
        drawnReset := h.drawnReset.cons (p.rounded round) }

theorem Refines.resetStored {p : PendingReset} {d : RecordDraw} {answer : ForgotPasswordResponse}
    {resetTokens : TokenRows} (hp : p ∈ s.forgetting)
    (hst : PgAuthService.storeReset env round s.resetTokens p d = .ok (answer, resetTokens)) :
    Matched env round s' (.done (.resetStored p answer))
      { s with resetTokens, forgetting := s.forgetting.erase p } := by
  obtain ⟨store', hst', hholds⟩ := PgAuthService.storeReset_agrees h.resetTokens hst
  have hmem := h.forgetting.subset (List.mem_map_of_mem hp)
  refine .moved (.resetStored hmem hst') rfl ?_
  obtain ⟨-, rfl⟩ := Prod.mk.inj hst'
  exact
    { h with
      resetTokens := hholds
      drawnReset := h.drawnReset.store hmem (InMemoryUserRepository.setAt_storeToken _ _ _ _ _)
      forgetting := subperm_map_erase h.forgetting hp }

theorem Refines.step (hlower : ∀ s, lower (T.toLowercase s) = T.toLowercase s)
    (hround : Coarsens round) (hstep : Step lower env round s e t) :
    Matched env round s' e t := by
  cases hstep with
  | failed e hl => exact .hidden rfl (h.lost hl)
  | account hl => exact h.account hlower hl
  | registered hl hp hf => exact h.registered hlower hround hl hp hf
  | loggedIn hp hf => exact h.loggedIn hlower hround hp hf
  | loginRefused hp => exact h.loginRefused hlower hp
  | exchanged hx =>
    obtain ⟨store', hx', hholds⟩ := PgAuthService.exchange_agrees h.refreshTokens hx
    have hR := h.setRefreshTokens hholds fun _ =>
      InMemoryUserRepository.lookup_validateAndEnd_none (AuthService.exchange_ok hx').2
    exact .moved (.exchanged hx') rfl
      { hR with refreshing := (List.subperm_cons _).mpr h.refreshing }
  | exchangeRefused hx =>
    obtain ⟨store', hx', hholds⟩ := PgAuthService.exchange_agrees h.refreshTokens hx
    obtain rfl := AuthService.exchange_error hx'
    exact .moved (.exchangeRefused hx') rfl { h with refreshTokens := hholds }
  | refreshed hr hp hf => exact h.refreshed hround hr hp hf
  | refreshFailed hr hp => exact h.refreshFailed hr hp
  | stored hp hst => exact h.stored hp hst
  | loggedOut u now => exact .moved (.loggedOut u (round now)) rfl (h.loggedOut u now)
  | forgotUnknown hp => exact h.forgot hlower hp
  | forgotFailed hp => exact h.forgotFailed hlower hp
  | resetDrawn hp hf => exact h.resetDrawn hlower hround hp hf
  | resetStored hp hst => exact h.resetStored hp hst
  | resetRefused hx =>
    obtain ⟨store', hx', hholds⟩ := PgAuthService.consumeResetToken_agrees h.resetTokens hx
    obtain rfl := AuthService.consumeResetToken_error hx'
    exact .moved (.resetRefused hx') rfl { h with resetTokens := hholds }
  | resetAccepted hx hh =>
    obtain ⟨store', hx', hholds⟩ := PgAuthService.consumeResetToken_agrees h.resetTokens hx
    have hR := h.setResetTokens hholds fun _ =>
      InMemoryUserRepository.lookup_validateAndEnd_none (AuthService.consumeResetToken_ok hx').2
    exact .moved (.resetAccepted hx' hh) rfl
      { hR with resetting := (List.subperm_cons _).mpr h.resetting }
  | resetUnhashed hx hh =>
    obtain ⟨store', hx', hholds⟩ := PgAuthService.consumeResetToken_agrees h.resetTokens hx
    have hR := h.setResetTokens hholds fun _ =>
      InMemoryUserRepository.lookup_validateAndEnd_none (AuthService.consumeResetToken_ok hx').2
    exact .moved (.resetUnhashed hx' hh) rfl hR
  | passwordUpdated now hr =>
    refine .moved (.passwordUpdated (round now) (h.resetting.subset hr)) rfl ?_
    exact
      { h with
        accounts := h.updatePassword _ _ _
        resetting := h.resetting.erase _
        revoking := (List.subperm_cons _).mpr h.revoking }
  | @sessionsRevoked r now hr =>
    have hholds : Holds _ (PgUserRepository.revokeAllUserRefreshTokens round s.refreshTokens
        r.userId now) := h.refreshTokens.revokeAll r.userId now
    have hR := h.setRefreshTokens hholds fun _ => InMemoryUserRepository.lookup_revokeAll_none
    exact .moved (.sessionsRevoked (round now) (h.revoking.subset hr)) rfl
      { hR with revoking := h.revoking.erase _ }

omit h in
theorem refines_initial : Refines (T := T) env round .initial .initial := by
  refine ⟨⟨.refl _, .refl _, .refl _, ?_, ?_, AccountState.invariant_initial⟩,
    ⟨List.nodup_nil, fun _ => rfl⟩, ⟨List.nodup_nil, fun _ => rfl⟩, ?_, ?_,
    .refl _, .refl _,
    .refl _, .refl _, .refl _⟩
  · simp [SessionState.initial, AccountState.initial, Table.mem_values]
  · simp [SessionState.initial, AccountState.initial]
  · exact fun k _ => ⟨rfl, by simp [SessionState.initial]⟩
  · exact fun k _ => ⟨rfl, by simp [SessionState.initial]⟩

omit h in
theorem simulation (hlower : ∀ s, lower (T.toLowercase s) = T.toLowercase s)
    (hround : Coarsens round) :
    WeakSimulation (pgSessionSystem T lower env round) (sessionSystem T env)
      (PgSessionEvent.asStored round) SessionEvent.visible (Refines env round) where
  init := by
    rintro s rfl
    exact ⟨.initial, rfl, refines_initial⟩
  step _ _ _ _ _ hstep hR := hR.step hlower hround hstep

end PgSessionState

/-- Whatever sessions run side by side over PostgreSQL, and whichever statements fail, they do what
they do over the in-memory repository, where the calls that have failed are still waiting. Both hold
the same accounts and the same tokens. -/
theorem sessions_agree (T : CaseTable) (lower : String → String) (env : AuthEnv)
    (round : DateTime → DateTime) (hlower : ∀ s, lower (T.toLowercase s) = T.toLowercase s)
    (hround : Coarsens round) (tr : List (Transition (PgSessionState T) (PgSessionEvent T)))
    (s : PgSessionState T) (h : (pgSessionSystem T lower env round).Trace tr s) :
    ∃ tr' s', (sessionSystem T env).Trace tr' s' ∧
      (labels tr').filterMap SessionEvent.visible =
        (labels tr).filterMap (PgSessionEvent.asStored round) ∧
      s.accounts.rows.Perm s'.accounts.users.values ∧
      Holds s'.refreshTokens s.refreshTokens ∧ Holds s'.resetTokens s.resetTokens := by
  obtain ⟨tr', s', ht', hR, hlabels⟩ := (PgSessionState.simulation hlower hround).trace h
  exact ⟨tr', s', ht', hlabels, hR.accounts.rows, hR.refreshTokens, hR.resetTokens⟩

/-- Bob has registered and his first refresh has been cut off. -/
def sampleCutOff : PgSessionState .ascii where
  accounts := ⟨[sampleUser 1 "bob"], [.ofNat 1], [], []⟩
  refreshTokens := [sampleTokenRecord 0 nextMonth (some .epoch)]
  resetTokens := []
  drawnRefresh := [sampleDigest 0]
  drawnReset := []
  refreshing := []
  storing := []
  forgetting := []
  resetting := []
  revoking := []

theorem trace_sampleCutOff : ∃ tr,
    (pgSessionSystem .ascii CaseTable.ascii.toLowercase sampleEnv toMicros).Trace tr sampleCutOff ∧
      (labels tr).filterMap (PgSessionEvent.asStored toMicros) =
        [.account (.validated sampleRegistration), .account (.usernameFree sampleRegistration),
          .account (.emailFree sampleRegistration (sampleUser 1 "bob")),
          .registered (sampleAuth 0),
          .stored (sampleAuth 0) (AuthService.authResponse (sampleAuth 0)),
          .exchanged ⟨sampleToken 0⟩ .epoch ⟨sampleToken 0, .ofNat 1⟩] := by
  have h₀ : (pgSessionSystem .ascii CaseTable.ascii.toLowercase sampleEnv toMicros).Trace []
      .initial := ⟨_, rfl, .nil⟩
  have hvalid : AuthService.validate .ascii (sampleAccount "bob") = .ok sampleRegistration := by
    decide +kernel
  have hname : PgUserRepository.checkUsername CaseTable.ascii.toLowercase [] sampleRegistration =
      .ok () := by decide +kernel
  have hemail : PgUserRepository.checkEmail CaseTable.ascii.toLowercase [] sampleRegistration =
      .ok () := by decide +kernel
  have hnew : AuthService.newUser sampleRegistration (sampleDraw 1) = .ok (sampleUser 1 "bob") := by
    decide +kernel
  have hcreate : PgUserRepository.createUser toMicros [] (sampleUser 1 "bob") =
      .ok (sampleUser 1 "bob", [sampleUser 1 "bob"]) := by decide +kernel
  have hprep : AuthService.prepareAuthResponse (sampleUser 1 "bob") (sampleTokenDraw 0) =
      .ok (sampleAuth 0) := by decide +kernel
  have hstore : PgAuthService.storeAuth sampleEnv toMicros [] (sampleAuth 0) ⟨.ofNat 10, .epoch⟩ =
      .ok (AuthService.authResponse (sampleAuth 0), [sampleTokenRecord 0 nextMonth none]) := by
    decide +kernel
  have hexchange : PgAuthService.exchange sampleEnv toMicros
      [sampleTokenRecord 0 nextMonth none] ⟨sampleToken 0⟩ .epoch =
        (.ok ⟨sampleToken 0, .ofNat 1⟩, [sampleTokenRecord 0 nextMonth (some .epoch)]) := by
    decide +kernel
  have h₁ := h₀.snoc (PgSessionState.Step.account (PgAccountState.Step.validated hvalid))
  have h₂ := h₁.snoc (PgSessionState.Step.account
    (PgAccountState.Step.usernameFree List.mem_cons_self hname))
  have h₃ := h₂.snoc (PgSessionState.Step.account
    (PgAccountState.Step.emailFree List.mem_cons_self hemail List.not_mem_nil hnew))
  have h₄ := h₃.snoc (PgSessionState.Step.registered
    (PgAccountState.Step.created List.mem_cons_self hcreate) hprep List.not_mem_nil)
  have h₅ := h₄.snoc (PgSessionState.Step.stored List.mem_cons_self hstore)
  have h₆ := h₅.snoc (PgSessionState.Step.exchanged hexchange)
  have h₇ := h₆.snoc (t := sampleCutOff) (PgSessionState.Step.failed (.other "pool timed out")
    (by constructor <;> simp [sampleCutOff, PgSessionState.initial] <;> decide +kernel))
  exact ⟨_, h₇, rfl⟩

theorem sessions_agree_sample : ∃ tr,
    (pgSessionSystem .ascii CaseTable.ascii.toLowercase sampleEnv toMicros).Trace tr sampleCutOff ∧
      ∃ tr' s', (sessionSystem .ascii sampleEnv).Trace tr' s' ∧
        (labels tr').filterMap SessionEvent.visible =
          (labels tr).filterMap (PgSessionEvent.asStored toMicros) ∧
        s'.refreshTokens.lookup (sampleDigest 0) =
          some (sampleTokenRecord 0 nextMonth (some .epoch)) := by
  obtain ⟨tr, ht, -⟩ := trace_sampleCutOff
  obtain ⟨tr', s', ht', hlabels, -, hholds, -⟩ :=
    sessions_agree .ascii CaseTable.ascii.toLowercase sampleEnv toMicros
      CaseTable.toLowercase_idem coarsens_toMicros tr sampleCutOff ht
  refine ⟨tr, ht, tr', s', ht', hlabels, ?_⟩
  rw [hholds.lookup]
  decide +kernel

end Hanbova
