import Hanbova.Accounts.Known
import Hanbova.Accounts.SingleUse

/-! What becomes of a stored user: the password changes, by an accepted reset, and nothing else. -/
namespace Hanbova

open Library Library.Text
open InMemoryUserRepository (Users updatePasswordHash matchesLogin cleanLogin)

/-- The same account, possibly with another password. -/
def User.SameAccount (u v : User) : Prop :=
  v = { u with passwordHash := v.passwordHash, updatedAt := v.updatedAt }

namespace User.SameAccount
variable {u v w : User}

theorem refl (u : User) : SameAccount u u := rfl

theorem trans (h : SameAccount u v) (h' : SameAccount v w) : SameAccount u w := by
  unfold SameAccount at *
  rw [h'] at *
  rw [h]

theorem names (h : SameAccount u v) : v.id = u.id ∧ v.username = u.username ∧
    v.email = u.email := by
  rw [h]
  exact ⟨rfl, rfl, rfl⟩

end User.SameAccount

theorem evolves_updatePasswordHash (users : Users) (userId : Uuid) (newHash : String)
    (now : DateTime) :
    Table.Evolves User.SameAccount users (updatePasswordHash users userId newHash now) := by
  unfold updatePasswordHash
  cases hl : users.lookup userId with
  | none => exact .refl User.SameAccount.refl _
  | some user => exact .set User.SameAccount.refl (Table.setAt_insert _ _ _) hl rfl

theorem AuthService.forgotPassword_found {T : CaseTable} {users : Users}
    {req : ForgotPasswordRequest} {token : String} {now : DateTime} {p : PendingReset}
    (h : AuthService.forgotPassword T users req token now = .ok (some p)) :
    ∃ user, InMemoryUserRepository.findByUsernameOrEmail T users (T.toLowercase (trim req.email)) =
      some user ∧ user.id = p.userId := by
  unfold AuthService.forgotPassword at h
  split at h
  · cases h
  · case h_2 user hu =>
    split at h
    · cases h
    · obtain rfl := Option.some.inj (Except.ok.inj h)
      exact ⟨user, hu, rfl⟩

/-- The lookup of a user after a change of password. -/
theorem lookup_updatePasswordHash {users : Users} {userId k : Uuid} {newHash : String}
    {now : DateTime} {u : User}
    (h : (updatePasswordHash users userId newHash now).lookup k = some u) :
    (k ≠ userId ∧ users.lookup k = some u) ∨ (k = userId ∧ u.passwordHash = newHash) := by
  unfold updatePasswordHash at h
  cases hl : users.lookup userId with
  | none =>
    simp only [hl] at h
    refine .inl ⟨?_, h⟩
    rintro rfl
    rw [hl] at h
    cases h
  | some user =>
    simp only [hl] at h
    rw [Table.setAt_insert _ _ _ k] at h
    split_ifs at h with hk
    · obtain rfl := Option.some.inj h
      exact .inr ⟨hk, rfl⟩
    · exact .inl ⟨hk, h⟩

theorem AccountState.Step.lookup_cases {T : CaseTable} {s t : AccountState T} {e : AccountEvent T}
    (h : AccountState.Step s e t) {k : Uuid} {u : User} (hu : t.users.lookup k = some u) :
    s.users.lookup k = some u ∨ e = .created u := by
  cases h with
  | rehashed hr => exact .inl ((hr.lookup k).symm.trans hu)
  | created _ hc =>
    have hm := (InMemoryUserRepository.createUser_ok (AuthService.createUser_ok hc)).2.1
    rw [hm k] at hu
    split_ifs at hu with hk
    · exact .inr (by rw [Option.some.inj hu])
    · exact .inl hu
  | _ => exact .inl hu

namespace SessionEvent
variable {T : CaseTable}

/-- The user that a step has stored for the first time. -/
def creates : SessionEvent T → Option User
  | .account (.created u) => some u
  | .registered p => some p.user
  | _ => none

/-- The user whose password a step has changed. -/
def repasses : SessionEvent T → Option Uuid
  | .passwordUpdated r _ => some r.userId
  | _ => none

end SessionEvent

namespace SessionState
variable {T : CaseTable} {env : AuthEnv} {s t : SessionState T} {e : SessionEvent T}
variable {tr : List (Transition (SessionState T) (SessionEvent T))}

theorem Step.evolves_users (h : Step env s e t) (hs : (sessionSystem T env).Reachable s) :
    Table.Evolves User.SameAccount s.accounts.users t.accounts.users := by
  have hinbound := inbound_of_reachable hs
  have keeps : ∀ {ae accounts}, AccountState.Step s.accounts ae accounts →
      Table.Evolves User.SameAccount s.accounts.users accounts.users := by
    intro ae accounts hl k u hu
    obtain ⟨v, hv, rfl⟩ := hl.keeps hinbound k u hu
    exact ⟨u, hv, .refl u⟩
  cases h with
  | account hl => exact keeps hl
  | registered hl _ _ => exact keeps hl
  | passwordUpdated now _ => exact evolves_updatePasswordHash _ _ _ _
  | _ => exact .refl User.SameAccount.refl _

/-- A user who is there after a step was there before, or has been stored by the step, or has got
a new password by it. -/
theorem Step.lookup_cases (h : Step env s e t) {k : Uuid} {u : User}
    (hu : t.accounts.users.lookup k = some u) :
    (s.accounts.users.lookup k = some u ∧ e.repasses ≠ some k) ∨ e.creates = some u ∨
      ∃ r now, e = .passwordUpdated r now ∧ r ∈ s.resetting ∧ r.userId = k ∧
        r.newHash = u.passwordHash := by
  cases h with
  | account hl =>
    rcases hl.lookup_cases hu with hu | rfl
    · exact .inl ⟨hu, nofun⟩
    · exact .inr (.inl rfl)
  | registered hl hp _ =>
    rcases hl.lookup_cases hu with hu | he
    · exact .inl ⟨hu, nofun⟩
    · obtain rfl := AccountEvent.created.inj he
      exact .inr (.inl (congrArg some (AuthService.prepareAuthResponse_ok hp).1))
  | @passwordUpdated r now hr =>
    rcases lookup_updatePasswordHash hu with ⟨hk, hu⟩ | ⟨rfl, hhash⟩
    · exact .inl ⟨hu, fun he => hk (Option.some.inj he).symm⟩
    · exact .inr (.inr ⟨r, now, rfl, hr, rfl, hhash.symm⟩)
  | _ => exact .inl ⟨hu, nofun⟩

/-! ### Where the password of a user comes from -/

/-- An accepted reset, from the request for its token on: the token was drawn and stored for the
account that it is used for, and had not expired. -/
structure ResetAsked (env : AuthEnv) (es : List (SessionEvent T)) (r : PendingPassword)
    (asked : ForgotPasswordRequest) : Prop where
  steps : ∃ p answer req now, [.resetDrawn asked p, .resetStored p answer,
      .resetAccepted req now r].Sublist es ∧
    p.userId = r.userId ∧ env.hashToken p.token = env.hashToken req.token ∧
    now < p.expiresAt ∧
    8 ≤ len req.newPassword

/-- The request asks for a reset of the password of this user. -/
def AsksFor (T : CaseTable) (asked : ForgotPasswordRequest) (u : User) : Prop :=
  matchesLogin T (cleanLogin T (T.toLowercase (trim asked.email))) u = true

theorem AsksFor.of_sameAccount {asked : ForgotPasswordRequest} {u v : User}
    (h : AsksFor T asked u) (huv : u.SameAccount v) : AsksFor T asked v := by
  obtain ⟨-, hname, hemail⟩ := huv.names
  unfold AsksFor at h ⊢
  rw [matchesLogin, hname, hemail]
  exact h

/-- What the resets under way and the stored reset tokens have behind them. -/
structure ResetHistory (env : AuthEnv) (es : List (SessionEvent T)) (s : SessionState T) :
    Prop where
  forgetting : ∀ p ∈ s.forgetting, ∃ asked, .resetDrawn asked p ∈ es
  tokens : ∀ k rec, s.resetTokens.lookup k = some rec → ∃ asked p answer,
    [.resetDrawn asked p, .resetStored p answer].Sublist es ∧ env.hashToken p.token = k ∧
      p.userId = rec.userId ∧ p.expiresAt = rec.expiresAt
  resetting : ∀ r ∈ s.resetting, ∃ asked, ResetAsked env es r asked
  asked : ∀ asked p, .resetDrawn asked p ∈ es →
    ∃ u, s.accounts.users.lookup p.userId = some u ∧
    AsksFor T asked u

theorem ResetAsked.snoc {es : List (SessionEvent T)} {r : PendingPassword}
    {asked : ForgotPasswordRequest} (h : ResetAsked env es r asked) (e : SessionEvent T) :
    ResetAsked env (es ++ [e]) r asked := by
  obtain ⟨p, answer, req, now, hsteps, hrest⟩ := h.steps
  exact ⟨p, answer, req, now, hsteps.trans (List.sublist_append_left _ _), hrest⟩

theorem sublist_snoc {α : Type*} {xs ys : List α} (h : xs.Sublist ys) (a : α) :
    (xs ++ [a]).Sublist (ys ++ [a]) := h.append (List.Sublist.refl [a])

theorem resetHistory_initial : ResetHistory (T := T) env [] .initial where
  forgetting := by simp [initial]
  tokens _ _ h := by cases h
  resetting := by simp [initial]
  asked := by simp

/-- The record of a reset token after a step. -/
theorem ResetHistory.tokens_step {es : List (SessionEvent T)} (hs : ResetHistory env es s)
    (hi : s.Invariant env) (h : Step env s e t) {k : String} {rec : TokenRecord}
    (hr : t.resetTokens.lookup k = some rec) : ∃ asked p answer,
      [.resetDrawn asked p, .resetStored p answer].Sublist (es ++ [e]) ∧
        env.hashToken p.token = k ∧ p.userId = rec.userId ∧ p.expiresAt = rec.expiresAt := by
  have keep : ∀ {rec' : TokenRecord}, s.resetTokens.lookup k = some rec' →
      TokenRecord.Later rec' rec → ∃ asked p answer,
        [.resetDrawn asked p, .resetStored p answer].Sublist (es ++ [e]) ∧
          env.hashToken p.token = k ∧ p.userId = rec.userId ∧ p.expiresAt = rec.expiresAt := by
    intro rec' hl hlater
    obtain ⟨asked, p, answer, hsteps, hk, hu, hx⟩ := hs.tokens k rec' hl
    exact ⟨asked, p, answer, hsteps.trans (List.sublist_append_left _ _), hk,
      hu.trans hlater.userId.symm, hx.trans hlater.expiresAt.symm⟩
  cases ha : e.resetAct with
  | none =>
    rw [h.resetTokens_eq ha] at hr
    exact keep hr (.refl _)
  | some a =>
    rcases (h.resetTokens_step hi ha).lookup_cases hr with ⟨rec', hl, hlater⟩ |
      ⟨token, rfl, hk⟩
    · exact keep hl hlater
    · cases h with
      | @resetStored p d answer resetTokens hp _ =>
        obtain ⟨rfl, hu, hx⟩ := TokenAct.stored.inj (Option.some.inj ha)
        obtain ⟨asked, hdrawn⟩ := hs.forgetting p hp
        exact ⟨asked, p, answer, sublist_snoc (List.singleton_sublist.mpr hdrawn) _, hk, hu, hx⟩
      | _ => cases ha

theorem ResetHistory.step {es : List (SessionEvent T)} (hs : ResetHistory env es s)
    (hr : (sessionSystem T env).Reachable s) (h : Step env s e t) :
    ResetHistory env (es ++ [e]) t := by
  have hi := invariant_of_reachable hr
  have hinbound := inbound_of_reachable hr
  have hevolves := h.evolves_users hr
  refine ⟨fun p hp => ?_, fun k rec hl => hs.tokens_step hi h hl, fun r hmem => ?_,
    fun asked p hmem => ?_⟩
  · have keep : ∀ q ∈ s.forgetting, ∃ asked, .resetDrawn asked q ∈ es ++ [e] := by
      intro q hq
      obtain ⟨asked, hdrawn⟩ := hs.forgetting q hq
      exact ⟨asked, List.mem_append_left _ hdrawn⟩
    cases h with
    | resetDrawn _ _ =>
      rcases List.mem_cons.mp hp with rfl | hp
      · exact ⟨_, List.mem_append_right _ (List.mem_singleton_self _)⟩
      · exact keep p hp
    | resetStored _ _ => exact keep p (List.mem_of_mem_erase hp)
    | _ => exact keep p hp
  · have keep : ∀ q ∈ s.resetting, ∃ asked, ResetAsked env (es ++ [e]) q asked := by
      intro q hq
      obtain ⟨asked, hasked⟩ := hs.resetting q hq
      exact ⟨asked, hasked.snoc e⟩
    cases h with
    | @resetAccepted req now u hash r' resetTokens hx hh =>
      rcases List.mem_cons.mp hmem with rfl | hmem
      · obtain ⟨hlen, hv⟩ := AuthService.consumeResetToken_ok hx
        obtain ⟨rec, hl, -, hnow, hu, -⟩ := InMemoryUserRepository.validateAndEnd_some hv
        obtain ⟨asked, p, answer, hsteps, hk, hpu, hpx⟩ := hs.tokens _ rec hl
        have hid := (AuthService.hashNewPassword_ok hh).2
        refine ⟨asked, p, answer, req, now, sublist_snoc hsteps _, ?_, hk, hpx ▸ hnow, hlen⟩
        rw [hpu, hu, hid]
      · exact keep r hmem
    | passwordUpdated _ _ => exact keep r (List.mem_of_mem_erase hmem)
    | _ => exact keep r hmem
  · have keep : ∀ q, .resetDrawn asked q ∈ es → ∃ u,
        t.accounts.users.lookup q.userId = some u ∧ AsksFor T asked u := by
      intro q hq
      obtain ⟨u, hu, hasks⟩ := hs.asked asked q hq
      obtain ⟨v, hv, hsame⟩ := hevolves _ u hu
      exact ⟨v, hv, hasks.of_sameAccount hsame⟩
    rcases List.mem_append.mp hmem with hmem | hmem
    · exact keep p hmem
    · obtain rfl := List.mem_singleton.mp hmem
      cases h with
      | resetDrawn hp _ =>
        obtain ⟨u, hfind, hid⟩ := AuthService.forgotPassword_found hp
        obtain ⟨hu, hmatches⟩ := InMemoryUserRepository.findByUsernameOrEmail_some hfind
        exact ⟨u, by rw [← hid]; exact hinbound.keyed.lookup hu, hmatches⟩

theorem resetHistory_of_trace (h : (sessionSystem T env).Trace tr s) :
    ResetHistory env (System.labels tr) s := by
  refine h.induct (P := fun tr s => ResetHistory env (System.labels tr) s) ?_ ?_
  · intro s hi
    obtain rfl : s = .initial := hi
    exact resetHistory_initial
  · intro tr s e t ht hs hl
    rw [System.labels_append]
    exact hs.step ht.reachable hl

/-- How a user has come by the password: by registering with it, or by a reset that was asked for
under a name of this user; and no step has changed it since. -/
inductive PasswordSet (T : CaseTable) (env : AuthEnv) (es : List (SessionEvent T)) (u : User) : Prop
  | registered {as bs e v} : es = as ++ e :: bs → e.creates = some v → v.SameAccount u →
      v.passwordHash = u.passwordHash → (∀ e ∈ bs, e.repasses ≠ some u.id) →
      PasswordSet T env es u
  | reset {as bs r now asked} : es = as ++ .passwordUpdated r now :: bs → r.userId = u.id →
      r.newHash = u.passwordHash → ResetAsked env as r asked → AsksFor T asked u →
      (∀ e ∈ bs, e.repasses ≠ some u.id) → PasswordSet T env es u

theorem PasswordSet.snoc {es : List (SessionEvent T)} {u : User} (h : PasswordSet T env es u)
    (he : e.repasses ≠ some u.id) : PasswordSet T env (es ++ [e]) u := by
  have hlast : ∀ {bs : List (SessionEvent T)}, (∀ e ∈ bs, e.repasses ≠ some u.id) →
      ∀ e' ∈ bs ++ [e], e'.repasses ≠ some u.id := by
    intro bs hbs e' hmem
    rcases List.mem_append.mp hmem with hmem | hmem
    · exact hbs e' hmem
    · rw [List.mem_singleton.mp hmem]
      exact he
  cases h with
  | registered hes hc hsame hhash hbs =>
    exact .registered (by rw [hes, List.append_assoc, List.cons_append]) hc hsame hhash (hlast hbs)
  | reset hes hid hhash hasked hasks hbs =>
    exact .reset (by rw [hes, List.append_assoc, List.cons_append]) hid hhash hasked hasks
      (hlast hbs)

theorem Step.passwordSet (h : Step env s e t) (ht : (sessionSystem T env).Trace tr s)
    (hs : ∀ k u, s.accounts.users.lookup k = some u → PasswordSet T env (System.labels tr) u)
    {k : Uuid} {u : User} (hu : t.accounts.users.lookup k = some u) :
    PasswordSet T env (System.labels tr ++ [e]) u := by
  have hr := ht.reachable
  have hid : u.id = k := (inbound_of_reachable (hr.step h)).keyed k u hu
  rcases h.lookup_cases hu with ⟨hl, hne⟩ | hc | ⟨r, now, rfl, hmem, rfl, hhash⟩
  · exact (hs k u hl).snoc (hid ▸ hne)
  · exact .registered rfl hc (.refl u) rfl (by simp)
  · have hhist := resetHistory_of_trace ht
    obtain ⟨asked, hasked⟩ := hhist.resetting r hmem
    obtain ⟨p, answer, req, now', hsteps, hpu, -⟩ := hasked.steps
    have hdrawn : .resetDrawn asked p ∈ System.labels tr := hsteps.subset List.mem_cons_self
    obtain ⟨v, hv, hasks⟩ := hhist.asked asked p hdrawn
    obtain ⟨w, hw, hsame⟩ := h.evolves_users hr _ v hv
    rw [hpu, hu] at hw
    obtain rfl := Option.some.inj hw
    exact .reset rfl hid.symm hhash hasked (hasks.of_sameAccount hsame) (by simp)

theorem passwordSet_of_trace (h : (sessionSystem T env).Trace tr s) :
    ∀ k u, s.accounts.users.lookup k = some u → PasswordSet T env (System.labels tr) u := by
  refine h.induct (P := fun tr s => ∀ k u, s.accounts.users.lookup k = some u →
    PasswordSet T env (System.labels tr) u) ?_ ?_
  · intro s hi k u hu
    obtain rfl : s = .initial := hi
    cases hu
  · intro tr s e t ht hs hl k u hu
    rw [System.labels_append]
    exact hl.passwordSet ht hs hu

end SessionState

/-- In every run each password is the one that its user has registered with, or was set by the
last of the resets that were asked for under a name of this user and accepted in time. -/
theorem passwords_come_from_their_owners {T : CaseTable} {env : AuthEnv}
    {tr : List (Transition (SessionState T) (SessionEvent T))} {s : SessionState T}
    (h : (sessionSystem T env).Trace tr s) :
    ∀ u ∈ s.accounts.users.values, SessionState.PasswordSet T env (System.labels tr) u := by
  intro u hu
  obtain ⟨k, hk⟩ := Table.mem_values.mp hu
  exact SessionState.passwordSet_of_trace h k u hk

open SessionState in
/-- Bob resets his password. -/
theorem passwords_come_from_their_owners_sample :
    ∃ tr s, (sessionSystem .ascii sampleEnv).Trace tr s ∧
      (∃ u ∈ s.accounts.users.values, u.username = "bob" ∧ u.passwordHash = "other hash") ∧
      ∀ u ∈ s.accounts.users.values, PasswordSet .ascii sampleEnv (System.labels tr) u := by
  obtain ⟨tr, ht, -⟩ := trace_sampleSession
  obtain ⟨tr₁, h₁, -⟩ := @run_forgotPassword .ascii sampleEnv sampleSession
    ⟨"bob@example.com"⟩ (sampleToken 3) .epoch (sampleForgot 3) ⟨.ofNat 13, .epoch⟩
    (by decide +kernel) ⟨rfl, by simp [sampleSession]⟩
  have h₂ := (ht.append h₁).snoc (@Step.resetAccepted .ascii sampleEnv _ (sampleReset 3) .epoch
    (.ofNat 1) (.ok "other hash") (sampleChange 3) _ rfl rfl)
  have h₃ := h₂.snoc (Step.passwordUpdated .epoch List.mem_cons_self)
  refine ⟨_, _, h₃,
    ⟨{ sampleUser 1 "bob" with passwordHash := "other hash" }, ?_, rfl, rfl⟩,
    passwords_come_from_their_owners h₃⟩
  exact Table.mem_values.mpr ⟨.ofNat 1, by decide +kernel⟩

end Hanbova
