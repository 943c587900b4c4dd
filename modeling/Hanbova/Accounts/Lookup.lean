import Hanbova.Accounts.System

/-! Stores that grow by one registration after another, and what a lookup finds in them. -/
namespace Hanbova

open Library Library.Text
open InMemoryUserRepository (Users cleanLogin matchesLogin findByUsernameOrEmail)
open AuthService (Registration Draw WellNamed)

/-- A store reached by a sequence of registrations, in any iteration order. -/
inductive Registered (T : CaseTable) : Users → Prop
  | empty : Registered T ∅
  | register {users users' : Users} {req : RegisterRequest} {d : Draw} {u : User} :
      Registered T users → users.lookup d.id = none →
      AuthService.register T users req d = .ok (u, users') → Registered T users'
  | rehash {users users' : Users} :
      Registered T users → Table.Rehash users users' → Registered T users'

variable {T : CaseTable} {users : Users} {u v : User} {s : String}

theorem Registered.reachable (h : Registered T users) :
    (accountSystem T).Reachable ⟨users, [], []⟩ := by
  induction h with
  | empty => exact .init rfl
  | register _ hd hr ih =>
    obtain ⟨tr, hrun⟩ := AccountState.run_register hd hr
    exact ih.run hrun
  | rehash _ hr ih => exact ih.step (T := accountSystem T) (AccountState.Step.rehashed hr)

theorem Registered.roster (h : Registered T users) : Roster T users :=
  (AccountState.invariant_of_reachable h.reachable).roster

/-! ### Normal forms of logins -/

theorem matchesLogin_iff (h : WellNamed T u) :
    matchesLogin T s u = true ↔ u.username = s ∨ u.email = s := by
  simp [matchesLogin, h.username_lower, h.email_lower]

/-- The lower-casing of a login can be left out or done first. -/
theorem cleanLogin_toLowercase (s : String) : cleanLogin T (T.toLowercase s) = cleanLogin T s := by
  rw [cleanLogin, cleanLogin, CaseTable.trim_toLowercase, CaseTable.trimStartMatches_toLowercase,
    CaseTable.toLowercase_idem]

theorem cleanLogin_of_lower (h : T.toLowercase s = s) :
    cleanLogin T s = trimStartMatches '@' (trim s) := by
  rw [cleanLogin, ← CaseTable.trimStartMatches_toLowercase, ← CaseTable.trim_toLowercase, h]

theorem cleanLogin_eq_self (hl : T.toLowercase s = s) (ht : trim s = s) (ha : ¬ AtSigned s) :
    cleanLogin T s = s := by
  rw [cleanLogin_of_lower hl, ht, trimStartMatches_eq_self ha]

/-- A username behind an at sign keeps its blanks. -/
theorem cleanUsername_at (hl : T.toLowercase s = s) (ht : EndTrimmed s) (ha : ¬ AtSigned s) :
    AuthService.cleanUsername T ("@" ++ s) = s := by
  have hs : ("@" ++ s).toList = '@' :: s.toList := by simp
  have hend : EndTrimmed ("@" ++ s) := by
    refine List.rdropWhile_eq_self_iff.mpr fun hne => ?_
    simp only [hs]
    by_cases he : s.toList = []
    · simp only [he, List.getLast_singleton]
      decide
    · rw [List.getLast_cons he]
      exact List.rdropWhile_eq_self_iff.mp ht he
  have hat : trimStartMatches '@' ("@" ++ s) = trimStartMatches '@' s := by
    simp [trimStartMatches, hs]
  rw [AuthService.cleanUsername, hend.trim_eq_self (by simp [StartsBlank, hs, isWhiteSpace]), hat,
    trimStartMatches_eq_self ha, hl]

/-! ### Lookups and registrations that succeed -/

theorem find_eq_some (hu : u ∈ users.values) (hm : matchesLogin T (cleanLogin T s) u = true)
    (h : ∀ v ∈ users.values, matchesLogin T (cleanLogin T s) v = true → v = u) :
    findByUsernameOrEmail T users s = some u := find?_eq_some_of_unique hu hm h

/-- The new names match no account and equal none up to the case of their letters. -/
def Unused (users : Users) (r : Registration T) : Prop :=
  ∀ v ∈ users.values, matchesLogin T (cleanLogin T r.username) v = false ∧
    matchesLogin T (cleanLogin T r.email) v = false ∧
    eqIgnoreAsciiCase v.username r.username = false ∧ eqIgnoreAsciiCase v.email r.email = false

theorem register_of_unused (r : Registration T) {d : Draw} {hash : String} (h : Unused users r)
    (hd : d.hash = .ok hash) :
    ∃ u, u.id = d.id ∧ u.username = r.username ∧ u.email = r.email ∧
      AuthService.register T users r.request d = .ok (u, users.insert d.id u) := by
  obtain ⟨u, hu⟩ : ∃ u, AuthService.newUser r d = .ok u := by
    simp [AuthService.newUser, hd]
  obtain ⟨hid, hname, hemail⟩ := AuthService.newUser_ok hu
  have hv : AuthService.validate T r.request = .ok r := by
    have h₁ := r.username_len
    have h₂ := r.email_form
    have h₃ := r.password_len
    rw [AuthService.validate, dif_neg (by omega), dif_neg (by simp [h₂.1, h₂.2]),
      dif_neg (by omega)]
  have hfu : findByUsernameOrEmail T users r.username = none :=
    InMemoryUserRepository.findByUsernameOrEmail_none.mpr fun v hv => (h v hv).1
  have hfe : findByUsernameOrEmail T users r.email = none :=
    InMemoryUserRepository.findByUsernameOrEmail_none.mpr fun v hv => (h v hv).2.1
  have hc : AuthService.createUser users u = .ok (u, users.insert d.id u) := by
    have hany : (users.values.any fun v => InMemoryUserRepository.sameUsername v u ||
        InMemoryUserRepository.sameEmail v u) = false := by
      rw [List.any_eq_false]
      intro v hv
      obtain ⟨-, -, h₁, h₂⟩ := h v hv
      simp [InMemoryUserRepository.sameUsername, InMemoryUserRepository.sameEmail, hname, hemail,
        h₁, h₂]
    simp [AuthService.createUser, InMemoryUserRepository.createUser, hany, Except.mapError, hid]
  refine ⟨u, hid, hname, hemail, ?_⟩
  simp [AuthService.register, AuthService.checkUsername, AuthService.checkEmail, hv, hfu, hfe, hu,
    hc, bind, Except.bind]

end Hanbova
