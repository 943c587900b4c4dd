import Hanbova.Accounts.Service
import Hanbova.Library.Transition

/-! Any number of concurrent registrations over one user repository, whose map may change its
iteration order at any time. -/
namespace Hanbova

open Library Library.Text
open InMemoryUserRepository (Users)
open AuthService (Registration Draw WellNamed)

/-- A registration that waits for one of its two lookups. -/
inductive PendingLookup (T : CaseTable)
  | username (r : Registration T)
  | email (r : Registration T)
  deriving DecidableEq

structure AccountState (T : CaseTable) where
  users : Users
  lookups : List (PendingLookup T)
  creating : List User

inductive AccountEvent (T : CaseTable)
  | rehashed
  | refused (req : RegisterRequest) (e : ApiError)
  | validated (r : Registration T)
  | usernameFree (r : Registration T)
  | emailFree (r : Registration T) (u : User)
  | abandoned (p : PendingLookup T) (e : ApiError)
  | created (u : User)
  | conflicted (u : User) (e : ApiError)

namespace AccountState
variable {T : CaseTable}

def initial : AccountState T := ⟨∅, [], []⟩

inductive Step : AccountState T → AccountEvent T → AccountState T → Prop
  | rehashed {s users} : Table.Rehash s.users users → Step s .rehashed { s with users }
  | refused {s req e} : AuthService.validate T req = .error e → Step s (.refused req e) s
  | validated {s req r} :
      AuthService.validate T req = .ok r →
      Step s (.validated r) { s with lookups := .username r :: s.lookups }
  | usernameTaken {s r e} :
      .username r ∈ s.lookups → AuthService.checkUsername T s.users r = .error e →
      Step s (.abandoned (.username r) e) { s with lookups := s.lookups.erase (.username r) }
  | usernameFree {s r} :
      .username r ∈ s.lookups → AuthService.checkUsername T s.users r = .ok () →
      Step s (.usernameFree r)
        { s with lookups := .email r :: s.lookups.erase (.username r) }
  | emailTaken {s r e} :
      .email r ∈ s.lookups → AuthService.checkEmail T s.users r = .error e →
      Step s (.abandoned (.email r) e) { s with lookups := s.lookups.erase (.email r) }
  | hashFailed {s r d e} :
      .email r ∈ s.lookups → AuthService.checkEmail T s.users r = .ok () →
      AuthService.newUser r d = .error e →
      Step s (.abandoned (.email r) e) { s with lookups := s.lookups.erase (.email r) }
  | emailFree {s r d u} :
      .email r ∈ s.lookups → AuthService.checkEmail T s.users r = .ok () →
      Table.Fresh User.id s.users s.creating d.id → AuthService.newUser r d = .ok u →
      Step s (.emailFree r u)
        { s with lookups := s.lookups.erase (.email r), creating := u :: s.creating }
  | created {s u users} :
      u ∈ s.creating → AuthService.createUser s.users u = .ok (u, users) →
      Step s (.created u) { s with users, creating := s.creating.erase u }
  | conflicted {s u e} :
      u ∈ s.creating → AuthService.createUser s.users u = .error e →
      Step s (.conflicted u e) { s with creating := s.creating.erase u }

end AccountState

/-- Registrations, by anyone and in any number, from an empty user store on. -/
def accountSystem (T : CaseTable) : System (AccountState T) (AccountEvent T) where
  init s := s = .initial
  step := AccountState.Step

/-- A user store that keeps what registration promises: each account under its own identifier,
and no two accounts with one username or one email address. -/
structure Roster (T : CaseTable) (users : Users) : Prop where
  keyed : Table.Keyed User.id users
  named : ∀ u ∈ users.values, WellNamed T u
  username_unique : ∀ u ∈ users.values, ∀ v ∈ users.values,
    InMemoryUserRepository.sameUsername u v = true → u = v
  email_unique : ∀ u ∈ users.values, ∀ v ∈ users.values,
    InMemoryUserRepository.sameEmail u v = true → u = v

namespace Roster
variable {T : CaseTable} {users users' : Users}

theorem empty : Roster T ∅ where
  keyed := Table.keyed_empty _
  named := by simp [Table.mem_values]
  username_unique := by simp [Table.mem_values]
  email_unique := by simp [Table.mem_values]

theorem rehash (h : Roster T users) (hr : Table.Rehash users users') : Roster T users' where
  keyed k u hu := h.keyed k u (hr.lookup k ▸ hu)
  named u hu := h.named u (hr.mem_values.mp hu)
  username_unique u hu v hv :=
    h.username_unique u (hr.mem_values.mp hu) v (hr.mem_values.mp hv)
  email_unique u hu v hv := h.email_unique u (hr.mem_values.mp hu) v (hr.mem_values.mp hv)

/-- A relation that an added account has with no other is an equality afterwards as before. -/
theorem unique_of_add {R : User → User → Bool} {u : User} (hR : ∀ v w, R v w = R w v)
    (h : ∀ v ∈ users.values, ∀ w ∈ users.values, R v w = true → v = w)
    (hm : Table.SetAt users u.id u users') (hu : ∀ v ∈ users.values, R v u = false) :
    ∀ v ∈ users'.values, ∀ w ∈ users'.values, R v w = true → v = w := by
  intro v hv w hw hvw
  rcases hm.mem_values hv with rfl | hv <;> rcases hm.mem_values hw with rfl | hw
  · rfl
  · rw [hR, hu w hw] at hvw
    cases hvw
  · rw [hu v hv] at hvw
    cases hvw
  · exact h v hv w hw hvw

theorem create (h : Roster T users) {u v : User} (hu : WellNamed T u)
    (hc : AuthService.createUser users u = .ok (v, users')) : Roster T users' := by
  obtain ⟨-, hm, hnew⟩ := InMemoryUserRepository.createUser_ok (AuthService.createUser_ok hc)
  refine ⟨h.keyed.set hm rfl, ?_, ?_, ?_⟩
  · intro w hw
    rcases hm.mem_values hw with rfl | hw
    · exact hu
    · exact h.named w hw
  · exact unique_of_add (fun _ _ => eqIgnoreAsciiCase_comm _ _) h.username_unique hm
      fun w hw => (hnew w hw).1
  · exact unique_of_add (fun _ _ => eqIgnoreAsciiCase_comm _ _) h.email_unique hm
      fun w hw => (hnew w hw).2

end Roster

namespace AccountState
variable {T : CaseTable}

/-- What every interleaving of registrations keeps. -/
structure Invariant (s : AccountState T) : Prop where
  roster : Roster T s.users
  inbound : Table.Inbound User.id s.users s.creating
  creating_named : ∀ u ∈ s.creating, WellNamed T u

theorem invariant_initial : Invariant (T := T) .initial where
  roster := .empty
  inbound := Table.inbound_empty _
  creating_named := by simp [initial]

variable {s t : AccountState T} {e : AccountEvent T}

/-- Users are stored under fresh identifiers. -/
theorem Step.inbound (h : Step s e t) (hs : Table.Inbound User.id s.users s.creating) :
    Table.Inbound User.id t.users t.creating := by
  cases h with
  | rehashed hr => exact hs.rehash hr
  | emailFree _ _ hf hn => exact hs.add ((AuthService.newUser_ok hn).1 ▸ hf)
  | created hu hc =>
    exact hs.store hu (InMemoryUserRepository.createUser_ok (AuthService.createUser_ok hc)).2.1
  | conflicted => exact hs.drop _
  | _ => exact hs

theorem Step.invariant (h : Step s e t) (hs : s.Invariant) : t.Invariant := by
  have hinbound := h.inbound hs.inbound
  cases h with
  | rehashed hr => exact ⟨hs.roster.rehash hr, hinbound, hs.creating_named⟩
  | emailFree _ _ _ hn =>
    refine ⟨hs.roster, hinbound, fun u hu => ?_⟩
    rcases List.mem_cons.mp hu with rfl | hu
    · exact AuthService.newUser_wellNamed hn
    · exact hs.creating_named u hu
  | created hu hc =>
    exact ⟨hs.roster.create (hs.creating_named _ hu) hc, hinbound,
      fun v hv => hs.creating_named v (List.mem_of_mem_erase hv)⟩
  | conflicted =>
    exact ⟨hs.roster, hinbound, fun v hv => hs.creating_named v (List.mem_of_mem_erase hv)⟩
  | _ => exact ⟨hs.roster, hinbound, hs.creating_named⟩

theorem invariant_of_reachable (h : (accountSystem T).Reachable s) :
    s.Invariant :=
  h.induct (fun _ hi => hi ▸ invariant_initial) fun _ _ _ _ hs hl => Step.invariant hl hs

/-- An account, once stored, stays as it is. -/
theorem Step.keeps (h : Step s e t) (hs : Table.Inbound User.id s.users s.creating) :
    Table.Evolves Eq s.users t.users := by
  have refl := Table.Evolves.refl (R := @Eq User) (fun _ => rfl) s.users
  cases h with
  | rehashed hr =>
    intro k u hu
    exact ⟨u, by rw [hr.lookup, hu], rfl⟩
  | @created u users hu hc =>
    have hm := (InMemoryUserRepository.createUser_ok (AuthService.createUser_ok hc)).2.1
    exact .add (fun _ => rfl) hm (hs.new u hu)
  | _ => exact refl

/-- A registration that nobody interrupts is one of the interleavings. -/
theorem run_register {users users' : Users} {req : RegisterRequest} {d : Draw} {u : User}
    (hd : users.lookup d.id = none)
    (h : AuthService.register T users req d = .ok (u, users')) :
    ∃ tr, (accountSystem T).Run ⟨users, [], []⟩ tr ⟨users', [], []⟩ := by
  obtain ⟨r, hv, hun, he, hn, hc⟩ := AuthService.register_ok h
  have h₁ :=
    System.Run.single (T := accountSystem T) (Step.validated (s := ⟨users, [], []⟩) hv)
  have h₂ := h₁.snoc (Step.usernameFree List.mem_cons_self hun)
  have h₃ := h₂.snoc (Step.emailFree List.mem_cons_self he ⟨hd, by simp⟩ hn)
  have h₄ := h₃.snoc (Step.created List.mem_cons_self hc)
  simp only [List.erase_cons_head] at h₄
  exact ⟨_, h₄⟩

end AccountState

def sampleAccount (name : String) : RegisterRequest where
  username := "@" ++ name
  email := name ++ "@example.com"
  firstName := name
  lastName := ""
  phone := none
  password := "password"

def sampleDraw (n : ℕ) : Draw := ⟨.ofNat n, .ok "hash", .epoch, .epoch⟩

def sampleUser (n : ℕ) (name : String) : User where
  id := .ofNat n
  username := name
  email := name ++ "@example.com"
  firstName := name
  lastName := ""
  phone := none
  passwordHash := "hash"
  emailVerifiedAt := none
  createdAt := .epoch
  updatedAt := .epoch

/-- Bob and Carol. -/
def sampleUsers : Users :=
  (Table.insert ∅ (.ofNat 1) (sampleUser 1 "bob")).insert (.ofNat 2) (sampleUser 2 "carol")

theorem reachable_sampleUsers : (accountSystem .ascii).Reachable ⟨sampleUsers, [], []⟩ := by
  have hbob : AuthService.register .ascii ∅ (sampleAccount "bob") (sampleDraw 1) =
      .ok (sampleUser 1 "bob", Table.insert ∅ (.ofNat 1) (sampleUser 1 "bob")) := by
    decide +kernel
  have hcarol : AuthService.register .ascii (Table.insert ∅ (.ofNat 1) (sampleUser 1 "bob"))
      (sampleAccount "carol") (sampleDraw 2) = .ok (sampleUser 2 "carol", sampleUsers) := by
    decide +kernel
  obtain ⟨tr, hb⟩ := AccountState.run_register rfl hbob
  obtain ⟨tr', hc⟩ := AccountState.run_register (by decide +kernel) hcarol
  exact ((System.Reachable.init (T := accountSystem .ascii) rfl).run hb).run hc

end Hanbova
