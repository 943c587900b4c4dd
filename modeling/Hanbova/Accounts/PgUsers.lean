import Hanbova.Accounts.Credentials
import Hanbova.Accounts.Identity
import Hanbova.Accounts.Lookup
import Hanbova.Library.Simulation
import Mathlib.Data.List.Find

/-! Registrations over the `users` table of PostgreSQL do what they do over the in-memory
repository: `PgUserRepository` of `auth/repository.rs`. -/
namespace Hanbova

open Library Library.Text Library.System
open InMemoryUserRepository (Users cleanLogin)
open AuthService (Registration Draw WellNamed)

namespace PgUserRepository

/-- No text of the database has a NUL. -/
def isText (s : String) : Bool := !contains s (.ofNat 0)

/-- A column of type `VARCHAR(n)` takes the text. -/
def fits (n : ℕ) (s : String) : Bool := s.length ≤ n && isText s

def fitsColumns (u : User) : Bool :=
  fits 50 u.username && fits 255 u.email && fits 100 u.firstName && fits 100 u.lastName &&
    u.phone.all (fits 50) && isText u.passwordHash

/-- `round` is what the database keeps of a timestamp. -/
def roundUser (round : DateTime → DateTime) (u : User) : User :=
  { u with
    emailVerifiedAt := u.emailVerifiedAt.map round
    createdAt := round u.createdAt
    updatedAt := round u.updatedAt }

/-- The primary key and the two unique indexes. -/
def collides (u v : User) : Bool := v.id = u.id || v.username = u.username || v.email = u.email

/-- `INSERT INTO users … RETURNING …`. -/
def createUser (round : DateTime → DateTime) (rows : UserRows) (user : User) :
    Except SqlxError (User × UserRows) :=
  if !fitsColumns user then .error (.other "value does not fit its column")
  else if rows.any (collides user) then
    .error (.other "duplicate key value violates unique constraint")
  else .ok (roundUser round user, rows ++ [roundUser round user])

variable (T : CaseTable) (lower : String → String)

/-- The `WHERE` clause of the lookup; `lower` is the function `LOWER` of the database. -/
def matchesLogin (clean : String) (u : User) : Bool :=
  lower u.username == clean || lower u.email == clean

/-- `LIMIT 1`: the first row that matches. -/
def findByUsernameOrEmail (rows : UserRows) (login : String) : Except SqlxError (Option User) :=
  if isText (cleanLogin T login) then .ok (rows.find? (matchesLogin lower (cleanLogin T login)))
  else .error (.other "invalid byte sequence for encoding UTF8: 0x00")

/-- The two lookups of `register`, which fail as the repository does. -/
def checkFree (rows : UserRows) (login taken : String) : Except ApiError Unit :=
  match findByUsernameOrEmail T lower rows login with
  | .error e => .error (.database e)
  | .ok (some _) => .error (.badRequest taken)
  | .ok none => .ok ()

variable {T}

def checkUsername (rows : UserRows) (r : Registration T) : Except ApiError Unit :=
  checkFree T lower rows r.username "Username is already taken"

def checkEmail (rows : UserRows) (r : Registration T) : Except ApiError Unit :=
  checkFree T lower rows r.email "Email is already registered"

end PgUserRepository

/-- The table, the identifiers that have been drawn so far, and the registrations in flight. -/
structure PgAccountState (T : CaseTable) where
  rows : PgUserRepository.UserRows
  drawn : List Uuid
  lookups : List (PendingLookup T)
  creating : List User

namespace PgAccountState
variable {T : CaseTable} (lower : String → String) (round : DateTime → DateTime)

inductive Step : PgAccountState T → AccountEvent T → PgAccountState T → Prop
  -- the order of a scan may change at any time
  | rehashed {s rows} : s.rows.Perm rows → Step s .rehashed { s with rows }
  | refused {s req e} : AuthService.validate T req = .error e → Step s (.refused req e) s
  | validated {s req r} :
      AuthService.validate T req = .ok r →
      Step s (.validated r) { s with lookups := .username r :: s.lookups }
  | usernameTaken {s r e} :
      .username r ∈ s.lookups → PgUserRepository.checkUsername lower s.rows r = .error e →
      Step s (.abandoned (.username r) e) { s with lookups := s.lookups.erase (.username r) }
  | usernameFree {s r} :
      .username r ∈ s.lookups → PgUserRepository.checkUsername lower s.rows r = .ok () →
      Step s (.usernameFree r)
        { s with lookups := .email r :: s.lookups.erase (.username r) }
  | emailTaken {s r e} :
      .email r ∈ s.lookups → PgUserRepository.checkEmail lower s.rows r = .error e →
      Step s (.abandoned (.email r) e) { s with lookups := s.lookups.erase (.email r) }
  | hashFailed {s r d e} :
      .email r ∈ s.lookups → PgUserRepository.checkEmail lower s.rows r = .ok () →
      AuthService.newUser r d = .error e →
      Step s (.abandoned (.email r) e) { s with lookups := s.lookups.erase (.email r) }
  | emailFree {s r d u} :
      .email r ∈ s.lookups → PgUserRepository.checkEmail lower s.rows r = .ok () →
      d.id ∉ s.drawn → AuthService.newUser r d = .ok u →
      Step s (.emailFree r u)
        { s with
          lookups := s.lookups.erase (.email r), creating := u :: s.creating
          drawn := d.id :: s.drawn }
  | created {s u v rows} :
      u ∈ s.creating → PgUserRepository.createUser round s.rows u = .ok (v, rows) →
      Step s (.created v) { s with rows, creating := s.creating.erase u }
  | conflicted {s u e} :
      u ∈ s.creating → PgUserRepository.createUser round s.rows u = .error e →
      Step s (.conflicted u (.database e)) { s with creating := s.creating.erase u }

end PgAccountState

def pgAccountSystem (T : CaseTable) (lower : String → String) (round : DateTime → DateTime) :
    System (PgAccountState T) (AccountEvent T) where
  init s := s = ⟨[], [], [], []⟩
  step := PgAccountState.Step lower round

/-- What shows of an event but for the failures of the database, with the timestamps of an account
as they will be stored. -/
def AccountEvent.stored {T : CaseTable} (round : DateTime → DateTime) :
    AccountEvent T → Option (AccountEvent T)
  | .emailFree r u => some (.emailFree r (PgUserRepository.roundUser round u))
  | .abandoned _ (.database _) => none
  | .conflicted _ _ => none
  | l => some l

/-! ### Lookups and insertions -/

namespace PgUserRepository
variable {T : CaseTable} {lower : String → String} {round : DateTime → DateTime}
  {rows rows' : UserRows} {users : Users} {u v : User} {clean login taken : String}

/-- For accounts with the names that registration allows, both repositories compare alike. -/
theorem matchesLogin_eq (hlower : ∀ s, lower (T.toLowercase s) = T.toLowercase s)
    (hu : WellNamed T u) :
    matchesLogin lower clean u = InMemoryUserRepository.matchesLogin T clean u := by
  have hname := hlower u.username
  have hemail := hlower u.email
  rw [hu.username_lower] at hname
  rw [hu.email_lower] at hemail
  rw [matchesLogin, InMemoryUserRepository.matchesLogin, hname, hemail, hu.username_lower,
    hu.email_lower]

/-- Over a map that is iterated in the order of the rows, both repositories find the same. -/
theorem findByUsernameOrEmail_eq (hlower : ∀ s, lower (T.toLowercase s) = T.toLowercase s)
    (h : Roster T users) (hvalues : users.values = rows)
    (htext : isText (cleanLogin T login) = true) :
    findByUsernameOrEmail T lower rows login =
      .ok (InMemoryUserRepository.findByUsernameOrEmail T users login) := by
  rw [findByUsernameOrEmail, if_pos htext, InMemoryUserRepository.findByUsernameOrEmail, hvalues]
  refine congrArg Except.ok (List.find?_congr fun u hu => ?_)
  exact matchesLogin_eq hlower (h.named u (hvalues ▸ hu))

theorem findById_eq (h : Roster T users) (hvalues : users.values = rows) (id : Uuid) :
    findById rows id = InMemoryUserRepository.findById users id := by
  rw [findById, InMemoryUserRepository.findById, h.keyed.lookup_eq_find?, hvalues]

/-- Both find some account or none. -/
theorem isSome_find (hlower : ∀ s, lower (T.toLowercase s) = T.toLowercase s)
    (h : Roster T users) (hrows : rows.Perm users.values) (login : String) :
    (rows.find? (matchesLogin lower (cleanLogin T login))).isSome =
      (InMemoryUserRepository.findByUsernameOrEmail T users login).isSome := by
  rw [InMemoryUserRepository.findByUsernameOrEmail, Bool.eq_iff_iff, List.find?_isSome,
    List.find?_isSome]
  constructor
  · rintro ⟨u, hu, hm⟩
    have hu := hrows.mem_iff.mp hu
    exact ⟨u, hu, matchesLogin_eq hlower (h.named u hu) ▸ hm⟩
  · rintro ⟨u, hu, hm⟩
    exact ⟨u, hrows.mem_iff.mpr hu, (matchesLogin_eq hlower (h.named u hu)).symm ▸ hm⟩

/-- A lookup answers as the one of the in-memory repository, unless the database refuses it. -/
theorem checkFree_cases (hlower : ∀ s, lower (T.toLowercase s) = T.toLowercase s)
    (h : Roster T users) (hrows : rows.Perm users.values) (login taken : String) :
    (∃ e, checkFree T lower rows login taken = .error (.database e)) ∨
      checkFree T lower rows login taken =
        if (InMemoryUserRepository.findByUsernameOrEmail T users login).isSome then
          .error (.badRequest taken)
        else .ok () := by
  unfold checkFree findByUsernameOrEmail
  split_ifs with htext hfound hfound
  · right
    rw [← isSome_find hlower h hrows] at hfound
    obtain ⟨u, hu⟩ := Option.isSome_iff_exists.mp hfound
    rw [hu]
  · right
    rw [← isSome_find hlower h hrows, Bool.not_eq_true, Option.isSome_eq_false_iff,
      Option.isNone_iff_eq_none] at hfound
    rw [hfound]
  · exact .inl ⟨_, rfl⟩
  · exact .inl ⟨_, rfl⟩

theorem createUser_ok (h : createUser round rows u = .ok (v, rows')) :
    v = roundUser round u ∧ rows' = rows ++ [roundUser round u] ∧
      ∀ w ∈ rows, w.id ≠ u.id ∧ w.username ≠ u.username ∧ w.email ≠ u.email := by
  unfold createUser at h
  split_ifs at h with hfits hany
  obtain ⟨rfl, rfl⟩ := Prod.mk.inj (Except.ok.inj h)
  refine ⟨rfl, rfl, fun w hw => ?_⟩
  simp only [List.any_eq_true, not_exists, not_and, collides, Bool.or_eq_true, decide_eq_true_eq,
    not_or] at hany
  obtain ⟨⟨hid, hname⟩, hemail⟩ := hany w hw
  exact ⟨hid, hname, hemail⟩

/-- Names that are stored in lower case collide in one repository exactly when they do in the
other. -/
theorem createUser_inMemory (h : Roster T users) (hrows : rows.Perm users.values)
    (hu : WellNamed T (roundUser round u)) (hc : createUser round rows u = .ok (v, rows')) :
    AuthService.createUser users v = .ok (v, users.insert v.id v) := by
  obtain ⟨rfl, -, hnew⟩ := createUser_ok hc
  have hfree : (users.values.any fun w =>
      InMemoryUserRepository.sameUsername w (roundUser round u) ||
        InMemoryUserRepository.sameEmail w (roundUser round u)) = false := by
    rw [List.any_eq_false]
    intro w hw
    obtain ⟨-, hname, hemail⟩ := hnew w (hrows.mem_iff.mpr hw)
    have hnamed := h.named w hw
    rw [Bool.or_eq_true, not_or]
    constructor
    · intro he
      exact hname (CaseTable.eq_of_eqIgnoreAsciiCase hnamed.username_lower hu.username_lower he)
    · intro he
      exact hemail (CaseTable.eq_of_eqIgnoreAsciiCase hnamed.email_lower hu.email_lower he)
  simp [AuthService.createUser, InMemoryUserRepository.createUser, hfree, Except.mapError]

/-- An account with rounded timestamps is the one that the clock would have given if it were as
coarse as the columns. -/
theorem newUser_rounded {r : Registration T} {d : Draw} (h : AuthService.newUser r d = .ok u) :
    AuthService.newUser r
        { d with createdAt := round d.createdAt, updatedAt := round d.updatedAt } =
      .ok (roundUser round u) := by
  unfold AuthService.newUser at h ⊢
  cases hd : d.hash with
  | error e => simp [hd] at h
  | ok hash =>
    simp only [hd, Except.ok.injEq] at h
    subst h
    rfl

end PgUserRepository

namespace AuthService
variable {T : CaseTable} {users : Users} {r : Registration T} {d : Draw} {e : ApiError}

theorem checkUsername_error (h : checkUsername T users r = .error e) :
    ∃ message, e = .badRequest message := by
  unfold checkUsername at h
  split_ifs at h
  exact ⟨_, (Except.error.inj h).symm⟩

theorem checkEmail_error (h : checkEmail T users r = .error e) :
    ∃ message, e = .badRequest message := by
  unfold checkEmail at h
  split_ifs at h
  exact ⟨_, (Except.error.inj h).symm⟩

theorem newUser_error (h : newUser r d = .error e) : ∃ message, e = .internal message := by
  unfold newUser at h
  cases hd : d.hash with
  | error message =>
    simp only [hd, Except.error.injEq] at h
    exact ⟨_, h.symm⟩
  | ok hash =>
    simp only [hd] at h
    cases h

end AuthService

/-! ### The simulation -/

namespace PgAccountState
open PgUserRepository (roundUser)
variable {T : CaseTable} {lower : String → String} {round : DateTime → DateTime}
  {s t : PgAccountState T} {s' : AccountState T} {l : AccountEvent T} {r : Registration T}

/-- The table holds the accounts of the map. Registrations that the database has refused are still
in flight over the map. -/
structure Refines (round : DateTime → DateTime) (s : PgAccountState T) (s' : AccountState T) :
    Prop where
  rows : s.rows.Perm s'.users.values
  lookups : s.lookups.Subperm s'.lookups
  creating : (s.creating.map (roundUser round)).Subperm s'.creating
  drawn_stored : ∀ u ∈ s'.users.values, u.id ∈ s.drawn
  drawn_creating : ∀ u ∈ s'.creating, u.id ∈ s.drawn
  invariant : s'.Invariant

variable (h : Refines round s s')
include h

theorem Refines.fresh {id : Uuid} (hid : id ∉ s.drawn) :
    Table.Fresh User.id s'.users s'.creating id := by
  constructor
  · by_contra hne
    obtain ⟨u, hu⟩ := Option.ne_none_iff_exists'.mp hne
    have hmem := h.drawn_stored u (Table.mem_values.mpr ⟨id, hu⟩)
    rw [h.invariant.roster.keyed id u hu] at hmem
    exact hid hmem
  · rintro u hu rfl
    exact hid (h.drawn_creating u hu)

theorem Refines.drop (p : PendingLookup T) :
    Refines round { s with lookups := s.lookups.erase p } s' :=
  ⟨h.rows, (List.erase_subperm p _).trans h.lookups, h.creating, h.drawn_stored, h.drawn_creating,
    h.invariant⟩

/-- A lookup that leaves the username free does so in both repositories, and so does one that does
not, unless the database refuses it. -/
theorem Refines.checkUsername (hlower : ∀ s, lower (T.toLowercase s) = T.toLowercase s)
    (r : Registration T) :
    (∃ e, PgUserRepository.checkUsername lower s.rows r = .error (.database e)) ∨
      PgUserRepository.checkUsername lower s.rows r =
        AuthService.checkUsername T s'.users r :=
  PgUserRepository.checkFree_cases hlower h.invariant.roster h.rows _ _

theorem Refines.checkEmail (hlower : ∀ s, lower (T.toLowercase s) = T.toLowercase s)
    (r : Registration T) :
    (∃ e, PgUserRepository.checkEmail lower s.rows r = .error (.database e)) ∨
      PgUserRepository.checkEmail lower s.rows r = AuthService.checkEmail T s'.users r :=
  PgUserRepository.checkFree_cases hlower h.invariant.roster h.rows _ _

omit h in
theorem stored_of_badRequest (round : DateTime → DateTime) (p : PendingLookup T) {e : ApiError}
    (he : ∃ message, e = .badRequest message) :
    (AccountEvent.abandoned p e).stored round = some (.abandoned p e) := by
  obtain ⟨message, rfl⟩ := he
  rfl

/-- A step of the in-memory system, and what it keeps. -/
theorem Refines.moved {t' : AccountState T} {l' : AccountEvent T}
    (hstep : AccountState.Step s' l' t')
    (hview : l.stored round = some l') (hrows : t.rows.Perm t'.users.values)
    (hlookups : t.lookups.Subperm t'.lookups)
    (hcreating : (t.creating.map (roundUser round)).Subperm t'.creating)
    (hstored : ∀ u ∈ t'.users.values, u.id ∈ t.drawn)
    (hdrawn : ∀ u ∈ t'.creating, u.id ∈ t.drawn) :
    (l.stored round = none ∧ Refines round t s') ∨
      ∃ l' t', AccountState.Step s' l' t' ∧ l.stored round = some l' ∧ Refines round t t' :=
  .inr ⟨l', t', hstep, hview, hrows, hlookups, hcreating, hstored, hdrawn,
    hstep.invariant h.invariant⟩

theorem Refines.step (hlower : ∀ s, lower (T.toLowercase s) = T.toLowercase s)
    (hstep : Step lower round s l t) :
    (l.stored round = none ∧ Refines round t s') ∨
      ∃ l' t', AccountState.Step s' l' t' ∧ l.stored round = some l' ∧
        Refines round t t' := by
  have ⟨hrows, hlookups, hcreating, hstored, hdrawn, hinv⟩ := h
  cases hstep with
  | rehashed hperm =>
    exact h.moved (.rehashed (.refl _)) rfl (hperm.symm.trans hrows) hlookups hcreating hstored
      hdrawn
  | refused hv => exact h.moved (.refused hv) rfl hrows hlookups hcreating hstored hdrawn
  | validated hv =>
    exact h.moved (.validated hv) rfl hrows ((List.subperm_cons _).mpr hlookups) hcreating hstored
      hdrawn
  | @usernameTaken r e hr hc =>
    rcases h.checkUsername hlower r with ⟨e', he⟩ | heq
    · obtain rfl := Except.error.inj (hc.symm.trans he)
      exact .inl ⟨rfl, h.drop _⟩
    · rw [heq] at hc
      have hview := stored_of_badRequest round (.username r) (AuthService.checkUsername_error hc)
      exact h.moved (.usernameTaken (hlookups.subset hr) hc) hview hrows (hlookups.erase _)
        hcreating hstored hdrawn
  | @usernameFree r hr hc =>
    rcases h.checkUsername hlower r with ⟨e, he⟩ | heq
    · cases hc.symm.trans he
    · rw [heq] at hc
      exact h.moved (.usernameFree (hlookups.subset hr) hc) rfl hrows
        ((List.subperm_cons _).mpr (hlookups.erase _)) hcreating hstored hdrawn
  | @emailTaken r e hr hc =>
    rcases h.checkEmail hlower r with ⟨e', he⟩ | heq
    · obtain rfl := Except.error.inj (hc.symm.trans he)
      exact .inl ⟨rfl, h.drop _⟩
    · rw [heq] at hc
      have hview := stored_of_badRequest round (.email r) (AuthService.checkEmail_error hc)
      exact h.moved (.emailTaken (hlookups.subset hr) hc) hview hrows (hlookups.erase _)
        hcreating hstored hdrawn
  | @hashFailed r d e hr hc hn =>
    rcases h.checkEmail hlower r with ⟨e', he⟩ | heq
    · cases hc.symm.trans he
    · rw [heq] at hc
      obtain ⟨message, rfl⟩ := AuthService.newUser_error hn
      exact h.moved (.hashFailed (hlookups.subset hr) hc hn) rfl hrows (hlookups.erase _) hcreating
        hstored hdrawn
  | @emailFree r d u hr hc hd hn =>
    rcases h.checkEmail hlower r with ⟨e', he⟩ | heq
    · cases hc.symm.trans he
    · rw [heq] at hc
      obtain ⟨hid, -, -⟩ := AuthService.newUser_ok hn
      refine h.moved (.emailFree
        (d := { d with createdAt := round d.createdAt, updatedAt := round d.updatedAt })
        (hlookups.subset hr) hc (h.fresh hd) (PgUserRepository.newUser_rounded hn)) rfl hrows
        (hlookups.erase _) ((List.subperm_cons _).mpr hcreating)
        (fun v hv => List.mem_cons_of_mem _ (hstored v hv)) ?_
      intro v hv
      rcases List.mem_cons.mp hv with rfl | hv
      · rw [← hid]
        exact List.mem_cons_self
      · exact List.mem_cons_of_mem _ (hdrawn v hv)
  | @created u v rows hu hc =>
    have hmem := hcreating.subset (List.mem_map_of_mem (f := roundUser round) hu)
    have hnew := PgUserRepository.createUser_inMemory hinv.roster hrows
      (hinv.creating_named _ hmem) hc
    obtain ⟨rfl, rfl, -⟩ := PgUserRepository.createUser_ok hc
    have hvalues := Table.values_insert_of_lookup (hinv.inbound.new _ hmem) (roundUser round u)
    refine h.moved (.created hmem hnew) rfl ?_ hlookups (subperm_map_erase hcreating hu) ?_
      fun w hw => hdrawn w (List.mem_of_mem_erase hw)
    · rw [hvalues]
      exact (List.perm_append_singleton _ _).trans (hrows.cons _)
    · intro w hw
      rw [hvalues] at hw
      rcases List.mem_cons.mp hw with rfl | hw
      · exact hdrawn _ hmem
      · exact hstored w hw
  | conflicted hu hc =>
    exact .inl ⟨rfl, hrows, hlookups,
      (List.erase_sublist.map (roundUser round)).subperm.trans hcreating, hstored, hdrawn, hinv⟩

omit h in
theorem simulation (hlower : ∀ s, lower (T.toLowercase s) = T.toLowercase s) :
    Simulation (pgAccountSystem T lower round) (accountSystem T) (AccountEvent.stored round) id
      (Refines round) where
  init := by
    rintro s rfl
    exact ⟨.initial, rfl, .refl _, .refl _,
      .refl _, by simp [AccountState.initial, Table.mem_values],
      by simp [AccountState.initial], AccountState.invariant_initial⟩
  step _ _ _ _ _ hstep hR := hR.step hlower hstep

end PgAccountState

/-- Whatever registrations run side by side over PostgreSQL, they do what they do over the in-memory
repository, but for those that the database refuses. Lookups find the same accounts, and no two
accounts go by one name. -/
theorem registrations_agree (T : CaseTable) (lower : String → String)
    (round : DateTime → DateTime) (hlower : ∀ s, lower (T.toLowercase s) = T.toLowercase s)
    (tr : List (Transition (PgAccountState T) (AccountEvent T))) (s : PgAccountState T)
    (h : (pgAccountSystem T lower round).Trace tr s) :
    (∃ tr' s' users, (accountSystem T).Trace tr' s' ∧
      labels tr' = (labels tr).filterMap (AccountEvent.stored round) ∧
      Table.Rehash s'.users users ∧
      (∀ id, PgUserRepository.findById s.rows id = InMemoryUserRepository.findById users id) ∧
      ∀ login, PgUserRepository.isText (cleanLogin T login) = true →
        PgUserRepository.findByUsernameOrEmail T lower s.rows login =
          .ok (InMemoryUserRepository.findByUsernameOrEmail T users login)) ∧
    ∀ t, ∀ u ∈ s.rows, ∀ v ∈ s.rows, Names t u → Names t v → u = v := by
  obtain ⟨tr', s', ht', hR, hlabels⟩ := (PgAccountState.simulation hlower).trace h
  have hroster := hR.invariant.roster
  constructor
  · obtain ⟨users, hrehash, hvalues⟩ := hroster.keyed.exists_rehash hR.rows
    have hroster' := hroster.rehash hrehash
    exact ⟨tr', s', users, ht', by simpa using hlabels, hrehash,
      PgUserRepository.findById_eq hroster' hvalues,
      fun login => PgUserRepository.findByUsernameOrEmail_eq hlower hroster' hvalues⟩
  · intro t u hu v hv
    exact hroster.names_unique (hR.rows.mem_iff.mp hu) (hR.rows.mem_iff.mp hv)

def sampleRegistration : Registration .ascii :=
  ⟨sampleAccount "bob", by decide +kernel, by decide +kernel, by decide +kernel⟩

/-- Bob registers over PostgreSQL. -/
theorem registrations_agree_sample : ∃ tr s,
    (pgAccountSystem .ascii CaseTable.ascii.toLowercase id).Trace tr s ∧
      s.rows = [sampleUser 1 "bob"] ∧
      ∃ tr' s' users, (accountSystem .ascii).Trace tr' s' ∧
        labels tr' = (labels tr).filterMap (AccountEvent.stored id) ∧
        Table.Rehash s'.users users ∧
        InMemoryUserRepository.findById users (.ofNat 1) = some (sampleUser 1 "bob") := by
  have h₀ : (pgAccountSystem .ascii CaseTable.ascii.toLowercase id).Trace []
      ⟨[], [], [], []⟩ :=
    ⟨_, rfl, .nil⟩
  have hvalid : AuthService.validate .ascii (sampleAccount "bob") = .ok sampleRegistration := by
    decide +kernel
  have hname : PgUserRepository.checkUsername CaseTable.ascii.toLowercase [] sampleRegistration =
      .ok () := by decide +kernel
  have hemail : PgUserRepository.checkEmail CaseTable.ascii.toLowercase [] sampleRegistration =
      .ok () := by decide +kernel
  have hnew : AuthService.newUser sampleRegistration (sampleDraw 1) = .ok (sampleUser 1 "bob") := by
    decide +kernel
  have hcreate : PgUserRepository.createUser id [] (sampleUser 1 "bob") =
      .ok (sampleUser 1 "bob", [sampleUser 1 "bob"]) := by decide +kernel
  have h₁ := h₀.snoc (PgAccountState.Step.validated hvalid)
  have h₂ := h₁.snoc (PgAccountState.Step.usernameFree List.mem_cons_self hname)
  have h₃ := h₂.snoc
    (PgAccountState.Step.emailFree List.mem_cons_self hemail List.not_mem_nil hnew)
  have h₄ := h₃.snoc (PgAccountState.Step.created List.mem_cons_self hcreate)
  obtain ⟨⟨tr', s', users, ht', hlabels, hrehash, hfind, -⟩, -⟩ :=
    registrations_agree .ascii CaseTable.ascii.toLowercase id CaseTable.toLowercase_idem _ _ h₄
  refine ⟨_, _, h₄, rfl, tr', s', users, ht', hlabels, hrehash, ?_⟩
  rw [← hfind]
  decide +kernel

end Hanbova
