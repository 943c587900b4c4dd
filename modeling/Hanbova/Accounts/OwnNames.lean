import Hanbova.Accounts.Ambiguity

/-! Whether the accounts of a store can be found by the names they were registered under. -/
namespace Hanbova

open Library Library.Text
open InMemoryUserRepository (Users cleanLogin matchesLogin findByUsernameOrEmail)
open AuthService (Registration Draw WellNamed cleanUsername cleanEmail)

inductive RegisterEvent
  | registered (req : RegisterRequest)
  | rehashed

inductive RegisterStep (T : CaseTable) : Users → RegisterEvent → Users → Prop
  | registered {users users' : Users} {req : RegisterRequest} {d : Draw} {u : User} :
      users.lookup d.id = none → AuthService.register T users req d = .ok (u, users') →
      RegisterStep T users (.registered req) users'
  | rehashed {users users' : Users} :
      Table.Rehash users users' → RegisterStep T users .rehashed users'

/-- Successful registrations, one after the other, from an empty user store on. -/
def registerSystem (T : CaseTable) : System Users RegisterEvent where
  init users := users = ∅
  step := RegisterStep T

/-- Every account is what a lookup finds under its username and under its email address. -/
def FoundByOwnNames (T : CaseTable) (users : Users) : Prop :=
  ∀ u ∈ users.values, findByUsernameOrEmail T users u.username = some u ∧
    findByUsernameOrEmail T users u.email = some u

/-- Blanks in front of the username, or at signs in front of the email address, are left over from
registration. A lookup takes them off, and what remains is not the other name of the account. -/
def Unfindable (T : CaseTable) (req : RegisterRequest) : Prop :=
  (StartsBlank (cleanUsername T req.username) ∧
      trimStartMatches '@' (trim (cleanUsername T req.username)) ≠ cleanEmail T req.email) ∨
    (AtSigned (cleanEmail T req.email) ∧
      trimStartMatches '@' (cleanEmail T req.email) ≠ cleanUsername T req.username)

variable {T : CaseTable} {users users' : Users} {req : RegisterRequest} {d : Draw} {u v : User}

/-! ### Registrations in sequence -/

theorem registered_of_trace {tr : List (Transition Users RegisterEvent)}
    (h : (registerSystem T).Trace tr users) : Registered T users := by
  refine h.reachable.induct (fun s hs => ?_) fun s l t _ ih hl => ?_
  · obtain rfl : s = ∅ := hs
    exact .empty
  · cases hl with
    | registered hd hr => exact ih.register hd hr
    | rehashed hr => exact ih.rehash hr

/-- The names of a new account match none of the accounts before it. -/
theorem AuthService.register_unmatched (h : AuthService.register T users req d = .ok (u, users')) :
    ∀ v ∈ users.values, matchesLogin T (cleanLogin T u.username) v = false ∧
      matchesLogin T (cleanLogin T u.email) v = false := by
  obtain ⟨r, -, hun, he, hn, -⟩ := AuthService.register_ok h
  obtain ⟨-, hname, hemail⟩ := AuthService.newUser_ok hn
  have hfu : findByUsernameOrEmail T users r.username = none := by
    unfold AuthService.checkUsername at hun
    split_ifs at hun with hsome
    simpa using hsome
  have hfe : findByUsernameOrEmail T users r.email = none := by
    unfold AuthService.checkEmail at he
    split_ifs at he with hsome
    simpa using hsome
  intro v hv
  rw [hname, hemail]
  exact ⟨InMemoryUserRepository.findByUsernameOrEmail_none.mp hfu v hv,
    InMemoryUserRepository.findByUsernameOrEmail_none.mp hfe v hv⟩

/-- What a registration adds to the store. -/
theorem AuthService.register_adds (h : AuthService.register T users req d = .ok (u, users')) :
    Table.SetAt users u.id u users' ∧ WellNamed T u ∧ EndTrimmed u.username ∧
      u.username = cleanUsername T req.username ∧ u.email = cleanEmail T req.email := by
  obtain ⟨r, hv, -, -, hn, hc⟩ := AuthService.register_ok h
  obtain ⟨-, hname, hemail⟩ := AuthService.newUser_ok hn
  obtain rfl : r.request = req := AuthService.validate_ok hv
  refine ⟨(InMemoryUserRepository.createUser_ok (AuthService.createUser_ok hc)).2.1,
    AuthService.newUser_wellNamed hn, ?_, hname, hemail⟩
  rw [hname]
  exact CaseTable.endTrimmed_toLowercase ((endTrimmed_trim _).trimStartMatches '@')

/-- Registrations in sequence never give one account the email address of another for a username. -/
theorem Registered.crossFree (h : Registered T users) : CrossFree users := by
  induction h with
  | empty => simp [CrossFree, Table.mem_values]
  | rehash _ hr ih =>
    intro u hu v hv
    exact ih u (hr.mem_values.mp hu) v (hr.mem_values.mp hv)
  | @register users users' req d u hreg _ hr ih =>
    obtain ⟨hset, hu, -, -, -⟩ := AuthService.register_adds hr
    have hnone := AuthService.register_unmatched hr
    have hnamed := hreg.roster.named
    intro v hv w hw he
    rcases hset.mem_values hv with rfl | hvold <;> rcases hset.mem_values hw with rfl | hwold
    · rfl
    · have hclean : cleanLogin T v.username = v.username := by
        rw [he]
        exact cleanLogin_shared hu (hnamed w hwold) he
      have hm := (hnone w hwold).1
      rw [hclean, Bool.eq_false_iff, ne_eq, matchesLogin_iff (hnamed w hwold)] at hm
      exact absurd (.inr he.symm) hm
    · have hm := (hnone v hvold).2
      rw [cleanLogin_shared (hnamed v hvold) hu he, Bool.eq_false_iff, ne_eq,
        matchesLogin_iff (hnamed v hvold)] at hm
      exact absurd (.inl he) hm
    · exact ih v hvold w hwold he

/-! ### Names that a lookup takes for the account -/

def AnswersToOwnNames (T : CaseTable) (u : User) : Prop :=
  matchesLogin T (cleanLogin T u.username) u = true ∧
  matchesLogin T (cleanLogin T u.email) u = true

theorem foundByOwnNames_iff (h : Registered T users) :
    FoundByOwnNames T users ↔ ∀ u ∈ users.values, AnswersToOwnNames T u := by
  constructor
  · intro hfound u hu
    obtain ⟨hname, hemail⟩ := hfound u hu
    exact ⟨(InMemoryUserRepository.findByUsernameOrEmail_some hname).2,
      (InMemoryUserRepository.findByUsernameOrEmail_some hemail).2⟩
  · intro hanswers u hu
    obtain ⟨hname, hemail⟩ := hanswers u hu
    exact ⟨find_eq_some hu hname fun v hv hm =>
        h.roster.unique_of_crossFree h.crossFree _ hv hu hm hname,
      find_eq_some hu hemail fun v hv hm =>
        h.roster.unique_of_crossFree h.crossFree _ hv hu hm hemail⟩

theorem answers_username_iff (hu : WellNamed T u) (ht : EndTrimmed u.username) :
    matchesLogin T (cleanLogin T u.username) u = true ↔
      (StartsBlank u.username → trimStartMatches '@' (trim u.username) = u.email) := by
  rw [matchesLogin_iff hu, cleanLogin_of_lower hu.username_lower]
  by_cases hb : StartsBlank u.username
  · obtain ⟨w, -, he, hne⟩ := exists_separators ht
    have hlt := len_lt_of_append he (hne hb)
    have hself : u.username ≠ trimStartMatches '@' (trim u.username) := by
      intro h
      rw [← h] at hlt
      exact lt_irrefl _ hlt
    simp [hb, hself, eq_comm]
  · have hself : trimStartMatches '@' (trim u.username) = u.username := by
      rw [ht.trim_eq_self hb, trimStartMatches_eq_self hu.username_unsigned]
    simp [hb, hself]

theorem answers_email_iff (hu : WellNamed T u) :
    matchesLogin T (cleanLogin T u.email) u = true ↔
      (AtSigned u.email → trimStartMatches '@' u.email = u.username) := by
  rw [matchesLogin_iff hu, cleanLogin_of_lower hu.email_lower, hu.email_trimmed]
  by_cases ha : AtSigned u.email
  · have hself : u.email ≠ trimStartMatches '@' u.email := by
      intro h
      exact not_atSigned_trimStartMatches _ (h ▸ ha)
    simp [ha, hself, eq_comm]
  · simp [ha, trimStartMatches_eq_self ha]

/-- Whether an account answers to its names is settled by the request that it comes from. -/
theorem AuthService.register_answers_iff
    (h : AuthService.register T users req d = .ok (u, users')) :
    AnswersToOwnNames T u ↔ ¬ Unfindable T req := by
  obtain ⟨-, hu, ht, hname, hemail⟩ := AuthService.register_adds h
  unfold AnswersToOwnNames Unfindable
  rw [answers_username_iff hu ht, answers_email_iff hu, ← hname, ← hemail, not_or,
    not_and_not_right, not_and_not_right]

/-! ### Runs -/

/-- The step registers an account that cannot be found. -/
def RegistersUnfindable (T : CaseTable) (x : Transition Users RegisterEvent) : Prop :=
  ∃ req, x.label = .registered req ∧ Unfindable T req

theorem answers_of_trace {tr : List (Transition Users RegisterEvent)}
    (h : (registerSystem T).Trace tr users) (hx : ∀ x ∈ tr, ¬ RegistersUnfindable T x) :
    ∀ u ∈ users.values, AnswersToOwnNames T u := by
  revert hx
  refine h.induct (P := fun tr users => (∀ x ∈ tr, ¬ RegistersUnfindable T x) →
    ∀ u ∈ users.values, AnswersToOwnNames T u) ?_ ?_
  · intro s hs _ u hu
    obtain rfl : s = ∅ := hs
    simp [Table.mem_values] at hu
  · intro tr s e t _ ih hl hx
    have hs := ih fun x hmem => hx x (List.mem_append_left _ hmem)
    have hlast : ¬ RegistersUnfindable T ⟨s, e, t⟩ := hx _ (by simp)
    intro v hv
    cases hl with
    | rehashed hr => exact hs v (hr.mem_values.mp hv)
    | registered _ hr =>
      rcases (AuthService.register_adds hr).1.mem_values hv with rfl | hv
      · exact (AuthService.register_answers_iff hr).mpr fun hun => hlast ⟨_, rfl, hun⟩
      · exact hs v hv

theorem found_by_own_names_iff {tr : List (Transition Users RegisterEvent)}
    (h : (registerSystem T).Trace tr users) :
    (registerSystem T).Throughout tr (fun _ users => FoundByOwnNames T users) ↔
      ∀ x ∈ tr, ¬ RegistersUnfindable T x := by
  apply h.throughout_iff
  · rintro tr₁ ⟨pre, e, post⟩ _ hpre hl ⟨req, rfl, hun⟩ hfound
    have hpost := registered_of_trace (hpre.snoc hl)
    cases hl with
    | @registered _ _ _ u _ hr =>
      have hset := (AuthService.register_adds hr).1
      have hu : u ∈ post.values := Table.mem_values.mpr ⟨u.id, hset.lookup_self⟩
      have hanswers := (foundByOwnNames_iff hpost).mp hfound u hu
      exact (AuthService.register_answers_iff hr).mp hanswers hun
  · intro tr₁ s₁ _ ht hx
    exact (foundByOwnNames_iff (registered_of_trace ht)).mpr (answers_of_trace ht hx)

theorem found_by_own_names_sample :
    ∃ tr, (registerSystem .ascii).Trace tr sampleUsers ∧
      ((registerSystem .ascii).Throughout tr (fun _ users => FoundByOwnNames .ascii users) ↔
        ∀ x ∈ tr, ¬ RegistersUnfindable .ascii x) := by
  have hbob : RegisterStep .ascii ∅ (.registered (sampleAccount "bob"))
      (Table.insert ∅ (.ofNat 1) (sampleUser 1 "bob")) :=
    @RegisterStep.registered .ascii _ _ _ (sampleDraw 1) (sampleUser 1 "bob") rfl
      (by decide +kernel)
  have hcarol : RegisterStep .ascii (Table.insert ∅ (.ofNat 1) (sampleUser 1 "bob"))
      (.registered (sampleAccount "carol")) sampleUsers :=
    @RegisterStep.registered .ascii _ _ _ (sampleDraw 2) (sampleUser 2 "carol")
      (by decide +kernel) (by decide +kernel)
  have ht : (registerSystem .ascii).Trace _ sampleUsers :=
    ⟨∅, rfl, (System.Run.single (T := registerSystem .ascii) hbob).snoc hcarol⟩
  exact ⟨_, ht, found_by_own_names_iff ht⟩

/-- The account that Bob gets with an email address in front of which he has typed an at sign. -/
def sampleAtSigned : User := { sampleUser 1 "bob" with email := "@bob@example.com" }

theorem not_found_by_own_names :
    ∃ tr users, (registerSystem .ascii).Trace tr users ∧ ¬ FoundByOwnNames .ascii users := by
  have hbob : RegisterStep .ascii ∅
      (.registered { sampleAccount "bob" with email := "@bob@example.com" })
      (Table.insert ∅ (.ofNat 1) sampleAtSigned) :=
    @RegisterStep.registered .ascii _ _ _ (sampleDraw 1) sampleAtSigned rfl (by decide +kernel)
  refine ⟨_, _, ⟨∅, rfl, System.Run.single (T := registerSystem .ascii) hbob⟩, ?_⟩
  intro hfound
  have hmem : sampleAtSigned ∈ (Table.insert (∅ : Users) (.ofNat 1) sampleAtSigned).values :=
    Table.mem_values.mpr ⟨.ofNat 1, by decide +kernel⟩
  have hemail := (hfound sampleAtSigned hmem).2
  revert hemail
  decide +kernel

end Hanbova
