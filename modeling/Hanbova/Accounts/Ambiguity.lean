import Hanbova.Accounts.Lookup
import Hanbova.Library.History

/-! Whether a login can name two accounts, one by its username and one by its email address. -/
namespace Hanbova

open Library Library.Text
open InMemoryUserRepository (Users cleanLogin matchesLogin findByUsernameOrEmail)
open AuthService (Registration Draw WellNamed)

/-- Every login matches at most one account, so its lookup finds the same one in any iteration
order. -/
structure Unambiguous (T : CaseTable) (users : Users) : Prop where
  unique : ∀ login, ∀ u ∈ users.values, ∀ v ∈ users.values,
    matchesLogin T (cleanLogin T login) u = true →
    matchesLogin T (cleanLogin T login) v = true →
    u = v
  stable : ∀ login users', Table.Rehash users users' →
    findByUsernameOrEmail T users' login = findByUsernameOrEmail T users login

/-- No account has the email address of another for a username. -/
def CrossFree (users : Users) : Prop :=
  ∀ u ∈ users.values, ∀ v ∈ users.values, u.username = v.email → u = v

/-- A user is created whose username is the email address of a stored user, or whose email address
is the username of one. -/
def CreatesCrossed {T : CaseTable} (x : Transition (AccountState T) (AccountEvent T)) : Prop :=
  ∃ u, x.label = .created u ∧
    ∃ v ∈ x.pre.users.values, v.email = u.username ∨ v.username = u.email

variable {T : CaseTable} {users : Users}

theorem Roster.unique_of_crossFree (h : Roster T users) (hc : CrossFree users) (login : String)
    {u v : User} (hu : u ∈ users.values) (hv : v ∈ users.values)
    (hmu : matchesLogin T (cleanLogin T login) u = true)
    (hmv : matchesLogin T (cleanLogin T login) v = true) : u = v := by
  rcases (matchesLogin_iff (h.named u hu)).mp hmu with hun | hue
  · rcases (matchesLogin_iff (h.named v hv)).mp hmv with hvn | hve
    · apply h.username_unique u hu v hv
      rw [InMemoryUserRepository.sameUsername, hun, hvn]
      exact eqIgnoreAsciiCase_refl _
    · exact hc u hu v hv (hun.trans hve.symm)
  · rcases (matchesLogin_iff (h.named v hv)).mp hmv with hvn | hve
    · exact (hc v hv u hu (hvn.trans hue.symm)).symm
    · apply h.email_unique u hu v hv
      rw [InMemoryUserRepository.sameEmail, hue, hve]
      exact eqIgnoreAsciiCase_refl _

theorem Roster.unambiguous (h : Roster T users) (hc : CrossFree users) : Unambiguous T users where
  unique login _ hu _ hv := h.unique_of_crossFree hc login hu hv
  stable login users' hr := by
    cases hf : findByUsernameOrEmail T users login with
    | none =>
      rw [InMemoryUserRepository.findByUsernameOrEmail_none] at hf ⊢
      intro u hu
      exact hf u (hr.mem_values.mp hu)
    | some u =>
      obtain ⟨hu, hm⟩ := InMemoryUserRepository.findByUsernameOrEmail_some hf
      apply find_eq_some (hr.mem_values.mpr hu) hm
      intro v hv hmv
      exact h.unique_of_crossFree hc login (hr.mem_values.mp hv) hu hmv hm

/-- An email address that is also a username is its own normal form as a login. -/
theorem cleanLogin_shared {u v : User} (hu : WellNamed T u) (hv : WellNamed T v)
    (h : u.username = v.email) : cleanLogin T v.email = v.email := by
  apply cleanLogin_eq_self hv.email_lower hv.email_trimmed
  rw [← h]
  exact hu.username_unsigned

/-- A login that is the username of one account and the email address of another names both. -/
theorem Roster.not_unambiguous (h : Roster T users) {u v : User} (hu : u ∈ users.values)
    (hv : v ∈ users.values) (hne : u ≠ v) (he : u.username = v.email) :
    ¬ Unambiguous T users := by
  have hnu := h.named u hu
  have hnv := h.named v hv
  intro hunique
  apply hne
  apply hunique.unique v.email u hu v hv
  · rw [cleanLogin_shared hnu hnv he]
    exact (matchesLogin_iff hnu).mpr (.inl he)
  · rw [cleanLogin_shared hnu hnv he]
    exact (matchesLogin_iff hnv).mpr (.inr rfl)

namespace AccountState

theorem crossFree_of_trace {tr : List (Transition (AccountState T) (AccountEvent T))}
    {s : AccountState T} (h : (accountSystem T).Trace tr s)
    (hx : ∀ x ∈ tr, ¬ CreatesCrossed x) :
    CrossFree s.users := by
  revert hx
  refine h.induct (P := fun tr s => (∀ x ∈ tr, ¬ CreatesCrossed x) → CrossFree s.users) ?_ ?_
  · intro s hs _ u hu
    obtain rfl : s = .initial := hs
    simp [initial, Table.mem_values] at hu
  · intro tr s e t _ ih hl hx
    have hs := ih fun x hmem => hx x (List.mem_append_left _ hmem)
    have hlast : ¬ CreatesCrossed ⟨s, e, t⟩ := hx _ (by simp)
    cases hl with
    | rehashed hr =>
      intro u hu v hv
      exact hs u (hr.mem_values.mp hu) v (hr.mem_values.mp hv)
    | @created u users hu hc =>
      have hm := (InMemoryUserRepository.createUser_ok (AuthService.createUser_ok hc)).2.1
      intro v hv w hw he
      rcases hm.mem_values hv with hv | hv
      · rcases hm.mem_values hw with hw | hw
        · rw [hv, hw]
        · exact absurd ⟨u, rfl, w, hw, .inl (hv ▸ he.symm)⟩ hlast
      · rcases hm.mem_values hw with hw | hw
        · exact absurd ⟨u, rfl, v, hv, .inr (hw ▸ he)⟩ hlast
        · exact hs v hv w hw he
    | _ => exact hs

/-- A crossed creation leaves two accounts under one login. -/
theorem not_unambiguous_of_crossed {x : Transition (AccountState T) (AccountEvent T)}
    (hr : (accountSystem T).Reachable x.pre) (hl : Step x.pre x.label x.post)
    (hx : CreatesCrossed x) : ¬ Unambiguous T x.post.users := by
  obtain ⟨pre, e, post⟩ := x
  obtain ⟨u, rfl, v, hv, hcross⟩ := hx
  simp only at hr hl hv ⊢
  have hpre := invariant_of_reachable hr
  have hpost := (Step.invariant hl hpre).roster
  cases hl with
  | @created u users hu hc =>
    have hm := (InMemoryUserRepository.createUser_ok (AuthService.createUser_ok hc)).2.1
    have hnew : pre.users.lookup u.id = none := hpre.inbound.new u hu
    have hold : pre.users.lookup v.id = some v := hpre.roster.keyed.lookup hv
    have hne : v ≠ u := by
      intro he
      rw [he, hnew] at hold
      cases hold
    have hmu : u ∈ users.values := Table.mem_values.mpr ⟨u.id, hm.lookup_self⟩
    have hmv : v ∈ users.values := by
      refine Table.mem_values.mpr ⟨v.id, ?_⟩
      rw [hm.lookup_ne, hold]
      intro he
      rw [he, hnew] at hold
      cases hold
    rcases hcross with he | he
    · exact hpost.not_unambiguous hmu hmv hne.symm he.symm
    · exact hpost.not_unambiguous hmv hmu hne he

end AccountState

open AccountState in
/-- In every state of a run logins are unambiguous if and only if no step of the run creates a
user whose username is a stored email address or whose email address is a stored username. -/
theorem unambiguous_logins_iff {tr : List (Transition (AccountState T) (AccountEvent T))}
    {s : AccountState T} (h : (accountSystem T).Trace tr s) :
    (accountSystem T).Throughout tr (fun _ s => Unambiguous T s.users) ↔
      ∀ x ∈ tr, ¬ CreatesCrossed x := by
  apply h.throughout_iff
  · intro tr₁ x _ hpre hl hcross
    exact not_unambiguous_of_crossed hpre.reachable hl hcross
  · intro tr₁ s₁ _ ht hx
    have hroster := (invariant_of_reachable ht.reachable).roster
    exact hroster.unambiguous (crossFree_of_trace ht hx)

theorem unambiguous_logins_sample :
    ∃ (tr : List (Transition (AccountState .ascii) (AccountEvent .ascii)))
      (s : AccountState .ascii), (accountSystem .ascii).Trace tr s ∧ s.users = sampleUsers ∧
      ((accountSystem .ascii).Throughout tr (fun _ s => Unambiguous .ascii s.users) ↔
        ∀ x ∈ tr, ¬ CreatesCrossed x) := by
  obtain ⟨tr, ht⟩ := reachable_sampleUsers
  exact ⟨tr, _, ht, rfl, unambiguous_logins_iff ht⟩

/-- Bob registers Carol's email address for a username. -/
def sampleImpostor : User := { sampleUser 1 "bob" with username := "carol@example.com" }

open AccountState in
/-- Both registrations look up their names before either user is created. -/
theorem not_unambiguous_logins :
    ∃ (tr : List (Transition (AccountState .ascii) (AccountEvent .ascii)))
      (s : AccountState .ascii), (accountSystem .ascii).Trace tr s ∧
      ¬ Unambiguous .ascii s.users := by
  let bob : Registration .ascii :=
    ⟨{ sampleAccount "bob" with username := "carol@example.com" }, by decide +kernel,
      by decide +kernel, by decide +kernel⟩
  let carol : Registration .ascii :=
    ⟨sampleAccount "carol", by decide +kernel, by decide +kernel, by decide +kernel⟩
  have h₁ := System.Run.single (T := accountSystem .ascii)
    (@Step.validated .ascii .initial bob.request bob (by decide +kernel))
  have h₂ := h₁.snoc (Step.usernameFree List.mem_cons_self (by decide +kernel))
  have h₃ := h₂.snoc (@Step.emailFree .ascii _ bob (sampleDraw 1) sampleImpostor
    (by decide +kernel) (by decide +kernel) ⟨rfl, by simp [initial]⟩ (by decide +kernel))
  have h₄ := h₃.snoc (@Step.validated .ascii _ carol.request carol (by decide +kernel))
  have h₅ := h₄.snoc (Step.usernameFree List.mem_cons_self (by decide +kernel))
  have h₆ := h₅.snoc (@Step.emailFree .ascii _ carol (sampleDraw 2) (sampleUser 2 "carol")
    (by decide +kernel) (by decide +kernel) ⟨rfl, by decide +kernel⟩ (by decide +kernel))
  have h₇ := h₆.snoc (@Step.created .ascii _ sampleImpostor _ (by decide +kernel) rfl)
  have h₈ := h₇.snoc (@Step.created .ascii _ (sampleUser 2 "carol") _ (by decide +kernel) rfl)
  have ht : (accountSystem .ascii).Trace _ _ := ⟨_, rfl, h₈⟩
  refine ⟨_, _, ht, (invariant_of_reachable ht.reachable).roster.not_unambiguous
    (u := sampleImpostor) (v := sampleUser 2 "carol") ?_ ?_ (by decide +kernel) rfl⟩
  · exact Table.mem_values.mpr ⟨.ofNat 1, by decide +kernel⟩
  · exact Table.mem_values.mpr ⟨.ofNat 2, by decide +kernel⟩

end Hanbova
