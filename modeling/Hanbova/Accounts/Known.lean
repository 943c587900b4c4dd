import Hanbova.Accounts.Sessions

/-! Users stay, and whoever resets a password is a stored user. -/
namespace Hanbova

open Library Library.Text

namespace SessionState
variable {T : CaseTable} {env : AuthEnv} {s t : SessionState T} {e : SessionEvent T}

def Known (s : SessionState T) (u : Uuid) : Prop := s.accounts.users.lookup u ≠ none

theorem Step.inbound (h : Step env s e t)
    (hs : Table.Inbound User.id s.accounts.users s.accounts.creating) :
    Table.Inbound User.id t.accounts.users t.accounts.creating := by
  cases h with
  | account hl => exact hl.inbound hs
  | registered hl _ _ => exact hl.inbound hs
  | passwordUpdated => exact InMemoryUserRepository.inbound_updatePasswordHash hs _ _ _
  | _ => exact hs

theorem inbound_of_reachable (h : (sessionSystem T env).Reachable s) :
    Table.Inbound User.id s.accounts.users s.accounts.creating :=
  h.induct (P := fun s => Table.Inbound User.id s.accounts.users s.accounts.creating)
    (fun _ hi => hi ▸ Table.inbound_empty _) fun _ _ _ _ hs hl => Step.inbound hl hs

theorem known_of_keeps {accounts : AccountState T} {ae : AccountEvent T} {u : Uuid}
    (h : AccountState.Step s.accounts ae accounts)
    (hs : Table.Inbound User.id s.accounts.users s.accounts.creating) (hu : s.Known u) :
    accounts.users.lookup u ≠ none := by
  obtain ⟨user, hl⟩ := Option.ne_none_iff_exists'.mp hu
  obtain ⟨user', hl', -⟩ := h.keeps hs u user hl
  rw [hl']
  exact Option.some_ne_none _

/-- No step removes a user. -/
theorem Step.known (h : Step env s e t)
    (hs : Table.Inbound User.id s.accounts.users s.accounts.creating) {u : Uuid} (hu : s.Known u) :
    t.Known u := by
  cases h with
  | account hl => exact known_of_keeps hl hs hu
  | registered hl _ _ => exact known_of_keeps hl hs hu
  | passwordUpdated => exact InMemoryUserRepository.lookup_updatePasswordHash_ne_none hu _ _ _
  | _ => exact hu

/-- Whoever a reset is about is a stored user. -/
structure ResetsKnown (s : SessionState T) : Prop where
  forgetting : ∀ p ∈ s.forgetting, s.Known p.userId
  tokens : ∀ h r, s.resetTokens.lookup h = some r → s.Known r.userId
  resetting : ∀ r ∈ s.resetting, s.Known r.userId
  revoking : ∀ r ∈ s.revoking, s.Known r.userId

theorem known_of_accepted (h : s.ResetsKnown) {k : String} {now : DateTime} {u : Uuid}
    {resetTokens : InMemoryUserRepository.Tokens}
    (hv : InMemoryUserRepository.validateAndEnd s.resetTokens k now = (some u, resetTokens)) :
    s.Known u ∧ ∀ k' r, resetTokens.lookup k' = some r → s.Known r.userId := by
  obtain ⟨r, hr, -, -, rfl, hm⟩ := InMemoryUserRepository.validateAndEnd_some hv
  have hu := h.tokens k r hr
  refine ⟨hu, fun k' r' hr' => ?_⟩
  rw [hm k'] at hr'
  split_ifs at hr'
  · obtain rfl := Option.some.inj hr'
    exact hu
  · exact h.tokens k' r' hr'

theorem Step.resetsKnown (h : Step env s e t)
    (hi : Table.Inbound User.id s.accounts.users s.accounts.creating) (hs : s.ResetsKnown) :
    t.ResetsKnown := by
  have hknown : ∀ u, s.Known u → t.Known u := fun u hu => h.known hi hu
  cases h with
  | resetDrawn hp _ =>
    obtain ⟨-, -, user, hu, hid⟩ := AuthService.forgotPassword_ok hp
    refine ⟨fun q hq => ?_, hs.tokens, hs.resetting, hs.revoking⟩
    rcases List.mem_cons.mp hq with rfl | hq
    · show s.accounts.users.lookup q.userId ≠ none
      rw [← hid, hi.keyed.lookup hu]
      exact Option.some_ne_none _
    · exact hs.forgetting q hq
  | @resetStored p d answer resetTokens hp hst =>
    obtain ⟨-, rfl⟩ := Prod.mk.inj hst
    refine ⟨fun q hq => hs.forgetting q (List.mem_of_mem_erase hq), fun k r hr => ?_,
      hs.resetting, hs.revoking⟩
    rw [InMemoryUserRepository.storePasswordResetToken,
      InMemoryUserRepository.setAt_storeToken _ _ _ _ _ k] at hr
    split_ifs at hr
    · obtain rfl := Option.some.inj hr
      exact hs.forgetting p hp
    · exact hs.tokens k r hr
  | resetRefused hx =>
    obtain rfl := AuthService.consumeResetToken_error hx
    exact hs
  | resetAccepted hx hh =>
    obtain ⟨hu, htokens⟩ := known_of_accepted hs (AuthService.consumeResetToken_ok hx).2
    refine ⟨hs.forgetting, htokens, fun r hr => ?_, hs.revoking⟩
    rcases List.mem_cons.mp hr with rfl | hr
    · rw [(AuthService.hashNewPassword_ok hh).2]
      exact hu
    · exact hs.resetting r hr
  | resetUnhashed hx _ =>
    obtain ⟨-, htokens⟩ := known_of_accepted hs (AuthService.consumeResetToken_ok hx).2
    exact ⟨hs.forgetting, htokens, hs.resetting, hs.revoking⟩
  | passwordUpdated now hr =>
    refine ⟨fun p hp => hknown _ (hs.forgetting p hp), fun k r hr => hknown _ (hs.tokens k r hr),
      fun q hq => hknown _ (hs.resetting q (List.mem_of_mem_erase hq)), fun q hq => ?_⟩
    rcases List.mem_cons.mp hq with rfl | hq
    · exact hknown _ (hs.resetting _ hr)
    · exact hknown _ (hs.revoking q hq)
  | sessionsRevoked now hr =>
    exact ⟨hs.forgetting, hs.tokens, hs.resetting,
      fun q hq => hs.revoking q (List.mem_of_mem_erase hq)⟩
  | _ =>
    exact ⟨fun p hp => hknown _ (hs.forgetting p hp), fun k r hr => hknown _ (hs.tokens k r hr),
      fun r hr => hknown _ (hs.resetting r hr), fun r hr => hknown _ (hs.revoking r hr)⟩

theorem resetsKnown_initial : ResetsKnown (T := T) .initial where
  forgetting := by simp [initial]
  tokens _ _ h := by cases h
  resetting := by simp [initial]
  revoking := by simp [initial]

theorem resetsKnown_of_reachable (h : (sessionSystem T env).Reachable s) : s.ResetsKnown :=
  h.induct (fun _ hi => hi ▸ resetsKnown_initial)
    fun _ _ _ hr hs hl => Step.resetsKnown hl (inbound_of_reachable hr) hs

end SessionState
end Hanbova
