import Hanbova.Accounts.Lineage
import Hanbova.Accounts.Passwords
import Hanbova.Accounts.PgSessions

/-! What the accounts and the tokens in PostgreSQL have behind them, in whatever order the steps of
their calls were taken and whichever of their statements have failed. -/
namespace Hanbova

open Library Library.Text Library.System
open SessionState (PasswordSet ResetAsked AsksFor Recorded)

variable {T : CaseTable} {env : AuthEnv}

namespace SessionEvent
variable {e : SessionEvent T} {es xs as bs : List (SessionEvent T)}

theorem visible_some {e' : SessionEvent T} (h : e.visible = some e') : e' = e := by
  unfold visible at h
  split at h
  · cases h
  · exact (Option.some.inj h).symm

/-- The events that show. -/
def visibles (es : List (SessionEvent T)) : List (SessionEvent T) := es.filterMap visible

theorem mem_of_visibles (h : e ∈ visibles es) : e ∈ es := by
  obtain ⟨e', he', hv⟩ := List.mem_filterMap.mp h
  rwa [visible_some hv]

theorem mem_visibles (h : e ∈ es) (hv : e.visible = some e) : e ∈ visibles es :=
  List.mem_filterMap.mpr ⟨e, h, hv⟩

theorem sublist_visibles (h : xs.Sublist es) (hv : visibles xs = xs) :
    xs.Sublist (visibles es) := by
  rw [← hv]
  exact h.filterMap visible

theorem visibles_split (hv : e.visible = some e) :
    visibles (as ++ e :: bs) = visibles as ++ e :: visibles bs := by
  rw [visibles, List.filterMap_append, List.filterMap_cons_some hv]
  rfl

theorem visible_of_creates {u : User} (h : e.creates = some u) : e.visible = some e := by
  cases e with
  | account ae =>
    cases ae with
    | created v => rfl
    | _ => cases h
  | registered p => rfl
  | _ => cases h

end SessionEvent

open SessionEvent (visibles)

section
variable {es : List (SessionEvent T)} {p q : PendingAuth} {u : User}

theorem Proven.visible (h : Proven env es p) : Proven env (visibles es) p := by
  rcases h with h | ⟨req, h, hrest⟩
  · exact .inl (SessionEvent.mem_visibles h rfl)
  · exact .inr ⟨req, SessionEvent.mem_visibles h rfl, hrest⟩

theorem Renews.visible (h : Renews env es q p) : Renews env (visibles es) q p := by
  obtain ⟨answer, req, now, r, hsteps, hrest⟩ := h
  exact ⟨answer, req, now, r, SessionEvent.sublist_visibles hsteps rfl, hrest⟩

theorem Descends.visible (h : Descends env es p) : Descends env (visibles es) p := by
  obtain ⟨root, hroot, hchain, hid⟩ := h
  have hle : Renews env es ≤ Renews env (visibles es) := fun _ _ hr => hr.visible
  exact ⟨root, hroot.visible, Relation.ReflTransGen.mono hle _ _ hchain, hid⟩

theorem SessionState.Recorded.visible {k : String} {rec : TokenRecord}
    (h : Recorded env es k rec) : Recorded env (visibles es) k rec := by
  obtain ⟨p, answer, hmem, hp, hrest⟩ := h
  exact ⟨p, answer, SessionEvent.mem_visibles hmem rfl, hp.visible, hrest⟩

theorem SessionState.ResetAsked.visible {r : PendingPassword} {asked : ForgotPasswordRequest}
    (h : ResetAsked env es r asked) : ResetAsked env (visibles es) r asked := by
  obtain ⟨p, answer, req, now, hsteps, hrest⟩ := h.steps
  exact ⟨p, answer, req, now, SessionEvent.sublist_visibles hsteps rfl, hrest⟩

theorem SessionState.PasswordSet.visible (h : PasswordSet T env es u) :
    PasswordSet T env (visibles es) u := by
  cases h with
  | @registered as bs e v hes hc hsame hhash hbs =>
    have hsplit : visibles es = visibles as ++ e :: visibles bs := by
      rw [hes, SessionEvent.visibles_split (SessionEvent.visible_of_creates hc)]
    exact .registered hsplit hc hsame hhash fun e he => hbs e (SessionEvent.mem_of_visibles he)
  | @reset as bs r now asked hes hid hhash hasked hasks hbs =>
    have hsplit : visibles es = visibles as ++ .passwordUpdated r now :: visibles bs := by
      rw [hes, SessionEvent.visibles_split rfl]
    exact .reset hsplit hid hhash hasked.visible hasks
      fun e he => hbs e (SessionEvent.mem_of_visibles he)

end

/-- In every run over PostgreSQL each password is the one that its user has registered with, or was
set by the last of the resets that were asked for under a name of this user and accepted in time;
and each stored refresh token goes back, through exchanges made in time, to a registration or to a
login with the password. Statements may fail at any time. -/
theorem rows_are_accounted_for (T : CaseTable) (lower : String → String) (env : AuthEnv)
    (round : DateTime → DateTime) (hlower : ∀ s, lower (T.toLowercase s) = T.toLowercase s)
    (hround : Coarsens round) (tr : List (Transition (PgSessionState T) (PgSessionEvent T)))
    (s : PgSessionState T) (h : (pgSessionSystem T lower env round).Trace tr s) :
    (∀ u ∈ s.accounts.rows,
      PasswordSet T env ((labels tr).filterMap (PgSessionEvent.asStored round)) u) ∧
    ∀ r ∈ s.refreshTokens,
      Recorded env ((labels tr).filterMap (PgSessionEvent.asStored round)) r.tokenHash r := by
  obtain ⟨tr', s', ht', hR, hlabels⟩ := (PgSessionState.simulation hlower hround).trace h
  rw [← hlabels]
  constructor
  · intro u hu
    obtain ⟨k, hk⟩ := Table.mem_values.mp (hR.accounts.rows.mem_iff.mp hu)
    exact (SessionState.passwordSet_of_trace ht' k u hk).visible
  · intro r hr
    have hl : s'.refreshTokens.lookup r.tokenHash = some r := by
      rw [hR.refreshTokens.lookup]
      refine find?_eq_some_of_unique hr (decide_eq_true rfl) fun r' hr' hk => ?_
      exact List.inj_on_of_nodup_map hR.refreshTokens.unique hr' hr (of_decide_eq_true hk)
    exact ((SessionState.lineage_of_trace ht').tokens _ r hl).visible

theorem rows_are_accounted_for_sample : ∃ tr,
    (pgSessionSystem .ascii CaseTable.ascii.toLowercase sampleEnv toMicros).Trace tr sampleCutOff ∧
      PasswordSet .ascii sampleEnv ((labels tr).filterMap (PgSessionEvent.asStored toMicros))
        (sampleUser 1 "bob") ∧
      Recorded sampleEnv ((labels tr).filterMap (PgSessionEvent.asStored toMicros)) (sampleDigest 0)
        (sampleTokenRecord 0 nextMonth (some .epoch)) := by
  obtain ⟨tr, ht, -⟩ := trace_sampleCutOff
  obtain ⟨hpasswords, htokens⟩ := rows_are_accounted_for .ascii CaseTable.ascii.toLowercase
    sampleEnv toMicros CaseTable.toLowercase_idem coarsens_toMicros tr sampleCutOff ht
  exact ⟨tr, ht, hpasswords _ List.mem_cons_self, htokens _ List.mem_cons_self⟩

end Hanbova
