import Hanbova.Api.PgServer

/-! Whose payments and messages the tables hold: those of the rows of `users`, whichever statements
have failed. -/
namespace Hanbova

open Library Library.Text Library.System
open InMemoryUserRepository (Users)
open PgUserRepository (UserRows)

/-- There is a row of `users` with this identifier and this name. -/
def PgUserRepository.Named (rows : UserRows) (id : Uuid) (username : String) : Prop :=
  ∃ u ∈ rows, u.id = id ∧ u.username = username

section
variable {T : CaseTable} {D : Database} {es : List (ServerEvent T)}

/-- What issues a token shows. -/
theorem IssuedAt.of_visible {p : PendingAuth} {signedAt : DateTime}
    (h : IssuedAt (es.filterMap (ServerEvent.visible D)) p signedAt) : IssuedAt es p signedAt := by
  obtain ⟨e, he, hp⟩ := h
  obtain ⟨x, hx, hv⟩ := List.mem_filterMap.mp he
  cases x with
  | session es' signedAt' =>
    obtain ⟨e', hv', heq⟩ := Option.map_eq_some_iff.mp hv
    obtain ⟨rfl, rfl⟩ := ServerEvent.session.inj heq
    exact ⟨_, SessionEvent.visible_some hv' ▸ hx, hp⟩
  | _ => cases hv

theorem Unforged.of_visible (h : Unforged (es.filterMap (ServerEvent.visible D))) :
    Unforged es := by
  intro as bs cr authUser call he
  have hsplit : es.filterMap (ServerEvent.visible D) =
      as.filterMap (ServerEvent.visible D) ++ .request cr authUser (call.rounded D) ::
        bs.filterMap (ServerEvent.visible D) := by
    rw [he, List.filterMap_append]
    rfl
  obtain ⟨p, signedAt, hp, ht⟩ := h _ _ cr authUser _ hsplit
  exact ⟨p, signedAt, hp.of_visible, ht⟩

end

theorem Authentic.named {rows : UserRows} {users : Users} (h : rows.Perm users.values)
    (hkeyed : Table.Keyed User.id users) {authUser : AuthUser} (ha : Authentic users authUser) :
    PgUserRepository.Named rows authUser.userId authUser.username := by
  obtain ⟨u, hu, hname⟩ := ha
  have hmem : u ∈ users.values := Table.mem_values.mpr ⟨_, hu⟩
  exact ⟨u, h.mem_iff.mpr hmem, hkeyed _ _ hu, hname⟩

/-- In every run over PostgreSQL that nobody has forged a token for, the sender of each stored
payment has a row of their own, and so have both parties of each stored message, under the names
that it shows. -/
theorem rows_have_owners {T : CaseTable} {J : JsonWebToken} {secret : String} {env : AuthEnv}
    {D : Database} (hJ : J.Lawful) (hD : D.Lawful T)
    {tr : List (Transition (PgServerState T) (PgServerEvent T))} {s : PgServerState T}
    (h : (pgServerSystem T J secret env D).Trace tr s)
    (hun : Unforged ((labels tr).filterMap (PgServerEvent.asStored D))) :
    (∀ i ∈ s.payments.table.rows.values, ∃ u ∈ s.sessions.accounts.rows,
      i.senderId = some u.id.toString) ∧
    ∀ r ∈ s.messages.rows.values,
      PgUserRepository.Named s.sessions.accounts.rows r.senderUserId r.senderUsername ∧
      PgUserRepository.Named s.sessions.accounts.rows r.recipientUserId r.recipientUsername := by
  obtain ⟨tr', s', ht', hR, hlabels⟩ := (PgServerState.simulation hD).trace h
  rw [← hlabels] at hun
  have howned := ServerState.owned_of_trace hJ ht' hun.of_visible
  have hkeyed := hR.sessions.accounts.invariant.roster.keyed
  have hrows := hR.sessions.accounts.rows
  constructor
  · intro row hrow
    obtain ⟨k, hk⟩ := Table.mem_values.mp hrow
    obtain ⟨i, hi, rfl⟩ := hR.payments.rows.some hk
    obtain ⟨userId, hl, hsender⟩ := howned.payments k i hi
    obtain ⟨u, hu⟩ := Option.ne_none_iff_exists'.mp hl
    refine ⟨u, hrows.mem_iff.mpr (Table.mem_values.mpr ⟨_, hu⟩), ?_⟩
    rw [hkeyed _ _ hu]
    exact hsender
  · intro row hrow
    obtain ⟨k, hk⟩ := Table.mem_values.mp hrow
    rw [hR.messages.rows k] at hk
    obtain ⟨r, hr, rfl⟩ := Option.map_eq_some_iff.mp hk
    obtain ⟨hsender, hrecipient⟩ := howned.messages k r hr
    exact ⟨hsender.named hrows hkeyed, hrecipient.named hrows hkeyed⟩

theorem unforged_samplePgEvents : Unforged samplePgEvents := by
  have hissued : IssuedAt (samplePgEvents.take 5) sampleIssue .epoch :=
    ⟨.registered sampleIssue, by simp [samplePgEvents], rfl⟩
  rw [← List.take_append_drop 5 samplePgEvents]
  refine unforged_of_issued hissued ?_ ?_
  · simp [samplePgEvents]
  · intro cr authUser call hmem
    have hcr : cr = sampleBearer false := by
      simp [samplePgEvents] at hmem
      tauto
    rw [hcr]
    exact presented_sampleBearer

/-- Bob has paid and sent himself a message. -/
theorem rows_have_owners_sample : ∃ tr,
    (pgServerSystem .ascii sampleJsonWebToken sampleSecret sampleEnv sampleDatabase).Trace tr
      samplePgServer ∧
    Unforged ((labels tr).filterMap (PgServerEvent.asStored sampleDatabase)) ∧
    (∃ i ∈ samplePgServer.payments.table.rows.values,
      ∃ u ∈ samplePgServer.sessions.accounts.rows, i.senderId = some u.id.toString) ∧
    ∃ r ∈ samplePgServer.messages.rows.values,
      PgUserRepository.Named samplePgServer.sessions.accounts.rows r.senderUserId
        r.senderUsername := by
  obtain ⟨tr, ht, hevents⟩ := trace_samplePgServer
  have hun : Unforged ((labels tr).filterMap (PgServerEvent.asStored sampleDatabase)) := by
    rw [hevents]
    exact unforged_samplePgEvents
  obtain ⟨hpayments, hmessages⟩ :=
    rows_have_owners lawful_sampleJsonWebToken lawful_sampleDatabase ht hun
  have hpaid : PgPaymentIntentRepository.encode sampleDatabase.payments sampleBobPayment ∈
      samplePgServer.payments.table.rows.values :=
      Table.mem_values.mpr ⟨_, AList.lookup_insert _⟩
  have hsent : sampleNoteRow.rounded sampleDatabase.messages ∈
      samplePgServer.messages.rows.values := Table.mem_values.mpr ⟨_, AList.lookup_insert _⟩
  exact ⟨tr, ht, hun, ⟨_, hpaid, hpayments _ hpaid⟩, ⟨_, hsent, (hmessages _ hsent).1⟩⟩

end Hanbova
