import Hanbova.Library.Simulation
import Hanbova.Messages.Postgres

/-! The status updates of the PostgreSQL repository beside those of the in-memory repository,
executed at the `UPDATE` and answered later. -/
namespace Hanbova

open Library
open InMemoryProtectedMessageRepository (Messages)

/-- A status update of the in-memory repository that has still to be answered. -/
structure ExecutedUpdate where
  id : Uuid
  result : Except ApiError Unit

structure MessageMapState where
  messages : Messages
  pending : Table ℕ ExecutedUpdate
  calls : ℕ

namespace MessageMapState

/-- `update_message_status` under the write lock, with what it returns and what it leaves. -/
def execute (messages : Messages) (id : Uuid) (status : String) (now : DateTime) :
    Except ApiError Unit × Messages :=
  match InMemoryProtectedMessageRepository.updateMessageStatus messages id status now with
  | .ok messages' => (.ok (), messages')
  | .error e => (.error e, messages)

def notFound (id : Uuid) : ApiError := .notFound s!"Protected message {id} not found"

def conflict : ApiError :=
  .conflict "Protected message status cannot move backwards or replace a terminal report"

variable {messages : Messages} {id : Uuid} {status : String} {allowed : List String}
variable {row : ProtectedMessageRow} {now : DateTime}

theorem execute_of_none (ha : allowedMessageSources status = .ok allowed)
    (hl : messages.lookup id = none) :
    execute messages id status now = (.error (notFound id), messages) := by
  simp [execute, InMemoryProtectedMessageRepository.updateMessageStatus, ha, hl, notFound]

theorem execute_of_allowed (ha : allowedMessageSources status = .ok allowed)
    (hl : messages.lookup id = some row) (hs : row.status ∈ allowed) :
    execute messages id status now =
      (.ok (), messages.insert id
        (InMemoryProtectedMessageRepository.reported row status now)) := by
  simp [execute, InMemoryProtectedMessageRepository.updateMessageStatus, ha, hl, hs]

theorem execute_of_not_allowed (ha : allowedMessageSources status = .ok allowed)
    (hl : messages.lookup id = some row) (hs : row.status ∉ allowed) :
    execute messages id status now = (.error conflict, messages) := by
  simp [execute, InMemoryProtectedMessageRepository.updateMessageStatus, ha, hl, hs, conflict]

/-- A status update is answered with what it returned when it was executed. -/
def recorded (_ : Messages) (u : ExecutedUpdate) : Except ApiError Unit := u.result

/-- One that did not find its message is answered with a conflict if the message is there by now. -/
def overtaken (messages : Messages) (u : ExecutedUpdate) : Except ApiError Unit :=
  if u.result = .error (notFound u.id) ∧ (messages.lookup u.id).isSome then .error conflict
  else u.result

/-- Messages are saved under fresh identifiers. A status update is executed in one step and answered
in a later one, or at once when it fails. -/
inductive Step (answer : Messages → ExecutedUpdate → Except ApiError Unit) :
    MessageMapState → MessageCall → MessageMapState → Prop
  | saved {s message} :
      s.messages.lookup message.id = none →
      Step answer s (.saved message)
        { s with
          messages := InMemoryProtectedMessageRepository.saveMessage s.messages message }
  | found {s} (id : Uuid) :
      Step answer s
        (.found id (InMemoryProtectedMessageRepository.findMessageById s.messages id)) s
  | rejected {s id status e} (now : DateTime) :
      InMemoryProtectedMessageRepository.updateMessageStatus s.messages id status now = .error e →
      Step answer s (.rejected id status e) s
  | executed {s id status result messages} (now : DateTime) :
      execute s.messages id status now = (result, messages) →
      Step answer s (.executed s.calls id status)
        { messages, pending := s.pending.insert s.calls ⟨id, result⟩, calls := s.calls + 1 }
  | answered {s number u} :
      s.pending.lookup number = some u →
      Step answer s (.answered number (answer s.messages u))
        { s with pending := s.pending.erase number }

end MessageMapState

/-- The write-locked map. -/
def messageMapSystem (answer : Messages → ExecutedUpdate → Except ApiError Unit) :
    System MessageMapState MessageCall where
  init s := s = ⟨∅, ∅, 0⟩
  step := MessageMapState.Step answer

/-- The call with a result of the database's precision. -/
def MessageCall.rounded (P : MessagePrecision) : MessageCall → MessageCall
  | .found id result => .found id (result.map (ProtectedMessageRow.rounded P))
  | call => call

/-! ### The simulation -/

namespace PgProtectedMessageRepository
variable {P : MessagePrecision} {rows rows' messages : Messages} {row : ProtectedMessageRow}
variable {id : Uuid} {u : MatchedUpdate} {v : ExecutedUpdate}

/-- The rows are the messages of the map, as the columns take them. -/
def Stores (P : MessagePrecision) (rows messages : Messages) : Prop :=
  ∀ id, rows.lookup id = (messages.lookup id).map (ProtectedMessageRow.rounded P)

theorem Stores.set (h : Stores P rows messages) {messages' : Messages}
    (hr : Table.SetAt rows id (row.rounded P) rows') (hm : Table.SetAt messages id row messages') :
    Stores P rows' messages' := by
  intro k
  rw [hr k, hm k]
  split_ifs
  · rfl
  · exact h k

/-- What the number of affected rows tells about what the map has returned; a message that was there
is still there. -/
inductive Explains (rows : Messages) : MatchedUpdate → ExecutedUpdate → Prop
  | updated (id : Uuid) : Explains rows ⟨id, 1⟩ ⟨id, .ok ()⟩
  | notFound (id : Uuid) : Explains rows ⟨id, 0⟩ ⟨id, .error (MessageMapState.notFound id)⟩
  | conflict {id : Uuid} : rows.lookup id ≠ none →
      Explains rows ⟨id, 0⟩ ⟨id, .error MessageMapState.conflict⟩

theorem Explains.id_eq (h : Explains rows u v) : u.id = v.id := by
  cases h <;> rfl

theorem Explains.mono (h : Explains rows u v)
    (hrows : ∀ id, rows.lookup id ≠ none → rows'.lookup id ≠ none) :
    Explains rows' u v := by
  cases h with
  | updated id => exact .updated id
  | notFound id => exact .notFound id
  | conflict hl => exact .conflict (hrows _ hl)

/-- The answer after the existence read is that of the map, unless the message has come since. -/
theorem Explains.outcome (h : Explains rows u v) (hm : Stores P rows messages) :
    outcome rows u.id u.affected = MessageMapState.overtaken messages v := by
  cases h with
  | updated => simp [PgProtectedMessageRepository.outcome, MessageMapState.overtaken]
  | notFound id =>
    simp only [PgProtectedMessageRepository.outcome, findMessageById,
      MessageMapState.overtaken, hm id]
    cases messages.lookup id <;> rfl
  | @conflict id hl =>
    obtain ⟨row, hl⟩ := Option.ne_none_iff_exists'.mp hl
    simp only [PgProtectedMessageRepository.outcome, findMessageById, MessageMapState.overtaken, hl]
    simp [MessageMapState.conflict, MessageMapState.notFound]

/-- The `UPDATE` does what the map does at that moment. -/
theorem Stores.updateMatching (h : Stores P rows messages) (id : Uuid) {status : String}
    {allowed : List String} (now : DateTime)
    (ha : allowedMessageSources status = .ok allowed) :
    ∃ rows' affected result messages',
      PgProtectedMessageRepository.updateMatching P rows id status allowed now =
        (rows', affected) ∧
      MessageMapState.execute messages id status now = (result, messages') ∧
      Stores P rows' messages' ∧ Explains rows' ⟨id, affected⟩ ⟨id, result⟩ ∧
      ∀ k, rows.lookup k ≠ none → rows'.lookup k ≠ none := by
  have hrow := h id
  cases hl : messages.lookup id with
  | none =>
    rw [hl, Option.map_none] at hrow
    exact ⟨rows, 0, _, messages, updateMatching_of_none hrow,
      MessageMapState.execute_of_none ha hl, h, .notFound id, fun _ hk => hk⟩
  | some row =>
    rw [hl, Option.map_some] at hrow
    by_cases hs : row.status ∈ allowed
    · have hset : Table.SetAt rows id
          ((InMemoryProtectedMessageRepository.reported row status now).rounded P)
          (rows.insert id (reported P (row.rounded P) status now)) := by
        rw [reported_rounded]
        exact Table.setAt_insert _ _ _
      exact ⟨_, 1, _, _, updateMatching_of_allowed hrow hs,
        MessageMapState.execute_of_allowed ha hl hs, h.set hset (Table.setAt_insert _ _ _),
        .updated id, fun _ => hset.lookup_ne_none⟩
    · have hne : rows.lookup id ≠ none := by simp [hrow]
      exact ⟨rows, 0, _, messages, updateMatching_of_not_allowed hrow hs,
        MessageMapState.execute_of_not_allowed ha hl hs, h, .conflict hne, fun _ hk => hk⟩

end PgProtectedMessageRepository

namespace PgMessageState
variable {P : MessagePrecision} {s s' : PgMessageState} {m : MessageMapState} {e : MessageCall}

open PgProtectedMessageRepository

/-- The rows and the updates under way are those of the map. -/
structure Refines (P : MessagePrecision) (s : PgMessageState) (m : MessageMapState) : Prop where
  rows : Stores P s.rows m.messages
  pending : ∀ k, Option.Rel (Explains s.rows) (s.pending.lookup k) (m.pending.lookup k)
  calls : s.calls = m.calls

/-- Updates under way are explained by rows that have come to be more. -/
theorem Refines.mono (hr : Refines P s m) {rows : Messages}
    (hrows : ∀ id, s.rows.lookup id ≠ none → rows.lookup id ≠ none) (k : ℕ) :
    Option.Rel (Explains rows) (s.pending.lookup k) (m.pending.lookup k) := by
  have hk := hr.pending k
  cases hu : s.pending.lookup k with
  | none =>
    cases hv : m.pending.lookup k with
    | none => exact .none
    | some v => simp [hu, hv] at hk
  | some u =>
    cases hv : m.pending.lookup k with
    | none => simp [hu, hv] at hk
    | some v =>
      rw [hu, hv, Option.rel_some_some] at hk
      exact .some (hk.mono hrows)

/-- Each step of the database is a step of the map, with the same answers. -/
theorem Step.refines (h : Step P s e s') (hr : Refines P s m) :
    ∃ e' m', MessageMapState.Step MessageMapState.overtaken m e' m' ∧ e = e'.rounded P ∧
      Refines P s' m' := by
  cases h with
  | @saved message hnew =>
    have hnew' : m.messages.lookup message.id = none := by
      rw [hr.rows message.id] at hnew
      exact Option.map_eq_none_iff.mp hnew
    have hset : Table.SetAt s.rows message.id (message.rounded P)
        (saveMessage P s.rows message) := Table.setAt_insert _ _ _
    refine ⟨.saved message, _, .saved hnew', rfl, ?_, ?_, hr.calls⟩
    · exact hr.rows.set hset (InMemoryProtectedMessageRepository.setAt_save _ _)
    · exact hr.mono fun _ => hset.lookup_ne_none
  | found id =>
    refine ⟨.found id _, m, .found id, ?_, hr⟩
    simp [MessageCall.rounded, PgProtectedMessageRepository.findMessageById,
      InMemoryProtectedMessageRepository.findMessageById, hr.rows id]
  | @rejected status e id ha =>
    refine ⟨.rejected id status e, m, .rejected .epoch ?_, rfl, hr⟩
    simp [InMemoryProtectedMessageRepository.updateMessageStatus, ha]
  | @executed status allowed rows affected id now ha hu =>
    obtain ⟨rows', affected', result, messages, hu', hx, hrows, hexp, hkept⟩ :=
      hr.rows.updateMatching id now ha
    obtain ⟨rfl, rfl⟩ := Prod.mk.inj (hu.symm.trans hu')
    refine ⟨_, _, .executed now hx, by rw [hr.calls]; rfl, hrows, ?_, by rw [hr.calls]⟩
    intro k
    rw [Table.setAt_insert _ _ _ k, Table.setAt_insert _ _ _ k, hr.calls]
    split_ifs
    · exact .some hexp
    · exact hr.mono hkept k
  | @answered number u hl =>
    have hk := hr.pending number
    rw [hl] at hk
    cases hv : m.pending.lookup number with
    | none => simp [hv] at hk
    | some v =>
      rw [hv, Option.rel_some_some] at hk
      refine ⟨_, _, .answered hv, by rw [hk.outcome hr.rows]; rfl, hr.rows, ?_, hr.calls⟩
      intro k
      rw [Table.lookup_erase, Table.lookup_erase]
      split_ifs
      · exact .none
      · exact hr.pending k

/-- The database simulates the map. -/
theorem map_simulation (P : MessagePrecision) :
    System.Simulation (pgMessageSystem P) (messageMapSystem MessageMapState.overtaken) some
      (MessageCall.rounded P) (Refines P) where
  init s h := by
    subst h
    exact ⟨_, rfl, fun _ => rfl, fun _ => .none, rfl⟩
  step _ _ _ _ _ hl hr := by
    obtain ⟨e', m', hm, rfl, hr'⟩ := Step.refines hl hr
    exact .inr ⟨e', m', hm, rfl, hr'⟩

end PgMessageState

end Hanbova
