import Hanbova.Messages.Repository
import Hanbova.Library.Transition

/-! Protected messages in PostgreSQL: the statements of `PgProtectedMessageRepository` in
`protected_message_repo.rs`, and their concurrent use. -/
namespace Hanbova

open Library
open InMemoryProtectedMessageRepository (Messages)

/-- What the timestamp columns keep of an instant. -/
structure MessagePrecision where
  createdAt : DateTime → DateTime
  acknowledgedAt : DateTime → DateTime

def ProtectedMessageRow.rounded (P : MessagePrecision) (row : ProtectedMessageRow) :
    ProtectedMessageRow :=
  { row with
    createdAt := P.createdAt row.createdAt
    acknowledgedAt := row.acknowledgedAt.map P.acknowledgedAt }

namespace PgProtectedMessageRepository

/-- `INSERT INTO protected_messages`, under a fresh identifier. -/
def saveMessage (P : MessagePrecision) (rows : Messages) (message : ProtectedMessageRow) :
    Messages :=
  rows.insert message.id (message.rounded P)

def findMessageById (rows : Messages) (id : Uuid) : Option ProtectedMessageRow := rows.lookup id

/-- `SET status = $1, acknowledged_at = CASE …`; `now` is the `NOW()` of the database. -/
def reported (P : MessagePrecision) (row : ProtectedMessageRow) (status : String)
    (now : DateTime) : ProtectedMessageRow :=
  { row with
    status
    acknowledgedAt :=
      match row.acknowledgedAt with
      | none => some (P.acknowledgedAt now)
      | some acknowledgedAt => some acknowledgedAt }

/-- `UPDATE … WHERE id = $2 AND status = ANY($3)`, with the number of the rows it affects. -/
def updateMatching (P : MessagePrecision) (rows : Messages) (id : Uuid) (status : String)
    (allowed : List String) (now : DateTime) : Messages × ℕ :=
  match rows.lookup id with
  | none => (rows, 0)
  | some row =>
    if allowed.contains row.status then (rows.insert id (reported P row status now), 1)
    else (rows, 0)

/-- What `update_message_status` answers when its `UPDATE` has affected `affected` rows; it reads
`rows` only if there are none. -/
def outcome (rows : Messages) (id : Uuid) (affected : ℕ) : Except ApiError Unit :=
  if affected = 0 then
    if (findMessageById rows id).isNone then
      .error (.notFound s!"Protected message {id} not found")
    else
      .error (.conflict
        "Protected message status cannot move backwards or replace a terminal report")
  else .ok ()

variable {P : MessagePrecision} {rows : Messages} {id : Uuid} {status : String}
variable {allowed : List String} {row : ProtectedMessageRow} {now : DateTime}

theorem reported_rounded (P : MessagePrecision) (row : ProtectedMessageRow) (status : String)
    (now : DateTime) :
    reported P (row.rounded P) status now =
      (InMemoryProtectedMessageRepository.reported row status now).rounded P := by
  cases ha : row.acknowledgedAt <;>
    simp [reported, InMemoryProtectedMessageRepository.reported, ProtectedMessageRow.rounded, ha]

theorem updateMatching_of_none (hl : rows.lookup id = none) :
    updateMatching P rows id status allowed now = (rows, 0) := by
  simp [updateMatching, hl]

theorem updateMatching_of_allowed (hl : rows.lookup id = some row) (hs : row.status ∈ allowed) :
    updateMatching P rows id status allowed now =
      (rows.insert id (reported P row status now), 1) := by
  simp [updateMatching, hl, hs]

theorem updateMatching_of_not_allowed (hl : rows.lookup id = some row)
    (hs : row.status ∉ allowed) : updateMatching P rows id status allowed now = (rows, 0) := by
  simp [updateMatching, hl, hs]

end PgProtectedMessageRepository

/-- A call of `update_message_status` between its `UPDATE` and its answer. -/
structure MatchedUpdate where
  id : Uuid
  affected : ℕ
  deriving DecidableEq

/-- `calls` counts the calls that have run their `UPDATE` and gives them their numbers. -/
structure PgMessageState where
  rows : Messages
  pending : Table ℕ MatchedUpdate
  calls : ℕ

/-- What happens to a message: a call that needs no second step is one event, and a status update
is its `UPDATE` and its answer. -/
inductive MessageCall
  | saved (message : ProtectedMessageRow)
  | found (id : Uuid) (result : Option ProtectedMessageRow)
  | rejected (id : Uuid) (status : String) (error : ApiError)
  | executed (number : ℕ) (id : Uuid) (status : String)
  | answered (number : ℕ) (result : Except ApiError Unit)
  deriving DecidableEq

namespace PgMessageState

def initial : PgMessageState := ⟨∅, ∅, 0⟩

/-- Messages are saved under fresh identifiers. -/
inductive Step (P : MessagePrecision) : PgMessageState → MessageCall → PgMessageState → Prop
  | saved {s message} :
      s.rows.lookup message.id = none →
      Step P s (.saved message)
        { s with rows := PgProtectedMessageRepository.saveMessage P s.rows message }
  | found {s} (id : Uuid) :
      Step P s (.found id (PgProtectedMessageRepository.findMessageById s.rows id)) s
  | rejected {s status e} (id : Uuid) :
      allowedMessageSources status = .error e → Step P s (.rejected id status e) s
  | executed {s status allowed rows affected} (id : Uuid) (now : DateTime) :
      allowedMessageSources status = .ok allowed →
      PgProtectedMessageRepository.updateMatching P s.rows id status allowed now =
        (rows, affected) →
      Step P s (.executed s.calls id status)
        { rows, pending := s.pending.insert s.calls ⟨id, affected⟩, calls := s.calls + 1 }
  | answered {s number u} :
      s.pending.lookup number = some u →
      Step P s (.answered number (PgProtectedMessageRepository.outcome s.rows u.id u.affected))
        { s with pending := s.pending.erase number }

end PgMessageState

/-- Saves, lookups and status updates, by anyone and in any number, from an empty table on. -/
def pgMessageSystem (P : MessagePrecision) : System PgMessageState MessageCall where
  init s := s = .initial
  step := PgMessageState.Step P

end Hanbova
