import Hanbova.Messages.Refinement
import Hanbova.Messages.System

/-! Status updates that are overtaken by the message they are about, and the answers of all
others. -/
namespace Hanbova

open Library
open InMemoryProtectedMessageRepository (Messages)

namespace MessageMapState
variable {m m' : MessageMapState} {e : MessageCall}

/-- A message that an update under way has not found is not there. -/
def Awaited (m : MessageMapState) : Prop :=
  ∀ k v, m.pending.lookup k = some v → v.result = .error (notFound v.id) →
    m.messages.lookup v.id = none

theorem overtaken_of_awaited (h : m.Awaited) {k : ℕ} {v : ExecutedUpdate}
    (hv : m.pending.lookup k = some v) : overtaken m.messages v = recorded m.messages v := by
  unfold overtaken recorded
  rw [if_neg]
  intro hover
  rw [h k v hv hover.1] at hover
  simp at hover

/-- As long as no update is overtaken, the answers are those that were recorded. -/
theorem Step.recorded (h : Step overtaken m e m') (hm : m.Awaited) : Step recorded m e m' := by
  cases h with
  | saved hnew => exact .saved hnew
  | found id => exact .found id
  | rejected now h => exact .rejected now h
  | executed now h => exact .executed now h
  | answered hv =>
    rw [overtaken_of_awaited hm hv]
    exact .answered hv

/-- What an execution leaves of a message that is not there. -/
theorem execute_lookup {messages messages' : Messages} {id : Uuid} {status : String}
    {now : DateTime} {result : Except ApiError Unit}
    (h : execute messages id status now = (result, messages')) {k : Uuid}
    (hk : messages.lookup k = none) : messages'.lookup k = none := by
  unfold execute at h
  cases hu : InMemoryProtectedMessageRepository.updateMessageStatus messages id status now with
  | error e =>
    simp only [hu] at h
    rw [← (Prod.mk.inj h).2]
    exact hk
  | ok m =>
    simp only [hu] at h
    rw [← (Prod.mk.inj h).2]
    obtain ⟨allowed, row, -, hl, -, hset⟩ :=
      InMemoryProtectedMessageRepository.updateMessageStatus_ok hu
    have hne : k ≠ id := by
      intro he
      rw [he, hl] at hk
      cases hk
    rw [hset.lookup_ne hne]
    exact hk

theorem execute_rejected (messages : Messages) (id : Uuid) {status : String} (now : DateTime)
    {e : ApiError} (ha : allowedMessageSources status = .error e) :
    execute messages id status now = (.error e, messages) ∧ e ≠ notFound id := by
  constructor
  · simp [execute, InMemoryProtectedMessageRepository.updateMessageStatus, ha]
  · unfold allowedMessageSources at ha
    split_ifs at ha
    obtain rfl := Except.error.inj ha
    simp [notFound]

theorem execute_notFound {messages messages' : Messages} {id : Uuid} {status : String}
    {now : DateTime}
    (h : execute messages id status now = (.error (notFound id), messages')) :
    messages'.lookup id = none := by
  cases ha : allowedMessageSources status with
  | error e =>
    obtain ⟨hx, hne⟩ := execute_rejected messages id now ha
    rw [hx] at h
    exact absurd (Except.error.inj (Prod.mk.inj h).1) hne
  | ok allowed =>
    cases hl : messages.lookup id with
    | none => exact execute_lookup h hl
    | some row =>
      by_cases hs : row.status ∈ allowed
      · rw [execute_of_allowed ha hl hs] at h
        cases (Prod.mk.inj h).1
      · rw [execute_of_not_allowed ha hl hs] at h
        cases Except.error.inj (Prod.mk.inj h).1

/-- A step keeps awaited what no message comes for. -/
theorem Step.awaited {answer : Messages → ExecutedUpdate → Except ApiError Unit}
    (h : Step answer m e m') (hm : m.Awaited)
    (he : ∀ message, e = .saved message → ∀ k v, m.pending.lookup k = some v →
      v.id ≠ message.id) : m'.Awaited := by
  cases h with
  | @saved message hnew =>
    intro k v hv hres
    have hne := he message rfl k v hv
    have hset := InMemoryProtectedMessageRepository.setAt_save m.messages message
    rw [hset.lookup_ne hne]
    exact hm k v hv hres
  | found | rejected => exact hm
  | @executed id status result messages now hx =>
    intro k v hv hres
    rw [Table.setAt_insert _ _ _ k] at hv
    split_ifs at hv
    · obtain rfl := Option.some.inj hv
      rw [show result = .error (notFound id) from hres] at hx
      exact execute_notFound hx
    · exact execute_lookup hx (hm k v hv hres)
  | answered =>
    intro k v hv hres
    rw [Table.lookup_erase] at hv
    split_ifs at hv
    exact hm k v hv hres

end MessageMapState

namespace PgMessageState
variable {P : MessagePrecision} {s s' : PgMessageState} {m : MessageMapState} {e : MessageCall}

/-- The message is saved whose status an update under way has set out to change. -/
def Overtakes (s : PgMessageState) (e : MessageCall) : Prop :=
  ∃ message k u, e = .saved message ∧ s.pending.lookup k = some u ∧ u.id = message.id

/-- Where no update is overtaken the database simulates a map that answers what it has
recorded. -/
theorem recorded_simulation (P : MessagePrecision) :
    System.Simulation ((pgMessageSystem P).restrict fun s e => ¬ Overtakes s e)
      (messageMapSystem MessageMapState.recorded) some (MessageCall.rounded P)
      (fun s m => Refines P s m ∧ m.Awaited) where
  init s h := by
    have hs : s = .initial := h
    subst hs
    refine ⟨_, rfl, ⟨fun _ => rfl, fun _ => .none, rfl⟩, ?_⟩
    intro k v hv
    cases hv
  step s e s' m _ hl hm := by
    obtain ⟨hl, hover⟩ := hl
    obtain ⟨hr, haw⟩ := hm
    obtain ⟨e', m', hm', he, hr'⟩ := Step.refines hl hr
    refine .inr ⟨e', m', hm'.recorded haw, congrArg some he, hr', hm'.awaited haw ?_⟩
    intro message hmessage k v hv hid
    have hk := hr.pending k
    cases hu : s.pending.lookup k with
    | none => simp [hu, hv] at hk
    | some u =>
      rw [hu, hv, Option.rel_some_some] at hk
      have he' : e = .saved message := by rw [he, hmessage]; rfl
      exact hover ⟨message, k, u, he', hu, hk.id_eq.trans hid⟩

end PgMessageState

/-- The calls, as they are answered, are those of a run of the write-locked map that executes each
status update at its `UPDATE`, answers it as `answer` says and leads to the same rows. -/
def RefinesMessageMap (answer : Messages → ExecutedUpdate → Except ApiError Unit)
    (P : MessagePrecision) (tr : List (Transition PgMessageState MessageCall))
    (s : PgMessageState) : Prop :=
  ∃ tr' m, (messageMapSystem answer).Trace tr' m ∧
    (System.labels tr').map (MessageCall.rounded P) = System.labels tr ∧
    PgProtectedMessageRepository.Stores P s.rows m.messages

open MessageMapState in
/-- Only an update that is overtaken is answered in another way than the map has answered it. -/
theorem pg_messages_refine_map {P : MessagePrecision} {s : PgMessageState}
    {tr : List (Transition PgMessageState MessageCall)} (h : (pgMessageSystem P).Trace tr s) :
    RefinesMessageMap overtaken P tr s ∧
      ((∀ x ∈ tr, ¬ PgMessageState.Overtakes x.pre x.label) →
        RefinesMessageMap recorded P tr s) := by
  constructor
  · obtain ⟨tr', m, ht', hr, hlabels⟩ := (PgMessageState.map_simulation P).trace h
    exact ⟨tr', m, ht', by simpa using hlabels, hr.rows⟩
  · intro hover
    obtain ⟨tr', m, ht', hr, hlabels⟩ :=
      (PgMessageState.recorded_simulation P).trace (h.restrict hover)
    exact ⟨tr', m, ht', by simpa using hlabels, hr.1.rows⟩

open PgMessageState in
/-- A message is saved, and then its acknowledgement is reported. -/
theorem pg_messages_refine_map_sample : ∃ tr s, (pgMessageSystem ⟨id, id⟩).Trace tr s ∧
    System.labels tr = [.saved sampleRow, .executed 0 sampleRow.id "acknowledged",
      .answered 0 (.ok ())] ∧
    RefinesMessageMap MessageMapState.overtaken ⟨id, id⟩ tr s ∧
    RefinesMessageMap MessageMapState.recorded ⟨id, id⟩ tr s := by
  have h₁ := System.Run.snoc (T := pgMessageSystem ⟨id, id⟩) .nil
    (@Step.saved _ .initial sampleRow rfl)
  have h₂ := h₁.snoc (@Step.executed _ _ "acknowledged" _ _ _ sampleRow.id .epoch rfl rfl)
  have h₃ := h₂.snoc (@Step.answered _ _ 0 _ rfl)
  have ht : (pgMessageSystem ⟨id, id⟩).Trace _ _ := ⟨_, rfl, h₃⟩
  obtain ⟨hover, hrec⟩ := pg_messages_refine_map ht
  refine ⟨_, _, ht, by decide +kernel, hover, hrec ?_⟩
  intro x hx ho
  obtain ⟨message, k, u, he, hu, -⟩ := ho
  simp only [List.nil_append, List.cons_append, List.mem_cons, List.not_mem_nil, or_false] at hx
  rcases hx with rfl | rfl | rfl
  · cases hu
  · cases he
  · cases he

theorem MessageCall.rounded_id (c : MessageCall) : c.rounded ⟨id, id⟩ = c := by
  cases c with
  | found id result => cases result <;> simp [MessageCall.rounded, ProtectedMessageRow.rounded]
  | _ => rfl

namespace MessageMapState
variable {answer : Messages → ExecutedUpdate → Except ApiError Unit}
variable {m m' : MessageMapState}

theorem Step.executed_inv {k : ℕ} {id : Uuid} {status : String}
    (h : Step answer m (.executed k id status) m') :
    ∃ now, m'.pending.lookup k = some ⟨id, (execute m.messages id status now).1⟩ := by
  cases h with
  | @executed _ _ result messages now hx =>
    refine ⟨now, ?_⟩
    rw [hx]
    exact (Table.setAt_insert _ _ _).lookup_self

theorem Step.saved_inv {message : ProtectedMessageRow}
    (h : Step answer m (.saved message) m') : m'.pending = m.pending := by
  cases h
  rfl

theorem Step.answered_inv {k : ℕ} {result : Except ApiError Unit}
    (h : Step answer m (.answered k result) m') :
    ∃ u, m.pending.lookup k = some u ∧ result = answer m.messages u := by
  cases h with
  | answered hu => exact ⟨_, hu, rfl⟩

/-- A map that answers what it has recorded answers what it has executed, whatever is saved in
between. -/
theorem answer_of_run {tr : List (Transition MessageMapState MessageCall)} {k : ℕ} {id : Uuid}
    {status : String} {message : ProtectedMessageRow} {result : Except ApiError Unit}
    (h : (messageMapSystem recorded).Run m tr m')
    (hl : System.labels tr = [.executed k id status, .saved message, .answered k result]) :
    ∃ now, result = (execute m.messages id status now).1 := by
  obtain ⟨m₁, tr₁, hexec, h₁, hr₁⟩ := h.cut_head hl
  obtain ⟨m₂, tr₂, hsave, h₂, hr₂⟩ := hr₁.cut_head h₁
  obtain ⟨m₃, tr₃, hanswer, -, -⟩ := hr₂.cut_head h₂
  obtain ⟨now, hpending⟩ := Step.executed_inv hexec
  obtain ⟨u, hu, rfl⟩ := Step.answered_inv hanswer
  rw [Step.saved_inv hsave, hpending] at hu
  obtain rfl := Option.some.inj hu
  exact ⟨now, rfl⟩

end MessageMapState

open PgMessageState in
/-- An acknowledgement is reported before its message is saved, and the message is saved before the
existence read. -/
theorem not_pg_messages_refine_map : ∃ tr s, (pgMessageSystem ⟨id, id⟩).Trace tr s ∧
    ¬ RefinesMessageMap MessageMapState.recorded ⟨id, id⟩ tr s := by
  have h₁ := System.Run.snoc (T := pgMessageSystem ⟨id, id⟩) .nil
    (@Step.executed _ .initial "acknowledged" _ _ _ sampleRow.id .epoch rfl rfl)
  have h₂ := h₁.snoc (@Step.saved _ _ sampleRow (by decide +kernel))
  have h₃ := h₂.snoc (@Step.answered _ _ 0 _ rfl)
  refine ⟨_, _, ⟨_, rfl, h₃⟩, ?_⟩
  intro href
  obtain ⟨tr', m, ⟨s₀, h₀, hr⟩, hlabels, -⟩ := href
  rw [List.map_congr_left fun c _ => c.rounded_id, List.map_id'] at hlabels
  obtain rfl : s₀ = ⟨∅, ∅, 0⟩ := h₀
  obtain ⟨now, hresult⟩ := MessageMapState.answer_of_run hr hlabels
  cases hresult

end Hanbova
