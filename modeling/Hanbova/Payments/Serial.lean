import Hanbova.Payments.Calls
import Hanbova.Payments.System

/-! The critical sections of the in-memory repository in the order in which the transactions of the
PostgreSQL repository lock their rows. -/
namespace Hanbova

open Library Library.Text
open InMemoryPaymentIntentRepository (Storage)

namespace PgPaymentEvent

/-- What the caller sees, with the number of the transaction where it had locked its row. -/
def numbered (e : PgPaymentEvent) : Option (Option ℕ × PaymentCall) :=
  e.call.map fun c => (e.answerer, c)

/-- The row and the transaction that locks it. -/
def lockedRow : PgPaymentEvent → Option (Uuid × ℕ)
  | .locked t => some (t.id, t.number)
  | _ => none

/-- The row of a call and the transaction that had locked it. -/
def mark (c : Option ℕ × PaymentCall) : Option (Uuid × ℕ) := c.1.map fun n => (c.2.id, n)

theorem locker_eq (e : PgPaymentEvent) : e.locker = e.lockedRow.map Prod.snd := by
  cases e <;> rfl

theorem filter_lockedRow (e : PgPaymentEvent) (id : Uuid) (p : ℕ → Bool) :
    (e.lockedRow.filter fun x => x.1 = id && p x.2) =
      ((e.acquires id).filter p).map fun n => (id, n) := by
  cases e with
  | locked t =>
    by_cases h : t.id = id
    · cases hp : p t.number <;> simp [lockedRow, acquires, Option.filter_some, h, hp]
    · simp [lockedRow, acquires, Option.filter_some, h]
  | _ => rfl

theorem filter_mark (e : PgPaymentEvent) (id : Uuid) :
    ((e.numbered.bind mark).filter fun x => x.1 = id) = (e.answers id).map fun n => (id, n) := by
  cases e with
  | answered t result =>
    by_cases hh : t.holds = true
    · by_cases h : t.id = id
      · simp [numbered, mark, answers, answerer, call, PaymentCall.id, Option.filter_some, hh, h]
      · simp [numbered, mark, answers, answerer, call, PaymentCall.id, Option.filter_some, hh, h]
    · simp [numbered, mark, answers, answerer, call, hh]
  | _ => rfl

end PgPaymentEvent

variable {T : CaseTable} {P : Precision} {s : PgPaymentState}
variable {tr : List (Transition PgPaymentState PgPaymentEvent)}

/-- On each row the locks and the answers are in one order. -/
theorem PgPaymentState.marks_order (h : (pgPaymentSystem T P).Trace tr s) (id : Uuid) :
    ((((System.labels tr).filterMap PgPaymentEvent.lockedRow).filter fun x =>
        x.2 ∈ (System.labels tr).filterMap PgPaymentEvent.answerer).filter fun x => x.1 = id) =
      (((System.labels tr).filterMap PgPaymentEvent.numbered).filterMap
        PgPaymentEvent.mark).filter fun x => x.1 = id := by
  rw [List.filterMap_filterMap, List.filter_filter, List.filter_filterMap, List.filter_filterMap]
  simp only [PgPaymentEvent.filter_mark, PgPaymentEvent.filter_lockedRow _ id fun n =>
    n ∈ (System.labels tr).filterMap PgPaymentEvent.answerer]
  rw [← List.map_filterMap, ← List.filter_filterMap, ← List.map_filterMap,
    PgPaymentState.answer_order h id]

namespace PaymentCall

/-- A numbered call with a result of the database's precision. -/
def numberedRounded (P : Precision) (c : Option ℕ × PaymentCall) : Option ℕ × PaymentCall :=
  (c.1, c.2.rounded P)

@[simp] theorem id_rounded (P : Precision) (c : PaymentCall) : (c.rounded P).id = c.id := by
  cases c <;> rfl

theorem mark_numberedRounded (P : Precision) (c : Option ℕ × PaymentCall) :
    PgPaymentEvent.mark (numberedRounded P c) = PgPaymentEvent.mark c := by
  simp [PgPaymentEvent.mark, numberedRounded]

theorem filter_numberedRounded (P : Precision) (cs : List (Option ℕ × PaymentCall)) (id : Uuid) :
    ((cs.map (numberedRounded P)).filter fun c => c.2.id = id) =
      (cs.filter fun c => c.2.id = id).map (numberedRounded P) := by
  rw [List.filter_map]
  congr 1
  simp [numberedRounded, Function.comp_def]

end PaymentCall

/-- The calls can be put in the order of the locks. -/
theorem PgPaymentState.exists_lock_order (h : (pgPaymentSystem T P).Trace tr s)
    {as : List (Option ℕ × PaymentCall)}
    (has : as.map (PaymentCall.numberedRounded P) =
      (System.labels tr).filterMap PgPaymentEvent.numbered) :
    ∃ calls : List (Option ℕ × PaymentCall),
      (∀ id, (calls.filter fun c => c.2.id = id) = as.filter fun c => c.2.id = id) ∧
      calls.filterMap Prod.fst = ((System.labels tr).filterMap PgPaymentEvent.locker).filter
        fun n => n ∈ (System.labels tr).filterMap PgPaymentEvent.answerer := by
  have hmarks : as.filterMap PgPaymentEvent.mark =
      ((System.labels tr).filterMap PgPaymentEvent.numbered).filterMap PgPaymentEvent.mark := by
    rw [← has, List.filterMap_map]
    apply List.filterMap_congr
    intro c _
    exact (PaymentCall.mark_numberedRounded P c).symm
  have hrow : ∀ (c : Option ℕ × PaymentCall) x, PgPaymentEvent.mark c = some x →
      x.1 = c.2.id := by
    intro c x hx
    obtain ⟨n, -, rfl⟩ := Option.map_eq_some_iff.mp hx
    rfl
  have horder : ∀ id, ((((System.labels tr).filterMap PgPaymentEvent.lockedRow).filter fun x =>
        x.2 ∈ (System.labels tr).filterMap PgPaymentEvent.answerer).filter fun x => x.1 = id) =
      (as.filterMap PgPaymentEvent.mark).filter fun x => x.1 = id := by
    intro id
    rw [hmarks]
    exact PgPaymentState.marks_order h id
  obtain ⟨calls, hkeys, hcalls⟩ := exists_reorder hrow horder
  refine ⟨calls, hkeys, ?_⟩
  have hsnd : calls.filterMap Prod.fst = (calls.filterMap PgPaymentEvent.mark).map Prod.snd := by
    rw [List.map_filterMap]
    apply List.filterMap_congr
    intro c _
    cases hc : c.1 <;> simp [PgPaymentEvent.mark, hc]
  have hlocks : (System.labels tr).filterMap PgPaymentEvent.locker =
      ((System.labels tr).filterMap PgPaymentEvent.lockedRow).map Prod.snd := by
    rw [List.map_filterMap]
    exact List.filterMap_congr fun e _ => e.locker_eq
  rw [hsnd, hcalls, hlocks, List.filter_map]
  rfl

/-- The calls, as they are answered, are those of a run of the write-locked map that leads to the
intents in the rows. -/
def RefinesMap (T : CaseTable) (P : Precision)
    (tr : List (Transition PgPaymentState PgPaymentEvent)) (s : PgPaymentState) : Prop :=
  ∃ tr' m, paymentMapSystem.Trace tr' m ∧
    (System.labels tr').map (PaymentCall.rounded P) =
      (System.labels tr).filterMap PgPaymentEvent.call ∧
    PgPaymentIntentRepository.ReadsAs T P s.rows m

/-- The calls can be put in an order that is the order of the locks, and that keeps the order of the
calls on each row, such that they are those of a run of the write-locked map that leads to the
intents in the rows. -/
def RefinesMapByLocks (T : CaseTable) (P : Precision)
    (tr : List (Transition PgPaymentState PgPaymentEvent)) (s : PgPaymentState) : Prop :=
  ∃ (calls : List (Option ℕ × PaymentCall)) (tr' : List (Transition Storage PaymentCall))
    (m : Storage),
    paymentMapSystem.Trace tr' m ∧ System.labels tr' = calls.map Prod.snd ∧
    (∀ id, ((calls.filter fun c => c.2.id = id).map (PaymentCall.numberedRounded P)) =
      ((System.labels tr).filterMap PgPaymentEvent.numbered).filter fun c => c.2.id = id) ∧
    calls.filterMap Prod.fst =
      (((System.labels tr).filterMap PgPaymentEvent.locker).filter fun n =>
        n ∈ (System.labels tr).filterMap PgPaymentEvent.answerer) ∧
    PgPaymentIntentRepository.ReadsAs T P s.rows m

/-- The transactions refine the write-locked map, executed in the order in which they lock their
rows. -/
theorem pg_payments_refine_map (h : (pgPaymentSystem T P).Trace tr s) :
    RefinesMap T P tr s ∧ RefinesMapByLocks T P tr s := by
  obtain ⟨tr', m, ht', hm, hlabels⟩ := (PgPaymentState.map_simulation T P).trace h
  refine ⟨⟨tr', m, ht', hlabels, hm.readsAs⟩, ?_⟩
  have hzip : (System.labels tr').map (PaymentCall.rounded P) =
      ((System.labels tr).filterMap PgPaymentEvent.numbered).map Prod.snd := by
    rw [hlabels, List.map_filterMap]
    apply List.filterMap_congr
    intro e _
    cases hc : e.call <;> simp [PgPaymentEvent.numbered, hc]
  obtain ⟨as, hsnd, has⟩ := exists_zip hzip
  obtain ⟨calls, hkeys, horder⟩ := PgPaymentState.exists_lock_order h has
  have hrows : ∀ id, ((calls.map Prod.snd).filter fun c => c.id = id) =
      (System.labels tr').filter fun c => c.id = id := by
    intro id
    rw [← hsnd, List.filter_map, List.filter_map]
    exact congrArg _ (hkeys id)
  obtain ⟨tr'', m', ht'', hlabels'', hm'⟩ := PaymentCall.exists_reordered ht' _ hrows
  refine ⟨calls, tr'', m', ht'', hlabels'', ?_, horder, ?_⟩
  · intro id
    rw [hkeys id, ← has]
    exact (PaymentCall.filter_numberedRounded P as id).symm
  · intro id
    rw [hm.readsAs id]
    unfold InMemoryPaymentIntentRepository.findById
    rw [hm' id]

def sampleRacing : PaymentIntent := { sampleIntent with status := .refundAvailable }

def sampleStoredRow : PaymentIntentRow :=
  PgPaymentIntentRepository.encode ⟨id, id, id⟩ sampleRacing

/-- Both transactions are under way. -/
def sampleRace (claim refund : Phase) : PgPaymentState where
  rows := Table.insert ∅ sampleRacing.id sampleStoredRow
  updates :=
    [⟨1, sampleRacing.id, .claimed, claim⟩, ⟨0, sampleRacing.id, .refunded, refund⟩]
  begun := 2

open PgPaymentState in
/-- A claim and a refund race, and the claim locks the row first. -/
theorem pg_payments_refine_map_sample :
    ∃ tr s, (pgPaymentSystem .ascii ⟨id, id, id⟩).Trace tr s ∧
    (System.labels tr).filterMap PgPaymentEvent.call =
      [.saved sampleRacing, .updated sampleRacing.id .claimed (.ok .nextDay),
        .updated sampleRacing.id .refunded
          (.error (.core (.invalidStateTransition .claimed .refunded)))] ∧
    RefinesMap .ascii ⟨id, id, id⟩ tr s ∧ RefinesMapByLocks .ascii ⟨id, id, id⟩ tr s := by
  have h₁ := System.Run.snoc (T := pgPaymentSystem .ascii ⟨id, id, id⟩) .nil
    (@Step.saved _ _ .initial sampleRacing rfl)
  have h₂ := h₁.snoc (@Step.began _ _ _ sampleRacing.id .refunded)
  have h₃ := h₂.snoc (@Step.began _ _ _ sampleRacing.id .claimed)
  have h₄ := h₃.snoc (@Step.locked _ _ (sampleRace .begun .begun) _ sampleStoredRow
    List.mem_cons_self rfl rfl (by decide +kernel))
  have h₅ :=
    h₄.snoc (@Step.written _ _ (sampleRace (.locked "refund_available" .epoch) .begun) _
      _ _ .refundAvailable sampleStoredRow .nextDay List.mem_cons_self rfl
      (by decide +kernel) (by decide +kernel) rfl)
  have h₆ := h₅.snoc (@Step.committed _ _ _ _ _ _ List.mem_cons_self rfl)
  have h₇ := h₆.snoc (@Step.locked _ _ _ ⟨0, sampleRacing.id, .refunded, .begun⟩
    (PgPaymentIntentRepository.reported ⟨id, id, id⟩ sampleStoredRow .claimed .nextDay)
    (by decide +kernel) rfl (by decide +kernel) (by decide +kernel))
  have h₈ := h₇.snoc (@Step.refused _ _ _ _ _ _
    (.core (.invalidStateTransition .claimed .refunded)) List.mem_cons_self rfl
    (by decide +kernel))
  have ht : (pgPaymentSystem .ascii ⟨id, id, id⟩).Trace _ _ := ⟨_, rfl, h₈⟩
  exact ⟨_, _, ht, rfl, pg_payments_refine_map ht⟩

end Hanbova
