import Hanbova.Payments.Postgres
import Hanbova.Library.History

/-! Concurrent use of the table of payment intents under READ COMMITTED. Saves and lookups are
single statements; `update_status` is a transaction that locks its row until it ends. -/
namespace Hanbova

open Library Library.Text
open PgPaymentIntentRepository (Rows)

/-- How far a transaction of `update_status` is. What it has written is its own until it commits. -/
inductive Phase
  | begun
  | locked (stored : String) (updatedAt : DateTime)
  | written (row : PaymentIntentRow) (now : DateTime)
  deriving DecidableEq

structure StatusUpdate where
  number : ℕ
  id : Uuid
  status : PaymentStatus
  phase : Phase
  deriving DecidableEq

namespace StatusUpdate

/-- The transaction holds the lock of its row. -/
def holds (t : StatusUpdate) : Bool :=
  match t.phase with
  | .begun => false
  | .locked _ _ => true
  | .written _ _ => true

end StatusUpdate

/-- `begun` counts the transactions and gives them their numbers. -/
structure PgPaymentState where
  rows : Rows
  updates : List StatusUpdate
  begun : ℕ

inductive PgPaymentEvent
  | saved (intent : PaymentIntent)
  | found (id : Uuid) (result : Except ApiError (Option PaymentIntent))
  | began (t : StatusUpdate)
  | locked (t : StatusUpdate)
  | written (t : StatusUpdate)
  | answered (t : StatusUpdate) (result : Except ApiError DateTime)
  | rolledBack (t : StatusUpdate)

namespace PgPaymentState

def initial : PgPaymentState := ⟨∅, [], 0⟩

/-- The rows that are locked. -/
def locks (s : PgPaymentState) : List Uuid :=
  (s.updates.filter StatusUpdate.holds).map StatusUpdate.id

/-- The transaction goes on as another version of itself. -/
def advance (s : PgPaymentState) (t t' : StatusUpdate) : PgPaymentState :=
  { s with updates := t' :: s.updates.erase t }

/-- The transaction is over. -/
def close (s : PgPaymentState) (t : StatusUpdate) : PgPaymentState :=
  { s with updates := s.updates.erase t }

/-- Intents are saved under fresh identifiers. A transaction that has locked a row is answered when
it fails its check, when it has nothing to write, or when it commits what it has written; one that
is rolled back leaves nothing behind. -/
inductive Step (T : CaseTable) (P : Precision) :
    PgPaymentState → PgPaymentEvent → PgPaymentState → Prop
  | saved {s i} :
      s.rows.lookup i.id = none →
      Step T P s (.saved i) { s with rows := PgPaymentIntentRepository.save P s.rows i }
  | found {s} (id : Uuid) :
      Step T P s (.found id (PgPaymentIntentRepository.findById T s.rows id)) s
  | began {s} (id : Uuid) (status : PaymentStatus) :
      Step T P s (.began ⟨s.begun, id, status, .begun⟩)
        { s with updates := ⟨s.begun, id, status, .begun⟩ :: s.updates, begun := s.begun + 1 }
  | notFound {s t} :
      t ∈ s.updates → t.phase = .begun → s.rows.lookup t.id = none →
      Step T P s (.answered t (.error (.notFound s!"Payment intent {t.id} not found")))
        (s.close t)
  | locked {s t row} :
      t ∈ s.updates → t.phase = .begun → s.rows.lookup t.id = some row →
      t.id ∉ s.locks →
      Step T P s (.locked t)
        (s.advance t { t with phase := .locked row.status row.updatedAt })
  | refused {s t stored updatedAt e} :
      t ∈ s.updates → t.phase = .locked stored updatedAt →
      PgPaymentIntentRepository.checkTransition T stored t.status = .error e →
      Step T P s (.answered t (.error e)) (s.close t)
  | repeated {s t stored updatedAt current} :
      t ∈ s.updates → t.phase = .locked stored updatedAt →
      PgPaymentIntentRepository.checkTransition T stored t.status = .ok current →
      current = t.status →
      Step T P s (.answered t (.ok updatedAt)) (s.close t)
  | written {s t stored updatedAt current row} (now : DateTime) :
      t ∈ s.updates → t.phase = .locked stored updatedAt →
      PgPaymentIntentRepository.checkTransition T stored t.status = .ok current →
      current ≠ t.status → s.rows.lookup t.id = some row →
      Step T P s (.written t)
        (s.advance t
          { t with
            phase := .written (PgPaymentIntentRepository.reported P row t.status now) now })
  | missing {s t stored updatedAt current} :
      t ∈ s.updates → t.phase = .locked stored updatedAt →
      PgPaymentIntentRepository.checkTransition T stored t.status = .ok current →
      current ≠ t.status → s.rows.lookup t.id = none →
      Step T P s (.answered t (.error (.database .rowNotFound))) (s.close t)
  | committed {s t row now} :
      t ∈ s.updates → t.phase = .written row now →
      Step T P s (.answered t (.ok row.updatedAt))
        { s.close t with rows := s.rows.insert t.id row }
  | rolledBack {s t} : t ∈ s.updates → Step T P s (.rolledBack t) (s.close t)

end PgPaymentState

/-- Saves, lookups and status updates, by anyone and in any number, from an empty table on. -/
def pgPaymentSystem (T : CaseTable) (P : Precision) : System PgPaymentState PgPaymentEvent where
  init s := s = .initial
  step := PgPaymentState.Step T P

namespace StatusUpdate
variable {T : CaseTable} {P : Precision} {rows rows' : Rows} {t : StatusUpdate}

/-- What a transaction knows of its row is true of the committed row as long as it holds the
lock. -/
def Valid (T : CaseTable) (P : Precision) (rows : Rows) (t : StatusUpdate) : Prop :=
  match t.phase with
  | .begun => True
  | .locked stored updatedAt =>
    ∃ row, rows.lookup t.id = some row ∧ row.status = stored ∧ row.updatedAt = updatedAt
  | .written written now =>
    ∃ row current, rows.lookup t.id = some row ∧
      PgPaymentIntentRepository.checkTransition T row.status t.status = .ok current ∧
      current ≠ t.status ∧
      written = PgPaymentIntentRepository.reported P row t.status now

theorem Valid.of_lookup (h : t.Valid T P rows)
    (hl : t.holds = true → rows'.lookup t.id = rows.lookup t.id) : t.Valid T P rows' := by
  unfold Valid holds at *
  cases hp : t.phase with
  | begun => simp
  | locked stored updatedAt =>
    simp only [hp] at h hl ⊢
    rw [hl trivial]
    exact h
  | written written now =>
    simp only [hp] at h hl ⊢
    rw [hl trivial]
    exact h

theorem Valid.row (h : t.Valid T P rows) (ht : t.holds = true) :
    ∃ row, rows.lookup t.id = some row := by
  unfold Valid holds at *
  cases hp : t.phase with
  | begun => simp [hp] at ht
  | locked stored updatedAt =>
    simp only [hp] at h
    obtain ⟨row, hl, -⟩ := h
    exact ⟨row, hl⟩
  | written written now =>
    simp only [hp] at h
    obtain ⟨row, -, hl, -⟩ := h
    exact ⟨row, hl⟩

end StatusUpdate

namespace PgPaymentState
variable {T : CaseTable} {P : Precision} {s s' : PgPaymentState} {e : PgPaymentEvent}
variable {t t' : StatusUpdate}

/-- No two transactions hold the lock of one row. -/
structure Invariant (T : CaseTable) (P : Precision) (s : PgPaymentState) : Prop where
  valid : ∀ t ∈ s.updates, t.Valid T P s.rows
  exclusive : s.locks.Nodup

theorem invariant_initial : Invariant T P .initial where
  valid := by simp [initial]
  exclusive := List.nodup_nil

/-- The lock of a transaction and the locks of the others. -/
theorem locks_perm (ht : t ∈ s.updates) (hh : t.holds = true) :
    s.locks.Perm (t.id :: (s.close t).locks) := by
  have hp := (List.perm_cons_erase ht).filter StatusUpdate.holds
  rw [List.filter_cons_of_pos hh] at hp
  exact hp.map StatusUpdate.id

theorem locks_close_sublist (s : PgPaymentState) (t : StatusUpdate) :
    (s.close t).locks.Sublist s.locks :=
  (List.erase_sublist.filter _).map _

theorem Invariant.close (hs : s.Invariant T P) (t : StatusUpdate) :
    (s.close t).Invariant T P where
  valid u hu := hs.valid u (List.mem_of_mem_erase hu)
  exclusive := hs.exclusive.sublist (locks_close_sublist s t)

/-- A transaction that goes on does so on a row that nobody else has locked. -/
theorem Invariant.advance (hs : s.Invariant T P) (hv : t'.Valid T P s.rows)
    (hn : t'.id ∉ (s.close t).locks) : (s.advance t t').Invariant T P where
  valid u hu := by
    rcases List.mem_cons.mp hu with rfl | hu
    · exact hv
    · exact (hs.close t).valid u hu
  exclusive := by
    have hclose := (hs.close t).exclusive
    by_cases hh : t'.holds = true
    · simp only [locks, PgPaymentState.advance, List.filter_cons_of_pos hh, List.map_cons]
      exact List.nodup_cons.mpr ⟨hn, hclose⟩
    · simp only [locks, PgPaymentState.advance, List.filter_cons_of_neg hh]
      exact hclose

/-- While a transaction holds its lock nobody else does. -/
theorem Invariant.not_mem_close (hs : s.Invariant T P) (ht : t ∈ s.updates)
    (hh : t.holds = true) : t.id ∉ (s.close t).locks :=
  (List.nodup_cons.mp ((locks_perm ht hh).nodup_iff.mp hs.exclusive)).1

theorem holds_of_locked {stored : String} {updatedAt : DateTime}
    (hp : t.phase = .locked stored updatedAt) : t.holds = true := by
  simp [StatusUpdate.holds, hp]

theorem holds_of_written {row : PaymentIntentRow} {now : DateTime}
    (hp : t.phase = .written row now) : t.holds = true := by
  simp [StatusUpdate.holds, hp]

theorem Step.invariant (h : Step T P s e s') (hs : s.Invariant T P) : s'.Invariant T P := by
  cases h with
  | @saved i hnew =>
    refine ⟨fun t ht => (hs.valid t ht).of_lookup fun hh => ?_, hs.exclusive⟩
    obtain ⟨row, hl⟩ := (hs.valid t ht).row hh
    rw [PgPaymentIntentRepository.save_of_new hnew]
    apply (Table.setAt_insert _ _ _).lookup_ne
    intro he
    rw [he, hnew] at hl
    cases hl
  | found => exact hs
  | began id status =>
    refine ⟨fun t ht => ?_, by simpa [locks, StatusUpdate.holds] using hs.exclusive⟩
    rcases List.mem_cons.mp ht with rfl | ht
    · trivial
    · exact hs.valid t ht
  | locked ht hp hl hfree =>
    apply hs.advance
    · exact ⟨_, hl, rfl, rfl⟩
    · exact fun hmem => hfree ((locks_close_sublist s _).subset hmem)
  | written now ht hp hc hne hl =>
    have hv := hs.valid _ ht
    simp only [StatusUpdate.Valid, hp] at hv
    obtain ⟨row₀, hl₀, rfl, -⟩ := hv
    obtain rfl := Option.some.inj (hl.symm.trans hl₀)
    apply hs.advance
    · exact ⟨_, _, hl, hc, hne, rfl⟩
    · exact hs.not_mem_close ht (holds_of_locked hp)
  | committed ht hp =>
    have hfree := hs.not_mem_close ht (holds_of_written hp)
    refine ⟨fun u hu => ((hs.close _).valid u hu).of_lookup fun hh => ?_,
      (hs.close _).exclusive⟩
    apply (Table.setAt_insert _ _ _).lookup_ne
    intro he
    apply hfree
    rw [← he]
    exact List.mem_map_of_mem (List.mem_filter.mpr ⟨hu, hh⟩)
  | notFound | refused | repeated | missing | rolledBack => exact hs.close _

theorem invariant_of_reachable (h : (pgPaymentSystem T P).Reachable s) : s.Invariant T P :=
  h.induct (fun _ hi => hi ▸ invariant_initial) fun _ _ _ _ hs hl => Step.invariant hl hs

end PgPaymentState
end Hanbova
