import Hanbova.Payments.Transactions

/-! The order in which transactions lock a row and the order in which they end. -/
namespace Hanbova

open Library Library.Text

namespace PgPaymentState

/-- Who holds the lock of the row. -/
def holding (s : PgPaymentState) (id : Uuid) : List ℕ :=
  (s.updates.filter fun t => t.holds ∧ t.id = id).map StatusUpdate.number

end PgPaymentState

namespace PgPaymentEvent

/-- The transaction that locks the row. -/
def acquires (id : Uuid) : PgPaymentEvent → Option ℕ
  | .locked t => if t.id = id then some t.number else none
  | _ => none

/-- The transaction that ends and had locked the row. -/
def releases (id : Uuid) : PgPaymentEvent → Option ℕ
  | .answered t _ => if t.holds ∧ t.id = id then some t.number else none
  | .rolledBack t => if t.holds ∧ t.id = id then some t.number else none
  | _ => none

/-- The transaction that locks its row. -/
def locker : PgPaymentEvent → Option ℕ
  | .locked t => some t.number
  | _ => none

/-- The transaction that had locked its row and is answered. -/
def answerer : PgPaymentEvent → Option ℕ
  | .answered t _ => if t.holds then some t.number else none
  | _ => none

/-- The transaction that had locked the row and is answered. -/
def answers (id : Uuid) : PgPaymentEvent → Option ℕ
  | .answered t _ => if t.holds ∧ t.id = id then some t.number else none
  | _ => none

/-- The transaction that ends. -/
def ender : PgPaymentEvent → Option ℕ
  | .answered t _ => some t.number
  | .rolledBack t => some t.number
  | _ => none

theorem ender_of_answerer {e : PgPaymentEvent} {n : ℕ} (h : e.answerer = some n) :
    e.ender = some n := by
  cases e with
  | answered t result =>
    simp only [answerer] at h
    split_ifs at h
    exact h
  | _ => cases h

theorem mem_ender_of_mem_answerer {es : List PgPaymentEvent} {n : ℕ}
    (h : n ∈ es.filterMap answerer) : n ∈ es.filterMap ender := by
  obtain ⟨e, he, hn⟩ := List.mem_filterMap.mp h
  exact List.mem_filterMap.mpr ⟨e, he, ender_of_answerer hn⟩

/-- A transaction that is rolled back is not answered. -/
theorem not_answered_of_rolledBack {es : List PgPaymentEvent} (hn : (es.filterMap ender).Nodup)
    {t : StatusUpdate} (ht : .rolledBack t ∈ es) : t.number ∉ es.filterMap answerer := by
  obtain ⟨as, bs, rfl⟩ := List.append_of_mem ht
  have hcons : (PgPaymentEvent.rolledBack t :: bs).filterMap ender =
      t.number :: bs.filterMap ender := rfl
  have hskip : (PgPaymentEvent.rolledBack t :: bs).filterMap answerer = bs.filterMap answerer := rfl
  rw [List.filterMap_append, hcons] at hn
  rw [List.filterMap_append, hskip, List.mem_append]
  intro hmem
  apply (List.nodup_cons.mp (List.perm_middle.nodup_iff.mp hn)).1
  rw [List.mem_append]
  exact hmem.imp mem_ender_of_mem_answerer mem_ender_of_mem_answerer

/-- Of the transactions that release a row, those that are answered. -/
theorem filter_releases {es : List PgPaymentEvent} (hn : (es.filterMap ender).Nodup) (id : Uuid) :
    ((es.filterMap (releases id)).filter fun n => n ∈ es.filterMap answerer) =
      es.filterMap (answers id) := by
  rw [List.filter_filterMap]
  apply List.filterMap_congr
  intro e he
  cases e with
  | answered t result =>
    simp only [releases, answers]
    split_ifs with h
    · have hmem : t.number ∈ es.filterMap answerer :=
        List.mem_filterMap.mpr ⟨_, he, by simp [answerer, h.1]⟩
      simp only [Option.filter_some, decide_eq_true hmem, if_true]
    · rfl
  | rolledBack t =>
    have hmem := not_answered_of_rolledBack hn he
    simp only [releases, answers]
    split_ifs
    · simp only [Option.filter_some, decide_eq_false hmem, Bool.false_eq_true, if_false]
    · rfl
  | _ => rfl

end PgPaymentEvent

namespace PgPaymentState
variable {T : CaseTable} {P : Precision} {s s' : PgPaymentState} {e : PgPaymentEvent}
variable {t t' : StatusUpdate} {id : Uuid}

theorem holding_close_of_not (s : PgPaymentState) (h : ¬ (t.holds = true ∧ t.id = id)) :
    (s.close t).holding id = s.holding id := by
  unfold holding close
  rw [← List.erase_filter, List.erase_of_not_mem]
  intro hmem
  exact h (by simpa using (List.mem_filter.mp hmem).2)

theorem holding_advance (s : PgPaymentState) (t t' : StatusUpdate) (id : Uuid) :
    (s.advance t t').holding id =
      (if t'.holds ∧ t'.id = id then [t'.number] else []) ++ (s.close t).holding id := by
  unfold holding advance close
  by_cases h : t'.holds ∧ t'.id = id
  · rw [if_pos h, List.filter_cons_of_pos (by simpa using h)]
    rfl
  · rw [if_neg h, List.filter_cons_of_neg (by simpa using h)]
    rfl

theorem holding_eq_nil (h : id ∉ s.locks) : s.holding id = [] := by
  unfold holding
  rw [List.map_eq_nil_iff, List.filter_eq_nil_iff]
  intro t ht hh
  have hh' : t.holds = true ∧ t.id = id := by simpa using hh
  apply h
  rw [← hh'.2]
  exact List.mem_map_of_mem (List.mem_filter.mpr ⟨ht, hh'.1⟩)

/-- The holder of a lock is alone. -/
theorem Invariant.holding_eq (hs : s.Invariant T P) (ht : t ∈ s.updates) (hh : t.holds = true) :
    s.holding t.id = [t.number] ∧ (s.close t).holding t.id = [] := by
  have hclose : (s.close t).holding t.id = [] := holding_eq_nil (hs.not_mem_close ht hh)
  refine ⟨?_, hclose⟩
  have hp : (s.holding t.id).Perm (t.number :: (s.close t).holding t.id) := by
    have hperm := (List.perm_cons_erase ht).filter fun u => u.holds ∧ u.id = t.id
    rw [List.filter_cons_of_pos (by simp [hh])] at hperm
    exact hperm.map StatusUpdate.number
  rw [hclose] at hp
  exact List.perm_singleton.mp hp

/-- A transaction that ends leaves the lock that it held. -/
theorem Invariant.holding_close (hs : s.Invariant T P) (ht : t ∈ s.updates) (id : Uuid) :
    s.holding id =
      (if t.holds ∧ t.id = id then [t.number] else []) ++ (s.close t).holding id := by
  by_cases h : t.holds ∧ t.id = id
  · obtain ⟨hh, rfl⟩ := h
    obtain ⟨h₁, h₂⟩ := hs.holding_eq ht hh
    rw [if_pos ⟨hh, rfl⟩, h₁, h₂]
    rfl
  · rw [if_neg h, holding_close_of_not s h]
    rfl

theorem Step.holding (h : Step T P s e s') (hs : s.Invariant T P) (id : Uuid) :
    s.holding id ++ (PgPaymentEvent.acquires id e).toList =
      (PgPaymentEvent.releases id e).toList ++ s'.holding id := by
  have hclose : ∀ {t}, t ∈ s.updates → s.holding id ++ [] =
      (if t.holds ∧ t.id = id then some t.number else none).toList ++ (s.close t).holding id := by
    intro t ht
    rw [List.append_nil, hs.holding_close ht id]
    split_ifs <;> rfl
  cases h with
  | saved | found => exact List.append_nil _
  | began =>
    rw [show PgPaymentEvent.acquires id _ = none from rfl]
    simp [PgPaymentState.holding, PgPaymentEvent.releases, StatusUpdate.holds]
  | @locked t row ht hp hl hfree =>
    have hh : t.holds = false := by simp [StatusUpdate.holds, hp]
    have hkept : (s.close t).holding id = s.holding id :=
      holding_close_of_not s (by simp [hh])
    show s.holding id ++ (if t.id = id then some t.number else none).toList =
      [] ++ (s.advance t _).holding id
    rw [holding_advance, hkept]
    by_cases hid : t.id = id
    · subst hid
      rw [holding_eq_nil hfree]
      simp [StatusUpdate.holds]
    · simp [hid]
  | @written t stored updatedAt current row now ht hp hc hne hl =>
    have hh : t.holds = true := holds_of_locked hp
    show s.holding id ++ [] = [] ++ (s.advance t _).holding id
    have hh' : StatusUpdate.holds
      { t with phase := .written (PgPaymentIntentRepository.reported P row t.status now) now } =
        true := rfl
    rw [holding_advance, hs.holding_close ht id, List.append_nil, List.nil_append]
    simp [hh, hh']
  | committed ht hp => exact hclose ht
  | notFound ht | refused ht | repeated ht | missing ht | rolledBack ht => exact hclose ht

/-- The transactions that have locked a row end in the order in which they locked it. -/
theorem lock_order {tr : List (Transition PgPaymentState PgPaymentEvent)}
    (h : (pgPaymentSystem T P).Trace tr s) (id : Uuid) :
    (System.labels tr).filterMap (PgPaymentEvent.acquires id) =
      (System.labels tr).filterMap (PgPaymentEvent.releases id) ++ s.holding id := by
  refine h.induct (P := fun tr s => (System.labels tr).filterMap (PgPaymentEvent.acquires id) =
    (System.labels tr).filterMap (PgPaymentEvent.releases id) ++ s.holding id) ?_ ?_
  · intro s hi
    obtain rfl : s = .initial := hi
    rfl
  · intro tr s e s' ht ih hl
    have hstep := Step.holding hl (invariant_of_reachable ht.reachable) id
    rw [System.filterMap_labels_snoc, System.filterMap_labels_snoc, ih, List.append_assoc, hstep,
      List.append_assoc]

/-! ### The numbers of the transactions -/

/-- The numbers of the transactions that are under way. -/
def numbers (s : PgPaymentState) : List ℕ := s.updates.map StatusUpdate.number

theorem numbers_close (ht : t ∈ s.updates) : s.numbers.Perm (t.number :: (s.close t).numbers) :=
  (List.perm_cons_erase ht).map StatusUpdate.number

theorem Step.numbers (h : Step T P s e s') :
    ((e.ender.toList ++ s'.numbers).Perm s.numbers ∧ s'.begun = s.begun) ∨
      (e.ender = none ∧ s'.numbers = s.begun :: s.numbers ∧ s'.begun = s.begun + 1) := by
  cases h with
  | saved | found => exact .inl ⟨.refl _, rfl⟩
  | began => exact .inr ⟨rfl, rfl, rfl⟩
  | locked ht | written now ht => exact .inl ⟨(numbers_close ht).symm, rfl⟩
  | committed ht => exact .inl ⟨(numbers_close ht).symm, rfl⟩
  | notFound ht | refused ht | repeated ht | missing ht | rolledBack ht =>
    exact .inl ⟨(numbers_close ht).symm, rfl⟩

/-- No two transactions have one number. -/
theorem numbers_nodup {tr : List (Transition PgPaymentState PgPaymentEvent)}
    (h : (pgPaymentSystem T P).Trace tr s) :
    ((System.labels tr).filterMap PgPaymentEvent.ender ++ s.numbers).Nodup ∧
      ∀ n ∈ (System.labels tr).filterMap PgPaymentEvent.ender ++ s.numbers, n < s.begun := by
  refine h.induct (P := fun tr s =>
    ((System.labels tr).filterMap PgPaymentEvent.ender ++ s.numbers).Nodup ∧
      ∀ n ∈ (System.labels tr).filterMap PgPaymentEvent.ender ++ s.numbers, n < s.begun) ?_ ?_
  · intro s hi
    obtain rfl : s = .initial := hi
    simp [System.labels, PgPaymentState.numbers, initial]
  · intro tr s e s' ht ih hl
    rw [System.filterMap_labels_snoc, List.append_assoc]
    obtain ⟨hp, hb⟩ | ⟨he, hn, hb⟩ := Step.numbers hl
    · have hperm := hp.append_left ((System.labels tr).filterMap PgPaymentEvent.ender)
      rw [hb, hperm.nodup_iff]
      exact ⟨ih.1, fun n hmem => ih.2 n (hperm.mem_iff.mp hmem)⟩
    · have hperm : ((System.labels tr).filterMap PgPaymentEvent.ender ++
          (e.ender.toList ++ s'.numbers)).Perm
          (s.begun :: ((System.labels tr).filterMap PgPaymentEvent.ender ++ s.numbers)) := by
        rw [he, hn]
        exact List.perm_middle
      rw [hb, hperm.nodup_iff]
      refine ⟨List.nodup_cons.mpr ⟨fun hmem => ?_, ih.1⟩, ?_⟩
      · exact absurd (ih.2 _ hmem) (lt_irrefl _)
      · intro n hmem
        rcases List.mem_cons.mp (hperm.mem_iff.mp hmem) with rfl | hmem
        · exact Nat.lt_succ_self _
        · exact (ih.2 n hmem).trans (Nat.lt_succ_self _)

/-- The transactions that have locked a row and are answered, in the order in which they locked
it. -/
theorem answer_order {tr : List (Transition PgPaymentState PgPaymentEvent)}
    (h : (pgPaymentSystem T P).Trace tr s) (id : Uuid) :
    (((System.labels tr).filterMap (PgPaymentEvent.acquires id)).filter fun n =>
        n ∈ (System.labels tr).filterMap PgPaymentEvent.answerer) =
      (System.labels tr).filterMap (PgPaymentEvent.answers id) := by
  obtain ⟨hn, -⟩ := numbers_nodup h
  have hopen : ((s.holding id).filter fun n =>
      n ∈ (System.labels tr).filterMap PgPaymentEvent.answerer) = [] := by
    rw [List.filter_eq_nil_iff]
    intro n hmem ha
    obtain ⟨t, ht, rfl⟩ := List.mem_map.mp hmem
    have hnum : t.number ∈ s.numbers := List.mem_map_of_mem (List.mem_filter.mp ht).1
    have hend := PgPaymentEvent.mem_ender_of_mem_answerer (of_decide_eq_true ha)
    exact List.disjoint_of_nodup_append hn hend hnum
  rw [lock_order h id, List.filter_append, hopen, List.append_nil]
  exact PgPaymentEvent.filter_releases hn.of_append_left id

end PgPaymentState
end Hanbova
