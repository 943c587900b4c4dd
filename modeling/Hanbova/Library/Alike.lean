import Hanbova.Library.Table
import Mathlib.Data.List.Forall2

/-! Two tables with the same keys whose records are related, and what an observer who may not see
some of the records can tell about them. -/
namespace Library

universe u v
variable {κ : Type u} {ν : Type v}

/-- Records that an observer without access to `Hidden` cannot tell apart: `Public` is what such an
observer may know about a hidden record. -/
def Indistinct (Hidden : ν → Prop) (Public : ν → ν → Prop) (x y : ν) : Prop :=
  x = y ∨ Hidden x ∧ Hidden y ∧ Public x y

namespace Indistinct
variable {Hidden : ν → Prop} {Public : ν → ν → Prop} {x y : ν}

theorem refl (x : ν) : Indistinct Hidden Public x x := .inl rfl

/-- A test that hidden records fail separates no two of them. -/
theorem eq_or_fails (h : Indistinct Hidden Public x y) {p : ν → Bool}
    (hp : ∀ z, Hidden z → p z = false) : x = y ∨ p x = false ∧ p y = false := by
  rcases h with h | ⟨hx, hy, -⟩
  · exact .inl h
  · exact .inr ⟨hp x hx, hp y hy⟩

end Indistinct

namespace Table
variable [DecidableEq κ] {R : ν → ν → Prop} {m m' n n' : Table κ ν} {k : κ} {x y : ν}

/-- The records of the keys in `order`: what an iteration in this order yields. -/
def listed (order : List κ) (m : Table κ ν) : List ν := order.filterMap fun k => m.lookup k

/-- An iteration in this order meets every key once. -/
def Visits (m : Table κ ν) (order : List κ) : Prop := order.Perm m.keys

theorem Visits.perm_values {order : List κ} (h : m.Visits order) :
    (m.listed order).Perm m.values := by
  have hkeys : m.listed m.keys = m.values := by
    rw [listed, AList.keys, List.keys, List.filterMap_map, values, ← List.filterMap_eq_map]
    exact List.filterMap_congr fun e he => AList.mem_lookup_iff.mpr he
  rw [← hkeys]
  exact h.filterMap _

theorem Visits.mem_listed {order : List κ} (h : m.Visits order) :
    x ∈ m.listed order ↔ x ∈ m.values := h.perm_values.mem_iff

/-- No iteration meets two records with one key. -/
theorem Visits.nodup_listed {key : ν → κ} {order : List κ} (h : m.Visits order)
    (hm : Keyed key m) : ((m.listed order).map key).Nodup := by
  rw [listed, List.map_filterMap]
  refine (h.nodup_iff.mpr m.keys_nodup).filterMap fun k k' b hb hb' => ?_
  obtain ⟨x, hx, rfl⟩ := Option.map_eq_some_iff.mp hb
  obtain ⟨y, hy, he⟩ := Option.map_eq_some_iff.mp hb'
  rw [← hm k x hx, ← hm k' y hy, he]

/-- The two tables have the same keys, and related records under them. -/
def Alike (R : ν → ν → Prop) (m m' : Table κ ν) : Prop :=
  ∀ k, Option.Rel R (m.lookup k) (m'.lookup k)

theorem Alike.refl (hR : ∀ x, R x x) (m : Table κ ν) : Alike R m m := by
  intro k
  cases m.lookup k with
  | none => exact .none
  | some x => exact .some (hR x)

/-- The key is in neither table, or in both. -/
theorem Alike.lookup_cases (h : Alike R m m') (k : κ) :
    (m.lookup k = none ∧ m'.lookup k = none) ∨
      ∃ x y, m.lookup k = some x ∧ m'.lookup k = some y ∧ R x y := by
  have hk := h k
  cases hm : m.lookup k with
  | none =>
    cases hm' : m'.lookup k with
    | none => exact .inl ⟨rfl, rfl⟩
    | some y => rw [hm, hm'] at hk; cases hk
  | some x =>
    cases hm' : m'.lookup k with
    | none => rw [hm, hm'] at hk; cases hk
    | some y =>
      rw [hm, hm'] at hk
      cases hk with
      | some hxy => exact .inr ⟨x, y, rfl, rfl, hxy⟩

theorem Alike.lookup_none (h : Alike R m m') (k : κ) (hk : m.lookup k = none) :
    m'.lookup k = none := by
  rcases h.lookup_cases k with ⟨-, hm'⟩ | ⟨x, y, hm, -, -⟩
  · exact hm'
  · rw [hk] at hm
    cases hm

/-- Related records are written under one key of both tables. -/
theorem Alike.set (h : Alike R m m') (hn : SetAt m k x n) (hn' : SetAt m' k y n') (hxy : R x y) :
    Alike R n n' := by
  intro k'
  rw [hn k', hn' k']
  by_cases hk : k' = k
  · rw [if_pos hk, if_pos hk]
    exact .some hxy
  · rw [if_neg hk, if_neg hk]
    exact h k'

theorem Alike.listed (h : Alike R m m') (order : List κ) :
    List.Forall₂ R (m.listed order) (m'.listed order) := by
  induction order with
  | nil => exact .nil
  | cons k ks ih =>
    unfold Table.listed at ih ⊢
    rw [List.filterMap_cons, List.filterMap_cons]
    rcases h.lookup_cases k with ⟨hm, hm'⟩ | ⟨x, y, hm, hm', hxy⟩
    · rw [hm, hm']
      exact ih
    · rw [hm, hm']
      exact .cons hxy ih

/-- No record of the kind `Hidden` has been changed or lost. -/
def Untouched (Hidden : ν → Prop) (m m' : Table κ ν) : Prop :=
  ∀ k x, m.lookup k = some x → Hidden x → m'.lookup k = some x

variable {Hidden : ν → Prop}

theorem Untouched.refl (Hidden : ν → Prop) (m : Table κ ν) : Untouched Hidden m m :=
  fun _ _ hx _ => hx

theorem Untouched.trans {m'' : Table κ ν} (h : Untouched Hidden m m')
    (h' : Untouched Hidden m' m'') : Untouched Hidden m m'' :=
  fun k x hx hh => h' k x (h k x hx hh) hh

/-- A write under a key that holds no hidden record. -/
theorem Untouched.set (hm : SetAt m k x m') (hk : ∀ y, m.lookup k = some y → ¬ Hidden y) :
    Untouched Hidden m m' := by
  intro k' y hy hh
  have hne : k' ≠ k := by
    rintro rfl
    exact hk y hy hh
  rw [hm.lookup_ne hne, hy]

end Table

/-! ### Searching related lists -/

variable {R : ν → ν → Prop} {p : ν → Bool} {xs ys : List ν}

/-- A filter that keeps only records that are the same in both lists. -/
theorem filter_eq_of_forall₂ (h : List.Forall₂ R xs ys)
    (hp : ∀ x y, R x y → x = y ∨ p x = false ∧ p y = false) :
    xs.filter p = ys.filter p := by
  induction h with
  | nil => rfl
  | @cons x y xs ys hxy _ ih =>
    rw [List.filter_cons, List.filter_cons, ih]
    rcases hp x y hxy with rfl | ⟨hx, hy⟩
    · rfl
    · rw [hx, hy]
      rfl

/-- A search that stops at the same place of both lists. -/
theorem find?_rel_of_forall₂ (h : List.Forall₂ R xs ys) (hp : ∀ x y, R x y → p x = p y) :
    Option.Rel R (xs.find? p) (ys.find? p) := by
  induction h with
  | nil => exact .none
  | @cons x y xs ys hxy _ ih =>
    rw [List.find?_cons, List.find?_cons, hp x y hxy]
    cases p y with
    | true => exact .some hxy
    | false => exact ih

end Library
