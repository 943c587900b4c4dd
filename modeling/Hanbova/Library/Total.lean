import Hanbova.Library.Table
import Hanbova.Library.Transition
import Mathlib.Algebra.Order.BigOperators.Group.List
import Mathlib.Algebra.Order.Ring.Nat

/-! Totals: over the records of a table, over the steps of a run, and in 64 bits. -/
namespace Library

universe u v

namespace Table
variable {κ : Type u} {ν : Type v} {m m' : Table κ ν} {k : κ} {x y : ν} {f g : ν → ℕ}

def total (f : ν → ℕ) (m : Table κ ν) : ℕ := (m.values.map f).sum

theorem total_empty (f : ν → ℕ) : total f (∅ : Table κ ν) = 0 := rfl

theorem total_le_total (h : ∀ x ∈ m.values, f x ≤ g x) : m.total f ≤ m.total g :=
  List.sum_le_sum h

theorem Rehash.total (h : Rehash m m') (f : ν → ℕ) : m'.total f = m.total f := by
  have hvalues : m.values.Perm m'.values := List.Perm.map _ h
  exact (hvalues.map f).sum_eq.symm

variable [DecidableEq κ]

theorem total_insert (m : Table κ ν) (k : κ) (y : ν) (f : ν → ℕ) :
    (m.insert k y).total f = f y + (m.erase k).total f := rfl

theorem total_erase (h : m.lookup k = some x) (f : ν → ℕ) :
    m.total f = f x + (m.erase k).total f := by
  have hback : (m.insert k x).Rehash m :=
    rehash_of_lookup fun k' => (setAt_self h k').trans (setAt_insert m k x k').symm
  rw [hback.total, total_insert]

theorem total_erase_le (m : Table κ ν) (k : κ) (f : ν → ℕ) :
    (m.erase k).total f ≤ m.total f := by
  cases h : m.lookup k with
  | some x =>
    have := total_erase h f
    omega
  | none =>
    have hm : (m.erase k).Rehash m := by
      refine rehash_of_lookup fun k' => ?_
      rw [lookup_erase]
      split_ifs with hk
      · rw [hk, h]
      · rfl
    exact (hm.total f).ge

theorem SetAt.total (h : SetAt m k y m') (f : ν → ℕ) :
    m'.total f = f y + (m.erase k).total f := by
  have hm : (m.insert k y).Rehash m' :=
    rehash_of_lookup fun k' => (h k').trans (setAt_insert m k y k').symm
  rw [hm.total, total_insert]

/-- A write adds at most the new record. -/
theorem SetAt.total_le (h : SetAt m k y m') (f : ν → ℕ) : m'.total f ≤ m.total f + f y := by
  have hset := h.total f
  have herase := total_erase_le m k f
  omega

/-- A write that replaces a record, where no other record gains. -/
theorem SetAt.total_replace (h : SetAt m k y m') (hk : m.lookup k = some x)
    (hfg : ∀ z, g z ≤ f z) : m'.total g + f x ≤ m.total f + g y := by
  have hset := h.total g
  have herase := total_erase hk f
  have hrest : (m.erase k).total g ≤ (m.erase k).total f := total_le_total fun z _ => hfg z
  omega

end Table

/-- A sum over some of the members, in 64 bits. -/
theorem toNat_foldl_add {ν : Type v} (p : ν → Bool) (f : ν → UInt64) (xs : List ν)
    (n : UInt64) :
    (xs.foldl (fun n x => if p x then n + f x else n) n).toNat =
      (n.toNat + (xs.map fun x => if p x then (f x).toNat else 0).sum) % 2 ^ 64 := by
  induction xs generalizing n with
  | nil =>
    have := n.toNat_lt
    simp only [List.foldl_nil, List.map_nil, List.sum_nil]
    omega
  | cons x xs ih =>
    rw [List.foldl_cons, ih, List.map_cons, List.sum_cons]
    split_ifs
    · rw [UInt64.toNat_add]
      omega
    · rw [Nat.zero_add]

namespace System
variable {σ : Type u} {ℓ : Type v} {T : System σ ℓ} {s t : σ} {tr : List (Transition σ ℓ)}

/-- What each step raises by at most its price, a run raises by at most the prices of its steps. -/
theorem Run.potential (h : T.Run s tr t) (hs₀ : T.Reachable s) (Φ : σ → ℕ)
    (price : Transition σ ℓ → ℕ)
    (hs : ∀ s l t, T.Reachable s → T.step s l t → Φ t ≤ Φ s + price ⟨s, l, t⟩) :
    Φ t ≤ Φ s + (tr.map price).sum := by
  induction h with
  | nil => exact Nat.le_add_right _ _
  | @snoc tr t u l hr hl ih =>
    have hstep := hs t l u (hs₀.run hr) hl
    rw [List.map_append, List.sum_append, List.map_singleton, List.sum_singleton]
    omega

end System
end Library
