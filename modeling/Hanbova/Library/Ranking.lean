import Mathlib.Data.List.Sort
import Mathlib.Data.Set.Function

/-! Lists in descending order of a key that no two of their elements share. Such an order leaves
nothing to chance, and the first elements are those that few others exceed. -/
namespace Library

variable {α β τ : Type} [LinearOrder τ] {f : α → τ} {xs ys : List α} {n : ℕ} {x : α}

theorem perm_descending_eq (hx : xs.Pairwise fun x y => f y ≤ f x)
    (hy : ys.Pairwise fun x y => f y ≤ f x) (hp : xs.Perm ys)
    (hf : Set.InjOn f {x | x ∈ xs}) : xs = ys := by
  apply List.Perm.eq_of_pairwise _ hx hy hp
  intro a b ha hb hba hab
  exact hf ha (hp.mem_iff.mpr hb) (le_antisymm hab hba)

/-- Without repetitions the order is strict. -/
theorem strictly_descending (hx : xs.Pairwise fun x y => f y ≤ f x) (hn : xs.Nodup)
    (hf : Set.InjOn f {x | x ∈ xs}) : xs.Pairwise fun x y => f y < f x := by
  induction xs with
  | nil => exact .nil
  | cons a xs ih =>
    obtain ⟨ha, hx⟩ := List.pairwise_cons.mp hx
    obtain ⟨hmem, hn⟩ := List.nodup_cons.mp hn
    refine List.pairwise_cons.mpr ⟨fun y hy => lt_of_le_of_ne (ha y hy) fun he => ?_, ?_⟩
    · obtain rfl : y = a := hf (List.mem_cons_of_mem a hy) List.mem_cons_self he
      exact hmem hy
    · exact ih hx hn (hf.mono fun y hy => List.mem_cons_of_mem a hy)

/-- An element is one of the first `n` if fewer than `n` exceed it. -/
theorem mem_take_iff_countP (h : xs.Pairwise fun x y => f y < f x) :
    x ∈ xs.take n ↔ x ∈ xs ∧ xs.countP (fun y => decide (f x < f y)) < n := by
  induction xs generalizing n with
  | nil => simp
  | cons a xs ih =>
    obtain ⟨ha, hxs⟩ := List.pairwise_cons.mp h
    cases n with
    | zero => simp
    | succ n =>
      rw [List.take_succ_cons, List.mem_cons, List.mem_cons, ih hxs, List.countP_cons]
      by_cases hx : x ∈ xs
      · have hlt : f x < f a := ha x hx
        have hne : x ≠ a := by
          rintro rfl
          exact lt_irrefl _ hlt
        simp [hx, hne, hlt]
      · have hcount : x = a → xs.countP (fun y => decide (f x < f y)) = 0 := by
          rintro rfl
          rw [List.countP_eq_zero]
          intro y hy
          simpa using (ha y hy).le
        constructor
        · rintro (rfl | ⟨hmem, -⟩)
          · exact ⟨.inl rfl, by simp [hcount rfl]⟩
          · exact absurd hmem hx
        · rintro ⟨rfl | hmem, -⟩
          · exact .inl rfl
          · exact absurd hmem hx

/-- A filter leaves the first elements alone if all of them pass it. -/
theorem take_filter_eq_iff (p : α → Bool) :
    (xs.filter p).take n = xs.take n ↔ ∀ x ∈ xs.take n, p x = true := by
  constructor
  · intro h x hx
    rw [← h] at hx
    exact (List.mem_filter.mp (List.mem_of_mem_take hx)).2
  · intro h
    have hsplit : xs.filter p = xs.take n ++ (xs.drop n).filter p := by
      conv_lhs => rw [← List.take_append_drop n xs]
      rw [List.filter_append, List.filter_eq_self.mpr h]
    by_cases hn : n ≤ xs.length
    · rw [hsplit, List.take_left' (by rw [List.length_take, Nat.min_eq_left hn])]
    · have hle : xs.length ≤ n := by omega
      rw [hsplit, List.drop_eq_nil_of_le hle, List.filter_nil, List.append_nil, List.take_take,
        Nat.min_self]

end Library
