import Mathlib.Algebra.Order.Monoid.Defs
import Mathlib.Data.List.Count
import Mathlib.Tactic.Common
import Mathlib.Tactic.WLOG

/-! Grants that are counted in windows of one length, and how many of them an interval of that
length can hold. -/
namespace Library

/-- A grant, with the start of the window that it is counted in. -/
structure Grant (τ : Type*) where
  window : τ
  time : τ

variable {τ : Type*} [AddCommMonoid τ] [LinearOrder τ]

/-- Every grant lies in its window, no two windows overlap, and none holds more than `limit`. -/
structure Windowed (length : τ) (limit : ℕ) (grants : List (Grant τ)) : Prop where
  within : ∀ g ∈ grants, g.window ≤ g.time ∧ g.time < g.window + length
  apart : ∀ g ∈ grants, ∀ g' ∈ grants, g.window < g'.window →
    g.window + length ≤ g'.window
  few : ∀ s, grants.countP (fun g => g.window = s) ≤ limit

theorem countP_le_add {α : Type*} {p q r : α → Bool} {xs : List α}
    (h : ∀ x ∈ xs, p x = true → q x = true ∨ r x = true) :
    xs.countP p ≤ xs.countP q + xs.countP r := by
  induction xs with
  | nil => rfl
  | cons x xs ih =>
    have hrest := ih fun y hy => h y (List.mem_cons_of_mem x hy)
    have hx := h x List.mem_cons_self
    simp only [List.countP_cons]
    cases hp : p x with
    | false =>
      simp only [Bool.false_eq_true, if_false]
      omega
    | true =>
      rcases hx hp with hq | hr
      · simp only [hq, if_true]
        omega
      · simp only [hr, if_true]
        omega

namespace Windowed
variable {length t : τ} {limit : ℕ} {grants : List (Grant τ)} {g g₁ g₂ g₃ : Grant τ}

theorem nil (length : τ) (limit : ℕ) : Windowed length limit [] where
  within _ hg := (List.not_mem_nil hg).elim
  apart _ hg := (List.not_mem_nil hg).elim
  few _ := Nat.zero_le limit

/-- One more grant, in a window that is the last so far. -/
theorem snoc (h : Windowed length limit grants) (hwithin : g.window ≤ g.time)
    (hend : g.time < g.window + length)
    (hlast : ∀ g' ∈ grants, g'.window = g.window ∨ g'.window + length ≤ g.window)
    (hfew : grants.countP (fun g' => g'.window = g.window) < limit) :
    Windowed length limit (grants ++ [g]) where
  within := by
    intro g' hg'
    rcases List.mem_append.mp hg' with hg' | hg'
    · exact h.within g' hg'
    · rw [List.mem_singleton.mp hg']
      exact ⟨hwithin, hend⟩
  apart := by
    intro g₁ hg₁ g₂ hg₂ hlt
    rcases List.mem_append.mp hg₁ with hold₁ | hnew₁
    · rcases List.mem_append.mp hg₂ with hold₂ | hnew₂
      · exact h.apart g₁ hold₁ g₂ hold₂ hlt
      · obtain rfl := List.mem_singleton.mp hnew₂
        exact (hlast g₁ hold₁).resolve_left hlt.ne
    · exfalso
      obtain rfl := List.mem_singleton.mp hnew₁
      rcases List.mem_append.mp hg₂ with hold₂ | hnew₂
      · obtain ⟨hle, hbefore⟩ := h.within g₂ hold₂
        have hafter := (hlast g₂ hold₂).resolve_left hlt.ne'
        exact lt_asymm hlt (hle.trans_lt (hbefore.trans_le hafter))
      · rw [List.mem_singleton.mp hnew₂] at hlt
        exact lt_irrefl _ hlt
  few := by
    intro s
    rw [List.countP_append, List.countP_singleton]
    by_cases hs : g.window = s
    · subst hs
      simpa using Nat.succ_le_of_lt hfew
    · simpa [hs] using h.few s

variable [IsOrderedAddMonoid τ]

/-- An interval of the length of the windows does not reach into three of them. -/
theorem not_three (h : Windowed length limit grants) (hg₁ : g₁ ∈ grants)
    (hg₂ : g₂ ∈ grants)
    (hg₃ : g₃ ∈ grants) (h₁₂ : g₁.window < g₂.window)
    (h₂₃ : g₂.window < g₃.window)
    (hstart : t ≤ g₁.time) : ¬ g₃.time < t + length := by
  intro hend
  have hbefore : t < g₂.window :=
    calc t ≤ g₁.time := hstart
      _ < g₁.window + length := (h.within g₁ hg₁).2
      _ ≤ g₂.window := h.apart g₁ hg₁ g₂ hg₂ h₁₂
  have hafter : g₂.window + length < t + length :=
    calc g₂.window + length ≤ g₃.window := h.apart g₂ hg₂ g₃ hg₃ h₂₃
      _ ≤ g₃.time := (h.within g₃ hg₃).1
      _ < t + length := hend
  exact absurd hafter (not_lt.mpr (add_le_add_left hbefore.le length))

theorem two_windows (h : Windowed length limit grants) (t : τ) :
    ∃ s s', ∀ g ∈ grants, t ≤ g.time → g.time < t + length → g.window = s ∨
      g.window = s' := by
  by_cases hsame : ∃ s, ∀ g ∈ grants, t ≤ g.time → g.time < t + length → g.window = s
  · obtain ⟨s, hs⟩ := hsame
    exact ⟨s, s, fun g hg hstart hend => .inl (hs g hg hstart hend)⟩
  · push Not at hsame
    obtain ⟨g₁, hg₁, hstart₁, hend₁, -⟩ := hsame t
    obtain ⟨g₂, hg₂, hstart₂, hend₂, hne⟩ := hsame g₁.window
    wlog hlt : g₁.window < g₂.window generalizing g₁ g₂
    · exact this g₂ hg₂ hstart₂ hend₂ g₁ hg₁ hstart₁ hend₁ hne.symm
        (lt_of_le_of_ne (not_lt.mp hlt) hne)
    refine ⟨g₁.window, g₂.window, fun g hg hstart hend => ?_⟩
    by_contra hthird
    rw [not_or] at hthird
    rcases lt_or_gt_of_ne hthird.1 with hfirst | hfirst
    · exact h.not_three hg hg₁ hg₂ hfirst hlt hstart hend₂
    · rcases lt_or_gt_of_ne hthird.2 with hlast | hlast
      · exact h.not_three hg₁ hg hg₂ hfirst hlast hstart₁ hend₂
      · exact h.not_three hg₁ hg₂ hg hlt hlast hstart₁ hend

/-- An interval of the length of the windows holds no more grants than two of them. -/
theorem countP_le (h : Windowed length limit grants) (t : τ) :
    grants.countP (fun g => t ≤ g.time ∧ g.time < t + length) ≤ 2 * limit := by
  obtain ⟨s, s', hs⟩ := h.two_windows t
  have htwo : grants.countP (fun g => t ≤ g.time ∧ g.time < t + length) ≤
      grants.countP (fun g => g.window = s) + grants.countP (fun g => g.window = s') := by
    refine countP_le_add fun g hg hin => ?_
    simp only [decide_eq_true_eq] at hin ⊢
    exact hs g hg hin.1 hin.2
  have hfew := h.few s
  have hfew' := h.few s'
  omega

end Windowed
end Library
