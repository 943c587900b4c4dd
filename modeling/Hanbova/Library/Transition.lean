import Mathlib.Data.List.Basic
import Mathlib.Tactic.Common

/-! Labelled transition systems, their finite runs, and the induction rules for runs. -/
namespace Library

universe u v u' v'

/-- One step as a run records it: the state before, the label, the state after. -/
structure Transition (σ : Type u) (ℓ : Type v) where
  pre : σ
  label : ℓ
  post : σ

/-- A labelled transition system. -/
structure System (σ : Type u) (ℓ : Type v) where
  init : σ → Prop
  step : σ → ℓ → σ → Prop

namespace System
variable {σ : Type u} {ℓ : Type v} {σ' : Type u'} {ℓ' : Type v'}

/-- `T.Run s tr t`: the transitions `tr`, in order, lead from `s` to `t`. -/
inductive Run (T : System σ ℓ) (s : σ) : List (Transition σ ℓ) → σ → Prop
  | nil : Run T s [] s
  | snoc {tr : List (Transition σ ℓ)} {t u : σ} {l : ℓ} :
      Run T s tr t → T.step t l u → Run T s (tr ++ [⟨t, l, u⟩]) u

/-- A run that starts in an initial state. -/
def Trace (T : System σ ℓ) (tr : List (Transition σ ℓ)) (s : σ) : Prop :=
  ∃ s₀, T.init s₀ ∧ T.Run s₀ tr s

def Reachable (T : System σ ℓ) (s : σ) : Prop := ∃ tr, T.Trace tr s

variable {T : System σ ℓ} {s t u : σ} {l : ℓ} {tr tr' : List (Transition σ ℓ)}

theorem Run.single (h : T.step s l t) : T.Run s [⟨s, l, t⟩] t := by
  simpa using Run.nil.snoc h

theorem Run.append (h : T.Run s tr t) (h' : T.Run t tr' u) : T.Run s (tr ++ tr') u := by
  induction h' with
  | nil => simpa using h
  | snoc _ hs ih => simpa only [List.append_assoc] using ih.snoc hs

theorem Run.step_of_mem (h : T.Run s tr t) {x : Transition σ ℓ} (hx : x ∈ tr) :
    T.step x.pre x.label x.post := by
  induction h with
  | nil => simp at hx
  | snoc _ hs ih =>
    rcases List.mem_append.mp hx with hx | hx
    · exact ih hx
    · rw [List.mem_singleton.mp hx]; exact hs

/-- A run passes through each of its transitions. -/
theorem Run.split (h : T.Run s tr t) {x : Transition σ ℓ} (hx : x ∈ tr) :
    ∃ tr₁ tr₂, tr = tr₁ ++ x :: tr₂ ∧ T.Run s tr₁ x.pre ∧ T.Run x.post tr₂ t := by
  induction h with
  | nil => simp at hx
  | @snoc tr t u l hr hs ih =>
    rcases List.mem_append.mp hx with hx | hx
    · obtain ⟨tr₁, tr₂, rfl, h₁, h₂⟩ := ih hx
      exact ⟨tr₁, tr₂ ++ [⟨t, l, u⟩], by simp, h₁, h₂.snoc hs⟩
    · obtain rfl := List.mem_singleton.mp hx
      exact ⟨tr, [], rfl, hr, .nil⟩

theorem Trace.append (h : T.Trace tr s) (h' : T.Run s tr' t) : T.Trace (tr ++ tr') t := by
  obtain ⟨s₀, h₀, hr⟩ := h
  exact ⟨s₀, h₀, hr.append h'⟩

theorem Trace.snoc (h : T.Trace tr s) (hs : T.step s l t) : T.Trace (tr ++ [⟨s, l, t⟩]) t :=
  h.append (.single hs)

theorem Trace.reachable (h : T.Trace tr s) : T.Reachable s := ⟨tr, h⟩

theorem Reachable.init (h : T.init s) : T.Reachable s := ⟨[], s, h, .nil⟩

theorem Reachable.run (h : T.Reachable s) (h' : T.Run s tr t) : T.Reachable t := by
  obtain ⟨tr₀, h⟩ := h
  exact ⟨tr₀ ++ tr, h.append h'⟩

theorem Reachable.step (h : T.Reachable s) (hs : T.step s l t) : T.Reachable t :=
  h.run (.single hs)

/-- The two halves of a trace around one of its transitions. -/
theorem Trace.split (h : T.Trace tr s) {x : Transition σ ℓ} (hx : x ∈ tr) :
    T.Reachable x.pre ∧ T.step x.pre x.label x.post ∧ ∃ tr₂, T.Run x.post tr₂ s := by
  obtain ⟨s₀, h₀, hr⟩ := h
  obtain ⟨tr₁, tr₂, -, h₁, h₂⟩ := hr.split hx
  exact ⟨⟨tr₁, s₀, h₀, h₁⟩, hr.step_of_mem hx, tr₂, h₂⟩

/-- Of two transitions of a trace one is taken first, or they are the same. -/
theorem Trace.order (h : T.Trace tr s) {x y : Transition σ ℓ} (hx : x ∈ tr) (hy : y ∈ tr) :
    x = y ∨ (∃ tr', T.Run x.post tr' y.pre) ∨ ∃ tr', T.Run y.post tr' x.pre := by
  obtain ⟨s₀, -, hr⟩ := h
  induction hr with
  | nil => simp at hx
  | @snoc tr t u l hr hs ih =>
    rcases List.mem_append.mp hx with hx | hx <;> rcases List.mem_append.mp hy with hy | hy
    · exact ih hx hy
    · obtain ⟨_, tr₂, -, -, h₂⟩ := hr.split hx
      rw [List.mem_singleton.mp hy]
      exact .inr (.inl ⟨tr₂, h₂⟩)
    · obtain ⟨_, tr₂, -, -, h₂⟩ := hr.split hy
      rw [List.mem_singleton.mp hx]
      exact .inr (.inr ⟨tr₂, h₂⟩)
    · exact .inl ((List.mem_singleton.mp hx).trans (List.mem_singleton.mp hy).symm)

/-- A property of the initial states that every step keeps holds in every reachable state. -/
theorem Reachable.induct {P : σ → Prop} (h : T.Reachable s) (h₀ : ∀ s, T.init s → P s)
    (hs : ∀ s l t, T.Reachable s → P s → T.step s l t → P t) : P s := by
  obtain ⟨tr, s₀, hi, hr⟩ := h
  induction hr with
  | nil => exact h₀ _ hi
  | snoc hr hl ih => exact hs _ _ _ ⟨_, s₀, hi, hr⟩ ih hl

/-- A property that the steps of this run keep, along the run. -/
theorem Run.induct {P : σ → Prop} (h : T.Run s tr t) (hs₀ : T.Reachable s) (h₀ : P s)
    (hs : ∀ x ∈ tr, T.Reachable x.pre → T.step x.pre x.label x.post →
      P x.pre → P x.post) :
    P t := by
  induction h with
  | nil => exact h₀
  | @snoc tr t u l hr hl ih =>
    have ht : P t := ih fun x hx => hs x (List.mem_append_left _ hx)
    exact hs ⟨t, l, u⟩ (by simp) (hs₀.run hr) hl ht

/-- The same, at each transition of the run. -/
theorem Run.induct_mem {P : σ → Prop} (h : T.Run s tr t) (hs₀ : T.Reachable s) (h₀ : P s)
    (hs : ∀ x ∈ tr, T.Reachable x.pre → T.step x.pre x.label x.post → P x.pre → P x.post)
    {x : Transition σ ℓ} (hx : x ∈ tr) : P x.pre ∧ P x.post := by
  obtain ⟨tr₁, tr₂, rfl, h₁, -⟩ := h.split hx
  have hp : P x.pre := h₁.induct hs₀ h₀ fun y hy => hs y (List.mem_append_left _ hy)
  exact ⟨hp, hs x hx (hs₀.run h₁) (h.step_of_mem hx) hp⟩

/-- A reflexive and transitive relation that contains the steps contains the runs. -/
theorem Run.relates {R : σ → σ → Prop} (h : T.Run s tr t) (hs₀ : T.Reachable s)
    (hr : ∀ s, R s s) (ht : ∀ {s t u}, R s t → R t u → R s u)
    (hs : ∀ s l t, T.Reachable s → T.step s l t → R s t) : R s t :=
  h.induct hs₀ (hr s) fun _ _ hp hl hR => ht hR (hs _ _ _ hp hl)

/-- What fails at the start of a run and holds at its end was brought about by one of its steps. -/
theorem Run.entering {P : σ → Prop} (h : T.Run s tr t) (hs : ¬ P s) (ht : P t) :
    ∃ x ∈ tr, ¬ P x.pre ∧ P x.post := by
  induction h with
  | nil => exact absurd ht hs
  | @snoc tr t u l _ _ ih =>
    by_cases hp : P t
    · obtain ⟨x, hx, hxp⟩ := ih hp
      exact ⟨x, List.mem_append_left _ hx, hxp⟩
    · exact ⟨⟨t, l, u⟩, by simp, hp, ht⟩

/-- A map that sends steps to steps sends runs to runs. -/
theorem Run.lift (h : T.Run s tr t) (T' : System σ' ℓ') (f : σ → σ') (g : ℓ → ℓ')
    (hs : ∀ s l t, T.step s l t → T'.step (f s) (g l) (f t)) :
    T'.Run (f s) (tr.map fun x => ⟨f x.pre, g x.label, f x.post⟩) (f t) := by
  induction h with
  | nil => exact .nil
  | snoc _ hl ih => simpa using ih.snoc (hs _ _ _ hl)

/-- A map that sends initial states to initial states and steps to steps or to nothing
sends reachable states to reachable states. -/
theorem Reachable.map {T' : System σ' ℓ'} (f : σ → σ') (h : T.Reachable s)
    (h₀ : ∀ s, T.init s → T'.init (f s))
    (hs : ∀ s l t, T.step s l t → f t = f s ∨ ∃ l', T'.step (f s) l' (f t)) :
    T'.Reachable (f s) := by
  refine h.induct (P := fun s => T'.Reachable (f s)) (fun s hi => .init (h₀ s hi)) ?_
  intro s l t _ ih hl
  rcases hs s l t hl with he | ⟨l', hl'⟩
  · rw [he]; exact ih
  · exact ih.step hl'

end System
end Library
