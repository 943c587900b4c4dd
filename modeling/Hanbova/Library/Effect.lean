import Mathlib.Tactic.Common

/-! Computations over a state that may fail. What they have written before they fail stays. -/
namespace Library

variable {σ ε α β : Type}

abbrev Effect (σ ε α : Type) := ExceptT ε (StateM σ) α

namespace Effect

/-- The outcome from a state, and the state afterwards. -/
def exec (x : Effect σ ε α) (s : σ) : Except ε α × σ := x s

/-- An access to the state as a whole. -/
def ofFun (f : σ → Except ε α × σ) : Effect σ ε α := f

@[simp] theorem exec_ofFun (f : σ → Except ε α × σ) (s : σ) : (ofFun f).exec s = f s := rfl

theorem exec_bind (x : Effect σ ε α) (f : α → Effect σ ε β) (s : σ) :
    (x >>= f).exec s = match x.exec s with
      | (.ok a, s') => (f a).exec s'
      | (.error e, s') => (.error e, s') := by
  unfold exec
  simp only [bind, ExceptT.bind, ExceptT.mk, StateT.bind]
  cases x s with
  | mk r s' => cases r <;> rfl

variable {x : Effect σ ε α} {f : α → Effect σ ε β} {s s' : σ} {e : ε}

/-- A sequence fails in its first part, or in the second one after the first has done its work. -/
theorem bind_error (h : (x >>= f).exec s = (.error e, s')) :
    x.exec s = (.error e, s') ∨
      ∃ a s₁, x.exec s = (.ok a, s₁) ∧ (f a).exec s₁ = (.error e, s') := by
  rw [exec_bind] at h
  cases hx : x.exec s with
  | mk r s₁ =>
    rw [hx] at h
    cases r with
    | ok a => exact .inr ⟨a, s₁, rfl, h⟩
    | error e' =>
      obtain ⟨he, rfl⟩ := Prod.mk.inj h
      exact .inl (by rw [Except.error.inj he])

/-- The computation leaves the state alone. -/
def ReadsOnly (x : Effect σ ε α) : Prop := ∀ s r s', x.exec s = (r, s') → s' = s

/-- The computation leaves the state alone when it fails. -/
def FailsCleanly (x : Effect σ ε α) : Prop := ∀ s e s', x.exec s = (.error e, s') → s' = s

theorem readsOnly_throw (e : ε) : ReadsOnly (throw e : Effect σ ε α) := by
  intro s r s' h
  exact (Prod.mk.inj h).2.symm

/-- What has been read before does no harm. -/
theorem ReadsOnly.bind (hx : ReadsOnly x) (hf : ∀ a, FailsCleanly (f a)) :
    FailsCleanly (x >>= f) := by
  intro s e s' h
  rcases bind_error h with hx' | ⟨a, s₁, hx', hf'⟩
  · exact hx _ _ _ hx'
  · obtain rfl := hx _ _ _ hx'
    exact hf a _ _ _ hf'

/-- After a clean first part only the second one can leave anything behind. -/
theorem FailsCleanly.bind_error (hx : FailsCleanly x) (h : (x >>= f).exec s = (.error e, s')) :
    (x.exec s = (.error e, s') ∧ s' = s) ∨
      ∃ a s₁, x.exec s = (.ok a, s₁) ∧ (f a).exec s₁ = (.error e, s') := by
  rcases Effect.bind_error h with hx' | h'
  · exact .inl ⟨hx', hx _ _ _ hx'⟩
  · exact .inr h'

end Effect
end Library
