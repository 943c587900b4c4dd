import Mathlib.Data.List.Induction
import Mathlib.Tactic.Common

/-! A service that answers one request after another, and two of its runs side by side. -/
namespace Library

variable {σ ρ α : Type*}

/-- The answers of a service to a sequence of requests, and the state it is left in. -/
def serveAll (serve : σ → ρ → α × σ) : σ → List ρ → List α × σ
  | s, [] => ([], s)
  | s, r :: rs =>
    let (a, s') := serve s r
    let (as, s'') := serveAll serve s' rs
    (a :: as, s'')

theorem serveAll_cons (serve : σ → ρ → α × σ) (s : σ) (r : ρ) (rs : List ρ) :
    serveAll serve s (r :: rs) =
      ((serve s r).1 :: (serveAll serve (serve s r).2 rs).1,
        (serveAll serve (serve s r).2 rs).2) := rfl

theorem serveAll_append (serve : σ → ρ → α × σ) (s : σ) (rs rs' : List ρ) :
    serveAll serve s (rs ++ rs') =
      ((serveAll serve s rs).1 ++ (serveAll serve (serveAll serve s rs).2 rs').1,
        (serveAll serve (serveAll serve s rs).2 rs').2) := by
  induction rs generalizing s with
  | nil => rfl
  | cons r rs ih => rw [List.cons_append, serveAll_cons, ih, serveAll_cons, List.cons_append]

/-- One more request. -/
theorem serveAll_snoc (serve : σ → ρ → α × σ) (s : σ) (rs : List ρ) (r : ρ) :
    serveAll serve s (rs ++ [r]) =
      ((serveAll serve s rs).1 ++ [(serve (serveAll serve s rs).2 r).1],
        (serve (serveAll serve s rs).2 r).2) := serveAll_append serve s rs [r]

/-- States that no request tells apart, as long as `R` relates them for the requests to come, and
that only move along `S`. -/
theorem serveAll_twin {serve : σ → ρ → α × σ} {R : List ρ → σ → σ → Prop}
    {S : σ → σ → Prop}
    (hrefl : ∀ s, S s s) (htrans : ∀ {s t u}, S s t → S t u → S s u)
    (hstep : ∀ r rs s s', R (r :: rs) s s' →
      (serve s r).1 = (serve s' r).1 ∧ R rs (serve s r).2 (serve s' r).2 ∧
        S s (serve s r).2 ∧ S s' (serve s' r).2)
    {s s' : σ} (rs : List ρ) (h : R rs s s') :
    (serveAll serve s rs).1 = (serveAll serve s' rs).1 ∧
      S s (serveAll serve s rs).2 ∧ S s' (serveAll serve s' rs).2 := by
  induction rs generalizing s s' with
  | nil => exact ⟨rfl, hrefl s, hrefl s'⟩
  | cons r rs ih =>
    obtain ⟨ha, hR, hS, hS'⟩ := hstep r rs s s' h
    obtain ⟨has, ht, ht'⟩ := ih hR
    rw [serveAll_cons, serveAll_cons, ha, has]
    exact ⟨rfl, htrans hS ht, htrans hS' ht'⟩

end Library
