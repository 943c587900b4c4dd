import Hanbova.Library.History

/-! Calls in flight over one shared state, whose steps interleave freely. -/
namespace Library

universe u v w

/-- The shared state and the calls that have not answered yet. -/
@[ext]
structure Pool (σ : Type u) (κ : Type w) where
  shared : σ
  calls : List κ

namespace Pool
variable {σ : Type u} {ℓ : Type v} {κ : Type w}

/-- A call starts, or one of the calls takes a step, after which it goes on or has ended. -/
inductive Step (start : ℓ → κ → Prop)
    (step : σ → κ → ℓ → σ → Option κ → Prop) :
    Pool σ κ → ℓ → Pool σ κ → Prop
  | started {s : σ} {cs : List κ} {l : ℓ} {c : κ} (h : start l c) :
      Step start step ⟨s, cs⟩ l ⟨s, c :: cs⟩
  | moved {s s' : σ} {l : ℓ} {c : κ} {next : Option κ} (xs ys : List κ)
      (h : step s c l s' next) :
      Step start step ⟨s, xs ++ c :: ys⟩ l ⟨s', xs ++ next.toList ++ ys⟩

/-- At first no call is in flight. -/
def system (init : σ → Prop) (start : ℓ → κ → Prop)
    (step : σ → κ → ℓ → σ → Option κ → Prop) : System (Pool σ κ) ℓ where
  init p := init p.shared ∧ p.calls = []
  step := Step start step

variable {init : σ → Prop} {start : ℓ → κ → Prop}
    {step : σ → κ → ℓ → σ → Option κ → Prop}
variable {tr : List (Transition (Pool σ κ) ℓ)} {p q : Pool σ κ} {l : ℓ}

/-- What a step of the pool does to the shared state. -/
theorem Step.shared (h : Step start step p l q) :
    q.shared = p.shared ∨ ∃ c ∈ p.calls, ∃ next, step p.shared c l q.shared next := by
  cases h with
  | started h => exact .inl rfl
  | moved xs ys h => exact .inr ⟨_, List.mem_append_right _ (List.mem_cons_self), _, h⟩

/-- A call that is in flight after a step has just started, is the one that took the step, or was
in flight before it. -/
theorem Step.mem (h : Step start step p l q) {c : κ} (hc : c ∈ q.calls) :
    (q.shared = p.shared ∧ start l c) ∨
      (∃ c₀ ∈ p.calls, step p.shared c₀ l q.shared (some c)) ∨ c ∈ p.calls := by
  cases h with
  | started h =>
    rcases List.mem_cons.mp hc with rfl | hc
    · exact .inl ⟨rfl, h⟩
    · exact .inr (.inr hc)
  | @moved s s' l c₀ next xs ys h =>
    simp only [List.mem_append] at hc
    rcases hc with (hc | hc) | hc
    · exact .inr (.inr (List.mem_append_left _ hc))
    · obtain rfl := Option.mem_toList.mp hc
      exact .inr (.inl ⟨c₀, List.mem_append_right _ List.mem_cons_self, h⟩)
    · exact .inr (.inr (List.mem_append_right _ (List.mem_cons_of_mem _ hc)))

/-- What is known of the shared state and, separately, of each call, where nothing that is known of
a call is lost by the steps of the others. -/
theorem trace_induct {I : List (Transition (Pool σ κ) ℓ) → σ → Prop}
    {J : List (Transition (Pool σ κ) ℓ) → κ → Prop}
    (h : (system init start step).Trace tr p)
    (h₀ : ∀ s, init s → I [] s) (hI : ∀ tr x s, I tr s → I (tr ++ [x]) s)
    (hJ : ∀ tr x c, J tr c → J (tr ++ [x]) c)
    (hstart : ∀ tr p l q c, start l c → J (tr ++ [⟨p, l, q⟩]) c)
    (hstep : ∀ tr p l q c next, I tr p.shared → J tr c → step p.shared c l q.shared next →
      I (tr ++ [⟨p, l, q⟩]) q.shared ∧ ∀ c' ∈ next, J (tr ++ [⟨p, l, q⟩]) c') :
    I tr p.shared ∧ ∀ c ∈ p.calls, J tr c := by
  refine h.induct (P := fun tr p => I tr p.shared ∧ ∀ c ∈ p.calls, J tr c) ?_ ?_
  · rintro p ⟨hp, hcalls⟩
    refine ⟨h₀ _ hp, fun c hc => ?_⟩
    rw [hcalls] at hc
    cases hc
  · rintro tr p l q - ⟨hi, hj⟩ hl
    constructor
    · rcases hl.shared with he | ⟨c, hc, next, hs⟩
      · rw [he]
        exact hI _ _ _ hi
      · exact (hstep tr p l q c next hi (hj c hc) hs).1
    · intro c hc
      rcases hl.mem hc with ⟨-, hs⟩ | ⟨c₀, hc₀, hs⟩ | hc
      · exact hstart tr p l q c hs
      · exact (hstep tr p l q c₀ _ hi (hj c₀ hc₀) hs).2 c rfl
      · exact hJ _ _ _ (hj c hc)

end Pool
end Library
