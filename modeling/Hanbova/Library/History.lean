import Hanbova.Library.Transition
import Mathlib.Data.List.Induction
import Mathlib.Order.Lattice

/-! Properties of the whole history of a run: what holds after each of its steps, the first step
that brings something about, and the clock that its steps read. -/
namespace Library
namespace System

universe u v w
variable {σ : Type u} {ℓ : Type v} {τ : Type w}
variable {T : System σ ℓ} {s t u : σ} {l : ℓ} {tr tr₁ tr₂ : List (Transition σ ℓ)}

/-- A property of a trace and the state it ends in, proved along the trace. -/
theorem Trace.induct {P : List (Transition σ ℓ) → σ → Prop} (h : T.Trace tr s)
    (h₀ : ∀ s, T.init s → P [] s)
    (hs : ∀ tr s l t, T.Trace tr s → P tr s → T.step s l t → P (tr ++ [⟨s, l, t⟩]) t) :
    P tr s := by
  obtain ⟨s₀, hi, hr⟩ := h
  induction hr with
  | nil => exact h₀ _ hi
  | snoc hr hl ih => exact hs _ _ _ _ ⟨s₀, hi, hr⟩ ih hl

/-- `P` holds of every trace that begins this one, with the state that it ends in. -/
def Throughout (T : System σ ℓ) (tr : List (Transition σ ℓ))
    (P : List (Transition σ ℓ) → σ → Prop) : Prop :=
  ∀ tr₁ s₁, tr₁ <+: tr → T.Trace tr₁ s₁ → P tr₁ s₁

/-- The history up to one of the transitions, and that transition itself. -/
theorem Trace.upTo (h : T.Trace tr s) {x : Transition σ ℓ} (hx : x ∈ tr) :
    ∃ tr₁, tr₁ ++ [x] <+: tr ∧ T.Trace tr₁ x.pre ∧ T.step x.pre x.label x.post ∧
      T.Trace (tr₁ ++ [x]) x.post := by
  obtain ⟨s₀, h₀, hr⟩ := h
  obtain ⟨tr₁, tr₂, rfl, h₁, -⟩ := hr.split hx
  have hl := hr.step_of_mem hx
  have ht : T.Trace tr₁ x.pre := ⟨s₀, h₀, h₁⟩
  exact ⟨tr₁, ⟨tr₂, by simp⟩, ht, hl, ht.snoc hl⟩

/-- A property that certain transitions break at once, and that holds where none of them has
happened, holds throughout a trace if and only if none of them is in it. -/
theorem Trace.throughout_iff (h : T.Trace tr s) {P : List (Transition σ ℓ) → σ → Prop}
    {C : Transition σ ℓ → Prop}
    (hbreaks : ∀ tr₁ x, tr₁ ++ [x] <+: tr → T.Trace tr₁ x.pre →
      T.step x.pre x.label x.post →
      C x → ¬ P (tr₁ ++ [x]) x.post)
    (hholds : ∀ tr₁ s₁, tr₁ <+: tr → T.Trace tr₁ s₁ → (∀ x ∈ tr₁, ¬ C x) →
      P tr₁ s₁) :
    T.Throughout tr P ↔ ∀ x ∈ tr, ¬ C x := by
  constructor
  · intro hall x hx hC
    obtain ⟨tr₁, hp, hpre, hl, hpost⟩ := h.upTo hx
    exact hbreaks tr₁ x hp hpre hl hC (hall _ _ hp hpost)
  · intro hx tr₁ s₁ hp ht
    exact hholds tr₁ s₁ hp ht fun x hmem => hx x (hp.subset hmem)

/-- A run ends where it starts or after one of its transitions. -/
theorem Run.ending (h : T.Run s tr t) : t = s ∨ ∃ x ∈ tr, x.post = t := by
  cases h with
  | nil => exact .inl rfl
  | snoc _ _ => exact .inr ⟨_, List.mem_append_right _ (List.mem_singleton_self _), rfl⟩

/-- What does not hold at the start of a run and holds after one of its steps has a step that
brings it about for the first time. -/
theorem Run.entering_first {P : σ → Prop} (h : T.Run s tr t) (hs : ¬ P s)
    (hx : ∃ x ∈ tr, P x.post) :
    ∃ tr₁ x tr₂, tr = tr₁ ++ x :: tr₂ ∧ (∀ y ∈ tr₁, ¬ P y.post) ∧
      ¬ P x.pre ∧ P x.post := by
  induction h with
  | nil => simp at hx
  | @snoc tr t u l hr _ ih =>
    by_cases hp : ∃ y ∈ tr, P y.post
    · obtain ⟨tr₁, x, tr₂, he, hx⟩ := ih hp
      exact ⟨tr₁, x, tr₂ ++ [⟨t, l, u⟩], by simp [he], hx⟩
    · have hnone : ∀ y ∈ tr, ¬ P y.post := fun y hy hPy => hp ⟨y, hy, hPy⟩
      have ht : ¬ P t := by
        rcases hr.ending with he | ⟨y, hy, he⟩
        · rw [he]; exact hs
        · rw [← he]; exact hnone y hy
      obtain ⟨x, hx, hPx⟩ := hx
      have hlast : x = ⟨t, l, u⟩ := by
        rcases List.mem_append.mp hx with hx | hx
        · exact absurd hPx (hnone x hx)
        · exact List.mem_singleton.mp hx
      subst hlast
      exact ⟨tr, _, [], rfl, hnone, ht, hPx⟩

/-! ### Labels -/

/-- What a run does, in order. -/
def labels (tr : List (Transition σ ℓ)) : List ℓ := tr.map Transition.label

theorem labels_append (tr₁ tr₂ : List (Transition σ ℓ)) :
    labels (tr₁ ++ tr₂) = labels tr₁ ++ labels tr₂ := List.map_append

theorem filterMap_labels_snoc (f : ℓ → Option τ) (tr : List (Transition σ ℓ))
    (x : Transition σ ℓ) :
    (labels (tr ++ [x])).filterMap f = (labels tr).filterMap f ++ (f x.label).toList := by
  rw [labels_append, List.filterMap_append]
  cases hx : f x.label <;> simp [labels, hx]

theorem mem_labels {l : ℓ} : l ∈ labels tr ↔ ∃ x ∈ tr, x.label = l := List.mem_map

/-- The last transition of a run. -/
theorem Run.unsnoc {x : Transition σ ℓ} (h : T.Run s (tr ++ [x]) t) :
    T.Run s tr x.pre ∧ T.step x.pre x.label x.post ∧ t = x.post := by
  generalize he : tr ++ [x] = tr' at h
  cases h with
  | nil => simp at he
  | snoc hr hl =>
    obtain ⟨rfl, hx⟩ := List.append_inj' he rfl
    obtain rfl := List.singleton_inj.mp hx
    exact ⟨hr, hl, rfl⟩

/-- A run can be cut anywhere. -/
theorem Run.cut (h : T.Run s (tr₁ ++ tr₂) t) : ∃ u, T.Run s tr₁ u ∧ T.Run u tr₂ t := by
  induction tr₂ using List.reverseRecOn generalizing t with
  | nil => exact ⟨t, by simpa using h, .nil⟩
  | append_singleton tr₂ x ih =>
    rw [← List.append_assoc] at h
    obtain ⟨hr, hl, rfl⟩ := h.unsnoc
    obtain ⟨u, h₁, h₂⟩ := ih hr
    exact ⟨u, h₁, h₂.snoc hl⟩

/-- A run can be cut around one of its transitions. -/
theorem Run.cut_cons {x : Transition σ ℓ} (h : T.Run s (tr₁ ++ x :: tr₂) t) :
    T.Run s tr₁ x.pre ∧ T.step x.pre x.label x.post ∧ T.Run x.post tr₂ t := by
  rw [List.append_cons] at h
  obtain ⟨u, h₁, h₂⟩ := h.cut
  obtain ⟨hr, hl, rfl⟩ := h₁.unsnoc
  exact ⟨hr, hl, h₂⟩

/-- A run can be cut around one of its labels. -/
theorem Run.cut_label {as bs : List ℓ} (h : T.Run s tr t) (he : labels tr = as ++ l :: bs) :
    ∃ tr₁ p q tr₂, tr = tr₁ ++ ⟨p, l, q⟩ :: tr₂ ∧ labels tr₁ = as ∧
      labels tr₂ = bs ∧
      T.Run s tr₁ p ∧ T.step p l q ∧ T.Run q tr₂ t := by
  obtain ⟨tr₁, tr', rfl, h₁, h'⟩ := List.map_eq_append_iff.mp he
  obtain ⟨x, tr₂, rfl, rfl, h₂⟩ := List.map_eq_cons_iff.mp h'
  obtain ⟨hr, hl, hr'⟩ := h.cut_cons
  exact ⟨tr₁, x.pre, x.post, tr₂, rfl, h₁, h₂, hr, hl, hr'⟩

/-- The first step of a run whose labels are known. -/
theorem Run.cut_head {ls : List ℓ} (h : T.Run s tr t) (he : labels tr = l :: ls) :
    ∃ u tr', T.step s l u ∧ labels tr' = ls ∧ T.Run u tr' t := by
  rw [← List.nil_append (l :: ls)] at he
  obtain ⟨tr₁, p, q, tr₂, -, h₁, h₂, hr, hl, hr'⟩ := h.cut_label he
  obtain rfl : tr₁ = [] := List.map_eq_nil_iff.mp h₁
  rcases hr.ending with hp | ⟨x, hx, -⟩
  · subst hp
    exact ⟨q, tr₂, hl, h₂, hr'⟩
  · cases hx

/-! ### Clocks -/

variable {clock : ℓ → List τ}

/-- The readings of the clock, in the order of the steps that take them. -/
def readings (clock : ℓ → List τ) (tr : List (Transition σ ℓ)) : List τ :=
  tr.flatMap fun x => clock x.label

theorem readings_append (clock : ℓ → List τ) (tr₁ tr₂ : List (Transition σ ℓ)) :
    readings clock (tr₁ ++ tr₂) = readings clock tr₁ ++ readings clock tr₂ :=
  List.flatMap_append

theorem mem_readings {x : Transition σ ℓ} (hx : x ∈ tr) {a : τ} (ha : a ∈ clock x.label) :
    a ∈ readings clock tr := List.mem_flatMap.mpr ⟨x, hx, ha⟩

variable [LinearOrder τ]

/-- The clock never goes back. -/
def Timed (clock : ℓ → List τ) (tr : List (Transition σ ℓ)) : Prop :=
  (readings clock tr).Pairwise (· ≤ ·)

theorem timed_of_readings (ts : List τ) (h : readings clock tr = ts)
    (ht : ts.Pairwise (· ≤ ·)) : Timed clock tr := by
  rw [Timed, h]
  exact ht

theorem Timed.of_isPrefix (h : Timed clock tr) (hp : tr₁ <+: tr) : Timed clock tr₁ := by
  obtain ⟨tr₂, rfl⟩ := hp
  unfold Timed at h
  rw [readings_append] at h
  exact (List.pairwise_append.mp h).1

/-- A step reads a time no earlier than all readings before it. -/
theorem Timed.le (h : Timed clock (tr₁ ++ tr₂)) {a b : τ} (ha : a ∈ readings clock tr₁)
    (hb : b ∈ readings clock tr₂) : a ≤ b := by
  unfold Timed at h
  rw [readings_append] at h
  exact (List.pairwise_append.mp h).2.2 a ha b hb

end System
end Library
