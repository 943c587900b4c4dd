import Hanbova.Library.History
import Mathlib.Data.List.Perm.Subperm

/-! Forward simulations between labelled transition systems, some of whose steps nobody sees. -/
namespace Library
namespace System

universe u v u' v' w
variable {σ : Type u} {ℓ : Type v} {σ' : Type u'} {ℓ' : Type v'} {ω : Type w}

/-- Whatever `T` does `T'` can do as well: each step of `T` is one of `T'` that looks the same, or
looks like nothing. -/
structure Simulation (T : System σ ℓ) (T' : System σ' ℓ') (view : ℓ → Option ω)
    (view' : ℓ' → ω)
    (R : σ → σ' → Prop) : Prop where
  init : ∀ s, T.init s → ∃ s', T'.init s' ∧ R s s'
  step : ∀ s l t s', T.Reachable s → T.step s l t → R s s' →
    (view l = none ∧ R t s') ∨ ∃ l' t', T'.step s' l' t' ∧
    view l = some (view' l') ∧ R t t'

variable {T : System σ ℓ} {T' : System σ' ℓ'} {view : ℓ → Option ω} {view' : ℓ' → ω}
variable {R : σ → σ' → Prop} {s t : σ} {tr : List (Transition σ ℓ)}

theorem Simulation.run (h : Simulation T T' view view' R) (hr : T.Run s tr t)
    (hs : T.Reachable s) {s' : σ'} (hR : R s s') :
    ∃ tr' t', T'.Run s' tr' t' ∧ R t t' ∧
      (labels tr').map view' = (labels tr).filterMap view := by
  induction hr with
  | nil => exact ⟨[], s', .nil, hR, rfl⟩
  | @snoc tr t u l hr hl ih =>
    obtain ⟨tr', t', hr', hR', he⟩ := ih
    rw [labels_append, List.filterMap_append, ← he]
    rcases h.step t l u t' (hs.run hr) hl hR' with ⟨hview, hu⟩ | ⟨l', u', hl', hview, hu⟩
    · exact ⟨tr', t', hr', hu, by simp [labels, hview]⟩
    · exact ⟨_, u', hr'.snoc hl', hu, by simp [labels, hview]⟩

theorem Simulation.trace (h : Simulation T T' view view' R) (ht : T.Trace tr s) :
    ∃ tr' s', T'.Trace tr' s' ∧ R s s' ∧
      (labels tr').map view' = (labels tr).filterMap view := by
  obtain ⟨s₀, h₀, hr⟩ := ht
  obtain ⟨s₀', h₀', hR⟩ := h.init s₀ h₀
  obtain ⟨tr', s', hr', hR', he⟩ := h.run hr (.init h₀) hR
  exact ⟨tr', s', ⟨s₀', h₀', hr'⟩, hR', he⟩

/-- Whatever `T` does `T'` can do as well, in as many steps as it takes, some of which nobody sees
either. -/
structure WeakSimulation (T : System σ ℓ) (T' : System σ' ℓ') (view : ℓ → Option ω)
    (view' : ℓ' → Option ω) (R : σ → σ' → Prop) : Prop where
  init : ∀ s, T.init s → ∃ s', T'.init s' ∧ R s s'
  step : ∀ s l t s', T.Reachable s → T.step s l t → R s s' →
    ∃ tr' t', T'.Run s' tr' t' ∧ (labels tr').filterMap view' = (view l).toList ∧ R t t'

theorem WeakSimulation.run {view' : ℓ' → Option ω} (h : WeakSimulation T T' view view' R)
    (hr : T.Run s tr t) (hs : T.Reachable s) {s' : σ'} (hR : R s s') :
    ∃ tr' t', T'.Run s' tr' t' ∧ R t t' ∧
      (labels tr').filterMap view' = (labels tr).filterMap view := by
  induction hr with
  | nil => exact ⟨[], s', .nil, hR, rfl⟩
  | @snoc tr t u l hr hl ih =>
    obtain ⟨tr', t', hr', hR', he⟩ := ih
    obtain ⟨tr₁, u', hr₁, he₁, hu⟩ := h.step t l u t' (hs.run hr) hl hR'
    refine ⟨tr' ++ tr₁, u', hr'.append hr₁, hu, ?_⟩
    rw [labels_append, labels_append, List.filterMap_append, List.filterMap_append, he, he₁]
    cases hview : view l <;> simp [labels, hview]

theorem WeakSimulation.trace {view' : ℓ' → Option ω} (h : WeakSimulation T T' view view' R)
    (ht : T.Trace tr s) :
    ∃ tr' s', T'.Trace tr' s' ∧ R s s' ∧
      (labels tr').filterMap view' = (labels tr).filterMap view := by
  obtain ⟨s₀, h₀, hr⟩ := ht
  obtain ⟨s₀', h₀', hR⟩ := h.init s₀ h₀
  obtain ⟨tr', s', hr', hR', he⟩ := h.run hr (.init h₀) hR
  exact ⟨tr', s', ⟨s₀', h₀', hr'⟩, hR', he⟩

/-- A run of a part is a run of the whole, in which the other parts stay as they are. -/
theorem Run.embed (f : σ → σ') (g : ℓ → ℓ') (h : T.Run s tr t)
    (hs : ∀ x ∈ tr, T.step x.pre x.label x.post → T'.step (f x.pre) (g x.label) (f x.post)) :
    ∃ tr', T'.Run (f s) tr' (f t) ∧ labels tr' = (labels tr).map g := by
  induction h with
  | nil => exact ⟨[], .nil, rfl⟩
  | snoc _ hl ih =>
    obtain ⟨tr', hr', he⟩ := ih fun x hx => hs x (List.mem_append_left _ hx)
    have hlast := hs _ (List.mem_append_right _ (List.mem_singleton_self _)) hl
    refine ⟨_, hr'.snoc hlast, ?_⟩
    rw [labels_append, labels_append, List.map_append, he]
    rfl

/-- A map that sends each step to a step or to nothing sends traces to traces, and the labels along
with them. -/
theorem Trace.project (f : σ → σ') (g : ℓ → Option ℓ') (ht : T.Trace tr s)
    (h₀ : ∀ s, T.init s → T'.init (f s))
    (hn : ∀ s l t, T.Reachable s → T.step s l t → g l = none → f t = f s)
    (hs : ∀ s l t l', T.Reachable s → T.step s l t → g l = some l' →
      T'.step (f s) l' (f t)) :
    ∃ tr', T'.Trace tr' (f s) ∧ labels tr' = (labels tr).filterMap g := by
  have hsim : Simulation T T' g id (fun s s' => f s = s') :=
    ⟨fun s hi => ⟨f s, h₀ s hi, rfl⟩, fun s l t s' hr hl hR => by
      subst hR
      cases hg : g l with
      | none => exact .inl ⟨rfl, hn s l t hr hl hg⟩
      | some l' => exact .inr ⟨l', f t, hs s l t l' hr hl hg, rfl, rfl⟩⟩
  obtain ⟨tr', s', ht', rfl, he⟩ := hsim.trace ht
  rw [List.map_id] at he
  exact ⟨tr', ht', he⟩

/-- The system that takes only the steps that `C` lets it take. -/
def restrict (T : System σ ℓ) (C : σ → ℓ → Prop) : System σ ℓ where
  init := T.init
  step s l t := T.step s l t ∧ C s l

theorem Run.restrict {C : σ → ℓ → Prop} (h : T.Run s tr t)
    (hC : ∀ x ∈ tr, C x.pre x.label) :
    (T.restrict C).Run s tr t := by
  induction h with
  | nil => exact .nil
  | snoc _ hl ih =>
    have hlast := hC _ (List.mem_append_right _ (List.mem_singleton_self _))
    exact (ih fun x hx => hC x (List.mem_append_left _ hx)).snoc ⟨hl, hlast⟩

theorem Trace.restrict {C : σ → ℓ → Prop} (h : T.Trace tr s)
    (hC : ∀ x ∈ tr, C x.pre x.label) :
    (T.restrict C).Trace tr s := by
  obtain ⟨s₀, h₀, hr⟩ := h
  exact ⟨s₀, h₀, hr.restrict hC⟩

end System

/-! ### What is in flight on both sides -/

section
variable {α β : Type*} [DecidableEq α] [DecidableEq β] {f : α → β} {xs : List α}
    {ys : List β}

/-- One of the elements is taken out, of the list and of its image. -/
theorem perm_map_erase (h : (xs.map f).Perm ys) {a : α} (ha : a ∈ xs) :
    ((xs.erase a).map f).Perm (ys.erase (f a)) := by
  have hcons : (f a :: (xs.erase a).map f).Perm ys :=
    ((List.perm_cons_erase ha).map f).symm.trans h
  have herase := hcons.erase (f a)
  rwa [List.erase_cons_head] at herase

theorem subperm_map_erase (h : (xs.map f).Subperm ys) {a : α} (ha : a ∈ xs) :
    ((xs.erase a).map f).Subperm (ys.erase (f a)) := by
  have hperm := (List.perm_cons_erase ha).map f
  have hcons := (hperm.subperm_right.mp (List.Subperm.refl _)).trans h
  simpa using hcons.erase (f a)

/-- What is in flight on one side is so on the other, until it is taken out on both. -/
theorem subperm_exists_erase {γ : Type*} [DecidableEq γ] {g : γ → β} {zs : List γ}
    (h : (xs.map f).Subperm (zs.map g)) {a : α} (ha : a ∈ xs) :
    ∃ c ∈ zs, g c = f a ∧ ((xs.erase a).map f).Subperm ((zs.erase c).map g) := by
  obtain ⟨c, hc, he⟩ := List.mem_map.mp (h.subset (List.mem_map_of_mem ha))
  refine ⟨c, hc, he, ?_⟩
  have herase := perm_map_erase (f := g) (List.Perm.refl _) hc
  rw [he] at herase
  exact (subperm_map_erase h ha).trans herase.symm.subperm

end

end Library
