import Hanbova.Escrow.Models
import Hanbova.Library.Table
import Hanbova.Library.Transition

/-! A provider as a table of payments that steps create and settle. -/
namespace Hanbova

open Library

/-- The same payment at a later time. -/
def PaymentIntent.Continues (i j : PaymentIntent) : Prop :=
  i.SameTerms j ∧ (i.status.isTerminal = true → j.status = i.status)

namespace PaymentIntent.Continues
variable {i j k : PaymentIntent}

theorem refl (i : PaymentIntent) : i.Continues i := ⟨.refl i, fun _ => rfl⟩

theorem trans (h : i.Continues j) (h' : j.Continues k) : i.Continues k := by
  refine ⟨h.1.trans h'.1, fun hi => ?_⟩
  have hj := h.2 hi
  exact (h'.2 (hj ▸ hi)).trans hj

theorem progress (i : PaymentIntent) (next : PaymentStatus) (now : DateTime) :
    i.Continues (i.progress next now).1 :=
  ⟨i.sameTerms_progress next now, fun h => status_progress_of_terminal h next now⟩

end PaymentIntent.Continues

/-- What there is to see of the payments of a provider: the tracked records, the record that a step
adds, with the identifier that the request supplied, and the payment that a step settles. -/
structure Tracker (σ ℓ ρ : Type) where
  records : σ → Table Uuid ρ
  intent : ρ → PaymentIntent
  token : ρ → Option String
  created : ℓ → Option ρ
  supplied : ℓ → Option Uuid
  settled : ℓ → Option Uuid

namespace Tracker
variable {σ ℓ ρ : Type} (P : Tracker σ ℓ ρ)

/-- The same payment at a later time, with its token. -/
def Continues (r r' : ρ) : Prop :=
  P.token r' = P.token r ∧ (P.intent r).Continues (P.intent r')

/-- Payments that were ever created can be retrieved as they were but for their statuses, which
change in claims and refunds only, and no record takes the place of another; terminal statuses
stand. -/
structure PaymentsKept (tr : List (Transition σ ℓ)) (s : σ) : Prop where
  retrievable : ∀ x ∈ tr, ∀ r, P.created x.label = some r →
    ∃ r', (P.records s).lookup (P.intent r).id = some r' ∧ P.Continues r r'
  kept : ∀ x ∈ tr, Table.Evolves P.Continues (P.records x.pre) (P.records s)
  settled : ∀ x ∈ tr, ∀ id r r', (P.records x.pre).lookup id = some r →
    (P.records x.post).lookup id = some r' → (P.intent r').status ≠ (P.intent r).status →
    P.settled x.label = some id
  terminal : ∀ x ∈ tr, ∀ id r, (P.records x.pre).lookup id = some r →
    (P.intent r).status.isTerminal = true →
    ∃ r', (P.records s).lookup id = some r' ∧ (P.intent r').status = (P.intent r).status

/-- A create that succeeds in this step was not given the identifier of a tracked payment. -/
def Unused (x : Transition σ ℓ) : Prop :=
  ∀ id, P.supplied x.label = some id → (P.records x.pre).lookup id = none

/-- The steps of a provider. -/
inductive Moves (s : σ) (e : ℓ) (t : σ) : Prop
  | other : P.created e = none → P.records t = P.records s → Moves s e t
  | create (r : ρ) : P.created e = some r →
      (P.supplied e = none → (P.records s).lookup (P.intent r).id = none) →
      (∀ id, P.supplied e = some id → (P.intent r).id = id) →
      Table.SetAt (P.records s) (P.intent r).id r (P.records t) → Moves s e t
  | settle (id : Uuid) (r r' : ρ) : P.created e = none → P.settled e = some id →
      (P.records s).lookup id = some r → P.Continues r r' →
      Table.SetAt (P.records s) id r' (P.records t) → Moves s e t

variable {P} {s t : σ} {e : ℓ} {tr : List (Transition σ ℓ)} {T : System σ ℓ}

theorem Continues.refl (r : ρ) : P.Continues r r := ⟨rfl, .refl _⟩

theorem Continues.trans {r r' r'' : ρ} (h : P.Continues r r') (h' : P.Continues r' r'') :
    P.Continues r r'' := ⟨h'.1.trans h.1, h.2.trans h'.2⟩

/-- A new record does not take the place of another. -/
theorem lookup_of_unused {r : ρ}
    (hn : P.supplied e = none → (P.records s).lookup (P.intent r).id = none)
    (hid : ∀ id, P.supplied e = some id → (P.intent r).id = id) (hx : P.Unused ⟨s, e, t⟩) :
    (P.records s).lookup (P.intent r).id = none := by
  cases hs : P.supplied e with
  | none => exact hn hs
  | some id =>
    rw [hid id hs]
    exact hx id hs

theorem Moves.evolves (h : P.Moves s e t) (hx : P.Unused ⟨s, e, t⟩) :
    Table.Evolves P.Continues (P.records s) (P.records t) := by
  cases h with
  | other _ hr =>
    rw [hr]
    exact .refl .refl _
  | create r _ hn hid hset => exact .add .refl hset (lookup_of_unused hn hid hx)
  | settle id r r' _ _ hl hc hset => exact .set .refl hset hl hc

theorem Moves.settled (h : P.Moves s e t) (hx : P.Unused ⟨s, e, t⟩) {id : Uuid} {r r' : ρ}
    (hr : (P.records s).lookup id = some r) (hr' : (P.records t).lookup id = some r')
    (hne : (P.intent r').status ≠ (P.intent r).status) : P.settled e = some id := by
  have hkeep : (P.records s).lookup id = some r' → False := by
    intro hl
    obtain rfl := Option.some.inj (hr.symm.trans hl)
    exact hne rfl
  cases h with
  | other _ heq => exact (hkeep (heq ▸ hr')).elim
  | create r₀ _ hn hid hset =>
    rw [hset id] at hr'
    split_ifs at hr' with he
    · rw [he, lookup_of_unused hn hid hx] at hr
      cases hr
    · exact (hkeep hr').elim
  | settle id' r₀ r₁ _ hs _ _ hset =>
    rw [hset id] at hr'
    split_ifs at hr' with he
    · rw [he, hs]
    · exact (hkeep hr').elim

/-- Along a run that reuses no identifier, payments continue. -/
theorem evolves_of_run (hmoves : ∀ s e t, T.Reachable s → T.step s e t → P.Moves s e t)
    (h : T.Run s tr t) (hs : T.Reachable s) (hx : ∀ x ∈ tr, P.Unused x) :
    Table.Evolves P.Continues (P.records s) (P.records t) := by
  refine h.induct (P := fun t => Table.Evolves P.Continues (P.records s) (P.records t)) hs
    (.refl .refl _) ?_
  intro x hmem hreach hl ih
  exact ih.trans .trans ((hmoves _ _ _ hreach hl).evolves (hx x hmem))

/-- Payments are kept by the runs in which no create is given a tracked identifier. -/
theorem paymentsKept (hmoves : ∀ s e t, T.Reachable s → T.step s e t → P.Moves s e t)
    (h : T.Trace tr s) (hx : ∀ x ∈ tr, P.Unused x) : P.PaymentsKept tr s := by
  obtain ⟨s₀, h₀, hrun⟩ := h
  have hsplit : ∀ x ∈ tr, P.Moves x.pre x.label x.post ∧
      Table.Evolves P.Continues (P.records x.pre) (P.records s) ∧
      Table.Evolves P.Continues (P.records x.post) (P.records s) := by
    intro x hmem
    obtain ⟨tr₁, tr₂, rfl, h₁, h₂⟩ := hrun.split hmem
    have hpre : T.Reachable x.pre := ⟨tr₁, s₀, h₀, h₁⟩
    have hstep := hrun.step_of_mem hmem
    have hm := hmoves _ _ _ hpre hstep
    have hpost := evolves_of_run hmoves h₂ (hpre.step hstep) fun y hy => hx y (by simp [hy])
    exact ⟨hm, (hm.evolves (hx x hmem)).trans .trans hpost, hpost⟩
  refine ⟨?_, fun x hmem => (hsplit x hmem).2.1, ?_, ?_⟩
  · intro x hmem r hr
    obtain ⟨hm, -, hpost⟩ := hsplit x hmem
    cases hm with
    | create r' hc _ _ hset =>
      obtain rfl := Option.some.inj (hr.symm.trans hc)
      exact hpost _ _ hset.lookup_self
    | other hc _ => cases hr.symm.trans hc
    | settle _ _ _ hc => cases hr.symm.trans hc
  · intro x hmem id r r' hr hr' hne
    exact (hsplit x hmem).1.settled (hx x hmem) hr hr' hne
  · intro x hmem id r hr hst
    obtain ⟨r', hl, -, -, hstand⟩ := (hsplit x hmem).2.1 _ _ hr
    exact ⟨r', hl, hstand hst⟩

end Tracker
end Hanbova
