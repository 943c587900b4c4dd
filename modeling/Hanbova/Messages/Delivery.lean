import Hanbova.Messages.Repository
import Mathlib.Order.Basic

/-! How far a message has got, and the reports that the source table accepts. -/
namespace Hanbova

inductive Delivery
  | delivered
  | acknowledged
  | claimed
  | refunded
  deriving DecidableEq

namespace Delivery

/-- The text under which the repository stores a stage. -/
def name : Delivery → String
  | delivered => "delivered"
  | acknowledged => "acknowledged"
  | claimed => "claimed"
  | refunded => "refunded"

theorem name_injective : Function.Injective name := by
  intro c d h
  cases c <;> cases d <;> first | rfl | exact absurd h (by decide)

/-- A message is acknowledged after it is delivered, and claimed or refunded after that. -/
def le : Delivery → Delivery → Bool
  | delivered, _ => true
  | acknowledged, d => d ≠ delivered
  | claimed, d => d = claimed
  | refunded, d => d = refunded

instance : PartialOrder Delivery where
  le c d := le c d = true
  le_refl c := by cases c <;> rfl
  le_trans c d e h h' := by
    cases c <;> cases d <;> cases e <;> simp_all [le]
  le_antisymm c d h h' := by
    cases c <;> cases d <;> simp_all [le]

instance : DecidableLE Delivery := fun c d => inferInstanceAs (Decidable (le c d = true))

theorem delivered_le (d : Delivery) : delivered ≤ d := rfl

theorem eq_of_claimed_le {d : Delivery} (h : claimed ≤ d) : d = claimed := by
  cases d <;> first | rfl | cases h

theorem eq_of_refunded_le {d : Delivery} (h : refunded ≤ d) : d = refunded := by
  cases d <;> first | rfl | cases h

/-- The source table holds the stages at or below the reported one. -/
theorem sources_of_allowed {target : String} {allowed : List String}
    (h : allowedMessageSources target = .ok allowed) :
    ∃ d : Delivery, d.name = target ∧
      ∀ a ∈ allowed, ∃ c : Delivery, c.name = a ∧ c ≤ d := by
  unfold allowedMessageSources at h
  split_ifs at h with h₁ h₂ h₃ h₄ <;> obtain rfl := Except.ok.inj h
  · refine ⟨delivered, h₁.symm, fun a ha => ?_⟩
    simp only [List.mem_cons, List.not_mem_nil, or_false] at ha
    exact ⟨delivered, ha.symm, le_rfl⟩
  · refine ⟨acknowledged, h₂.symm, fun a ha => ?_⟩
    simp only [List.mem_cons, List.not_mem_nil, or_false] at ha
    rcases ha with rfl | rfl
    · exact ⟨delivered, rfl, delivered_le _⟩
    · exact ⟨acknowledged, rfl, le_rfl⟩
  · refine ⟨claimed, h₃.symm, fun a ha => ?_⟩
    simp only [List.mem_cons, List.not_mem_nil, or_false] at ha
    rcases ha with rfl | rfl | rfl
    · exact ⟨delivered, rfl, delivered_le _⟩
    · exact ⟨acknowledged, rfl, by decide⟩
    · exact ⟨claimed, rfl, le_rfl⟩
  · refine ⟨refunded, h₄.symm, fun a ha => ?_⟩
    simp only [List.mem_cons, List.not_mem_nil, or_false] at ha
    rcases ha with rfl | rfl | rfl
    · exact ⟨delivered, rfl, delivered_le _⟩
    · exact ⟨acknowledged, rfl, by decide⟩
    · exact ⟨refunded, rfl, le_rfl⟩

/-- The status `b` may follow the status `a`. -/
def Follows (a b : String) : Prop := ∀ c : Delivery, c.name = a →
    ∃ d : Delivery, d.name = b ∧ c ≤ d

theorem Follows.refl (a : String) : Follows a a := fun c hc => ⟨c, hc, le_rfl⟩

theorem Follows.trans {a b c : String} (h : Follows a b) (h' : Follows b c) : Follows a c := by
  intro x hx
  obtain ⟨y, hy, hxy⟩ := h x hx
  obtain ⟨z, hz, hyz⟩ := h' y hy
  exact ⟨z, hz, hxy.trans hyz⟩

theorem Follows.claimed {b : String} (h : Follows "claimed" b) : b = "claimed" := by
  obtain ⟨d, rfl, hd⟩ := h .claimed rfl
  rw [eq_of_claimed_le hd]
  rfl

theorem Follows.refunded {b : String} (h : Follows "refunded" b) : b = "refunded" := by
  obtain ⟨d, rfl, hd⟩ := h .refunded rfl
  rw [eq_of_refunded_le hd]
  rfl

theorem follows_of_allowed {target a : String} {allowed : List String}
    (h : allowedMessageSources target = .ok allowed) (ha : a ∈ allowed) :
    Follows a target := by
  obtain ⟨d, hd, hs⟩ := sources_of_allowed h
  obtain ⟨c, hc, hcd⟩ := hs a ha
  intro c' hc'
  obtain rfl := name_injective (hc'.trans hc.symm)
  exact ⟨d, hd, hcd⟩

/-- The source table leaves no stage out. -/
theorem name_mem_sources {d c : Delivery} {allowed : List String}
    (h : allowedMessageSources d.name = .ok allowed) (hc : c ≤ d) : c.name ∈ allowed := by
  cases d <;> obtain rfl := Except.ok.inj h <;> cases c <;> first | decide | cases hc

/-- A message that has gone too far for a report stays so. -/
theorem Follows.not_allowed {target a b : String} {allowed : List String} {c : Delivery}
    (h : Follows a b) (hc : c.name = a) (ha : allowedMessageSources target = .ok allowed)
    (hn : a ∉ allowed) : b ∉ allowed := by
  intro hb
  obtain ⟨d, rfl, hs⟩ := sources_of_allowed ha
  obtain ⟨e, he, hed⟩ := hs b hb
  obtain ⟨e', he', hce⟩ := h c hc
  obtain rfl := name_injective (he'.trans he.symm)
  exact hn (hc ▸ name_mem_sources ha (hce.trans hed))

end Delivery
end Hanbova
