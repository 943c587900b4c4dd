import Hanbova.Messages.System

/-! When the first acknowledgement of a message is recorded. -/
namespace Hanbova

open Library Library.Text
open InMemoryUserRepository (Users)
open InMemoryPaymentIntentRepository (Storage)

/-- A step records acknowledgements as it should: the timestamp is missing exactly while the
message is delivered, the first move away sets it to the clock of that step, nothing changes it
later, and reporting the current status again changes nothing. -/
structure AcknowledgesFirst (x : Transition MessageState MessageEvent) : Prop where
  unset : ∀ id r, x.post.messages.lookup id = some r →
    (r.acknowledgedAt = none ↔ r.status = "delivered")
  moved : ∀ id r r', x.pre.messages.lookup id = some r → x.post.messages.lookup id = some r' →
    r.status = "delivered" → r'.status ≠ "delivered" →
    ∃ p now a, x.label = .ackWritten p now (.ok a) ∧ r'.acknowledgedAt = some now
  kept : ∀ id r t, x.pre.messages.lookup id = some r → r.acknowledgedAt = some t →
    ∃ r', x.post.messages.lookup id = some r' ∧ r'.acknowledgedAt = some t
  repeated : ∀ p now a r, x.label = .ackWritten p now (.ok a) →
    x.pre.messages.lookup p.id = some r → r.status = p.newStatus →
    x.post.messages.lookup p.id = some r

/-- The step writes the report `delivered` on a message that has no acknowledgement yet. -/
def EarlyReceipt (x : Transition MessageState MessageEvent) : Prop :=
  ∃ p now answer r, x.label = .ackWritten p now answer ∧ p.newStatus = "delivered" ∧
    x.pre.messages.lookup p.id = some r ∧ r.acknowledgedAt = none

namespace MessageState
variable {T : CaseTable} {users : Users} {storage : Storage} {s t : MessageState}
  {e : MessageEvent}

/-- A message without an acknowledgement is still delivered. -/
def Unacknowledged (s : MessageState) : Prop :=
  ∀ id r, s.messages.lookup id = some r → r.acknowledgedAt = none → r.status = "delivered"

theorem Step.unacknowledged (h : Step T users storage s e t) (hs : s.Invariant)
    (hu : s.Unacknowledged) : t.Unacknowledged := by
  intro id r hr hn
  rcases h.messages with he | ⟨row, -, hrow, hm⟩ |
    ⟨p, now, allowed, row, -, -, -, hl, -, hm⟩
  · exact hu id r (he ▸ hr) hn
  · rw [hm id] at hr
    split_ifs at hr
    · obtain rfl := Option.some.inj hr
      exact (hs.creating_new row hrow).1
    · exact hu id r hr hn
  · rw [hm id] at hr
    split_ifs at hr
    · obtain rfl := Option.some.inj hr
      cases hack : row.acknowledgedAt <;>
        simp [InMemoryProtectedMessageRepository.reported, hack] at hn
    · exact hu id r hr hn

theorem unacknowledged_of_reachable (h : (messageSystem T).Reachable s) : s.Unacknowledged := by
  refine h.induct (P := Unacknowledged) ?_ ?_
  · rintro _ rfl id r hr
    simp [initial] at hr
  · rintro s e t hr hu ⟨_, _, hl⟩
    exact Step.unacknowledged hl (invariant_of_reachable hr) hu

/-- A message that is still delivered has no acknowledgement. -/
def Unmarked (s : MessageState) : Prop :=
  ∀ id r, s.messages.lookup id = some r → r.status = "delivered" → r.acknowledgedAt = none

/-- The report `delivered` is accepted for delivered messages only. -/
theorem mem_allowed_delivered {allowed : List String} {a : String}
    (h : allowedMessageSources "delivered" = .ok allowed) (ha : a ∈ allowed) :
    a = "delivered" := by
  obtain rfl := Except.ok.inj h
  exact List.mem_singleton.mp ha

theorem Step.unmarked (h : Step T users storage s e t) (hs : s.Invariant) (hu : s.Unmarked)
    (he : ¬ EarlyReceipt ⟨s, e, t⟩) : t.Unmarked := by
  intro id r hr hst
  rcases h.messages with hm | ⟨row, -, hrow, hm⟩ |
    ⟨p, now, allowed, row, rfl, -, ha, hl, hra, hm⟩
  · exact hu id r (hm ▸ hr) hst
  · rw [hm id] at hr
    split_ifs at hr
    · obtain rfl := Option.some.inj hr
      exact (hs.creating_new row hrow).2
    · exact hu id r hr hst
  · rw [hm id] at hr
    split_ifs at hr
    · obtain rfl := Option.some.inj hr
      have hp : p.newStatus = "delivered" := hst
      have hd : row.status = "delivered" := mem_allowed_delivered (hp ▸ ha) hra
      exact absurd ⟨p, now, _, row, rfl, hp, hl, hu _ _ hl hd⟩ he
    · exact hu id r hr hst

/-- A step that is no early receipt, on messages of which the delivered ones are unmarked. -/
theorem Step.acknowledgesFirst (h : Step T users storage s e t) (hs : s.Invariant)
    (hn : s.Unacknowledged) (hu : s.Unmarked) (he : ¬ EarlyReceipt ⟨s, e, t⟩) :
    AcknowledgesFirst ⟨s, e, t⟩ where
  unset id r hr := ⟨h.unacknowledged hs hn id r hr, h.unmarked hs hu he id r hr⟩
  moved id r r' hr hr' hd hne := by
    rcases h.messages with hm | ⟨row, -, hrow, hm⟩ |
      ⟨p, now, allowed, row, rfl, -, -, hl, -, hm⟩
    · rw [hm, hr] at hr'
      obtain rfl := Option.some.inj hr'
      exact absurd hd hne
    · rw [hm id] at hr'
      split_ifs at hr'
      · obtain rfl := Option.some.inj hr'
        exact absurd (hs.creating_new row hrow).1 hne
      · obtain rfl := Option.some.inj (hr.symm.trans hr')
        exact absurd hd hne
    · rw [hm id] at hr'
      split_ifs at hr' with hid
      · subst hid
        obtain rfl := Option.some.inj hr'
        obtain rfl := Option.some.inj (hr.symm.trans hl)
        refine ⟨p, now, _, rfl, ?_⟩
        simp [InMemoryProtectedMessageRepository.reported, hu _ _ hr hd]
      · obtain rfl := Option.some.inj (hr.symm.trans hr')
        exact absurd hd hne
  kept id r t' hr ht := by
    obtain ⟨r', hr', hlater⟩ := h.evolves hs id r hr
    exact ⟨r', hr', hlater.acknowledged t' ht⟩
  repeated p now a r hl hr hst := by
    rcases h.messages with hm | ⟨row, rfl, -⟩ |
      ⟨q, now', allowed, row, rfl, -, ha, hlq, hra, hm⟩
    · exact hm ▸ hr
    · cases hl
    · cases hl
      obtain rfl := Option.some.inj (hr.symm.trans hlq)
      rw [hm.lookup_self]
      have hack : r.acknowledgedAt ≠ none := by
        intro hack
        have hd := hn _ _ hr hack
        exact he ⟨p, now, _, r, rfl, hst ▸ hd, hr, hack⟩
      obtain ⟨t', ht'⟩ := Option.ne_none_iff_exists'.mp hack
      rw [← hst, InMemoryProtectedMessageRepository.reported_self ht']

/-- An early receipt is accepted and marks a message that stays delivered. -/
theorem Step.marks_early (h : Step T users storage s e t) (hn : s.Unacknowledged)
    (he : EarlyReceipt ⟨s, e, t⟩) :
    ∃ id r, t.messages.lookup id = some r ∧ r.status = "delivered" ∧
      r.acknowledgedAt ≠ none := by
  obtain ⟨p, now, answer, r, hlabel, hp, hr, hack⟩ := he
  have hd : r.status = "delivered" := hn _ _ hr hack
  have hup : InMemoryProtectedMessageRepository.updateMessageStatus s.messages p.id p.newStatus
      now = .ok (s.messages.insert p.id
        (InMemoryProtectedMessageRepository.reported r p.newStatus now)) := by
    have hl : AList.lookup p.id s.messages = some r := hr
    simp [InMemoryProtectedMessageRepository.updateMessageStatus, allowedMessageSources, hp, hl, hd]
  cases h with
  | @ackWritten p' now' answer' messages hmem hw =>
    cases hlabel
    rw [AckMessage.write, hup] at hw
    obtain ⟨-, rfl⟩ := Prod.mk.inj hw
    refine ⟨p.id, _, AList.lookup_insert _, hp, ?_⟩
    simp [InMemoryProtectedMessageRepository.reported, hack]
  | _ => cases hlabel

end MessageState

open MessageState in
theorem acknowledges_first_iff {T : CaseTable} {tr : List (Transition MessageState MessageEvent)}
    {s : MessageState} (h : (messageSystem T).Trace tr s) :
    (∀ x ∈ tr, AcknowledgesFirst x) ↔ ∀ x ∈ tr, ¬ EarlyReceipt x := by
  constructor
  · intro hall x hx he
    obtain ⟨hreach, ⟨_, _, hl⟩, -⟩ := h.split hx
    obtain ⟨id, r, hr, hd, hack⟩ := hl.marks_early (unacknowledged_of_reachable hreach) he
    exact hack (((hall x hx).unset id r hr).mpr hd)
  · intro hearly x hx
    obtain ⟨hreach, ⟨_, _, hl⟩, -⟩ := h.split hx
    obtain ⟨s₀, rfl, hrun⟩ := h
    have hu : x.pre.Unmarked := by
      refine (hrun.induct_mem (P := Unmarked) (.init rfl) ?_ ?_ hx).1
      · intro id r hr
        simp [initial] at hr
      · rintro y hy hyr ⟨_, _, hyl⟩ hyu
        exact hyl.unmarked (invariant_of_reachable hyr) hyu (hearly y hy)
    exact hl.acknowledgesFirst (invariant_of_reachable hreach)
      (unacknowledged_of_reachable hreach) hu (hearly x hx)

open MessageState in
/-- Bob confirms that the message was delivered: it is marked as acknowledged and stays
delivered. -/
theorem not_acknowledges_first : ∃ tr s, (messageSystem .ascii).Trace tr s ∧
    (∃ r, s.messages.lookup (.ofNat 3) = some r ∧ r.status = "delivered" ∧
      r.acknowledgedAt = some .epoch) ∧
    ¬ ∀ x ∈ tr, AcknowledgesFirst x := by
  obtain ⟨tr, h, -⟩ := trace_sampleDelivered
  have h₁ := h.snoc ⟨∅, ∅, @Step.ackChecked .ascii _ _ _ sampleBob (.ofNat 3)
    ⟨some "delivered"⟩ (sampleAck sampleBob "delivered") (by decide +kernel)⟩
  have h₂ :=
    h₁.snoc ⟨∅, ∅, @Step.ackWritten .ascii _ _ _ (sampleAck sampleBob "delivered") .epoch
      _ _ (by decide +kernel) rfl⟩
  refine ⟨_, _, h₂, ⟨_, rfl, rfl, rfl⟩, fun hall => ?_⟩
  have hx := (hall _ (List.mem_append_right _ List.mem_cons_self)).unset (.ofNat 3) _ rfl
  exact absurd (hx.mpr rfl) (by decide +kernel)

open MessageState in
/-- Bob acknowledges the message. -/
theorem acknowledges_first_sample : ∃ tr s, (messageSystem .ascii).Trace tr s ∧
    (∃ r, s.messages.lookup (.ofNat 3) = some r ∧ r.status = "acknowledged") ∧
    ∀ x ∈ tr, AcknowledgesFirst x := by
  obtain ⟨tr, h, hquiet⟩ := trace_sampleDelivered
  have h₁ := h.snoc ⟨∅, ∅, @Step.ackChecked .ascii _ _ _ sampleBob (.ofNat 3) ⟨none⟩
    (sampleAck sampleBob "acknowledged") (by decide +kernel)⟩
  have h₂ :=
    h₁.snoc ⟨∅, ∅, @Step.ackWritten .ascii _ _ _ (sampleAck sampleBob "acknowledged")
      .epoch _ _ (by decide +kernel) rfl⟩
  refine ⟨_, _, h₂, ⟨_, rfl, rfl⟩, (acknowledges_first_iff h₂).mpr ?_⟩
  rintro x hx ⟨p, now, answer, r, hlabel, hp, -⟩
  simp only [List.mem_append, List.mem_singleton] at hx
  rcases hx with (hx | rfl) | rfl
  · exact hquiet x hx p now answer hlabel
  · cases hlabel
  · cases hlabel
    exact absurd hp (by decide)

end Hanbova
