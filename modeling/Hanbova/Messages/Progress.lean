import Hanbova.Messages.System

/-! Protected messages move forward only, and by the party whose report it is. -/
namespace Hanbova

open Library Library.Text
open InMemoryUserRepository (Users)
open InMemoryPaymentIntentRepository (Storage)

/-- The step is an accepted report by the user `userId` that gave the message `id` the status
`status`. -/
def ReportedBy (x : Transition MessageState MessageEvent) (userId id : Uuid) (status : String) :
    Prop :=
  ∃ p now a, x.label = .ackWritten p now (.ok a) ∧ p.authUser.userId = userId ∧ p.id = id ∧
    p.newStatus = status ∧ ∃ r, x.pre.messages.lookup id = some r ∧ r.status ≠ status

/-- Messages start out delivered and only move forward, each status is reported by the party
entitled to it, and only a request that is granted writes. -/
structure MonotoneDelivery (tr : List (Transition MessageState MessageEvent)) (s : MessageState) :
    Prop where
  start : ∀ x ∈ tr, ∀ id r, x.pre.messages.lookup id = none →
    x.post.messages.lookup id = some r → r.status = "delivered"
  forward : ∀ x ∈ tr, ∀ id r, x.pre.messages.lookup id = some r →
    ∃ r', s.messages.lookup id = some r' ∧
      ∃ c d : Delivery, c.name = r.status ∧ d.name = r'.status ∧ c ≤ d
  final : ∀ x ∈ tr, ∀ id r, x.pre.messages.lookup id = some r →
    r.status = "claimed" ∨ r.status = "refunded" →
    ∃ r', s.messages.lookup id = some r' ∧ r'.status = r.status
  claimed : ∀ id r, s.messages.lookup id = some r → r.status = "claimed" →
    ∃ x ∈ tr, ReportedBy x r.recipientUserId id "claimed"
  refunded : ∀ id r, s.messages.lookup id = some r → r.status = "refunded" →
    ∃ x ∈ tr, ReportedBy x r.senderUserId id "refunded"
  acknowledged : ∀ id r, s.messages.lookup id = some r → r.status = "acknowledged" →
    ∃ x ∈ tr, ReportedBy x r.recipientUserId id "acknowledged"
  writes : ∀ x ∈ tr, x.label.answer ≠ some (.ok ()) → x.post.messages = x.pre.messages

namespace MessageState
variable {T : CaseTable} {users : Users} {storage : Storage} {s t : MessageState}
  {e : MessageEvent}

/-- The stored message `id` has the status `status`. -/
def HasStatus (id : Uuid) (status : String) (s : MessageState) : Prop :=
  ∃ r, s.messages.lookup id = some r ∧ r.status = status

theorem Step.start (h : Step T users storage s e t) (hs : s.Invariant) {id : Uuid}
    {r : ProtectedMessageRow} (hpre : s.messages.lookup id = none)
    (hpost : t.messages.lookup id = some r) : r.status = "delivered" := by
  rcases h.messages with he | ⟨row, -, hrow, hm⟩ |
    ⟨p, now, allowed, row, -, -, -, hl, -, hm⟩
  · rw [he, hpre] at hpost
    cases hpost
  · rw [hm id] at hpost
    split_ifs at hpost
    · obtain rfl := Option.some.inj hpost
      exact (hs.creating_new row hrow).1
    · rw [hpre] at hpost
      cases hpost
  · rw [hm id] at hpost
    split_ifs at hpost with hid
    · rw [hid, hl] at hpre
      cases hpre
    · rw [hpre] at hpost
      cases hpost

/-- A step into a status other than the first is a permitted report. -/
theorem Step.reports (h : Step T users storage s e t) (hs : s.Invariant) {id : Uuid}
    {status : String} (hpre : ¬ HasStatus id status s) (hpost : HasStatus id status t)
    (hne : status ≠ "delivered") :
    ∃ (p : PendingAck) (r : ProtectedMessageRow),
      ReportedBy ⟨s, e, t⟩ p.authUser.userId id status ∧ s.messages.lookup id = some r ∧
      AckMessage.Permitted p.authUser.userId r status := by
  obtain ⟨r', hr', rfl⟩ := hpost
  rcases h.messages with he | ⟨row, -, hrow, hm⟩ |
    ⟨p, now, allowed, row, rfl, hp, -, hl, -, hm⟩
  · exact absurd ⟨r', he ▸ hr', rfl⟩ hpre
  · rw [hm id] at hr'
    split_ifs at hr'
    · obtain rfl := Option.some.inj hr'
      exact absurd (hs.creating_new row hrow).1 hne
    · exact absurd ⟨r', hr', rfl⟩ hpre
  · rw [hm id] at hr'
    split_ifs at hr' with hid
    · subst hid
      obtain rfl := Option.some.inj hr'
      obtain ⟨r, hr, hperm⟩ := hs.permitted p hp
      obtain rfl := Option.some.inj (hl.symm.trans hr)
      refine ⟨p, row, ⟨p, now, _, rfl, rfl, rfl, rfl, row, hl, fun he => ?_⟩, hl, hperm⟩
      exact hpre ⟨row, hl, he⟩
    · exact absurd ⟨r', hr', rfl⟩ hpre

/-- A status other than the first was brought about by a permitted report. -/
theorem reportedBy_of_hasStatus {tr : List (Transition MessageState MessageEvent)}
    (h : (messageSystem T).Trace tr s) {id : Uuid} {r : ProtectedMessageRow}
    (hr : s.messages.lookup id = some r) (hne : r.status ≠ "delivered") :
    ∃ x ∈ tr, ∃ userId, ReportedBy x userId id r.status ∧
      AckMessage.Permitted userId r r.status := by
  have htrace := h
  obtain ⟨s₀, rfl, hrun⟩ := htrace
  have h₀ : ¬ HasStatus id r.status .initial := by
    rintro ⟨r₀, hr₀, -⟩
    simp [initial] at hr₀
  obtain ⟨x, hx, hpre, hpost⟩ := hrun.entering h₀ ⟨r, hr, rfl⟩
  obtain ⟨hreach, ⟨_, _, hl⟩, tr₂, hrest⟩ := h.split hx
  obtain ⟨p, r₁, hrep, hr₁, hperm⟩ :=
    hl.reports (invariant_of_reachable hreach) hpre hpost hne
  have hrun' := (System.Run.single (T := messageSystem T) ⟨_, _, hl⟩).append hrest
  obtain ⟨r₂, hr₂, hlater⟩ := later_of_run hrun' hreach _ _ hr₁
  obtain rfl := Option.some.inj (hr.symm.trans hr₂)
  obtain ⟨-, -, hsender, hrecipient, -⟩ := hlater.letter.parties
  refine ⟨x, hx, p.authUser.userId, hrep, ?_⟩
  unfold AckMessage.Permitted at *
  rwa [hsender, hrecipient]

end MessageState

open MessageState in
theorem monotone_delivery {T : CaseTable} {tr : List (Transition MessageState MessageEvent)}
    {s : MessageState} (h : (messageSystem T).Trace tr s) : MonotoneDelivery tr s where
  start x hx id r hpre hpost := by
    obtain ⟨hreach, ⟨_, _, hl⟩, -⟩ := h.split hx
    exact Step.start hl (invariant_of_reachable hreach) hpre hpost
  forward x hx id r hr := by
    obtain ⟨hreach, hl, tr₂, hrest⟩ := h.split hx
    obtain ⟨r', hr', hlater⟩ :=
      later_of_run ((System.Run.single hl).append hrest) hreach id r hr
    obtain ⟨c, hc⟩ := (invariant_of_reachable hreach).status id r hr
    obtain ⟨d, hd, hcd⟩ := hlater.status c hc
    exact ⟨r', hr', c, d, hc, hd, hcd⟩
  final x hx id r hr hst := by
    obtain ⟨hreach, hl, tr₂, hrest⟩ := h.split hx
    obtain ⟨r', hr', hlater⟩ :=
      later_of_run ((System.Run.single hl).append hrest) hreach id r hr
    refine ⟨r', hr', ?_⟩
    rcases hst with hst | hst <;> rw [hst]
    · exact Delivery.Follows.claimed (hst ▸ hlater.status)
    · exact Delivery.Follows.refunded (hst ▸ hlater.status)
  claimed id r hr hst := by
    obtain ⟨x, hx, userId, hrep, hperm⟩ := reportedBy_of_hasStatus h hr (by rw [hst]; decide)
    rw [hst] at hrep hperm
    rcases hperm with ⟨-, rfl⟩ | ⟨he, -⟩
    · exact ⟨x, hx, hrep⟩
    · exact absurd he (by decide)
  refunded id r hr hst := by
    obtain ⟨x, hx, userId, hrep, hperm⟩ := reportedBy_of_hasStatus h hr (by rw [hst]; decide)
    rw [hst] at hrep hperm
    rcases hperm with ⟨he, -⟩ | ⟨-, rfl⟩
    · exact absurd he (by decide)
    · exact ⟨x, hx, hrep⟩
  acknowledged id r hr hst := by
    obtain ⟨x, hx, userId, hrep, hperm⟩ := reportedBy_of_hasStatus h hr (by rw [hst]; decide)
    rw [hst] at hrep hperm
    rcases hperm with ⟨-, rfl⟩ | ⟨he, -⟩
    · exact ⟨x, hx, hrep⟩
    · exact absurd he (by decide)
  writes x hx ha := by
    obtain ⟨-, ⟨_, _, hl⟩, -⟩ := h.split hx
    exact Step.writes hl ha

open MessageState in
/-- Carol's refund report, checked before Bob's claim is written, comes too late. -/
theorem monotone_delivery_race : ∃ tr s, (messageSystem .ascii).Trace tr s ∧
    (s.messages.lookup (.ofNat 3)).map ProtectedMessageRow.status = some "claimed" ∧
    MonotoneDelivery tr s := by
  obtain ⟨tr, h, -⟩ := trace_sampleDelivered
  have h₁ :=
    h.snoc ⟨∅, ∅, @Step.ackChecked .ascii _ _ _ sampleBob (.ofNat 3) ⟨some "claimed"⟩
      (sampleAck sampleBob "claimed") (by decide +kernel)⟩
  have h₂ := h₁.snoc ⟨∅, ∅, @Step.ackChecked .ascii _ _ _ sampleCarol (.ofNat 3)
    ⟨some "refunded"⟩ (sampleAck sampleCarol "refunded") (by decide +kernel)⟩
  have h₃ :=
    h₂.snoc ⟨∅, ∅, @Step.ackWritten .ascii _ _ _ (sampleAck sampleBob "claimed") .epoch
      _ _ (by decide +kernel) rfl⟩
  have h₄ :=
    h₃.snoc ⟨∅, ∅, @Step.ackWritten .ascii _ _ _ (sampleAck sampleCarol "refunded")
      .epoch _ _ (by decide +kernel) rfl⟩
  exact ⟨_, _, h₄, by decide +kernel, monotone_delivery h₄⟩

end Hanbova
