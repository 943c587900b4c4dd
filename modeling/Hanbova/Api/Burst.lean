import Hanbova.Api.RateLimiter
import Hanbova.Library.Windows
import Mathlib.Algebra.Order.BigOperators.Group.List
import Mathlib.Algebra.Order.Group.Nat

/-! How many calls of a peer the limiter allows in an interval that is as long as its window. -/
namespace Hanbova

open Library

namespace RequestRateLimiter

/-- The times of the calls of the peer that have been allowed. -/
def accepted (l : RequestRateLimiter) (p : Peer) (rs : List (Peer × ℕ)) : List ℕ :=
  (rs.zip (l.decisions rs)).filterMap fun x =>
    if x.1.1 = p ∧ x.2.2 = true then some x.1.2 else none

/-- The grants to a peer until `now`, next to what the table still holds for it. -/
structure Counted (l : RequestRateLimiter) (held : Option RequestWindow) (now : ℕ)
    (grants : List (Grant ℕ)) : Prop where
  windowed : Windowed l.window l.limit grants
  started : ∀ w ∈ held, w.startedAt ≤ now
  requests : ∀ w ∈ held, w.requests = grants.countP fun g => g.window = w.startedAt
  last : ∀ w ∈ held, ∀ g ∈ grants, g.window = w.startedAt ∨
    g.window + l.window ≤ w.startedAt
  -- a window is not forgotten before it has ended
  ended : ∀ g ∈ grants, (∃ w ∈ held, w.startedAt = g.window) ∨ g.window + l.window ≤ now

/-- The grants after a call that is counted. -/
def granted (l : RequestRateLimiter) (held : Option RequestWindow) (now : ℕ)
    (grants : List (Grant ℕ)) : List (Grant ℕ) :=
  if (l.count held now).1 then grants ++ [⟨(l.count held now).2.startedAt, now⟩] else grants

variable {l : RequestRateLimiter} {p : Peer} {now t : ℕ} {held : Option RequestWindow}
  {grants : List (Grant ℕ)} {peers : Peers} {rs : List (Peer × ℕ)}

namespace Counted

theorem none (l : RequestRateLimiter) (now : ℕ) : Counted l none now [] where
  windowed := .nil l.window l.limit
  started _ hw := by cases hw
  requests _ hw := by cases hw
  last _ hw := by cases hw
  ended _ hg := (List.not_mem_nil hg).elim

theorem later (h : Counted l held now grants) (hle : now ≤ t) :
    Counted l held t grants where
  windowed := h.windowed
  started w hw := (h.started w hw).trans hle
  requests := h.requests
  last := h.last
  ended g hg := (h.ended g hg).imp_right fun hend => hend.trans hle

theorem filter (h : Counted l held now grants) :
    Counted l (held.filter (l.isLive now)) now grants where
  windowed := h.windowed
  started w hw := h.started w (Option.filter_eq_some_iff.mp hw).1
  requests w hw := h.requests w (Option.filter_eq_some_iff.mp hw).1
  last w hw := h.last w (Option.filter_eq_some_iff.mp hw).1
  ended := by
    intro g hg
    rcases h.ended g hg with ⟨w, hw, hs⟩ | hend
    · by_cases hlive : l.isLive now w = true
      · exact .inl ⟨w, Option.filter_eq_some_iff.mpr ⟨hw, hlive⟩, hs⟩
      · right
        have hstart := h.started w hw
        simp only [isLive, decide_eq_true_eq] at hlive
        omega
    · exact .inr hend

/-- A new window opens once the one that the table may hold has ended. -/
theorem opened (h : Counted l held now grants) (hnone : held.filter (l.isLive now) = Option.none)
    (hpos : 0 < l.window) : Counted l (some ⟨now, 0⟩) now grants := by
  have hended : ∀ g ∈ grants, g.window + l.window ≤ now := by
    intro g hg
    rcases h.filter.ended g hg with ⟨w, hw, -⟩ | hend
    · rw [hnone] at hw
      cases hw
    · exact hend
  refine ⟨h.windowed, ?_, ?_, ?_, ?_⟩
  · rintro w ⟨⟩
    exact le_rfl
  · rintro w ⟨⟩
    symm
    rw [List.countP_eq_zero]
    intro g hg
    have hend := hended g hg
    simp only [decide_eq_true_eq]
    omega
  · rintro w ⟨⟩ g hg
    exact .inr (hended g hg)
  · exact fun g hg => .inr (hended g hg)

theorem counted {w : RequestWindow} (h : Counted l (some w) now grants)
    (hlive : l.isLive now w = true) (hlimit : w.requests < l.limit) :
    Counted l (some { w with requests := w.requests + 1 }) now
      (grants ++ [⟨w.startedAt, now⟩]) := by
  have hrequests := h.requests w rfl
  refine ⟨?_, ?_, ?_, ?_, ?_⟩
  · apply h.windowed.snoc
    · exact h.started w rfl
    · simp only [isLive, decide_eq_true_eq] at hlive
      show now < w.startedAt + l.window
      omega
    · exact h.last w rfl
    · rw [← hrequests]
      exact hlimit
  · rintro w' ⟨⟩
    exact h.started w rfl
  · rintro w' ⟨⟩
    rw [List.countP_append, List.countP_singleton, ← hrequests]
    simp
  · rintro w' ⟨⟩ g hg
    rcases List.mem_append.mp hg with hg | hg
    · exact h.last w rfl g hg
    · rw [List.mem_singleton.mp hg]
      exact .inl rfl
  · intro g hg
    rcases List.mem_append.mp hg with hg | hg
    · rcases h.ended g hg with ⟨w', ⟨⟩, hs⟩ | hend
      · exact .inl ⟨_, rfl, hs⟩
      · exact .inr hend
    · rw [List.mem_singleton.mp hg]
      exact .inl ⟨_, rfl, rfl⟩

theorem count (h : Counted l held now grants) (hpos : 0 < l.window) :
    Counted l (some (l.count held now).2) now (l.granted held now grants) := by
  have hcurrent : Counted l (some ((held.filter (l.isLive now)).getD ⟨now, 0⟩)) now grants ∧
      l.isLive now ((held.filter (l.isLive now)).getD ⟨now, 0⟩) = true := by
    cases hw : held.filter (l.isLive now) with
    | none => exact ⟨h.opened hw hpos, by simpa [isLive] using hpos⟩
    | some w =>
      constructor
      · rw [Option.getD_some, ← hw]
        exact h.filter
      · exact (Option.filter_eq_some_iff.mp hw).2
  obtain ⟨hheld, hlive⟩ := hcurrent
  unfold granted RequestRateLimiter.count
  generalize (held.filter (l.isLive now)).getD ⟨now, 0⟩ = w at hheld hlive
  by_cases hlimit : w.requests < l.limit
  · simp only [hlimit, if_true]
    exact hheld.counted hlive hlimit
  · simp only [hlimit, if_false]
    exact hheld

end Counted

/-- One call, of this peer or of another one. -/
theorem counted_allowRequest (hpos : 0 < l.window) (peer : Peer)
    (h : Counted l (peers.lookup p) now grants) :
    ∃ grants', Counted l ((l.allowRequest peers peer now).2.lookup p) now grants' ∧
      grants'.map Grant.time = grants.map Grant.time ++
        if peer = p ∧ (l.allowRequest peers peer now).1 = true then [now] else [] := by
  by_cases hp : peer = p
  · subst hp
    by_cases hroom : l.NoRoom peers peer now
    · refine ⟨grants, ?_, ?_⟩
      · rw [allowRequest_of_noRoom hroom, Table.lookup_retain]
        exact h.filter
      · rw [allowRequest_of_noRoom hroom]
        simp
    · refine ⟨l.granted (peers.lookup peer) now grants, ?_, ?_⟩
      · rw [allowRequest_of_room hroom, (Table.setAt_insert _ _ _).lookup_self]
        exact h.count hpos
      · rw [allowRequest_of_room hroom, granted]
        cases (l.count (peers.lookup peer) now).1 with
        | true => simp
        | false => simp
  · refine ⟨grants, ?_, ?_⟩
    · rcases l.lookup_other peers now (Ne.symm hp) with he | he
      · rw [he]
        exact h
      · rw [he]
        exact h.filter
    · rw [if_neg fun hboth => hp hboth.1, List.append_nil]

/-! ### Sequences of calls -/

theorem length_decisions (l : RequestRateLimiter) (rs : List (Peer × ℕ)) :
    (l.decisions rs).length = rs.length := by
  induction rs using List.reverseRecOn with
  | nil => rfl
  | append_singleton rs r ih =>
    rw [decisions_snoc, List.length_append, List.length_append, ih, List.length_singleton,
      List.length_singleton]

theorem accepted_snoc (l : RequestRateLimiter) (p : Peer) (rs : List (Peer × ℕ))
    (r : Peer × ℕ) :
    l.accepted p (rs ++ [r]) = l.accepted p rs ++
      if r.1 = p ∧ (l.allowRequest (l.tableAfter rs) r.1 r.2).1 = true then [r.2] else [] := by
  unfold accepted
  rw [decisions_snoc, List.zip_append (l.length_decisions rs).symm, List.filterMap_append]
  congr 1
  by_cases h : r.1 = p ∧ (l.allowRequest (l.tableAfter rs) r.1 r.2).1 = true
  · rw [if_pos h]
    exact List.filterMap_cons_some (if_pos h)
  · rw [if_neg h]
    exact List.filterMap_cons_none (if_neg h)

/-- Whatever the other peers do, the grants to a peer are counted in windows of its own. -/
theorem counted_of_calls (hpos : 0 < l.window) (p : Peer) (h : Ordered rs) :
    ∃ grants : List (Grant ℕ), grants.map Grant.time = l.accepted p rs ∧
      ∀ now, (∀ x ∈ rs, x.2 ≤ now) →
        Counted l ((l.tableAfter rs).lookup p) now grants := by
  induction rs using List.reverseRecOn with
  | nil => exact ⟨[], rfl, fun now _ => .none l now⟩
  | append_singleton rs r ih =>
    obtain ⟨hrs, hle⟩ := h.snoc
    obtain ⟨grants, htimes, hcounted⟩ := ih hrs
    obtain ⟨grants', hcounted', htimes'⟩ := counted_allowRequest hpos r.1 (hcounted r.2 hle)
    rw [accepted_snoc, tableAfter_snoc, ← htimes]
    exact ⟨grants', htimes', fun now hnow => hcounted'.later (hnow r (by simp))⟩

/-- In any interval that is as long as the window, a peer is allowed twice the limit at most. -/
theorem burst_le (l : RequestRateLimiter) (hpos : 0 < l.window) (rs : List (Peer × ℕ))
    (h : Ordered rs) (p : Peer) (t : ℕ) :
    (l.accepted p rs).countP (fun a => t ≤ a ∧ a < t + l.window) ≤ 2 * l.limit := by
  obtain ⟨grants, htimes, hcounted⟩ := counted_of_calls hpos p h
  -- some time after all the calls
  have hafter : ∀ x ∈ rs, x.2 ≤ (rs.map Prod.snd).sum :=
    fun x hx => List.single_le_sum (fun _ _ => Nat.zero_le _) _ (List.mem_map_of_mem hx)
  rw [← htimes, List.countP_map]
  exact (hcounted _ hafter).windowed.countP_le t

/-- Around the end of a window more calls are allowed than in one window. -/
theorem burst_le_sample :
    let l : RequestRateLimiter := ⟨2, 60⟩
    let a : Peer := some (.v4 1)
    let rs : List (Peer × ℕ) := [(a, 0), (none, 5), (a, 59), (a, 59), (a, 60), (a, 60), (a, 60)]
    l.accepted a rs = [0, 59, 60, 60] ∧
      (l.accepted a rs).countP (fun t => 1 ≤ t ∧ t < 1 + l.window) ≤ 2 * l.limit := by
  intro l a rs
  have hord : Ordered rs := by
    unfold Ordered
    decide
  exact ⟨by decide +kernel, burst_le l (by decide) rs hord a 1⟩

end RequestRateLimiter
end Hanbova
