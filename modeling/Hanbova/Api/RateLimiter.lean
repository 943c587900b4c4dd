import Hanbova.Library.Service
import Hanbova.Library.Table

/-! The rate limiter that all requests share: `RequestRateLimiter` of `middleware/mod.rs`. A call
holds the lock on the table from beginning to end. -/
namespace Hanbova

open Library

inductive IpAddr
  | v4 (address : BitVec 32)
  | v6 (address : BitVec 128)
  deriving DecidableEq

/-- A request window; times are nanoseconds of a monotonic clock. -/
structure RequestWindow where
  startedAt : ℕ
  requests : ℕ
  deriving DecidableEq

structure RequestRateLimiter where
  limit : ℕ
  window : ℕ

abbrev Peer := Option IpAddr

abbrev Peers := Table Peer RequestWindow

namespace RequestRateLimiter

def maxTrackedPeers : ℕ := 10000

/-- `now.duration_since(started_at) < window`, where a duration is never negative. -/
def isLive (l : RequestRateLimiter) (now : ℕ) (w : RequestWindow) : Bool :=
  now - w.startedAt < l.window

def allowRequest (l : RequestRateLimiter) (peers : Peers) (peer : Peer) (now : ℕ) :
    Bool × Peers :=
  let known := (peers.lookup peer).isSome
  let peers := if !known then peers.retain fun _ w => l.isLive now w else peers
  if !known && maxTrackedPeers ≤ peers.size then (false, peers)
  else
    let state := (peers.lookup peer).getD ⟨now, 0⟩
    let state := if l.window ≤ now - state.startedAt then ⟨now, 0⟩ else state
    if l.limit ≤ state.requests then (false, peers.insert peer state)
    else (true, peers.insert peer { state with requests := state.requests + 1 })

/-! ### A window counter of one peer -/

/-- What a fixed-window counter makes of one request: the decision and its window afterwards. -/
def count (l : RequestRateLimiter) (w : Option RequestWindow) (now : ℕ) : Bool × RequestWindow :=
  let w := (w.filter (l.isLive now)).getD ⟨now, 0⟩
  if w.requests < l.limit then (true, { w with requests := w.requests + 1 }) else (false, w)

def tick (l : RequestRateLimiter) (w : Option RequestWindow) (now : ℕ) :
    Bool × Option RequestWindow := ((l.count w now).1, some (l.count w now).2)

/-- The decisions of a counter of its own for the requests at the given times. -/
def countAll (l : RequestRateLimiter) (times : List ℕ) : List Bool :=
  (serveAll l.tick none times).1

def counterAfter (l : RequestRateLimiter) (times : List ℕ) : Option RequestWindow :=
  (serveAll l.tick none times).2

/-- The call finds no place in the table for its peer. -/
def NoRoom (l : RequestRateLimiter) (peers : Peers) (peer : Peer) (now : ℕ) : Prop :=
  peers.lookup peer = none ∧ maxTrackedPeers ≤ (peers.retain fun _ w => l.isLive now w).size

instance (l : RequestRateLimiter) (peers : Peers) (peer : Peer) (now : ℕ) :
    Decidable (l.NoRoom peers peer now) := inferInstanceAs (Decidable (_ ∧ _))

/-- The table that a call works on, after the expired windows have made room for a new peer. -/
def prepared (l : RequestRateLimiter) (peers : Peers) (peer : Peer) (now : ℕ) : Peers :=
  if (peers.lookup peer).isSome then peers else peers.retain fun _ w => l.isLive now w

variable {l : RequestRateLimiter} {peers : Peers} {peer p : Peer} {now : ℕ} {w : RequestWindow}

theorem allowRequest_of_noRoom (h : l.NoRoom peers peer now) :
    l.allowRequest peers peer now = (false, peers.retain fun _ w => l.isLive now w) := by
  obtain ⟨hnone, hsize⟩ := h
  simp [allowRequest, hnone, hsize]

/-- The reset of a window in place, and the count of the live windows only. -/
theorem window_or_new (l : RequestRateLimiter) (w : Option RequestWindow) (now : ℕ) :
    (if l.window ≤ now - (w.getD ⟨now, 0⟩).startedAt then ⟨now, 0⟩ else w.getD ⟨now, 0⟩) =
      (w.filter (l.isLive now)).getD ⟨now, 0⟩ := by
  cases w with
  | none => split_ifs <;> rfl
  | some w =>
    by_cases h : l.window ≤ now - w.startedAt
    · have hlive : l.isLive now w = false := by simpa [isLive] using h
      simp [h, Option.filter, hlive]
    · have hlive : l.isLive now w = true := by simpa [isLive] using h
      simp [h, Option.filter, hlive]

theorem lookup_prepared_self (l : RequestRateLimiter) (peers : Peers) (peer : Peer) (now : ℕ) :
    (l.prepared peers peer now).lookup peer = peers.lookup peer := by
  unfold prepared
  split_ifs with h
  · rfl
  · rw [Table.lookup_retain, Option.not_isSome_iff_eq_none.mp h]
    rfl

/-- A peer that has a place is counted by its own window. -/
theorem allowRequest_of_room (h : ¬ l.NoRoom peers peer now) :
    l.allowRequest peers peer now = ((l.count (peers.lookup peer) now).1,
      (l.prepared peers peer now).insert peer (l.count (peers.lookup peer) now).2) := by
  have hroom : (!(peers.lookup peer).isSome &&
      decide (maxTrackedPeers ≤ (l.prepared peers peer now).size)) = false := by
    unfold NoRoom at h
    unfold prepared
    cases hl : peers.lookup peer with
    | none => simpa [hl] using h
    | some w => rfl
  have hprep : (if !(peers.lookup peer).isSome then peers.retain fun _ w => l.isLive now w
      else peers) = l.prepared peers peer now := by
    unfold prepared
    cases (peers.lookup peer).isSome <;> rfl
  unfold allowRequest count
  simp only [hprep, hroom, lookup_prepared_self, window_or_new]
  by_cases hlimit : l.limit ≤
      (((peers.lookup peer).filter (l.isLive now)).getD ⟨now, 0⟩).requests
  · rw [if_neg Bool.false_ne_true, if_pos hlimit, if_neg (Nat.not_lt.mpr hlimit)]
  · rw [if_neg Bool.false_ne_true, if_neg hlimit, if_pos (Nat.not_le.mp hlimit)]

/-- The windows of other peers stay as they are, except that expired ones may be dropped. -/
theorem lookup_other (l : RequestRateLimiter) (peers : Peers) (now : ℕ) (hp : p ≠ peer) :
    (l.allowRequest peers peer now).2.lookup p = peers.lookup p ∨
      (l.allowRequest peers peer now).2.lookup p = (peers.lookup p).filter (l.isLive now) := by
  by_cases h : l.NoRoom peers peer now
  · right
    rw [allowRequest_of_noRoom h, Table.lookup_retain]
  · rw [allowRequest_of_room h]
    show ((l.prepared peers peer now).insert peer _).lookup p = _ ∨ _
    rw [Table.SetAt.lookup_ne (Table.setAt_insert _ _ _) hp]
    unfold prepared
    split_ifs
    · exact .inl rfl
    · exact .inr (Table.lookup_retain _ _ _)

theorem size_allowRequest (l : RequestRateLimiter) (peer : Peer) (now : ℕ)
    (h : peers.size ≤ maxTrackedPeers) :
    (l.allowRequest peers peer now).2.size ≤ maxTrackedPeers := by
  have hretain := Table.size_retain_le (fun _ w => l.isLive now w) peers
  by_cases hroom : l.NoRoom peers peer now
  · rw [allowRequest_of_noRoom hroom]
    exact Nat.le_trans hretain h
  · rw [allowRequest_of_room hroom]
    show ((l.prepared peers peer now).insert peer _).size ≤ _
    cases hl : peers.lookup peer with
    | some w =>
      have hself := (l.lookup_prepared_self peers peer now).trans hl
      rw [Table.size_insert_of_lookup hself, prepared, hl, if_pos Option.isSome_some]
      exact h
    | none =>
      have hlt : (l.prepared peers peer now).size < maxTrackedPeers := by
        rw [prepared, hl]
        exact Nat.not_le.mp fun hle => hroom ⟨hl, hle⟩
      have hle := Table.size_insert_le (l.prepared peers peer now) peer
        (l.count none now).2
      omega

theorem isLive_of_later {t : ℕ} {w w' : RequestWindow} (h : l.isLive now w = true)
    (ht : t ≤ now)
    (hw : w.startedAt ≤ w'.startedAt) : l.isLive t w' = true := by
  simp only [isLive, decide_eq_true_eq] at h ⊢
  omega

/-- The count looks at a live window only. -/
theorem count_congr {w w' : Option RequestWindow}
    (h : w.filter (l.isLive now) = w'.filter (l.isLive now)) :
    l.count w now = l.count w' now := by
  unfold count
  rw [h]

/-! ### Sequences of calls -/

/-- One call, whose decision is kept together with the peer. -/
def serve (l : RequestRateLimiter) (peers : Peers) (r : Peer × ℕ) : (Peer × Bool) × Peers :=
  ((r.1, (l.allowRequest peers r.1 r.2).1), (l.allowRequest peers r.1 r.2).2)

/-- The decisions on a sequence of calls, from an empty table on. -/
def decisions (l : RequestRateLimiter) (rs : List (Peer × ℕ)) : List (Peer × Bool) :=
  (serveAll l.serve ∅ rs).1

def tableAfter (l : RequestRateLimiter) (rs : List (Peer × ℕ)) : Peers :=
  (serveAll l.serve ∅ rs).2

/-- What concerns the peer `p`. -/
def ofPeer {α : Type} (p : Peer) (x : Peer × α) : Option α := if x.1 = p then some x.2 else none

variable {rs : List (Peer × ℕ)} {r : Peer × ℕ}

theorem decisions_snoc (l : RequestRateLimiter) (rs : List (Peer × ℕ)) (r : Peer × ℕ) :
    l.decisions (rs ++ [r]) =
      l.decisions rs ++ [(r.1, (l.allowRequest (l.tableAfter rs) r.1 r.2).1)] := by
  rw [decisions, serveAll_snoc]
  rfl

theorem tableAfter_snoc (l : RequestRateLimiter) (rs : List (Peer × ℕ)) (r : Peer × ℕ) :
    l.tableAfter (rs ++ [r]) = (l.allowRequest (l.tableAfter rs) r.1 r.2).2 := by
  rw [tableAfter, serveAll_snoc]
  rfl

theorem filterMap_ofPeer_snoc {α : Type} (p : Peer) (xs : List (Peer × α)) (x : Peer × α) :
    (xs ++ [x]).filterMap (ofPeer p) =
      if x.1 = p then xs.filterMap (ofPeer p) ++ [x.2] else xs.filterMap (ofPeer p) := by
  rw [List.filterMap_append]
  unfold ofPeer
  by_cases hx : x.1 = p
  · simp [hx]
  · simp [hx]

theorem countAll_snoc (l : RequestRateLimiter) (times : List ℕ) (now : ℕ) :
    l.countAll (times ++ [now]) =
      l.countAll times ++ [(l.count (l.counterAfter times) now).1] := by
  rw [countAll, serveAll_snoc]
  rfl

theorem counterAfter_snoc (l : RequestRateLimiter) (times : List ℕ) (now : ℕ) :
    l.counterAfter (times ++ [now]) = some (l.count (l.counterAfter times) now).2 := by
  rw [counterAfter, serveAll_snoc]
  rfl

theorem size_tableAfter (l : RequestRateLimiter) (rs : List (Peer × ℕ)) :
    (l.tableAfter rs).size ≤ maxTrackedPeers := by
  induction rs using List.reverseRecOn with
  | nil => exact Nat.zero_le _
  | append_singleton rs r ih =>
    rw [tableAfter_snoc]
    exact l.size_allowRequest r.1 r.2 ih

/-- The times of the calls, in order. -/
def Ordered (rs : List (Peer × ℕ)) : Prop := (rs.map Prod.snd).Pairwise (· ≤ ·)

theorem Ordered.snoc (h : Ordered (rs ++ [r])) : Ordered rs ∧ ∀ x ∈ rs, x.2 ≤ r.2 := by
  unfold Ordered at h
  rw [List.map_append] at h
  obtain ⟨hrs, -, hle⟩ := List.pairwise_append.mp h
  exact ⟨hrs, fun x hx => hle x.2 (List.mem_map_of_mem hx) r.2 (by simp)⟩

/-- As long as a window that the table once held would be live, the table holds one for its peer
that is no older. -/
theorem holds_live (h : Ordered rs) {rs₁ : List (Peer × ℕ)} (hp : rs₁ <+: rs)
    (hw : (l.tableAfter rs₁).lookup p = some w) (hnow : ∀ x ∈ rs, x.2 ≤ now)
    (hlive : l.isLive now w = true) :
    ∃ w', (l.tableAfter rs).lookup p = some w' ∧ w.startedAt ≤ w'.startedAt := by
  induction rs using List.reverseRecOn generalizing now with
  | nil =>
    obtain rfl := List.prefix_nil.mp hp
    exact ⟨w, hw, le_rfl⟩
  | append_singleton rs r ih =>
    rcases List.prefix_concat_iff.mp hp with rfl | hp
    · exact ⟨w, hw, le_rfl⟩
    · obtain ⟨hrs, hle⟩ := h.snoc
      have hr : r.2 ≤ now := hnow r (by simp)
      have hlive' : l.isLive r.2 w = true := isLive_of_later hlive hr le_rfl
      obtain ⟨w', hw', hs⟩ := ih hrs hp hle hlive'
      have hlive'' : l.isLive r.2 w' = true := isLive_of_later hlive' le_rfl hs
      rw [tableAfter_snoc]
      by_cases hpr : p = r.1
      · have hroom : ¬ l.NoRoom (l.tableAfter rs) r.1 r.2 := by
          rintro ⟨hnone, -⟩
          rw [← hpr, hw'] at hnone
          cases hnone
        rw [allowRequest_of_room hroom]
        refine ⟨_, by rw [hpr]; exact (Table.setAt_insert _ _ _).lookup_self, ?_⟩
        rw [← hpr, hw', count, Option.filter_some_pos hlive'', Option.getD_some]
        split_ifs <;> exact hs
      · refine ⟨w', ?_, hs⟩
        rcases l.lookup_other (l.tableAfter rs) r.2 hpr with he | he
        · rw [he, hw']
        · rw [he, hw', Option.filter_some_pos hlive'']

/-- A window that is not live now will not be live later. -/
theorem filter_live_filter {t : ℕ} (w : Option RequestWindow) (h : t ≤ now) :
    (w.filter (l.isLive t)).filter (l.isLive now) = w.filter (l.isLive now) := by
  cases w with
  | none => rfl
  | some w =>
    cases hlive : l.isLive now w with
    | true => rw [Option.filter_some_pos (isLive_of_later hlive h le_rfl)]
    | false =>
      have hnow : (some w).filter (l.isLive now) = none := Option.filter_some_neg hlive
      rw [hnow]
      cases ht : l.isLive t w with
      | true => rw [Option.filter_some_pos ht, hnow]
      | false =>
        rw [Option.filter_some_neg ht]
        rfl

/-- While there is room, a peer is counted as by a counter of its own: what the table holds for it
and the window of that counter have the same live part. -/
theorem decisions_of_peer (p : Peer) (h : Ordered rs)
    (hroom : ∀ rs₁ r, rs₁ ++ [r] <+: rs → ¬ l.NoRoom (l.tableAfter rs₁) r.1 r.2) :
    (l.decisions rs).filterMap (ofPeer p) = l.countAll (rs.filterMap (ofPeer p)) ∧
      ∀ now, (∀ x ∈ rs, x.2 ≤ now) →
        ((l.tableAfter rs).lookup p).filter (l.isLive now) =
          (l.counterAfter (rs.filterMap (ofPeer p))).filter (l.isLive now) := by
  induction rs using List.reverseRecOn with
  | nil => exact ⟨rfl, fun _ _ => rfl⟩
  | append_singleton rs r ih =>
    obtain ⟨hrs, hle⟩ := h.snoc
    obtain ⟨hdec, hlive⟩ :=
      ih hrs fun rs₁ r' hp => hroom rs₁ r' (hp.trans (List.prefix_append _ _))
    have hr := allowRequest_of_room (hroom rs r List.prefix_rfl)
    rw [decisions_snoc, tableAfter_snoc, filterMap_ofPeer_snoc, filterMap_ofPeer_snoc]
    by_cases hpr : r.1 = p
    · rw [hpr] at hr
      have hcount : l.count ((l.tableAfter rs).lookup p) r.2 =
          l.count (l.counterAfter (rs.filterMap (ofPeer p))) r.2 := count_congr (hlive r.2 hle)
      rw [if_pos hpr, if_pos hpr, countAll_snoc, counterAfter_snoc, hdec, hpr, hr, hcount]
      refine ⟨rfl, fun now _ => ?_⟩
      rw [(Table.setAt_insert (l.prepared (l.tableAfter rs) p r.2) p _).lookup_self]
    · rw [if_neg hpr, if_neg hpr]
      refine ⟨hdec, fun now hnow => ?_⟩
      have ht : r.2 ≤ now := hnow r (by simp)
      rw [← hlive now fun x hx => hnow x (List.mem_append_left _ hx)]
      rcases l.lookup_other (l.tableAfter rs) r.2 (Ne.symm hpr) with he | he
      · rw [he]
      · rw [he, filter_live_filter _ ht]

/-- How many peers have a live window. -/
def liveCount (l : RequestRateLimiter) (peers : Peers) (now : ℕ) : ℕ :=
  (peers.retain fun _ w => l.isLive now w).size

/-- The table stays bounded; a call that finds no room comes from a peer without a live window; and
while there is room for everybody each peer gets the decisions of a counter of its own. -/
theorem rateLimiter_isolates (l : RequestRateLimiter) (rs : List (Peer × ℕ)) (h : Ordered rs) :
    (l.tableAfter rs).size ≤ maxTrackedPeers ∧
    (∀ rs₁ r, rs₁ ++ [r] <+: rs → l.NoRoom (l.tableAfter rs₁) r.1 r.2 →
      ∀ rs₀ w, rs₀ <+: rs₁ → (l.tableAfter rs₀).lookup r.1 = some w →
        l.isLive r.2 w = false) ∧
    ((∀ rs₁ r, rs₁ ++ [r] <+: rs →
        l.liveCount (l.tableAfter rs₁) r.2 < maxTrackedPeers) →
      ∀ p, (l.decisions rs).filterMap (ofPeer p) = l.countAll (rs.filterMap (ofPeer p))) := by
  refine ⟨l.size_tableAfter rs, ?_, ?_⟩
  · intro rs₁ r hp hno rs₀ w hp₀ hw
    have hord : Ordered (rs₁ ++ [r]) := h.sublist (hp.sublist.map _)
    obtain ⟨hrs₁, hle⟩ := hord.snoc
    by_contra hlive
    rw [Bool.not_eq_false] at hlive
    obtain ⟨w', hw', -⟩ := holds_live hrs₁ hp₀ hw hle hlive
    rw [hno.1] at hw'
    cases hw'
  · intro hlive p
    apply (decisions_of_peer p h ?_).1
    rintro rs₁ r hp ⟨-, hfull⟩
    have hlt : (l.liveCount (l.tableAfter rs₁) r.2) < maxTrackedPeers := hlive rs₁ r hp
    exact absurd hfull (Nat.not_le.mpr hlt)

/-- Two peers under a limit of one request, past a window's end. -/
theorem rateLimiter_isolates_sample :
    let l : RequestRateLimiter := ⟨1, 60⟩
    let a : Peer := some (.v4 1)
    let rs : List (Peer × ℕ) := [(a, 0), (none, 5), (a, 7), (none, 70), (a, 71)]
    l.decisions rs = [(a, true), (none, true), (a, false), (none, true), (a, true)] ∧
    (l.tableAfter rs).size ≤ maxTrackedPeers ∧
    (∀ rs₁ r, rs₁ ++ [r] <+: rs → l.NoRoom (l.tableAfter rs₁) r.1 r.2 →
      ∀ rs₀ w, rs₀ <+: rs₁ → (l.tableAfter rs₀).lookup r.1 = some w →
        l.isLive r.2 w = false) ∧
    ((∀ rs₁ r, rs₁ ++ [r] <+: rs →
        l.liveCount (l.tableAfter rs₁) r.2 < maxTrackedPeers) →
      ∀ p, (l.decisions rs).filterMap (ofPeer p) = l.countAll (rs.filterMap (ofPeer p))) := by
  intro l a rs
  have hord : Ordered rs := by
    unfold Ordered
    decide
  exact ⟨by decide +kernel, rateLimiter_isolates l rs hord⟩

end RequestRateLimiter
end Hanbova
