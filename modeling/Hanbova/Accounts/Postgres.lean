import Hanbova.Accounts.OneTime
import Hanbova.Library.Simulation

/-! Refresh tokens and password-reset tokens in PostgreSQL: the token statements of
`auth/repository.rs`. The hash of a token is a unique column. -/
namespace Hanbova

open Library
open InMemoryUserRepository (Tokens RecordDraw)

namespace PgUserRepository

abbrev TokenRows := List TokenRecord

/-- `round` is what the database keeps of a timestamp. -/
def storeToken (round : DateTime → DateTime) (rows : TokenRows) (userId : Uuid)
    (tokenHash : String) (expiresAt : DateTime) (d : RecordDraw) : Except SqlxError TokenRows :=
  if rows.any fun r => r.id = d.id ∨ r.tokenHash = tokenHash then
    .error (.other "duplicate key value violates unique constraint")
  else .ok (rows ++ [⟨d.id, userId, tokenHash, round expiresAt, none, round d.createdAt⟩])

/-- The `WHERE` clause of the update. -/
def accepts (tokenHash : String) (now : DateTime) (r : TokenRecord) : Bool :=
  r.tokenHash = tokenHash ∧ r.live now

/-- `UPDATE … SET revoked_at = $1 WHERE … RETURNING user_id`. -/
def validateAndEnd (round : DateTime → DateTime) (rows : TokenRows) (tokenHash : String)
    (now : DateTime) : Option Uuid × TokenRows :=
  ((rows.find? (accepts tokenHash (round now))).map TokenRecord.userId,
    rows.map fun r =>
      if accepts tokenHash (round now) r then { r with endedAt := some (round now) } else r)

def revokeAllUserRefreshTokens (round : DateTime → DateTime) (rows : TokenRows) (userId : Uuid)
    (now : DateTime) : TokenRows :=
  rows.map fun r =>
    if r.userId = userId ∧ r.endedAt = none then { r with endedAt := some (round now) } else r

/-- Each statement is atomic; a token that is stored is one that the database takes. -/
inductive Step (round : DateTime → DateTime) (hash : String → String) :
    TokenRows → TokenAct → TokenRows → Prop
  | stored {rows rows' token userId expiresAt} (d : RecordDraw) :
      storeToken round rows userId (hash token) expiresAt d = .ok rows' →
      Step round hash rows (.stored token userId expiresAt) rows'
  | accepted {rows rows' token now userId} :
      validateAndEnd round rows (hash token) now = (some userId, rows') →
      Step round hash rows (.accepted token now userId) rows'
  | revoked {rows} (userId : Uuid) (now : DateTime) :
      Step round hash rows (.revoked userId) (revokeAllUserRefreshTokens round rows userId now)

def tokenSystem (round : DateTime → DateTime) (hash : String → String) :
    System TokenRows TokenAct where
  init rows := rows = []
  step := Step round hash

/-- The table holds the rows, each under its hash. -/
structure Holds (store : Tokens) (rows : TokenRows) : Prop where
  unique : (rows.map TokenRecord.tokenHash).Nodup
  lookup : ∀ h, store.lookup h = rows.find? (·.tokenHash = h)

variable {round : DateTime → DateTime} {hash : String → String} {store : Tokens}
variable {rows rows' : TokenRows}

/-- With unique hashes the row that the update finds is the row of the hash, if it is live. -/
theorem find?_accepts (h : (rows.map TokenRecord.tokenHash).Nodup) (k : String)
    (now : DateTime) :
    rows.find? (accepts k now) = (rows.find? (·.tokenHash = k)).filter (·.live now) := by
  induction rows with
  | nil => rfl
  | cons r rows ih =>
    rw [List.map_cons, List.nodup_cons] at h
    by_cases hk : r.tokenHash = k
    · have hnone : rows.find? (·.tokenHash = k) = none := by
        apply List.find?_eq_none.mpr
        intro r' hr' he
        apply h.1
        rw [hk]
        exact List.mem_map.mpr ⟨r', hr', of_decide_eq_true he⟩
      by_cases hlive : r.live now = true
      · have hr : accepts k now r = true := by simp [accepts, hk, hlive]
        simp [hr, hk, Option.filter, hlive]
      · have hr : accepts k now r = false := by simp [accepts, hlive]
        simp [hr, hk, Option.filter, hlive, ih h.2, hnone]
    · have hr : accepts k now r = false := by simp [accepts, hk]
      simp [hr, hk, ih h.2]

theorem Holds.map {store' : Tokens} (h : Holds store rows) {f : TokenRecord → TokenRecord}
    (hf : ∀ r, (f r).tokenHash = r.tokenHash)
    (hs : ∀ k, store'.lookup k = (store.lookup k).map f) : Holds store' (rows.map f) where
  unique := by
    rw [List.map_map, show TokenRecord.tokenHash ∘ f = TokenRecord.tokenHash from funext hf]
    exact h.unique
  lookup k := by
    have hp : (fun r : TokenRecord => decide (r.tokenHash = k)) ∘ f =
        fun r => decide (r.tokenHash = k) := by
      funext r
      simp [hf]
    rw [hs k, h.lookup k, List.find?_map, hp]

theorem Holds.key (h : Holds store rows) {k : String} {r : TokenRecord}
    (hr : store.lookup k = some r) : r.tokenHash = k := by
  rw [h.lookup k] at hr
  have hk := List.find?_some hr
  exact of_decide_eq_true hk

theorem Holds.insert (h : Holds store rows) {r : TokenRecord}
    (hr : ∀ r' ∈ rows, r'.tokenHash ≠ r.tokenHash) {store' : Tokens}
    (hm : Table.SetAt store r.tokenHash r store') : Holds store' (rows ++ [r]) where
  unique := by
    rw [List.map_append, List.nodup_append]
    refine ⟨h.unique, List.nodup_singleton _, fun a ha b hb => ?_⟩
    obtain ⟨r', hr', rfl⟩ := List.mem_map.mp ha
    rw [List.mem_singleton.mp hb]
    exact hr r' hr'
  lookup k := by
    rw [hm k, h.lookup k, List.find?_append]
    by_cases hk : k = r.tokenHash
    · subst hk
      have hnone : rows.find? (·.tokenHash = r.tokenHash) = none := by
        apply List.find?_eq_none.mpr
        intro r' hr' he
        exact hr r' hr' (of_decide_eq_true he)
      simp [hnone]
    · have hne : r.tokenHash ≠ k := fun he => hk he.symm
      simp [hk, hne]

theorem Holds.lookup_none (h : Holds store rows) {k : String}
    (hk : ∀ r ∈ rows, r.tokenHash ≠ k) : store.lookup k = none := by
  rw [h.lookup k]
  apply List.find?_eq_none.mpr
  intro r hr he
  exact hk r hr (of_decide_eq_true he)

theorem Holds.validateAndEnd (h : Holds store rows) {k : String} {now : DateTime} {u : Uuid}
    (hv : validateAndEnd round rows k now = (some u, rows')) :
    ∃ store', InMemoryUserRepository.validateAndEnd store k (round now) = (some u, store') ∧
      Holds store' rows' := by
  obtain ⟨hfind, rfl⟩ := Prod.mk.inj hv
  rw [find?_accepts h.unique, ← h.lookup k] at hfind
  obtain ⟨r, hr, rfl⟩ := Option.map_eq_some_iff.mp hfind
  obtain ⟨hl, hlive⟩ := Option.filter_eq_some_iff.mp hr
  refine ⟨store.insert k { r with endedAt := some (round now) }, ?_, h.map ?_ ?_⟩
  · simp [InMemoryUserRepository.validateAndEnd, hl, hlive]
  · intro r'
    split_ifs <;> rfl
  · intro k'
    rw [Table.setAt_insert _ _ _ k']
    split_ifs with hk
    · subst hk
      have hacc : accepts k' (round now) r = true := by simp [accepts, h.key hl, hlive]
      simp [hl, hacc]
    · cases hl' : store.lookup k' with
      | none => rfl
      | some r' =>
        have hacc : accepts k (round now) r' = false := by simp [accepts, h.key hl', hk]
        simp [hacc]

theorem validateAndEnd_refused {k : String} {now : DateTime}
    (hv : validateAndEnd round rows k now = (none, rows')) :
    (∀ r ∈ rows, ¬ accepts k (round now) r = true) ∧ rows' = rows := by
  obtain ⟨hfind, rfl⟩ := Prod.mk.inj hv
  have hnone := List.find?_eq_none.mp (Option.map_eq_none_iff.mp hfind)
  refine ⟨hnone, ?_⟩
  calc rows.map _ = rows.map id := List.map_congr_left fun r hr => if_neg (hnone r hr)
    _ = rows := List.map_id rows

theorem Holds.validateAndEnd_none (h : Holds store rows) {k : String} {now : DateTime}
    (hv : PgUserRepository.validateAndEnd round rows k now = (none, rows')) :
    InMemoryUserRepository.validateAndEnd store k (round now) = (none, store) ∧ rows' = rows := by
  obtain ⟨hrows, hsame⟩ := validateAndEnd_refused hv
  have hnone := List.find?_eq_none.mpr hrows
  refine ⟨?_, hsame⟩
  rw [find?_accepts h.unique, ← h.lookup k, Option.filter_eq_none_iff] at hnone
  unfold InMemoryUserRepository.validateAndEnd
  cases hl : store.lookup k with
  | none => rfl
  | some r => exact if_neg (hnone r hl)

theorem Holds.revokeAll (h : Holds store rows) (u : Uuid) (now : DateTime) :
    Holds (InMemoryUserRepository.revokeAllUserRefreshTokens store u (round now))
      (revokeAllUserRefreshTokens round rows u now) := by
  apply h.map
  · intro r
    split_ifs <;> rfl
  · exact Table.lookup_mapValues _ _

theorem storeToken_ok {u : Uuid} {k : String} {t : DateTime} {d : RecordDraw}
    (h : storeToken round rows u k t d = .ok rows') :
    (∀ r ∈ rows, r.tokenHash ≠ k) ∧
      rows' = rows ++ [⟨d.id, u, k, round t, none, round d.createdAt⟩] := by
  unfold storeToken at h
  split_ifs at h with hany
  refine ⟨fun r hr hk => hany ?_, (Except.ok.inj h).symm⟩
  exact List.any_eq_true.mpr ⟨r, hr, by simp [hk]⟩

end PgUserRepository

namespace TokenAct

/-- The times of an act as the database keeps them. -/
def rounded (round : DateTime → DateTime) : TokenAct → TokenAct
  | .stored token u t => .stored token u (round t)
  | .accepted token now u => .accepted token (round now) u
  | .revoked u => .revoked u

variable {round : DateTime → DateTime} {acts : List TokenAct}

theorem tokens_rounded : tokens (acts.map (rounded round)) = tokens acts := by
  have htoken : ∀ a : TokenAct, (a.rounded round).token = a.token := by
    intro a
    cases a <;> rfl
  ext t
  constructor
  · intro h
    obtain ⟨a, ha, ht⟩ := h
    obtain ⟨b, hb, rfl⟩ := List.mem_map.mp ha
    exact ⟨b, hb, (htoken b).symm.trans ht⟩
  · intro h
    obtain ⟨a, ha, ht⟩ := h
    exact ⟨a.rounded round, List.mem_map_of_mem ha, (htoken a).trans ht⟩

/-- What is linear in rounded times is linear, as rounding keeps the order of times. -/
theorem Linear.of_rounded (hround : Monotone round) (h : Linear (acts.map (rounded round))) :
    Linear acts where
  issued as bs token now u he := by
    obtain ⟨t, ht⟩ :=
      h.issued (as.map (rounded round)) (bs.map (rounded round)) token (round now) u
      (by rw [he, List.map_append]; rfl)
    obtain ⟨a, ha, hr⟩ := List.mem_map.mp ht
    cases a with
    | stored token' u' t' =>
      obtain ⟨rfl, rfl, -⟩ := stored.inj hr
      exact ⟨t', ha⟩
    | accepted | revoked => cases hr
  in_time token now u v t ha hst := by
    obtain ⟨rfl, hlt⟩ := h.in_time token (round now) u v (round t)
      (List.mem_map_of_mem (f := rounded round) ha) (List.mem_map_of_mem (f := rounded round) hst)
    exact ⟨rfl, hround.reflect_lt hlt⟩
  once as bs token now u he now' v hmem :=
    h.once (as.map (rounded round)) (bs.map (rounded round)) token (round now) u
      (by rw [he, List.map_append]; rfl) (round now') v
      (List.mem_map_of_mem (f := rounded round) hmem)
  unrevoked as bs cs token u t he now v hmem :=
    h.unrevoked (as.map (rounded round)) (bs.map (rounded round)) (cs.map (rounded round)) token u
      (round t) (by rw [he, List.map_append, List.map_append]; rfl) (round now) v
      (List.mem_map_of_mem (f := rounded round) hmem)

end TokenAct

namespace PgUserRepository
variable {round : DateTime → DateTime} {hash : String → String}

/-- The rows in PostgreSQL are a token store whose times the database has rounded. -/
theorem tokens_simulation (round : DateTime → DateTime) (hash : String → String) :
    System.Simulation (tokenSystem round hash) (Hanbova.tokenSystem hash)
      (some ∘ TokenAct.rounded round) id (fun rows store => Holds store rows) where
  init rows h := by
    subst h
    exact ⟨∅, rfl, List.nodup_nil, fun _ => rfl⟩
  step rows a rows' store _ hl h := by
    right
    cases hl with
    | @stored _ token u t d hst =>
      obtain ⟨hnew, rfl⟩ := storeToken_ok hst
      exact ⟨_, _, .stored ⟨d.id, round d.createdAt⟩ (h.lookup_none hnew), rfl,
        h.insert hnew (InMemoryUserRepository.setAt_storeToken _ _ _ _ _)⟩
    | accepted hv =>
      obtain ⟨store', hv', h'⟩ := h.validateAndEnd hv
      exact ⟨_, store', .accepted hv', rfl, h'⟩
    | revoked u now => exact ⟨_, _, .revoked u (round now), rfl, h.revokeAll u now⟩

/-- In every run of the token statements the tokens are used linearly. -/
theorem linear_of_trace (hround : Monotone round)
    {tr : List (Transition TokenRows TokenAct)} {rows : TokenRows}
    (h : (tokenSystem round hash).Trace tr rows)
    (hinj : Set.InjOn hash (TokenAct.tokens (System.labels tr))) :
    TokenAct.Linear (System.labels tr) := by
  obtain ⟨tr', store, ht, -, he⟩ := (tokens_simulation round hash).trace h
  rw [List.map_id, List.filterMap_eq_map] at he
  apply TokenAct.Linear.of_rounded hround
  rw [← he]
  apply TokenStep.linear ht
  rw [he, TokenAct.tokens_rounded]
  exact hinj

end PgUserRepository
end Hanbova
