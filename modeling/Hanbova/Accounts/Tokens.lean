import Hanbova.Accounts.Repository

/-! Refresh tokens and password-reset tokens in the in-memory user repository:
`auth/repository.rs`. Both are held under the hash of the token and used at most once. -/
namespace Hanbova

open Library

/-- `RefreshTokenRecord` and `PasswordResetTokenRecord`; `endedAt` is the `revoked_at` of the one
and the `used_at` of the other. -/
structure TokenRecord where
  id : Uuid
  userId : Uuid
  tokenHash : String
  expiresAt : DateTime
  endedAt : Option DateTime
  createdAt : DateTime
  deriving DecidableEq

namespace TokenRecord

/-- The record can still be used at the time `now`. -/
def live (r : TokenRecord) (now : DateTime) : Bool := r.endedAt.isNone && now < r.expiresAt

/-- How a record may differ from itself later: only in having ended. -/
structure Later (r r' : TokenRecord) : Prop where
  userId : r'.userId = r.userId
  expiresAt : r'.expiresAt = r.expiresAt
  ended : r.endedAt ≠ none → r'.endedAt ≠ none

theorem Later.refl (r : TokenRecord) : Later r r := ⟨rfl, rfl, fun h => h⟩

theorem Later.trans {r r' r'' : TokenRecord} (h : Later r r') (h' : Later r' r'') : Later r r'' :=
  ⟨h'.userId.trans h.userId, h'.expiresAt.trans h.expiresAt, fun he => h'.ended (h.ended he)⟩

theorem later_end (r : TokenRecord) (now : DateTime) : Later r { r with endedAt := some now } :=
  ⟨rfl, rfl, fun _ => Option.some_ne_none now⟩

end TokenRecord

namespace InMemoryUserRepository

abbrev Tokens := Table String TokenRecord

/-- What an insertion draws from outside: an identifier and the creation time. -/
structure RecordDraw where
  id : Uuid
  createdAt : DateTime

def storeToken (store : Tokens) (userId : Uuid) (tokenHash : String) (expiresAt : DateTime)
    (d : RecordDraw) : Tokens :=
  store.insert tokenHash ⟨d.id, userId, tokenHash, expiresAt, none, d.createdAt⟩

/-- The token is checked against the clock and ended under one write lock. -/
def validateAndEnd (store : Tokens) (tokenHash : String) (now : DateTime) :
    Option Uuid × Tokens :=
  match store.lookup tokenHash with
  | some record =>
    if record.live now then
      (some record.userId, store.insert tokenHash { record with endedAt := some now })
    else (none, store)
  | none => (none, store)

def storeRefreshToken : Tokens → Uuid → String → DateTime → RecordDraw → Tokens :=
  storeToken

def validateAndRevokeRefreshToken : Tokens → String → DateTime → Option Uuid × Tokens :=
  validateAndEnd

def revokeAllUserRefreshTokens (store : Tokens) (userId : Uuid) (now : DateTime) : Tokens :=
  store.mapValues fun record =>
    if record.userId = userId ∧ record.endedAt = none then { record with endedAt := some now }
    else record

def storePasswordResetToken : Tokens → Uuid → String → DateTime → RecordDraw → Tokens :=
  storeToken

def validateAndConsumeResetToken : Tokens → String → DateTime → Option Uuid × Tokens :=
  validateAndEnd

def updatePasswordHash (users : Users) (userId : Uuid) (newHash : String) (now : DateTime) :
    Users :=
  match users.lookup userId with
  | some user => users.insert userId { user with passwordHash := newHash, updatedAt := now }
  | none => users

section
variable {store store' : Tokens} {h : String} {u : Uuid} {now : DateTime}

/-- The token of the hash `h` was stored and has been used or revoked. -/
def Ended (store : Tokens) (h : String) : Prop :=
  ∃ r, store.lookup h = some r ∧ r.endedAt ≠ none

theorem Ended.evolves (he : Ended store h) (hs : Table.Evolves TokenRecord.Later store store') :
    Ended store' h := by
  obtain ⟨r, hr, hend⟩ := he
  obtain ⟨r', hr', hlater⟩ := hs h r hr
  exact ⟨r', hr', hlater.ended hend⟩

theorem TokenRecord.live_iff {r : TokenRecord} :
    r.live now = true ↔ r.endedAt = none ∧ now < r.expiresAt := by
  simp [TokenRecord.live]

/-- A token is accepted when its record is live, and has ended afterwards. -/
theorem validateAndEnd_some (hv : validateAndEnd store h now = (some u, store')) :
    ∃ r, store.lookup h = some r ∧ r.endedAt = none ∧ now < r.expiresAt ∧ r.userId = u ∧
      Table.SetAt store h { r with endedAt := some now } store' := by
  unfold validateAndEnd at hv
  cases hl : store.lookup h with
  | none => simp [hl] at hv
  | some r =>
    simp only [hl] at hv
    split_ifs at hv with hlive
    · obtain ⟨hu, rfl⟩ := Prod.mk.inj hv
      obtain ⟨hend, hexp⟩ := TokenRecord.live_iff.mp hlive
      exact ⟨r, rfl, hend, hexp, Option.some.inj hu, Table.setAt_insert _ _ _⟩
    · simp at hv

theorem validateAndEnd_none (hv : validateAndEnd store h now = (none, store')) :
    store' = store := by
  unfold validateAndEnd at hv
  cases hl : store.lookup h with
  | none =>
    simp only [hl, Prod.mk.injEq, true_and] at hv
    exact hv.symm
  | some r =>
    simp only [hl] at hv
    split_ifs at hv
    · simp at hv
    · exact (Prod.mk.inj hv).2.symm

/-- A live record is accepted. -/
theorem validateAndEnd_of_live {r : TokenRecord} (hr : store.lookup h = some r)
    (hend : r.endedAt = none) (hexp : now < r.expiresAt) :
    ∃ store', validateAndEnd store h now = (some r.userId, store') := by
  have hlive : r.live now = true := TokenRecord.live_iff.mpr ⟨hend, hexp⟩
  simp [validateAndEnd, hr, hlive]

theorem not_accepted_of_ended (he : Ended store h) :
    validateAndEnd store h now ≠ (some u, store') := by
  intro hv
  obtain ⟨r, hr, hend⟩ := he
  obtain ⟨r', hr', hnone, -⟩ := validateAndEnd_some hv
  obtain rfl := Option.some.inj (hr.symm.trans hr')
  exact hend hnone

theorem ended_of_accepted (hv : validateAndEnd store h now = (some u, store')) :
    Ended store' h := by
  obtain ⟨r, -, -, -, -, hm⟩ := validateAndEnd_some hv
  exact ⟨_, hm.lookup_self, Option.some_ne_none now⟩

theorem evolves_validateAndEnd {o : Option Uuid} (hv : validateAndEnd store h now = (o, store')) :
    Table.Evolves TokenRecord.Later store store' := by
  cases o with
  | none =>
    rw [validateAndEnd_none hv]
    exact .refl TokenRecord.Later.refl _
  | some u =>
    obtain ⟨r, hr, -, -, -, hm⟩ := validateAndEnd_some hv
    exact .set TokenRecord.Later.refl hm hr (r.later_end now)

theorem evolves_revokeAll (store : Tokens) (u : Uuid) (now : DateTime) :
    Table.Evolves TokenRecord.Later store (revokeAllUserRefreshTokens store u now) := by
  apply Table.Evolves.mapValues
  intro r
  split_ifs
  · exact r.later_end now
  · exact .refl r

/-- Once all tokens of the user are revoked, each of them has ended. -/
theorem ended_of_revokeAll {r : TokenRecord}
    (hr : (revokeAllUserRefreshTokens store u now).lookup h = some r) (hu : r.userId = u) :
    r.endedAt ≠ none := by
  rw [revokeAllUserRefreshTokens, Table.lookup_mapValues] at hr
  obtain ⟨r', -, rfl⟩ := Option.map_eq_some_iff.mp hr
  split_ifs at hu ⊢ with hc
  · exact Option.some_ne_none now
  · exact fun hend => hc ⟨hu, hend⟩

theorem ended_revokeAll {r : TokenRecord} (hr : store.lookup h = some r) (hu : r.userId = u) :
    Ended (revokeAllUserRefreshTokens store u now) h := by
  obtain ⟨r', hr', hlater⟩ := evolves_revokeAll store u now h r hr
  exact ⟨r', hr', ended_of_revokeAll hr' (hlater.userId.trans hu)⟩

theorem lookup_validateAndEnd_none {o : Option Uuid} {k : String}
    (hv : validateAndEnd store h now = (o, store')) (hn : store.lookup k = none) :
    store'.lookup k = none := by
  cases o with
  | none =>
    rw [validateAndEnd_none hv]
    exact hn
  | some u =>
    obtain ⟨r, hr, -, -, -, hm⟩ := validateAndEnd_some hv
    rw [hm.lookup_ne, hn]
    intro hk
    rw [hk, hr] at hn
    cases hn

theorem lookup_revokeAll_none (hn : store.lookup h = none) :
    (revokeAllUserRefreshTokens store u now).lookup h = none := by
  rw [revokeAllUserRefreshTokens, Table.lookup_mapValues, hn]
  rfl

theorem setAt_storeToken (store : Tokens) (u : Uuid) (h : String) (t : DateTime)
    (d : RecordDraw) :
    Table.SetAt store h ⟨d.id, u, h, t, none, d.createdAt⟩ (storeToken store u h t d) :=
  Table.setAt_insert _ _ _

end

section
variable {users : Users}

/-- Accounts keep their identifiers when a password changes. -/
theorem inbound_updatePasswordHash {xs : List User} (hs : Table.Inbound User.id users xs)
    (u : Uuid) (newHash : String) (now : DateTime) :
    Table.Inbound User.id (updatePasswordHash users u newHash now) xs := by
  unfold updatePasswordHash
  cases hl : users.lookup u with
  | none => exact hs
  | some user => exact hs.set hl (Table.setAt_insert _ _ _) (hs.keyed u user hl)

theorem lookup_updatePasswordHash_ne_none {v : Uuid} (hv : users.lookup v ≠ none) (u : Uuid)
    (newHash : String) (now : DateTime) :
    (updatePasswordHash users u newHash now).lookup v ≠ none := by
  unfold updatePasswordHash
  cases hl : users.lookup u with
  | none => exact hv
  | some user =>
    rw [Table.setAt_insert _ _ _ v]
    split_ifs
    · exact Option.some_ne_none _
    · exact hv

end

end InMemoryUserRepository
end Hanbova
