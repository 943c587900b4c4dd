import Hanbova.Escrow.Ledger

/-! The locktime that a payment asks for and the one that its token is locked with. The provider
casts a signed timestamp to a `u64`. -/
namespace Hanbova

open Library Library.Text
open CashuProtectedPaymentProvider

theorem DateTime.epoch_le_of_timestamp {t : DateTime} (h : 0 ≤ t.timestamp) : .epoch ≤ t := by
  unfold DateTime.timestamp at h
  have hn : (0 : ℤ) ≤ t.nanos := by omega
  exact hn

namespace CashuProtectedPaymentProvider
variable {c : Cdk} {w : c.World} {mintUrl : String} {nowUnix : UInt64} {intents : Intents}
  {request : CreateProtectedPaymentRequest} {id : Uuid} {now now₁ now₂ t : DateTime}

/-- The cast keeps a timestamp from the epoch on. -/
theorem asU64_of_nonneg (h : 0 ≤ t.timestamp) :
    ((asU64 t.timestamp).toNat : ℤ) = t.timestamp := by
  rw [toNat_asU64 (DateTime.timestamp_bounds (DateTime.epoch_le_of_timestamp h))]
  exact Int.toNat_of_nonneg h

theorem lt_asU64_iff (h : 0 ≤ t.timestamp) :
    nowUnix < asU64 t.timestamp ↔ (nowUnix.toNat : ℤ) < t.timestamp := by
  have hcast := asU64_of_nonneg h
  rw [UInt64.lt_iff_toNat_lt]
  omega

/-- A token is locked only if the locktime is later than now, and with that very locktime; any
other locktime is refused before. -/
structure KeepsLocktime (locktimeOf : c.Conditions → Option UInt64) (intents : Intents)
    (w : c.World) (mintUrl : String) (nowUnix : UInt64) (request : CreateProtectedPaymentRequest)
    (id : Uuid) (now now₁ now₂ : DateTime) : Prop where
  later : ∀ l, checkRequest w mintUrl nowUnix request = .ok l → Lockable w l →
    (nowUnix.toNat : ℤ) < l.conditionsInput.locktime.timestamp
  kept : ∀ l, checkRequest w mintUrl nowUnix request = .ok l → Lockable w l →
    ∃ locktime, locktimeOf l.spendingConditions = some locktime ∧
      (locktime.toNat : ℤ) = l.conditionsInput.locktime.timestamp
  refused : ∀ i, request.lockingConditions = some i →
    i.locktime.timestamp ≤ (nowUnix.toNat : ℤ) →
    ∃ e, createProtectedPayment intents w mintUrl nowUnix request id now now₁ now₂ =
      (.error e, intents, w)
  refusedAsLocktime : ∀ i pk refund, Checked w request i pk refund →
    i.locktime.timestamp ≤ (nowUnix.toNat : ℤ) →
    ∃ m, createProtectedPayment intents w mintUrl nowUnix request id now now₁ now₂ =
      (.error (.lockingCondition m), intents, w)

/-- If the locktime is kept, no past one gets to the wallet. -/
theorem KeepsLocktime.later_of_checked {locktimeOf : c.Conditions → Option UInt64}
    (h : KeepsLocktime locktimeOf intents w mintUrl nowUnix request id now now₁ now₂)
    {l : LockRequest c} (hl : checkRequest w mintUrl nowUnix request = .ok l) :
    (nowUnix.toNat : ℤ) < l.conditionsInput.locktime.timestamp := by
  by_contra hpast
  rw [not_lt] at hpast
  obtain ⟨-, refund, hc, -⟩ := checkRequest_eq_ok.mp hl
  by_cases hlock : Lockable w l
  · exact absurd (h.later l hl hlock) (not_lt.mpr hpast)
  -- the wallet's refusal is not reported as one of the locktime
  · obtain ⟨m, hm⟩ := h.refusedAsLocktime _ _ refund hc hpast
    rcases createProtectedPayment_of_checked intents id now now₁ now₂ hl with
      ⟨e, w₁, -, he⟩ | ⟨send, w₁, hp, ⟨e, w₂, -, he⟩ | ⟨tok, w₂, hcf, -⟩⟩
    · cases he.symm.trans hm
    · cases he.symm.trans hm
    · exact hlock ⟨send, w₁, tok, w₂, hp, hcf⟩

/-- The locktime is kept unless a time before the epoch, whose cast lies far in the future, gets to
the wallet. -/
theorem keepsLocktime_iff (locktimeOf : c.Conditions → Option UInt64)
    (hlocktime : ∀ w locktime refundKeys conditions,
      c.newConditions w locktime refundKeys = .ok conditions →
      locktimeOf conditions = some locktime)
    (intents : Intents) (w : c.World) (mintUrl : String) (nowUnix : UInt64)
    (request : CreateProtectedPaymentRequest) (id : Uuid) (now now₁ now₂ : DateTime) :
    KeepsLocktime locktimeOf intents w mintUrl nowUnix request id now now₁ now₂ ↔
      ∀ i pk refund, Checked w request i pk refund → i.locktime.timestamp < 0 →
        nowUnix < asU64 i.locktime.timestamp → ∀ conditions,
        c.newConditions w (asU64 i.locktime.timestamp) (refund.map fun k => [k]) ≠
          .ok conditions := by
  constructor
  · intro h i pk refund hc hneg hlt conditions hcond
    have hl : checkRequest w mintUrl nowUnix request = .ok ⟨request, i, pk, conditions⟩ :=
      checkRequest_eq_ok.mpr ⟨rfl, refund, hc, hlt, hcond⟩
    have hlater := h.later_of_checked hl
    simp only at hlater
    omega
  · intro h
    have admitted : ∀ l, checkRequest w mintUrl nowUnix request = .ok l →
        0 ≤ l.conditionsInput.locktime.timestamp ∧
          nowUnix < asU64 l.conditionsInput.locktime.timestamp ∧
          locktimeOf l.spendingConditions = some (asU64 l.conditionsInput.locktime.timestamp) := by
      intro l hl
      obtain ⟨-, refund, hc, hlt, hcond⟩ := checkRequest_eq_ok.mp hl
      refine ⟨?_, hlt, hlocktime _ _ _ _ hcond⟩
      by_contra hneg
      exact h _ _ _ hc (not_le.mp hneg) hlt _ hcond
    have later : ∀ l, checkRequest w mintUrl nowUnix request = .ok l →
        (nowUnix.toNat : ℤ) < l.conditionsInput.locktime.timestamp := by
      intro l hl
      obtain ⟨hpos, hlt, -⟩ := admitted l hl
      exact (lt_asU64_iff hpos).mp hlt
    constructor
    · exact fun l hl _ => later l hl
    · intro l hl _
      obtain ⟨hpos, -, hof⟩ := admitted l hl
      exact ⟨_, hof, asU64_of_nonneg hpos⟩
    · intro i hi hle
      cases hl : checkRequest w mintUrl nowUnix request with
      | error e => exact ⟨e, createProtectedPayment_of_error hl⟩
      | ok l =>
        obtain ⟨-, hi'⟩ := checkRequest_ok hl
        obtain rfl := Option.some.inj (hi.symm.trans hi')
        exact absurd (later l hl) (not_lt.mpr hle)
    · intro i pk refund hc hle
      rcases checkRequest_of_checked hc mintUrl nowUnix with ⟨m, hm⟩ | ⟨l, hl, rfl⟩
      · exact ⟨m, createProtectedPayment_of_error hm⟩
      · exact absurd (later l hl) (not_lt.mpr hle)

end CashuProtectedPaymentProvider

/-- The locktime of the ledger's conditions. -/
def Ledger.locktimeOf (conditions : UInt64 × Option String) : Option UInt64 := some conditions.1

theorem Ledger.locktimeOf_newConditions (pairs : KeyPairs) (w : Ledger) (locktime : UInt64)
    (refundKeys : Option (List String)) (conditions : UInt64 × Option String)
    (h : (Cdk.ledger pairs).newConditions w locktime refundKeys = .ok conditions) :
    locktimeOf conditions = some locktime := by
  have hnew : (if locktime < w.now then .error "Locktime in past"
      else .ok (locktime, refundKeys.bind List.head?)) =
      (.ok conditions : Except String (UInt64 × Option String)) := h
  split_ifs at hnew
  rw [← Except.ok.inj hnew]
  rfl

/-- One second before the epoch. -/
def sampleBefore : DateTime := .ofSeconds (-1) (by decide)

/-- A payment that could be refunded from a time in the past. -/
def samplePast : CreateProtectedPaymentRequest :=
  { sampleCreate with
    expiresAt := sampleBefore
    lockingConditions := some { sampleConditions with locktime := sampleBefore } }

/-- A time before the epoch is taken for the last second that a `u64` can count. -/
theorem not_keepsLocktime : ¬ ∀ (c : Cdk) (locktimeOf : c.Conditions → Option UInt64),
    (∀ w locktime refundKeys conditions,
      c.newConditions w locktime refundKeys = .ok conditions →
      locktimeOf conditions = some locktime) →
    ∀ intents w mintUrl nowUnix request id now now₁ now₂,
      KeepsLocktime locktimeOf intents w mintUrl nowUnix request id now now₁ now₂ := by
  intro hall
  have h := hall sampleCdk Ledger.locktimeOf (Ledger.locktimeOf_newConditions _) ∅ sampleLedger
    "mint" 0 samplePast (.ofNat 1) .epoch .epoch .epoch
  have hl : checkRequest (c := sampleCdk) sampleLedger "mint" 0 samplePast =
      .ok ⟨samplePast, { sampleConditions with locktime := sampleBefore }, bobKey,
        (18446744073709551615, some aliceKey)⟩ := rfl
  have hlock : Lockable (c := sampleCdk) sampleLedger ⟨samplePast,
      { sampleConditions with locktime := sampleBefore }, bobKey,
      (18446744073709551615, some aliceKey)⟩ := ⟨_, _, _, _, rfl, rfl⟩
  have hlater := h.later _ hl hlock
  revert hlater
  decide

/-- Alice asks for a locktime on the next day. -/
theorem keepsLocktime_iff_sample : KeepsLocktime (c := sampleCdk) Ledger.locktimeOf ∅ sampleLedger
    "mint" 0 sampleCreate (.ofNat 1) .epoch .epoch .epoch := by
  refine (keepsLocktime_iff _ (Ledger.locktimeOf_newConditions _) _ _ _ _ _ _ _ _ _).mpr ?_
  intro i pk refund hc hneg
  obtain rfl := Option.some.inj hc.conditions
  exact absurd hneg (by decide)

end Hanbova
