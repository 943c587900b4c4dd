import Hanbova.Escrow.Creation
import Hanbova.Escrow.FailedSwap

/-! The mint that keeps its locks in a table, with its clock set to the time of a call. -/
namespace Hanbova

open Library Library.Text
open CashuProtectedPaymentProvider

/-! ### Whole seconds -/

namespace DateTime

theorem timestamp_mono {t u : DateTime} (h : t ≤ u) : t.timestamp ≤ u.timestamp :=
  Int.ediv_le_ediv (by decide) h

/-- From the epoch on, the calendar's timestamps fit into 64 bits. -/
theorem timestamp_bounds {t : DateTime} (h : .epoch ≤ t) :
    0 ≤ t.timestamp ∧ t.timestamp < 2 ^ 64 := by
  have hlo : (0 : ℤ) ≤ t.nanos := h
  have hhi := t.inRange.2
  unfold DateTime.timestamp
  unfold maxUtc at hhi
  omega

end DateTime

theorem CashuProtectedPaymentProvider.toNat_asU64 {n : ℤ} (h : 0 ≤ n ∧ n < 2 ^ 64) :
    (asU64 n).toNat = n.toNat := by
  have hmod : n % 2 ^ 64 = n := Int.emod_eq_of_lt h.1 h.2
  have hlt : n.toNat < 2 ^ 64 := by omega
  rw [asU64, hmod, UInt64.toNat_ofNat', Nat.mod_eq_of_lt hlt]

theorem CashuProtectedPaymentProvider.asU64_le_iff {t u : DateTime} (ht : .epoch ≤ t)
    (hu : .epoch ≤ u) :
    asU64 t.timestamp ≤ asU64 u.timestamp ↔ t.timestamp ≤ u.timestamp := by
  have ht := DateTime.timestamp_bounds ht
  have hu := DateTime.timestamp_bounds hu
  rw [UInt64.le_iff_toNat_le, toNat_asU64 ht, toNat_asU64 hu]
  omega

namespace Ledger
variable {w : Ledger} {s : String} {l : Lock}

/-- The ledger at the time of a call. -/
def atTime (w : Ledger) (now : DateTime) : Ledger := { w with now := asU64 now.timestamp }

theorem setAt_spend (w : Ledger) (s : String) (l : Lock) (key : String) :
    Table.SetAt w.locks s { l with spentBy := some key } (w.spend s l key).locks :=
  Table.setAt_insert _ _ _

/-- The names of tokens to come are free. -/
def Named (w : Ledger) : Prop :=
  ∀ k, w.locks.size ≤ k → w.locks.lookup ("cashuB" ++ toString k) = none

theorem nextToken_eq (w : Ledger) : w.nextToken = "cashuB" ++ toString w.locks.size := by
  unfold nextToken Table.size AList.keys List.keys
  rw [List.length_map]

theorem Named.next (h : w.Named) : w.locks.lookup w.nextToken = none := by
  rw [nextToken_eq]
  exact h _ (Nat.le_refl _)

theorem token_injective {k k' : ℕ} (h : "cashuB" ++ toString k = "cashuB" ++ toString k') :
    k = k' := by
  have hdigits : toString k = toString k' := String.append_right_inj _ |>.mp h
  have hlist : Nat.toDigits 10 k = Nat.toDigits 10 k' := by
    rw [Nat.toString_eq_ofList_toDigits, Nat.toString_eq_ofList_toDigits] at hdigits
    exact String.ofList_injective hdigits
  have hk := Nat.ofDigitChars_toDigits (b := 10) (n := k) (by decide) (by decide)
  rw [hlist, Nat.ofDigitChars_toDigits (by decide) (by decide)] at hk
  exact hk.symm

theorem Named.lock (h : w.Named) (l : Lock) : (w.lock l).Named := by
  intro k hk
  have hsize : (w.lock l).locks.size = w.locks.size + 1 := Table.size_insert_of_fresh h.next
  have hset := w.setAt_lock l
  have hne : "cashuB" ++ toString k ≠ w.nextToken := by
    rw [nextToken_eq]
    intro he
    have := token_injective he
    omega
  exact (hset.lookup_ne hne).trans (h k (by omega))

theorem Named.spend (h : w.Named) (hl : w.locks.lookup s = some l) (key : String) :
    (w.spend s l key).Named := by
  intro k hk
  have hsize : (w.spend s l key).locks.size = w.locks.size := Table.size_insert_of_lookup hl
  have hset := w.setAt_spend s l key
  have hnone := h k (by omega)
  have hne : "cashuB" ++ toString k ≠ s := by
    rintro rfl
    rw [hl] at hnone
    cases hnone
  exact (hset.lookup_ne hne).trans hnone

theorem receive_of_spent (hl : w.locks.lookup s = some l) (h : l.spentBy ≠ none)
    (keys : List String) : w.receive s keys = (.error spentMessage, w) := by
  have hsome : l.spentBy.isSome = true := Option.isSome_iff_ne_none.mpr h
  simp only [receive, hl, hsome, if_true]

theorem receive_of_unspent (hl : w.locks.lookup s = some l) (h : l.spentBy = none) {key : String}
    (hkey : w.unlocks l key = true) : w.receive s [key] = (.ok l.amount, w.spend s l key) := by
  simp [receive, hl, h, hkey]

end Ledger

/-! ### The provider over the ledger -/

/-- The token of the payment is locked on its terms, and unspent as long as the payment is
claimable. -/
structure TrackedPayment.BackedBy (t : TrackedPayment) (w : Ledger) (l : Lock) : Prop where
  lookup : w.locks.lookup t.cashuToken = some l
  recipient : l.recipient = t.recipientPubkey
  refund : l.refund = t.refundPubkey
  locktime : l.locktime = asU64 t.locktime.timestamp
  unspent : l.spentBy = none ↔ t.intent.status = .claimable

namespace CashuProtectedPaymentProvider
variable {pairs : KeyPairs} {w : Ledger} {t : TrackedPayment} {l : Lock} {key : String}

/-- With a key that unlocks it a claimable payment is settled, and the token is spent by that
key. -/
theorem settle_of_claimable (hback : t.BackedBy w l)
    (hkey : w.unlocks l (pairs.publicKey key) = true)
    {how : Settlement} {won lost : PaymentStatus} (hmoves : how.Moves won lost)
    (hok : ¬ ∃ e, (how.win t.intent).2 = .error e) (hst : t.intent.status = .claimable)
    (now : DateTime) :
    ∃ receipt intent, settle (c := .ledger pairs) w t t.cashuToken key how now =
        (.ok receipt, { t with intent }, w.spend t.cashuToken l (pairs.publicKey key)) ∧
      intent.status = won := by
  have hrecv : (Cdk.ledger pairs).receive w t.cashuToken [key] =
      (.ok l.amount, w.spend t.cashuToken l (pairs.publicKey key)) :=
    Ledger.receive_of_unspent hback.lookup (hback.unspent.mpr hst) hkey
  have hwin := hmoves.win t.intent (.inl hst)
  rw [if_pos hst] at hwin
  unfold settle
  rw [hrecv]
  match hw : how.win t.intent with
  | (intent, .error e) => exact absurd ⟨e, by rw [hw]⟩ hok
  | (intent, .ok ()) =>
    rw [hw] at hwin
    exact ⟨_, intent, rfl, hwin⟩

/-- A settled payment is not settled again. -/
theorem settle_of_settled (pairs : KeyPairs) (hback : t.BackedBy w l) {how : Settlement}
    {won lost : PaymentStatus} (hmoves : how.Moves won lost) (hrest : AtRest t.intent)
    (hst : t.intent.status ≠ .claimable)
    (key : String) (now : DateTime) :
    ∃ e intent, settle (c := .ledger pairs) w t t.cashuToken key how now =
        (.error e, { t with intent }, w) ∧ intent.status = t.intent.status := by
  have hrecv : (Cdk.ledger pairs).receive w t.cashuToken [key] =
      (.error Ledger.spentMessage, w) :=
    Ledger.receive_of_spent hback.lookup (mt hback.unspent.mp hst) _
  have hguess := hmoves.guess t.intent now hrest
  rw [if_neg hst] at hguess
  have hspent : Cdk.alreadySpent Ledger.spentMessage = true := Ledger.alreadySpent_spentMessage.1
  unfold settle
  rw [hrecv]
  simp only [hspent, if_true]
  exact ⟨_, _, rfl, hguess⟩

/-- The conditions of the request name keys in use. -/
structure KnownKeys (pairs : KeyPairs) (i : LockingConditions) (refund : String) : Prop where
  recipient : i.recipientPubkey ∈ pairs.map Prod.snd
  named : i.refundPubkey = some refund
  refund : refund ∈ pairs.map Prod.snd

variable {request : CreateProtectedPaymentRequest} {i : LockingConditions} {refund : String}
  {nowUnix : UInt64}

theorem checkRequest_ledger (hi : request.lockingConditions = some i)
    (hkeys : KnownKeys pairs i refund) (mintUrl : String) (hw : w.now = nowUnix) :
    (asU64 i.locktime.timestamp ≤ nowUnix ∧
      ∃ e, checkRequest (c := .ledger pairs) w mintUrl nowUnix request = .error e) ∨
    (nowUnix < asU64 i.locktime.timestamp ∧
      checkRequest (c := .ledger pairs) w mintUrl nowUnix request =
        .ok ⟨request, i, i.recipientPubkey, (asU64 i.locktime.timestamp, some refund)⟩) := by
  have hrec : pairs.parsePublicKey i.recipientPubkey = .ok i.recipientPubkey :=
    if_pos hkeys.recipient
  have hpk : pairs.parsePublicKey refund = .ok refund := if_pos hkeys.refund
  have href : parseRefundPubkey (c := .ledger pairs) i.refundPubkey = .ok (some refund) := by
    simp only [hkeys.named, parseRefundPubkey, hpk]
  have hmint : checkMintSupport (c := .ledger pairs) w mintUrl = .ok () := rfl
  unfold checkRequest
  simp only [hmint, hi, hrec, href, Except.mapError, bind, Except.bind]
  by_cases hlt : asU64 i.locktime.timestamp ≤ nowUnix
  · left
    simp only [if_pos hlt]
    exact ⟨hlt, _, rfl⟩
  · right
    have hpast : ¬ asU64 i.locktime.timestamp < w.now := by
      rw [hw]
      exact fun h => hlt (UInt64.le_of_lt h)
    simp only [if_neg hlt, if_neg hpast]
    exact ⟨UInt64.not_le.mp hlt, rfl⟩

/-- A new record keeps the conditions of its request. -/
theorem buildTracked_conditions {c : Cdk} {r : LockRequest c} {tokenStr : String} {id : Uuid}
    {now now₁ now₂ : DateTime} (h : buildTracked r tokenStr id now now₁ now₂ = .ok t) :
    t.recipientPubkey = r.conditionsInput.recipientPubkey ∧
      t.refundPubkey = r.conditionsInput.refundPubkey ∧
      t.locktime = r.conditionsInput.locktime := by
  obtain ⟨i, -, rfl⟩ := buildTracked_eq_ok.mp h
  exact ⟨rfl, rfl, rfl⟩

theorem prepareSend_ledger (pairs : KeyPairs) (w : Ledger) (amount : UInt64) (pk : String)
    (conditions : UInt64 × Option String) :
    (¬ amount ≤ w.balance ∧
      ∃ e, (Cdk.ledger pairs).prepareSend w amount pk conditions = (.error e, w)) ∨
    (amount ≤ w.balance ∧ (Cdk.ledger pairs).prepareSend w amount pk conditions =
      (.ok ⟨amount, pk, conditions.2, conditions.1, none⟩, w)) := by
  by_cases hlow : w.balance < amount
  · exact .inl ⟨UInt64.not_le.mpr hlow, _, Prod.ext (if_pos hlow) rfl⟩
  · exact .inr ⟨UInt64.not_lt.mp hlow, Prod.ext (if_neg hlow) rfl⟩

/-- The provider makes a payment of the request at this time: it is valid, its locktime lies in a
later second, and the wallet has the amount. -/
def Sendable (w : Ledger) (request : CreateProtectedPaymentRequest) (locktime now : DateTime) :
    Prop :=
  request.Valid locktime now ∧ now.timestamp < locktime.timestamp ∧
    request.amountSats.sats ≤ w.balance

/-- The record that is built for the next token is backed by a lock on the conditions of the
request. -/
theorem backedBy_of_build (hkeys : KnownKeys pairs i refund) {conditions : UInt64 × Option String}
    {id : Uuid} {now now₁ now₂ : DateTime}
    (hb : buildTracked (c := .ledger pairs) ⟨request, i, i.recipientPubkey, conditions⟩ w.nextToken
      id now now₁ now₂ = .ok t)
    (hl : l = ⟨request.amountSats.sats, i.recipientPubkey, some refund,
      asU64 i.locktime.timestamp, none⟩) : t.BackedBy (w.lock l) l := by
  subst hl
  obtain ⟨hst, htoken, -, -⟩ := buildTracked_ok hb
  obtain ⟨hrecipient, hrefund, hlocktime⟩ := buildTracked_conditions hb
  constructor
  · rw [htoken]
    exact (Ledger.setAt_lock _ _).lookup_self
  · exact hrecipient.symm
  · exact (hrefund.trans hkeys.named).symm
  · rw [hlocktime]
  · exact ⟨fun _ => hst, fun _ => rfl⟩

/-- The creation of a payment over the ledger. A refused one may have locked a token. -/
theorem create_ledger (hi : request.lockingConditions = some i) (hkeys : KnownKeys pairs i refund)
    (hw : w.Named) {now : DateTime} (hnow : .epoch ≤ now) (intents : Intents) (mintUrl : String)
    (id : Uuid) :
    (¬ Sendable w request i.locktime now ∧
      ∃ e w', createProtectedPayment (c := .ledger pairs) intents (w.atTime now) mintUrl
        (asU64 now.timestamp) request id now now now = (.error e, intents, w') ∧
      (w' = w.atTime now ∨ ∃ l, w' = (w.atTime now).lock l)) ∨
    (Sendable w request i.locktime now ∧
      ∃ t l, createProtectedPayment (c := .ledger pairs) intents
        (w.atTime now) mintUrl (asU64 now.timestamp) request id now now now =
        (.ok (createReceipt t), track intents t, (w.atTime now).lock l) ∧
      t.intent.status = .claimable ∧ t.intent.id = request.paymentId.getD id ∧
      t.locktime = i.locktime ∧ t.cashuToken = (w.atTime now).nextToken ∧
      t.BackedBy ((w.atTime now).lock l) l) := by
  have hseconds : request.Valid i.locktime now →
      (asU64 i.locktime.timestamp ≤ asU64 now.timestamp ↔
        i.locktime.timestamp ≤ now.timestamp) :=
    fun hv => asU64_le_iff (hnow.trans hv.2.2.le) hnow
  have hclock : (w.atTime now).now = asU64 now.timestamp := rfl
  rcases checkRequest_ledger hi hkeys mintUrl hclock with ⟨hle, e, he⟩ | ⟨hlt, hl⟩
  · left
    constructor
    · rintro ⟨hv, hlt, -⟩
      have := (hseconds hv).mp hle
      omega
    · refine ⟨e, w.atTime now, ?_, .inl rfl⟩
      simp only [createProtectedPayment, he]
  have hcases := createProtectedPayment_of_checked intents id now now now hl
  rcases prepareSend_ledger pairs (w.atTime now) request.amountSats.sats i.recipientPubkey
    (asU64 i.locktime.timestamp, some refund) with ⟨hlow, e', hp'⟩ | ⟨hbalance, hp'⟩
  · left
    rcases hcases with ⟨e, w₁, hp, he⟩ | ⟨send, w₁, hp, -⟩
    · cases hp.symm.trans hp'
      exact ⟨fun h => hlow h.2.2, _, _, he, .inl rfl⟩
    · cases hp.symm.trans hp'
  rcases hcases with ⟨e, w₁, hp, -⟩ | ⟨send, w₁, hp, hrest⟩
  · cases hp.symm.trans hp'
  cases hp.symm.trans hp'
  have hcf := Ledger.confirm_of_fresh (w := w.atTime now)
    ⟨request.amountSats.sats, i.recipientPubkey, some refund, asU64 i.locktime.timestamp, none⟩
    hw.next
  rcases hrest with ⟨e, w₂, hcf', -⟩ | ⟨tok, w₂, hcf', hb⟩
  · cases hcf.symm.trans hcf'
  cases hcf.symm.trans hcf'
  have hvalid := buildTracked_isOk_iff (c := .ledger pairs) ⟨request, i, i.recipientPubkey,
    (asU64 i.locktime.timestamp, some refund)⟩ (w.atTime now).nextToken id now now now
  rcases hb with ⟨e, hb, he⟩ | ⟨t, hb, he⟩
  · left
    refine ⟨fun h => ?_, e, _, he, .inr ⟨_, rfl⟩⟩
    obtain ⟨t, ht⟩ := hvalid.mpr h.1
    cases hb.symm.trans ht
  · right
    have hv := hvalid.mp ⟨t, hb⟩
    have hlater : now.timestamp < i.locktime.timestamp := by
      have := mt (hseconds hv).mpr (UInt64.not_le.mpr hlt)
      omega
    obtain ⟨hst, htoken, hid, -⟩ := buildTracked_ok hb
    obtain ⟨-, -, hlocktime⟩ := buildTracked_conditions hb
    exact ⟨⟨hv, hlater, hbalance⟩, t, _, he, hst, hid, hlocktime, htoken,
      backedBy_of_build hkeys hb rfl⟩

end CashuProtectedPaymentProvider
end Hanbova
