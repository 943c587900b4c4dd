import Hanbova.Escrow.Invariant
import Hanbova.Escrow.Mock
import Hanbova.Library.History

/-! Settlement by the mock provider: once for each payment, and on the right side of its expiry. -/
namespace Hanbova

open Library Library.Text
open MockProtectedPaymentProvider (Intents)

/-- A call of the mock provider, with its readings of the clock and its answer. -/
inductive MockCall
  | created (request : CreateProtectedPaymentRequest) (now now₁ now₂ : DateTime)
      (answer : Except ProtectedPaymentError ProtectedPaymentReceipt)
  | claimed (request : ClaimPaymentRequest) (now now₁ : DateTime)
      (answer : Except ProtectedPaymentError ProtectedPaymentReceipt)
  | refunded (request : RefundPaymentRequest) (now now₁ now₂ : DateTime)
      (answer : Except ProtectedPaymentError ProtectedPaymentReceipt)

namespace MockCall

open MockProtectedPaymentProvider in
/-- Payments are created under fresh identifiers. -/
inductive Step : Intents → MockCall → Intents → Prop
  | created {s request id now now₁ now₂ answer t} :
      s.lookup (request.paymentId.getD id) = none →
      createProtectedPayment s request id now now₁ now₂ = (answer, t) →
      Step s (.created request now now₁ now₂ answer) t
  | claimed {s request now now₁ answer t} :
      claimPayment s request now now₁ = (answer, t) →
      Step s (.claimed request now now₁ answer) t
  | refunded {s request now now₁ now₂ answer t} :
      refundPayment s request now now₁ now₂ = (answer, t) →
      Step s (.refunded request now now₁ now₂ answer) t

/-- The payment that the call has created, with its expiry. -/
def creates : MockCall → Option (Uuid × DateTime)
  | .created request _ _ _ (.ok receipt) => some (receipt.paymentId, request.expiresAt)
  | _ => none

/-- The call has claimed or refunded the payment. -/
def settles (id : Uuid) : MockCall → Bool
  | .claimed request _ _ (.ok _) => request.paymentId = id
  | .refunded request _ _ _ (.ok _) => request.paymentId = id
  | _ => false

/-- The call has claimed the payment. -/
def Claims (id : Uuid) (c : MockCall) : Prop :=
  ∃ request now now₁ receipt, c = .claimed request now now₁ (.ok receipt) ∧
    request.paymentId = id

/-- The call asks for the payment back at the time `exp` or later. -/
def AsksBack (id : Uuid) (exp : DateTime) (c : MockCall) : Prop :=
  ∃ request now now₁ now₂ answer, c = .refunded request now now₁ now₂ answer ∧
    request.paymentId = id ∧ exp ≤ now

end MockCall

/-- Calls of the mock provider, by anyone and in any number. -/
def mockCallSystem : System Intents MockCall where
  init s := s = ∅
  step := MockCall.Step

/-- The payment has been created with this expiry. -/
def CreatedWith (tr : List (Transition Intents MockCall)) (id : Uuid) (exp : DateTime) : Prop :=
  ∃ x ∈ tr, x.label.creates = some (id, exp)

/-- How often the payment has been settled. -/
def settlements (tr : List (Transition Intents MockCall)) (id : Uuid) : ℕ :=
  tr.countP fun x => x.label.settles id

/-- No payment is settled twice, claims succeed before the expiry and refunds from then on, and the
first refund from then on succeeds unless the payment has been claimed. -/
structure SettledOnce (tr : List (Transition Intents MockCall)) : Prop where
  expiry : ∀ id exp exp', CreatedWith tr id exp → CreatedWith tr id exp' → exp = exp'
  once : ∀ id, settlements tr id ≤ 1
  claimed : ∀ x ∈ tr, ∀ request now now₁ receipt,
    x.label = .claimed request now now₁ (.ok receipt) →
    ∃ exp, CreatedWith tr request.paymentId exp ∧ now < exp
  refunded : ∀ x ∈ tr, ∀ request now now₁ now₂ receipt,
    x.label = .refunded request now now₁ now₂ (.ok receipt) →
    ∃ exp, CreatedWith tr request.paymentId exp ∧ exp ≤ now
  refundable : ∀ tr₁ x tr₂, tr = tr₁ ++ x :: tr₂ →
    ∀ request now now₁ now₂ answer exp,
    x.label = .refunded request now now₁ now₂ answer →
    CreatedWith tr₁ request.paymentId exp →
    exp ≤ now → (∀ y ∈ tr₁, ¬ y.label.Claims request.paymentId) →
    (∀ y ∈ tr₁, ¬ y.label.AsksBack request.paymentId exp) →
      ∃ receipt, answer = .ok receipt

namespace PaymentIntent

def Undecided (i : PaymentIntent) : Prop := i.status = .claimable ∨ i.status = .refundAvailable

def Decided (i : PaymentIntent) : Prop := i.status = .claimed ∨ i.status = .refunded

theorem Undecided.not_decided {i : PaymentIntent} (h : i.Undecided) : ¬ i.Decided := by
  unfold Decided
  rcases h with h | h <;> rw [h] <;> decide

end PaymentIntent

namespace MockProtectedPaymentProvider
variable {i : PaymentIntent}

/-! ### One payment -/

theorem canTransitionTo_refundAvailable_iff (hi : i.Undecided ∨ i.Decided) :
    i.status.canTransitionTo .refundAvailable = true ↔ i.Undecided := by
  unfold PaymentIntent.Undecided PaymentIntent.Decided at *
  rcases hi with (h | h) | (h | h) <;> rw [h] <;> decide

/-- A claim settles an unsettled payment before its expiry, or changes nothing about that. -/
theorem claim_spec (hi : i.Undecided ∨ i.Decided) (request : ClaimPaymentRequest)
    (now now₁ : DateTime) :
    ((∃ receipt, (claim i request now now₁).1 = .ok receipt) ∧ i.isExpired now = false ∧
        i.Undecided ∧ (claim i request now now₁).2.Decided) ∨
      (∃ e, (claim i request now now₁).1 = .error e) ∧
        (i.Undecided → (claim i request now now₁).2.Undecided) ∧
        (i.Decided → (claim i request now now₁).2.Decided) := by
  have hback := canTransitionTo_refundAvailable_iff hi
  unfold claim
  split_ifs with hx hst hproof
  · right
    cases hc : i.status.canTransitionTo .refundAvailable with
    | true =>
      rw [PaymentIntent.progress_of_legal hc]
      exact ⟨⟨_, rfl⟩, fun _ => .inr rfl, fun h => absurd h (hback.mp hc).not_decided⟩
    | false =>
      obtain ⟨e, he⟩ := PaymentIntent.progress_of_illegal hc now₁
      rw [he]
      exact ⟨⟨_, rfl⟩, id, id⟩
  · exact .inr ⟨⟨_, rfl⟩, id, id⟩
  · exact .inr ⟨⟨_, rfl⟩, id, id⟩
  · left
    have hclaimable : i.status = .claimable := by
      by_contra hne
      apply hst
      refine ⟨hne, ?_⟩
      rcases hi with (h | h) | (h | h) <;> rw [h] <;> decide
    have hlegal : i.status.canTransitionTo .claimed = true := by
      rw [hclaimable]
      decide
    rw [PaymentIntent.progress_of_legal hlegal]
    exact ⟨⟨_, rfl⟩, by simpa using hx, .inl hclaimable, .inl rfl⟩

/-- A refund settles an unsettled payment that has expired, and changes nothing otherwise. -/
theorem refund_spec (hi : i.Undecided ∨ i.Decided) (now now₁ now₂ : DateTime) :
    ((∃ receipt, (refund i now now₁ now₂).1 = .ok receipt) ∧ i.isExpired now = true ∧
        i.Undecided ∧ (refund i now now₁ now₂).2.Decided) ∨
      (∃ e, (refund i now now₁ now₂).1 = .error e) ∧ (refund i now now₁ now₂).2 = i ∧
        (i.isExpired now = false ∨ i.Decided) := by
  unfold refund
  cases hx : i.isExpired now with
  | false => exact .inr ⟨⟨_, rfl⟩, rfl, .inl rfl⟩
  | true =>
    rcases hi with hopen | hsettled
    · left
      have hready : ∃ j : PaymentIntent,
        (if i.status ≠ .refundAvailable ∧ i.status ≠ .expired then
          i.progress .refundAvailable now₁ else (i, .ok ())) = (j, .ok ()) ∧
          j.status = .refundAvailable := by
        rcases hopen with h | h
        · have hlegal : i.status.canTransitionTo .refundAvailable = true := by
            rw [h]
            decide
          rw [if_pos (by rw [h]; decide), PaymentIntent.progress_of_legal hlegal]
          exact ⟨_, rfl, rfl⟩
        · rw [if_neg (fun hne => hne.1 h)]
          exact ⟨i, rfl, h⟩
      obtain ⟨j, hj, hst⟩ := hready
      have hlegal : j.status.canTransitionTo .refunded = true := by
        rw [hst]
        decide
      simp only [hj, PaymentIntent.progress_of_legal hlegal]
      exact ⟨⟨_, rfl⟩, trivial, hopen, .inr rfl⟩
    · right
      have hstatus : i.status ≠ .refundAvailable ∧ i.status ≠ .expired := by
        rcases hsettled with h | h <;> rw [h] <;> decide
      have hillegal : i.status.canTransitionTo .refundAvailable = false := by
        rcases hsettled with h | h <;> rw [h] <;> decide
      obtain ⟨e, he⟩ := PaymentIntent.progress_of_illegal hillegal now₁
      simp only [if_pos hstatus, he]
      exact ⟨⟨_, rfl⟩, rfl, .inr hsettled⟩

end MockProtectedPaymentProvider

/-! ### One call -/

namespace MockCall
variable {s t : Intents} {c : MockCall} {id : Uuid}

theorem settles_iff : c.settles id = true ↔ c.Claims id ∨
    ∃ request now now₁ now₂ receipt, c = .refunded request now now₁ now₂ (.ok receipt) ∧
      request.paymentId = id := by
  cases c with
  | created => simp [settles, Claims]
  | claimed request now now₁ answer => cases answer <;> simp [settles, Claims]
  | refunded request now now₁ now₂ answer => cases answer <;> simp [settles, Claims]

/-- The call settles the payment, whose record goes from `i` to `j`, or leaves that question as it
is. -/
def Moves (won : Bool) (i j : PaymentIntent) : Prop :=
  j.expiresAt = i.expiresAt ∧
    (won = true ∧ i.Undecided ∧ j.Decided ∨
      won = false ∧ (i.Undecided → j.Undecided) ∧ (i.Decided → j.Decided))

theorem settles_claimed (request : ClaimPaymentRequest) (now now₁ : DateTime)
    (answer : Except ProtectedPaymentError ProtectedPaymentReceipt) (id : Uuid) :
    (claimed request now now₁ answer).settles id =
      (answer.toBool && request.paymentId = id) := by
  cases answer <;> rfl

theorem settles_refunded (request : RefundPaymentRequest) (now now₁ now₂ : DateTime)
    (answer : Except ProtectedPaymentError ProtectedPaymentReceipt) (id : Uuid) :
    (refunded request now now₁ now₂ answer).settles id =
      (answer.toBool && request.paymentId = id) := by
  cases answer <;> rfl

theorem claim_moves {i : PaymentIntent} (hi : i.Undecided ∨ i.Decided)
    (request : ClaimPaymentRequest) (now now₁ : DateTime) :
    Moves (MockProtectedPaymentProvider.claim i request now now₁).1.toBool i
      (MockProtectedPaymentProvider.claim i request now now₁).2 := by
  have hterms := (MockProtectedPaymentProvider.continues_claim i request now now₁).1.fields
  refine ⟨hterms.2.2.2.2.2.2.1, ?_⟩
  rcases MockProtectedPaymentProvider.claim_spec hi request now now₁ with
    ⟨⟨receipt, hr⟩, -, hopen, hdone⟩ | ⟨⟨e, hr⟩, hkeep⟩
  · rw [hr]
    exact .inl ⟨rfl, hopen, hdone⟩
  · rw [hr]
    exact .inr ⟨rfl, hkeep⟩

theorem refund_moves {i : PaymentIntent} (hi : i.Undecided ∨ i.Decided)
    (now now₁ now₂ : DateTime) :
    Moves (MockProtectedPaymentProvider.refund i now now₁ now₂).1.toBool i
      (MockProtectedPaymentProvider.refund i now now₁ now₂).2 := by
  have hterms := (MockProtectedPaymentProvider.continues_refund i now now₁ now₂).1.fields
  refine ⟨hterms.2.2.2.2.2.2.1, ?_⟩
  rcases MockProtectedPaymentProvider.refund_spec hi now now₁ now₂ with
    ⟨⟨receipt, hr⟩, -, hopen, hdone⟩ | ⟨⟨e, hr⟩, hsame, -⟩
  · rw [hr]
    exact .inl ⟨rfl, hopen, hdone⟩
  · rw [hr, hsame]
    exact .inr ⟨rfl, id, id⟩

/-- What a claim or a refund does to the payments, given what it does to one. -/
theorem effect_of_settleAt
    {op : PaymentIntent → Except ProtectedPaymentError ProtectedPaymentReceipt × PaymentIntent}
    {answer : Except ProtectedPaymentError ProtectedPaymentReceipt}
    (h : MockProtectedPaymentProvider.settleAt s id op = (answer, t))
    (hsettles : ∀ id', c.settles id' = (answer.toBool && id = id'))
    (hop : ∀ i, s.lookup id = some i → Moves (op i).1.toBool i (op i).2) :
    ((∀ id', c.settles id' = false) ∧ t = s) ∨
      ∃ i j, (∀ id', id' ≠ id → c.settles id' = false) ∧ s.lookup id = some i ∧
        Table.SetAt s id j t ∧ Moves (c.settles id) i j := by
  rcases MockProtectedPaymentProvider.settleAt_spec h with ⟨⟨e, rfl⟩, rfl⟩ |
    ⟨i, hi, rfl, hset⟩
  · exact .inl ⟨hsettles, rfl⟩
  · right
    refine ⟨i, (op i).2, ?_, hi, hset, ?_⟩
    · intro id' hne
      rw [hsettles, decide_eq_false hne.symm, Bool.and_false]
    · rw [hsettles, decide_eq_true rfl, Bool.and_true]
      exact hop i hi

/-- What a call does to the payments. -/
theorem Step.effect (h : Step s c t)
    (hs : ∀ id i, s.lookup id = some i → i.Undecided ∨ i.Decided) :
    (∃ i exp, c.creates = some (i.id, exp) ∧ (∀ id, c.settles id = false) ∧
      s.lookup i.id = none ∧ Table.SetAt s i.id i t ∧ i.Undecided ∧
      i.expiresAt = some exp) ∨
    (c.creates = none ∧ (∀ id, c.settles id = false) ∧ t = s) ∨
    ∃ id i j, c.creates = none ∧ (∀ id', id' ≠ id → c.settles id' = false) ∧
      s.lookup id = some i ∧ Table.SetAt s id j t ∧ Moves (c.settles id) i j := by
  cases h with
  | @created request id now now₁ now₂ answer _ hnew hc =>
    unfold MockProtectedPaymentProvider.createProtectedPayment at hc
    cases hb : MockProtectedPaymentProvider.buildIntent request id now now₁ now₂ with
    | error e =>
      rw [hb] at hc
      obtain ⟨rfl, rfl⟩ := Prod.mk.inj hc
      exact .inr (.inl ⟨rfl, fun _ => rfl, rfl⟩)
    | ok i =>
      rw [hb] at hc
      obtain ⟨rfl, rfl⟩ := Prod.mk.inj hc
      obtain ⟨hst, hid, -⟩ := MockProtectedPaymentProvider.buildIntent_ok hb
      have hexp := MockProtectedPaymentProvider.expiresAt_of_buildIntent hb
      exact .inl ⟨i, request.expiresAt, rfl, fun _ => rfl, hid ▸ hnew, Table.setAt_insert _ _ _,
        .inl hst, hexp⟩
  | @claimed request now now₁ answer _ hc =>
    right
    rcases effect_of_settleAt hc (settles_claimed request now now₁ answer) fun i hi =>
        claim_moves (hs _ i hi) request now now₁ with ⟨hnot, hsame⟩ | ⟨i, j, hmoves⟩
    · exact .inl ⟨rfl, hnot, hsame⟩
    · exact .inr ⟨request.paymentId, i, j, rfl, hmoves⟩
  | @refunded request now now₁ now₂ answer _ hc =>
    right
    rcases effect_of_settleAt hc (settles_refunded request now now₁ now₂ answer) fun i hi =>
        refund_moves (hs _ i hi) now now₁ now₂ with ⟨hnot, hsame⟩ | ⟨i, j, hmoves⟩
    · exact .inl ⟨rfl, hnot, hsame⟩
    · exact .inr ⟨request.paymentId, i, j, rfl, hmoves⟩

end MockCall

/-! ### Runs -/

/-- What a run of calls has to do with the payments that it leaves. -/
structure Tracks (tr : List (Transition Intents MockCall)) (s : Intents) : Prop where
  created : ∀ id exp, CreatedWith tr id exp → ∃ i, s.lookup id = some i ∧
    i.expiresAt = some exp
  expires : ∀ id i, s.lookup id = some i → ∃ exp, CreatedWith tr id exp ∧
    i.expiresAt = some exp
  settled : ∀ id i, s.lookup id = some i →
    i.Undecided ∧ settlements tr id = 0 ∨
      i.Decided ∧ settlements tr id = 1
  untracked : ∀ id, s.lookup id = none → settlements tr id = 0

variable {tr : List (Transition Intents MockCall)} {s t : Intents} {c : MockCall} {id : Uuid}
  {exp : DateTime}

theorem createdWith_snoc : CreatedWith (tr ++ [⟨s, c, t⟩]) id exp ↔
    CreatedWith tr id exp ∨ c.creates = some (id, exp) := by
  simp [CreatedWith, or_and_right, exists_or]

theorem settlements_snoc (tr : List (Transition Intents MockCall)) (s : Intents) (c : MockCall)
    (t : Intents) (id : Uuid) :
    settlements (tr ++ [⟨s, c, t⟩]) id = settlements tr id + if c.settles id then 1 else 0 := by
  unfold settlements
  rw [List.countP_append, List.countP_singleton]

theorem Tracks.undecided_or_decided (h : Tracks tr s) (id : Uuid) (i : PaymentIntent)
    (hi : s.lookup id = some i) : i.Undecided ∨ i.Decided :=
  (h.settled id i hi).imp And.left And.left

/-- A new payment has not been settled. -/
theorem Tracks.create (h : Tracks tr s) {i : PaymentIntent} (hc : c.creates = some (i.id, exp))
    (hnot : ∀ id, c.settles id = false) (hnew : s.lookup i.id = none)
    (hset : Table.SetAt s i.id i t) (hi : i.Undecided) (hexp : i.expiresAt = some exp) :
    Tracks (tr ++ [⟨s, c, t⟩]) t := by
  have same : ∀ id, settlements (tr ++ [⟨s, c, t⟩]) id = settlements tr id := by
    intro id
    simp [settlements_snoc, hnot]
  refine ⟨fun id exp' hid => ?_, fun id j hj => ?_, fun id j hj => ?_, fun id hid => ?_⟩
  · rcases createdWith_snoc.mp hid with hid | hid
    · obtain ⟨j, hj, hexp'⟩ := h.created id exp' hid
      have hne : id ≠ i.id := by
        rintro rfl
        rw [hnew] at hj
        cases hj
      exact ⟨j, (hset.lookup_ne hne).trans hj, hexp'⟩
    · obtain ⟨rfl, rfl⟩ := Prod.mk.inj (Option.some.inj (hc.symm.trans hid))
      exact ⟨i, hset.lookup_self, hexp⟩
  · rw [hset id] at hj
    split_ifs at hj with he
    · obtain rfl := Option.some.inj hj
      exact ⟨exp, createdWith_snoc.mpr (.inr (he ▸ hc)), hexp⟩
    · obtain ⟨exp', hid, hexp'⟩ := h.expires id j hj
      exact ⟨exp', createdWith_snoc.mpr (.inl hid), hexp'⟩
  · rw [same]
    rw [hset id] at hj
    split_ifs at hj with he
    · obtain rfl := Option.some.inj hj
      exact .inl ⟨hi, h.untracked id (he ▸ hnew)⟩
    · exact h.settled id j hj
  · rw [same]
    rw [hset id] at hid
    split_ifs at hid
    exact h.untracked id hid

/-- A call that changes no record has settled no payment. -/
theorem Tracks.idle (h : Tracks tr s) (hc : c.creates = none)
    (hnot : ∀ id, c.settles id = false) :
    Tracks (tr ++ [⟨s, c, s⟩]) s := by
  have same : ∀ id, settlements (tr ++ [⟨s, c, s⟩]) id = settlements tr id := by
    intro id
    simp [settlements_snoc, hnot]
  have older : ∀ id exp, CreatedWith (tr ++ [⟨s, c, s⟩]) id exp ↔
    CreatedWith tr id exp := by
    intro id exp
    simp [createdWith_snoc, hc]
  constructor
  · simpa only [older] using h.created
  · simpa only [older] using h.expires
  · simpa only [same] using h.settled
  · simpa only [same] using h.untracked

/-- A call on one payment settles it at most, and only if it has not been settled before. -/
theorem Tracks.move (h : Tracks tr s) {i j : PaymentIntent} (hc : c.creates = none)
    (hnot : ∀ id', id' ≠ id → c.settles id' = false) (hi : s.lookup id = some i)
    (hset : Table.SetAt s id j t) (hmoves : MockCall.Moves (c.settles id) i j) :
    Tracks (tr ++ [⟨s, c, t⟩]) t := by
  have older : ∀ id exp, CreatedWith (tr ++ [⟨s, c, t⟩]) id exp ↔
    CreatedWith tr id exp := by
    intro id exp
    simp [createdWith_snoc, hc]
  have others : ∀ id', id' ≠ id →
    settlements (tr ++ [⟨s, c, t⟩]) id' = settlements tr id' := by
    intro id' hne
    simp [settlements_snoc, hnot id' hne]
  obtain ⟨hexp, hmoves⟩ := hmoves
  refine ⟨fun id' exp hid => ?_, fun id' k hk => ?_, fun id' k hk => ?_, fun id' hid => ?_⟩
  · obtain ⟨k, hk, hexp'⟩ := h.created id' exp ((older id' exp).mp hid)
    by_cases he : id' = id
    · subst he
      obtain rfl := Option.some.inj (hi.symm.trans hk)
      exact ⟨j, hset.lookup_self, hexp.trans hexp'⟩
    · exact ⟨k, (hset.lookup_ne he).trans hk, hexp'⟩
  · simp only [older]
    rw [hset id'] at hk
    split_ifs at hk with he
    · obtain rfl := Option.some.inj hk
      obtain ⟨exp, hid, hexp'⟩ := h.expires id i hi
      exact ⟨exp, he ▸ hid, hexp.trans hexp'⟩
    · exact h.expires id' k hk
  · rw [hset id'] at hk
    split_ifs at hk with he
    · obtain rfl := Option.some.inj hk
      subst he
      rw [settlements_snoc]
      rcases hmoves with ⟨hwon, hopen, hdone⟩ | ⟨hlost, hopen, hdone⟩
      · rcases h.settled id' i hi with ⟨-, hzero⟩ | ⟨hsettled, -⟩
        · rw [hwon, hzero]
          exact .inr ⟨hdone, rfl⟩
        · exact absurd hsettled hopen.not_decided
      · rw [hlost]
        exact (h.settled id' i hi).imp (And.imp_left hopen) (And.imp_left hdone)
    · rw [others id' he]
      exact h.settled id' k hk
  · rw [hset id'] at hid
    split_ifs at hid with he
    rw [others id' he]
    exact h.untracked id' hid

theorem tracks_of_trace (h : mockCallSystem.Trace tr s) : Tracks tr s := by
  refine h.induct (P := Tracks) ?_ ?_
  · intro s hs
    obtain rfl : s = ∅ := hs
    constructor <;> simp [CreatedWith, settlements]
  · intro tr s c t _ ih hl
    rcases MockCall.Step.effect hl ih.undecided_or_decided with
      ⟨i, exp, hc, hnot, hnew, hset, hi, hexp⟩ | ⟨hc, hnot, rfl⟩ |
      ⟨id, i, j, hc, hnot, hi, hset, hmoves⟩
    · exact ih.create hc hnot hnew hset hi hexp
    · exact ih.idle hc hnot
    · exact ih.move hc hnot hi hset hmoves

theorem CreatedWith.of_isPrefix {tr₁ : List (Transition Intents MockCall)}
    (h : CreatedWith tr₁ id exp) (hp : tr₁ <+: tr) : CreatedWith tr id exp := by
  obtain ⟨x, hx, hc⟩ := h
  exact ⟨x, hp.subset hx, hc⟩

/-- A claim succeeds before the expiry of the payment. -/
theorem Tracks.claimed_early (h : Tracks tr s) {request : ClaimPaymentRequest}
    {now now₁ : DateTime} {receipt : ProtectedPaymentReceipt}
    (hl : MockCall.Step s (.claimed request now now₁ (.ok receipt)) t) :
    ∃ exp, CreatedWith tr request.paymentId exp ∧ now < exp := by
  cases hl with
  | claimed hc =>
    rcases MockProtectedPaymentProvider.settleAt_spec hc with ⟨⟨e, he⟩, -⟩ |
      ⟨i, hi, ha, -⟩
    · cases he
    · obtain ⟨exp, hid, hexp⟩ := h.expires _ i hi
      rcases MockProtectedPaymentProvider.claim_spec (h.undecided_or_decided _ i hi) request now
        now₁ with ⟨-, hx, -⟩ | ⟨⟨e, he⟩, -⟩
      · rw [← Bool.not_eq_true, PaymentIntent.isExpired_iff hexp, not_le] at hx
        exact ⟨exp, hid, hx⟩
      · rw [he] at ha
        cases ha

/-- A refund succeeds from the expiry of the payment on. -/
theorem Tracks.refunded_late (h : Tracks tr s) {request : RefundPaymentRequest}
    {now now₁ now₂ : DateTime} {receipt : ProtectedPaymentReceipt}
    (hl : MockCall.Step s (.refunded request now now₁ now₂ (.ok receipt)) t) :
    ∃ exp, CreatedWith tr request.paymentId exp ∧ exp ≤ now := by
  cases hl with
  | refunded hc =>
    rcases MockProtectedPaymentProvider.settleAt_spec hc with ⟨⟨e, he⟩, -⟩ |
      ⟨i, hi, ha, -⟩
    · cases he
    · obtain ⟨exp, hid, hexp⟩ := h.expires _ i hi
      rcases MockProtectedPaymentProvider.refund_spec (h.undecided_or_decided _ i hi) now now₁
        now₂ with ⟨-, hx, -⟩ | ⟨⟨e, he⟩, -⟩
      · exact ⟨exp, hid, (PaymentIntent.isExpired_iff hexp).mp hx⟩
      · rw [he] at ha
        cases ha

/-- A refund that comes too late for nothing is not refused. -/
theorem Tracks.refund_ok (h : Tracks tr s) {request : RefundPaymentRequest}
    {now now₁ now₂ : DateTime} {answer : Except ProtectedPaymentError ProtectedPaymentReceipt}
    (hl : MockCall.Step s (.refunded request now now₁ now₂ answer) t)
    (hid : CreatedWith tr request.paymentId exp) (hexp : exp ≤ now)
    (hnone : settlements tr request.paymentId = 0) : ∃ receipt, answer = .ok receipt := by
  obtain ⟨i, hi, hexp'⟩ := h.created _ exp hid
  have hopen : i.Undecided := by
    rcases h.settled _ i hi with ⟨hopen, -⟩ | ⟨-, hone⟩
    · exact hopen
    · rw [hnone] at hone
      cases hone
  cases hl with
  | refunded hc =>
    have hanswer : answer = (MockProtectedPaymentProvider.refund i now now₁ now₂).1 := by
      unfold MockProtectedPaymentProvider.refundPayment at hc
      rw [MockProtectedPaymentProvider.settleAt_of_some hi] at hc
      exact (Prod.mk.inj hc).1.symm
    rcases MockProtectedPaymentProvider.refund_spec (.inl hopen) now now₁ now₂ with
      ⟨⟨receipt, hr⟩, -⟩ | ⟨-, -, hx | hsettled⟩
    · exact ⟨receipt, hanswer.trans hr⟩
    · rw [← Bool.not_eq_true, PaymentIntent.isExpired_iff hexp'] at hx
      exact absurd hexp hx
    · exact absurd hsettled hopen.not_decided

/-- What has been settled has been claimed or asked back in time. -/
theorem exists_of_settlements (h : mockCallSystem.Trace tr s) (hid : CreatedWith tr id exp)
    (hne : settlements tr id ≠ 0) :
    (∃ y ∈ tr, y.label.Claims id) ∨ ∃ y ∈ tr, y.label.AsksBack id exp := by
  obtain ⟨y, hy, hsettles⟩ := List.countP_pos_iff.mp (Nat.pos_of_ne_zero hne)
  rcases MockCall.settles_iff.mp hsettles with hclaims |
    ⟨request, now, now₁, now₂, receipt, hlabel, rfl⟩
  · exact .inl ⟨y, hy, hclaims⟩
  · obtain ⟨tr₁, hp, hpre, hl, -⟩ := h.upTo hy
    have hprefix : tr₁ <+: tr := (List.prefix_append _ _).trans hp
    rw [hlabel] at hl
    obtain ⟨exp', hid', hexp⟩ := (tracks_of_trace hpre).refunded_late hl
    obtain ⟨i, hi, hexp₁⟩ := (tracks_of_trace h).created _ _ hid
    obtain ⟨j, hj, hexp₂⟩ := (tracks_of_trace h).created _ _ (hid'.of_isPrefix hprefix)
    obtain rfl := Option.some.inj (hi.symm.trans hj)
    obtain rfl := Option.some.inj (hexp₁.symm.trans hexp₂)
    exact .inr ⟨y, hy, request, now, now₁, now₂, _, hlabel, rfl, hexp⟩

/-- This holds of every run, whatever the clock shows and however often a call fails. -/
theorem settled_once (h : mockCallSystem.Trace tr s) : SettledOnce tr where
  expiry id exp exp' hid hid' := by
    obtain ⟨i, hi, hexp⟩ := (tracks_of_trace h).created id exp hid
    obtain ⟨j, hj, hexp'⟩ := (tracks_of_trace h).created id exp' hid'
    obtain rfl := Option.some.inj (hi.symm.trans hj)
    exact Option.some.inj (hexp.symm.trans hexp')
  once id := by
    cases hl : s.lookup id with
    | none => rw [(tracks_of_trace h).untracked id hl]; omega
    | some i => rcases (tracks_of_trace h).settled id i hl with ⟨-, hn⟩ | ⟨-, hn⟩ <;> omega
  claimed x hx request now now₁ receipt hlabel := by
    obtain ⟨tr₁, hp, hpre, hl, -⟩ := h.upTo hx
    rw [hlabel] at hl
    obtain ⟨exp, hid, hexp⟩ := (tracks_of_trace hpre).claimed_early hl
    exact ⟨exp, hid.of_isPrefix ((List.prefix_append _ _).trans hp), hexp⟩
  refunded x hx request now now₁ now₂ receipt hlabel := by
    obtain ⟨tr₁, hp, hpre, hl, -⟩ := h.upTo hx
    rw [hlabel] at hl
    obtain ⟨exp, hid, hexp⟩ := (tracks_of_trace hpre).refunded_late hl
    exact ⟨exp, hid.of_isPrefix ((List.prefix_append _ _).trans hp), hexp⟩
  refundable tr₁ x tr₂ htr request now now₁ now₂ answer exp hlabel hid hexp hclaims hasks := by
    obtain ⟨s₀, hi, hr⟩ := h
    obtain ⟨hpre, hl, -⟩ := (htr ▸ hr).cut_cons
    have ht : mockCallSystem.Trace tr₁ x.pre := ⟨s₀, hi, hpre⟩
    rw [hlabel] at hl
    refine (tracks_of_trace ht).refund_ok hl hid hexp ?_
    by_contra hne
    rcases exists_of_settlements ht hid hne with ⟨y, hy, hc⟩ | ⟨y, hy, ha⟩
    · exact hclaims y hy hc
    · exact hasks y hy ha

open MockCall in
/-- Bob claims Alice's payment when it has expired, and she asks for it back. -/
theorem settled_once_sample : ∃ tr s, mockCallSystem.Trace tr s ∧
    settlements tr (.ofNat 1) = 1 ∧ SettledOnce tr := by
  have h₁ := System.Run.single (T := mockCallSystem)
    (@Step.created ∅ sampleCreate (.ofNat 1) .epoch .epoch .epoch _ _ rfl rfl)
  have h₂ := h₁.snoc (@Step.claimed _ (sampleClaim "proof" none) .nextDay .nextDay _ _ rfl)
  have h₃ := h₂.snoc
    (@Step.refunded _ ⟨.ofNat 1, "alice", none, none⟩ .nextDay .nextDay .nextDay _ _ rfl)
  have ht : mockCallSystem.Trace _ _ := ⟨∅, rfl, h₃⟩
  exact ⟨_, _, ht, rfl, settled_once ht⟩

end Hanbova
