import Hanbova.Library.History
import Hanbova.Library.Text
import Hanbova.Lightning.Invoices

/-! Payments of the mock Lightning provider, `mock.rs`: the answers of concurrent calls add up. -/
namespace Hanbova

open Library Library.Text Library.System

structure PayInvoiceRequest where
  bolt11 : String
  deriving DecidableEq

inductive LightningPaymentStatus
  | pending
  | succeeded
  | failed
  deriving DecidableEq

structure PaymentDetails where
  paymentHash : String
  preimage : Option String
  amountSats : SatoshiAmount
  feeSats : SatoshiAmount
  status : LightningPaymentStatus
  completedAt : Option DateTime
  deriving DecidableEq

structure LightningBalance where
  totalSats : SatoshiAmount
  spendableSats : SatoshiAmount
  receivingCapacitySats : SatoshiAmount
  deriving DecidableEq

/-- What a payment takes from the balance. -/
def PaymentDetails.cost (d : PaymentDetails) : ℕ := d.amountSats.sats.toNat + d.feeSats.sats.toNat

namespace MockLightningProvider

abbrev Payments := Table String PaymentDetails

/-- The check that `pay_invoice` makes before it waits for the balance. -/
def checkInvoice (request : PayInvoiceRequest) : Except LightningError Unit :=
  if !startsWith request.bolt11 "lnbc" then .error (.invalidInvoice "Missing lnbc prefix")
  else .ok ()

/-- Every payment is of 1000 sats, for a fee of 2. -/
def totalCost : UInt64 := (SatoshiAmount.fromSats 1000).sats + (SatoshiAmount.fromSats 2).sats

def charge (balanceSats : UInt64) : Except LightningError UInt64 :=
  if balanceSats < totalCost then .error (.insufficientBalance totalCost balanceSats)
  else .ok (balanceSats - totalCost)

def newPayment (id preimageId : Uuid) (now : DateTime) : PaymentDetails where
  paymentHash := s!"ln_pay_{id.simple}"
  preimage := some s!"preimage_{preimageId.simple}"
  amountSats := .fromSats 1000
  feeSats := .fromSats 2
  status := .succeeded
  completedAt := some now

def getPayment (payments : Payments) (paymentHash : String) :
    Except LightningError PaymentDetails :=
  match payments.lookup paymentHash with
  | some details => .ok details
  | none => .error (.invoiceNotFound paymentHash)

def getBalance (balanceSats : UInt64) : LightningBalance where
  totalSats := .fromSats balanceSats
  spendableSats := .fromSats balanceSats
  receivingCapacitySats := .fromSats 10000000

end MockLightningProvider

/-- The maps and the balance. A call that pays holds the lock of the balance until its payment is
recorded. -/
structure LightningState where
  invoices : MockLightningProvider.Invoices
  payments : MockLightningProvider.Payments
  balanceSats : UInt64
  recording : Option PaymentDetails

inductive LightningEvent
  | invoiced (result : Except LightningError Invoice)
  | refused (e : LightningError)
  | charged (details : PaymentDetails)
  | paid (details : PaymentDetails)
  | balanceRead (balance : LightningBalance)
  | paymentRead (paymentHash : String) (answer : Except LightningError PaymentDetails)

namespace LightningState

/-- The UUIDs that name invoices and payments are fresh ones. -/
inductive Step : LightningState → LightningEvent → LightningState → Prop
  | invoiced {s : LightningState} {request : CreateInvoiceRequest} {id : Uuid} {now : DateTime}
      {result : Except LightningError Invoice} {invoices : MockLightningProvider.Invoices} :
      s.invoices.lookup s!"ln_hash_{id.simple}" = none →
      MockLightningProvider.createInvoice s.invoices request id now = some (result, invoices) →
      Step s (.invoiced result) { s with invoices }
  | invalid {s : LightningState} {request : PayInvoiceRequest} {e : LightningError} :
      MockLightningProvider.checkInvoice request = .error e → Step s (.refused e) s
  | insufficient {s : LightningState} {request : PayInvoiceRequest} {e : LightningError} :
      MockLightningProvider.checkInvoice request = .ok () → s.recording = none →
      MockLightningProvider.charge s.balanceSats = .error e → Step s (.refused e) s
  | charged {s : LightningState} {request : PayInvoiceRequest} {balanceSats : UInt64}
      (id preimageId : Uuid) (now : DateTime) :
      MockLightningProvider.checkInvoice request = .ok () → s.recording = none →
      s.payments.lookup s!"ln_pay_{id.simple}" = none →
      MockLightningProvider.charge s.balanceSats = .ok balanceSats →
      Step s (.charged (MockLightningProvider.newPayment id preimageId now))
        { s with
          balanceSats, recording := some (MockLightningProvider.newPayment id preimageId now) }
  | paid {s : LightningState} {details : PaymentDetails} :
      s.recording = some details →
      Step s (.paid details)
        { s with payments := s.payments.insert details.paymentHash details, recording := none }
  | balanceRead {s : LightningState} :
      s.recording = none →
      Step s (.balanceRead (MockLightningProvider.getBalance s.balanceSats)) s
  | paymentRead {s : LightningState} (paymentHash : String) :
      Step s (.paymentRead paymentHash
        (MockLightningProvider.getPayment s.payments paymentHash)) s

end LightningState

/-- `MockLightningProvider::new`. -/
def lightningSystem (initialBalanceSats : UInt64) : System LightningState LightningEvent where
  init s := s = ⟨∅, ∅, initialBalanceSats, none⟩
  step := LightningState.Step

abbrev LightningTrace := List (Transition LightningState LightningEvent)

def LightningEvent.payment : LightningEvent → Option PaymentDetails
  | .paid details => some details
  | _ => none

/-- The payments that have been answered, in order. -/
def paidIn (tr : LightningTrace) : List PaymentDetails :=
  (labels tr).filterMap LightningEvent.payment

def spent (payments : List PaymentDetails) : ℕ := (payments.map PaymentDetails.cost).sum

/-- What is read is what the payments so far have left or recorded, and a payment is refused for
want of money only if they have not left the 1002 satoshis that it costs. -/
def LightningEvent.Accurate (initial : UInt64) (paid : List PaymentDetails) :
    LightningEvent → Prop
  | .balanceRead balance =>
    balance.spendableSats = balance.totalSats ∧
      balance.totalSats.sats.toNat + spent paid = initial.toNat
  | .paymentRead paymentHash answer =>
    ∀ d, answer = .ok d ↔ d ∈ paid ∧ d.paymentHash = paymentHash
  | .refused (.insufficientBalance requested available) =>
    requested = 1002 ∧ available < requested ∧ available.toNat + spent paid = initial.toNat
  | _ => True

theorem spent_eq {payments : List PaymentDetails} (h : ∀ d ∈ payments, d.cost = 1002) :
    spent payments = payments.length * 1002 := by
  induction payments with
  | nil => rfl
  | cons d payments ih =>
    have hd := h d List.mem_cons_self
    have hrest := ih fun d hd => h d (List.mem_cons_of_mem _ hd)
    simp only [spent, List.map_cons, List.sum_cons, List.length_cons] at hrest ⊢
    omega

namespace MockLightningProvider
variable {balanceSats balanceSats' : UInt64} {e : LightningError} {payments : Payments}
  {paymentHash : String} {d : PaymentDetails}

theorem charge_ok (h : charge balanceSats = .ok balanceSats') :
    balanceSats'.toNat + 1002 = balanceSats.toNat := by
  unfold charge at h
  split_ifs at h with hlt
  obtain rfl := Except.ok.inj h
  rw [UInt64.not_lt] at hlt
  have htotal : totalCost.toNat = 1002 := by decide
  rw [UInt64.toNat_sub_of_le _ _ hlt, htotal]
  have hle := UInt64.le_iff_toNat_le.mp hlt
  omega

theorem charge_error (h : charge balanceSats = .error e) :
    e = .insufficientBalance totalCost balanceSats ∧ balanceSats < totalCost := by
  unfold charge at h
  split_ifs at h with hlt
  exact ⟨(Except.error.inj h).symm, hlt⟩

theorem getPayment_ok : getPayment payments paymentHash = .ok d ↔
    payments.lookup paymentHash = some d := by
  unfold getPayment
  cases payments.lookup paymentHash with
  | none => simp
  | some details => simp

end MockLightningProvider

/-! ### The books -/

/-- What every interleaving of calls keeps: the balance and the payments make up what there was at
first, and the map holds the payments. -/
structure LightningBooks (initial : UInt64) (tr : LightningTrace) (s : LightningState) : Prop where
  total : s.balanceSats.toNat + spent s.recording.toList + spent (paidIn tr) = initial.toNat
  costs : ∀ d ∈ s.recording.toList ++ paidIn tr, d.cost = 1002
  lookup : ∀ paymentHash d, s.payments.lookup paymentHash = some d ↔
    d ∈ paidIn tr ∧ d.paymentHash = paymentHash
  fresh : ∀ d ∈ s.recording, s.payments.lookup d.paymentHash = none
  hashes : ((paidIn tr).map PaymentDetails.paymentHash).Nodup

section
variable {initial : UInt64} {tr : LightningTrace} {s t : LightningState} {l : LightningEvent}
  {x : Transition LightningState LightningEvent}

theorem paidIn_snoc (tr : LightningTrace) (x : Transition LightningState LightningEvent) :
    paidIn (tr ++ [x]) = paidIn tr ++ x.label.payment.toList := filterMap_labels_snoc _ _ _

/-- A step that neither takes money nor records a payment leaves the books as they are. -/
theorem LightningBooks.congr (h : LightningBooks initial tr s) (hl : x.label.payment = none)
    (hbalance : t.balanceSats = s.balanceSats) (hpayments : t.payments = s.payments)
    (hrecording : t.recording = s.recording) : LightningBooks initial (tr ++ [x]) t := by
  have hpaid : paidIn (tr ++ [x]) = paidIn tr := by
    rw [paidIn_snoc, hl]
    exact List.append_nil _
  obtain ⟨total, costs, lookup, fresh, hashes⟩ := h
  constructor
  · rw [hpaid, hbalance, hrecording]
    exact total
  · rw [hpaid, hrecording]
    exact costs
  · rw [hpaid, hpayments]
    exact lookup
  · rw [hrecording, hpayments]
    exact fresh
  · rw [hpaid]
    exact hashes

theorem LightningBooks.charge (h : LightningBooks initial tr s) {balanceSats : UInt64}
    (id preimageId : Uuid) (now : DateTime) (hr : s.recording = none)
    (hnew : s.payments.lookup s!"ln_pay_{id.simple}" = none)
    (hcharge : MockLightningProvider.charge s.balanceSats = .ok balanceSats)
    (hx : x.label = .charged (MockLightningProvider.newPayment id preimageId now)) :
    LightningBooks initial (tr ++ [x])
      { s with
        balanceSats
        recording := some (MockLightningProvider.newPayment id preimageId now) } := by
  have hpaid : paidIn (tr ++ [x]) = paidIn tr := by
    rw [paidIn_snoc, hx]
    exact List.append_nil _
  obtain ⟨total, costs, lookup, -, hashes⟩ := h
  have htaken := MockLightningProvider.charge_ok hcharge
  constructor
  · rw [hpaid]
    have hcost : spent [MockLightningProvider.newPayment id preimageId now] = 1002 := rfl
    rw [hr] at total
    have hnone : spent (none : Option PaymentDetails).toList = 0 := rfl
    simp only [Option.toList_some, hcost]
    omega
  · rw [hpaid]
    intro d hd
    rcases List.mem_cons.mp hd with rfl | hd
    · rfl
    · exact costs d (List.mem_append_right _ hd)
  · rw [hpaid]
    exact lookup
  · rintro d hd
    obtain rfl := Option.some.inj hd
    exact hnew
  · rw [hpaid]
    exact hashes

theorem LightningBooks.record (h : LightningBooks initial tr s) {details : PaymentDetails}
    (hr : s.recording = some details) (hx : x.label = .paid details) :
    LightningBooks initial (tr ++ [x])
      { s with
        payments := s.payments.insert details.paymentHash details, recording := none } := by
  have hpaid : paidIn (tr ++ [x]) = paidIn tr ++ [details] := by
    rw [paidIn_snoc, hx]
    rfl
  obtain ⟨total, costs, lookup, fresh, hashes⟩ := h
  have hnew := fresh details hr
  rw [hr] at total costs
  constructor
  · rw [hpaid]
    simp only [spent, List.map_append, List.sum_append, Option.toList_some, Option.toList_none,
      List.map_cons, List.map_nil, List.sum_cons, List.sum_nil] at total ⊢
    omega
  · rw [hpaid]
    intro d hd
    apply costs
    simpa [or_comm] using hd
  · intro paymentHash d
    rw [hpaid, Table.setAt_insert, List.mem_append, List.mem_singleton]
    split_ifs with hk
    · subst hk
      constructor
      · intro hd
        obtain rfl := Option.some.inj hd
        exact ⟨.inr rfl, rfl⟩
      · rintro ⟨hd | rfl, hk⟩
        · rw [(lookup _ d).mpr ⟨hd, hk⟩] at hnew
          cases hnew
        · rfl
    · rw [lookup]
      constructor
      · rintro ⟨hd, he⟩
        exact ⟨.inl hd, he⟩
      · rintro ⟨hd | rfl, he⟩
        · exact ⟨hd, he⟩
        · exact absurd he.symm hk
  · rintro d ⟨⟩
  · rw [hpaid, List.map_append, List.map_singleton]
    refine hashes.append (List.nodup_singleton _) ?_
    rw [List.disjoint_singleton]
    intro hmem
    obtain ⟨d, hd, he⟩ := List.mem_map.mp hmem
    rw [(lookup _ d).mpr ⟨hd, he⟩] at hnew
    cases hnew

theorem LightningBooks.step (h : LightningBooks initial tr s) (hl : LightningState.Step s l t) :
    LightningBooks initial (tr ++ [⟨s, l, t⟩]) t := by
  cases hl with
  | invoiced hnew hc => exact h.congr rfl rfl rfl rfl
  | invalid hc => exact h.congr rfl rfl rfl rfl
  | insufficient hc hr hcharge => exact h.congr rfl rfl rfl rfl
  | balanceRead hr => exact h.congr rfl rfl rfl rfl
  | paymentRead paymentHash => exact h.congr rfl rfl rfl rfl
  | charged id preimageId now hc hr hnew hcharge =>
    exact h.charge id preimageId now hr hnew hcharge rfl
  | paid hr => exact h.record hr rfl

theorem lightningBooks_of_trace (h : (lightningSystem initial).Trace tr s) :
    LightningBooks initial tr s := by
  refine h.induct ?_ fun tr s l t _ hb hl => hb.step hl
  rintro s rfl
  exact ⟨rfl, by simp [paidIn, labels], by simp [paidIn, labels], by simp,
    by simp [paidIn, labels]⟩

/-- What a step answers follows from the books before it. -/
theorem LightningBooks.accurate (h : LightningBooks initial tr s) (hl : LightningState.Step s l t) :
    l.Accurate initial (paidIn tr) := by
  have htotal := h.total
  cases hl with
  | invoiced hnew hc => trivial
  | charged id preimageId now hc hr hnew hcharge => trivial
  | paid hr => trivial
  | invalid hc =>
    unfold MockLightningProvider.checkInvoice at hc
    split_ifs at hc
    obtain rfl := Except.error.inj hc
    trivial
  | insufficient hc hr hcharge =>
    obtain ⟨rfl, hlt⟩ := MockLightningProvider.charge_error hcharge
    rw [hr] at htotal
    exact ⟨rfl, hlt, htotal⟩
  | balanceRead hr =>
    rw [hr] at htotal
    exact ⟨rfl, htotal⟩
  | paymentRead paymentHash =>
    intro d
    rw [MockLightningProvider.getPayment_ok]
    exact h.lookup paymentHash d

end

/-- Whatever calls of the mock provider run side by side, the balance that is read is what there was
at first less the payments that have been answered, a payment can be looked up exactly when it has
been answered, and there are never more of them than the balance pays for. -/
theorem answers_are_accurate (initial : UInt64) (tr : LightningTrace) (s : LightningState)
    (h : (lightningSystem initial).Trace tr s) :
    (∀ tr₁ x, tr₁ ++ [x] <+: tr → x.label.Accurate initial (paidIn tr₁)) ∧
      (paidIn tr).length * 1002 ≤ initial.toNat ∧
        ((paidIn tr).map PaymentDetails.paymentHash).Nodup := by
  have hbooks := lightningBooks_of_trace h
  refine ⟨?_, ?_, hbooks.hashes⟩
  · rintro tr₁ x ⟨tr₂, rfl⟩
    obtain ⟨s₀, h₀, hr⟩ := h
    rw [List.append_assoc, List.singleton_append] at hr
    obtain ⟨hr₁, hl, -⟩ := hr.cut_cons
    exact (lightningBooks_of_trace ⟨s₀, h₀, hr₁⟩).accurate hl
  · have hspent := spent_eq fun d hd => hbooks.costs d (List.mem_append_right _ hd)
    have htotal := hbooks.total
    omega

/-- Of 2500 sats two payments can be made, and the third is refused. -/
theorem answers_are_accurate_sample : ∃ tr s, (lightningSystem 2500).Trace tr s ∧
    (paidIn tr).length = 2 ∧ (paidIn tr).length * 1002 ≤ (2500 : UInt64).toNat ∧
      LightningEvent.Accurate 2500 (paidIn tr) (.refused (.insufficientBalance 1002 496)) := by
  have h₀ : (lightningSystem 2500).Trace [] ⟨∅, ∅, 2500, none⟩ := ⟨_, rfl, .nil⟩
  have hc : MockLightningProvider.checkInvoice ⟨"lnbc1"⟩ = .ok () := by decide +kernel
  have h₁ := h₀.snoc (LightningState.Step.charged (.ofNat 1) (.ofNat 2) .epoch hc rfl rfl rfl)
  have h₂ := h₁.snoc (LightningState.Step.paid rfl)
  have h₃ := h₂.snoc (LightningState.Step.charged (.ofNat 3) (.ofNat 4) .epoch hc rfl
    (by decide +kernel) rfl)
  have h₄ := h₃.snoc (LightningState.Step.paid rfl)
  have h₅ := h₄.snoc (LightningState.Step.insufficient hc rfl rfl)
  obtain ⟨haccurate, hcount, -⟩ := answers_are_accurate 2500 _ _ h₅
  exact ⟨_, _, h₄, rfl, hcount, haccurate _ _ (List.prefix_refl _)⟩

end Hanbova
