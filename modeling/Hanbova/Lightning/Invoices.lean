import Hanbova.Core.PaymentIntent
import Hanbova.Library.Chrono
import Hanbova.Library.Table

/-! Lightning invoices: `routes/lightning.rs` and the mock provider that serves it, `mock.rs`.
A call that panics has no result. -/
namespace Hanbova

open Library

inductive LightningError
  | core (e : CoreError)
  | invalidInvoice (message : String)
  | paymentFailed (message : String)
  | invoiceNotFound (paymentHash : String)
  | insufficientBalance (requested available : UInt64)
  | nodeError (message : String)
  | providerError (message : String)
  deriving DecidableEq

structure CreateInvoiceRequest where
  amountSats : SatoshiAmount
  description : String
  expirySeconds : Option UInt32
  deriving DecidableEq

structure Invoice where
  paymentHash : String
  bolt11 : String
  amountSats : SatoshiAmount
  description : String
  expiresAt : DateTime
  isPaid : Bool
  createdAt : DateTime
  deriving DecidableEq

/-- The time from an invoice's creation to its expiry. -/
def Invoice.lifetime (invoice : Invoice) : TimeDelta :=
  invoice.expiresAt.nanos - invoice.createdAt.nanos

namespace MockLightningProvider

abbrev Invoices := Table String Invoice

/-- The invoice that a request gets, unless its expiry overflows the calendar. -/
def newInvoice (request : CreateInvoiceRequest) (id : Uuid) (now : DateTime) : Option Invoice :=
  let hash := s!"ln_hash_{id.simple}"
  let expiry := request.expirySeconds.getD 3600
  -- The hash is ASCII, so its first eight bytes are its first eight characters.
  let bolt11 := s!"lnbc{request.amountSats.sats}n1pjhanbova" ++
    String.ofList (hash.toList.take 8) ++ "mockinvoice"
  ((TimeDelta.trySeconds expiry.toNat).bind now.checkedAddSigned).map fun expiresAt =>
    { paymentHash := hash
      bolt11 := bolt11
      amountSats := request.amountSats
      description := request.description
      expiresAt := expiresAt
      isPaid := false
      createdAt := now }

/-- `create_invoice`: `now` is its reading of the clock, and `id` the UUID that it draws. -/
def createInvoice (invoices : Invoices) (request : CreateInvoiceRequest) (id : Uuid)
    (now : DateTime) : Option (Except LightningError Invoice × Invoices) :=
  (newInvoice request id now).map fun invoice =>
    (.ok invoice, invoices.insert invoice.paymentHash invoice)

/-- Every number of seconds that the provider can be asked for is a span of time. -/
theorem trySeconds_toNat (expiry : UInt32) :
    TimeDelta.trySeconds expiry.toNat = some ((expiry.toNat : ℤ) * 1000000000) := by
  have h := expiry.toNat_lt
  unfold TimeDelta.trySeconds
  rw [if_pos]
  omega

theorem newInvoice_lifetime {request : CreateInvoiceRequest} {id : Uuid} {now : DateTime}
    {invoice : Invoice} (h : newInvoice request id now = some invoice) :
    invoice.lifetime = (request.expirySeconds.getD 3600).toNat * 1000000000 := by
  simp only [newInvoice, trySeconds_toNat, Option.bind_some, Option.map_eq_some_iff] at h
  obtain ⟨expiresAt, hexpires, rfl⟩ := h
  rw [DateTime.checkedAddSigned_eq_some] at hexpires
  exact sub_eq_of_eq_add' hexpires

end MockLightningProvider

structure CreateInvoiceDto where
  amountSats : UInt64
  description : Option String
  expirySeconds : Option UInt64
  deriving DecidableEq

/-- The lifetime that a request asks for, in seconds. -/
def CreateInvoiceDto.requestedLifetime (payload : CreateInvoiceDto) : ℕ :=
  (payload.expirySeconds.map UInt64.toNat).getD 3600

/-- The answers of the route, each under its status code. -/
inductive CreateInvoiceAnswer
  | badRequest (error : String)
  | created (invoice : Invoice)
  | internalServerError (error : String)
  deriving DecidableEq

namespace LightningRoutes

open MockLightningProvider (Invoices)

def invoiceRequest (payload : CreateInvoiceDto) (amount : SatoshiAmount) :
    CreateInvoiceRequest where
  amountSats := amount
  description := payload.description.getD "Hanbova Lightning Receive"
  -- `s as u32` keeps the low 32 bits
  expirySeconds := payload.expirySeconds.map UInt64.toUInt32

/-- The handler `create_invoice` of an authenticated caller. -/
def createInvoice (invoices : Invoices) (payload : CreateInvoiceDto) (id : Uuid) (now : DateTime) :
    Option (CreateInvoiceAnswer × Invoices) :=
  match SatoshiAmount.new payload.amountSats with
  | .error _ => some (.badRequest "Invalid Lightning amount", invoices)
  | .ok amount =>
    (MockLightningProvider.createInvoice invoices (invoiceRequest payload amount) id now).map
      fun (result, invoices') =>
        match result with
        | .ok invoice => (.created invoice, invoices')
        | .error _ => (.internalServerError "Unable to create Lightning invoice", invoices')

theorem createInvoice_created {invoices invoices' : Invoices} {payload : CreateInvoiceDto}
    {id : Uuid} {now : DateTime} {invoice : Invoice}
    (h : createInvoice invoices payload id now = some (.created invoice, invoices')) :
    ∃ amount, SatoshiAmount.new payload.amountSats = .ok amount ∧
      MockLightningProvider.newInvoice (invoiceRequest payload amount) id now = some invoice ∧
      invoices' = invoices.insert invoice.paymentHash invoice := by
  unfold createInvoice at h
  cases ha : SatoshiAmount.new payload.amountSats with
  | error e => simp [ha] at h
  | ok amount =>
    simp only [ha, MockLightningProvider.createInvoice, Option.map_map, Option.map_eq_some_iff,
      Function.comp_apply, Prod.mk.injEq, CreateInvoiceAnswer.created.injEq] at h
    obtain ⟨made, hmade, rfl, rfl⟩ := h
    exact ⟨amount, rfl, hmade, rfl⟩

/-- The route keeps the requested seconds modulo `2 ^ 32`. -/
theorem expirySeconds_invoiceRequest (payload : CreateInvoiceDto) (amount : SatoshiAmount) :
    ((invoiceRequest payload amount).expirySeconds.getD 3600).toNat =
      payload.requestedLifetime % 2 ^ 32 := by
  unfold invoiceRequest CreateInvoiceDto.requestedLifetime
  cases payload.expirySeconds with
  | none => rfl
  | some secs => exact UInt64.toNat_toUInt32 secs

/-- An invoice lives as long as was asked for exactly when the seconds fit in 32 bits. -/
theorem lifetime_eq_requested_iff {invoices invoices' : Invoices} {payload : CreateInvoiceDto}
    {id : Uuid} {now : DateTime} {invoice : Invoice}
    (h : createInvoice invoices payload id now = some (.created invoice, invoices')) :
    invoice.lifetime = payload.requestedLifetime * 1000000000 ↔
      ∀ secs ∈ payload.expirySeconds, secs.toNat < 2 ^ 32 := by
  obtain ⟨amount, -, hnew, -⟩ := createInvoice_created h
  have hlife := MockLightningProvider.newInvoice_lifetime hnew
  rw [expirySeconds_invoiceRequest] at hlife
  have hfits : payload.requestedLifetime < 2 ^ 32 ↔
      ∀ secs ∈ payload.expirySeconds, secs.toNat < 2 ^ 32 := by
    unfold CreateInvoiceDto.requestedLifetime
    cases payload.expirySeconds <;> simp
  rw [hlife, ← hfits]
  constructor
  · intro he
    have hlt := Nat.mod_lt payload.requestedLifetime (show 2 ^ 32 > 0 by decide)
    have heq := Int.eq_of_mul_eq_mul_right (by decide) he
    rwa [Int.ofNat_inj.mp heq] at hlt
  · intro hlt
    rw [Nat.mod_eq_of_lt hlt]

/-- One minute beyond `2 ^ 32` seconds. -/
def longLived : CreateInvoiceDto where
  amountSats := 1000
  description := none
  expirySeconds := some 4294967356

/-- The invoice expires a minute after its creation. -/
def shortened : Invoice where
  paymentHash := "ln_hash_00000000000000000000000000000001"
  bolt11 := "lnbc1000n1pjhanbovaln_hash_mockinvoice"
  amountSats := .fromSats 1000
  description := "Hanbova Lightning Receive"
  expiresAt := .ofSeconds 60 (by decide)
  isPaid := false
  createdAt := .epoch

theorem longLived_shortened :
    createInvoice ∅ longLived (.ofNat 1) .epoch =
        some (.created shortened, Table.insert ∅ shortened.paymentHash shortened) ∧
      shortened.lifetime ≠ longLived.requestedLifetime * 1000000000 := by
  decide +kernel

/-- An invoice for a day. -/
def dayLong : CreateInvoiceDto := { longLived with expirySeconds := some 86400 }

def dayInvoice : Invoice := { shortened with expiresAt := .nextDay }

theorem lifetime_eq_requested_sample :
    createInvoice ∅ dayLong (.ofNat 1) .epoch =
        some (.created dayInvoice, Table.insert ∅ dayInvoice.paymentHash dayInvoice) ∧
      dayInvoice.lifetime = dayLong.requestedLifetime * 1000000000 := by
  have h : createInvoice ∅ dayLong (.ofNat 1) .epoch =
      some (.created dayInvoice, Table.insert ∅ dayInvoice.paymentHash dayInvoice) := by
    decide +kernel
  refine ⟨h, (lifetime_eq_requested_iff h).mpr ?_⟩
  intro secs hsecs
  obtain rfl := Option.some.inj hsecs
  decide

end LightningRoutes
end Hanbova
