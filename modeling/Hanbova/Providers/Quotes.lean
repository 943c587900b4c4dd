import Hanbova.Library.Rounding
import Hanbova.Library.Uuid
import Hanbova.Rates.Service

/-! Payout and bill quotes: `providers/bitnob.rs`, `providers/dtone.rs`. Rationals stand for
doubles, and a call that panics has no result. -/
namespace Hanbova

open Library Library.Text Library.Rounding

structure PayoutCorridor where
  id : String
  country : String
  currency : String
  channel : String
  name : String
  minAmountFiat : ℚ
  maxAmountFiat : ℚ
  estimatedFeeSats : UInt64
  deriving DecidableEq

structure PayoutQuoteRequest where
  corridorId : String
  amountFiat : ℚ
  recipientAccount : String
  deriving DecidableEq

structure PayoutQuote where
  quoteId : String
  corridorId : String
  amountSats : UInt64
  amountFiat : ℚ
  feeSats : UInt64
  exchangeRate : ℚ
  recipientAccount : String
  expiresAt : DateTime
  deriving DecidableEq

inductive BillServiceType
  | airtime
  | data
  | electricity
  | water
  | tv
  | internet
  deriving DecidableEq

structure BillQuoteRequest where
  billerId : String
  productId : Option String
  amountFiat : ℚ
  customerAccount : String
  deriving DecidableEq

structure BillQuote where
  quoteId : String
  billerId : String
  productId : Option String
  serviceType : BillServiceType
  amountSats : UInt64
  amountFiat : ℚ
  feeSats : UInt64
  exchangeRate : ℚ
  customerAccount : String
  expiresAt : DateTime
  deriving DecidableEq

/-- The conversion of both providers: `((amount / rate) * 100_000_000.0).round() as u64`. -/
def satsAmount (amountFiat ratePerBtc : ℚ) : UInt64 :=
  asU64 (roundAway (amountFiat / ratePerBtc * 100000000))

theorem satsAmount_le_satsAmount {a b rate : ℚ} (hrate : 0 < rate) (h : a ≤ b) :
    satsAmount a rate ≤ satsAmount b rate := by
  unfold satsAmount
  apply asU64_le_asU64
  apply Int.cast_le.mpr
  apply roundAway_le_roundAway
  have hdiv := div_le_div_of_nonneg_right h hrate.le
  linarith

namespace BitnobAdapter

def allCorridors : List PayoutCorridor :=
  [{ id := "ke_mpesa"
     country := "KE"
     currency := "KES"
     channel := "m_pesa"
     name := "M-Pesa Kenya (Safaricom)"
     minAmountFiat := 100
     maxAmountFiat := 150000
     estimatedFeeSats := 250 },
    { id := "ke_bank"
      country := "KE"
      currency := "KES"
      channel := "bank_transfer"
      name := "Kenya Local Bank Transfer"
      minAmountFiat := 500
      maxAmountFiat := 500000
      estimatedFeeSats := 500 },
    { id := "ng_bank"
      country := "NG"
      currency := "NGN"
      channel := "bank_transfer"
      name := "Nigeria Instant Bank Transfer (NIP)"
      minAmountFiat := 1000
      maxAmountFiat := 5000000
      estimatedFeeSats := 300 },
    { id := "gh_momo"
      country := "GH"
      currency := "GHS"
      channel := "mobile_money"
      name := "Ghana Mobile Money (MTN/Vodafone/Telecel)"
      minAmountFiat := 10
      maxAmountFiat := 10000
      estimatedFeeSats := 200 },
    { id := "ug_momo"
      country := "UG"
      currency := "UGX"
      channel := "mobile_money"
      name := "Uganda Mobile Money (MTN / Airtel)"
      minAmountFiat := 5000
      maxAmountFiat := 5000000
      estimatedFeeSats := 350 },
    { id := "rw_momo"
      country := "RW"
      currency := "RWF"
      channel := "mobile_money"
      name := "Rwanda Mobile Money (MTN / Airtel)"
      minAmountFiat := 1000
      maxAmountFiat := 2000000
      estimatedFeeSats := 250 },
    { id := "za_bank"
      country := "ZA"
      currency := "ZAR"
      channel := "bank_transfer"
      name := "South Africa EFT Bank Transfer"
      minAmountFiat := 50
      maxAmountFiat := 50000
      estimatedFeeSats := 400 }]

def getSupportedCorridors (U : UpperTable) (country : Option String) :
    Except ProviderError (List PayoutCorridor) :=
  match country with
  | some c =>
    let countryUpper := U.toUppercase (trim c)
    let filtered := allCorridors.filter fun co => co.country == countryUpper
    if filtered.isEmpty then
      .error (.unsupportedCountry s!"No payout corridors available for {countryUpper}")
    else .ok filtered
  | none => .ok allCorridors

/-- The reference rate of a currency for one bitcoin. -/
def ratePerBtc (currency : String) : ℚ :=
  match currency with
  | "KES" => 7800000
  | "NGN" => 95000000
  | "GHS" => 900000
  | "ZAR" => 1100000
  | "UGX" => 220000000
  | "RWF" => 80000000
  | _ => 60000

variable (display : ℚ → String) (U : UpperTable)

/-- `get_payout_quote`; `display` writes a double as the source's `Display` does. -/
def getPayoutQuote (req : PayoutQuoteRequest) (id : Uuid) (now : DateTime) :
    Option (Except ProviderError PayoutQuote) :=
  match getSupportedCorridors U none with
  | .error e => some (.error e)
  | .ok corridors =>
    match corridors.find? fun c => c.id == req.corridorId with
    | none => some (.error (.validationFailed s!"Unknown corridor {req.corridorId}"))
    | some corridor =>
      if req.amountFiat < corridor.minAmountFiat ∨ corridor.maxAmountFiat < req.amountFiat then
        some (.error (.validationFailed
          (s!"Amount {display req.amountFiat} {corridor.currency} outside corridor limits " ++
            s!"(min: {display corridor.minAmountFiat}, max: {display corridor.maxAmountFiat})")))
      else
        (now.checkedAddSigned (TimeDelta.minutes 15)).map fun expiresAt =>
          .ok
            { quoteId := s!"bitnob_quote_{id}"
              corridorId := corridor.id
              amountSats := satsAmount req.amountFiat (ratePerBtc corridor.currency)
              amountFiat := req.amountFiat
              feeSats := corridor.estimatedFeeSats
              exchangeRate := ratePerBtc corridor.currency
              recipientAccount := req.recipientAccount
              expiresAt := expiresAt }

/-- A payout quote converts an amount within the limits of the corridor that the request names. -/
theorem getPayoutQuote_ok {req : PayoutQuoteRequest} {id : Uuid} {now : DateTime} {q : PayoutQuote}
    (h : getPayoutQuote display U req id now = some (.ok q)) :
    ∃ corridor, (allCorridors.find? fun c => c.id == req.corridorId) = some corridor ∧
      corridor.minAmountFiat ≤ req.amountFiat ∧ req.amountFiat ≤ corridor.maxAmountFiat ∧
      q.exchangeRate = ratePerBtc corridor.currency ∧ q.amountFiat = req.amountFiat ∧
      q.amountSats = satsAmount req.amountFiat q.exchangeRate := by
  simp only [getPayoutQuote, getSupportedCorridors] at h
  cases hfind : allCorridors.find? fun c => c.id == req.corridorId with
  | none => simp [hfind] at h
  | some corridor =>
    simp only [hfind] at h
    split_ifs at h with hlimits
    · cases Option.some.inj h
    · rw [not_or, not_lt, not_lt] at hlimits
      obtain ⟨expiresAt, -, hq⟩ := Option.map_eq_some_iff.mp h
      obtain rfl := Except.ok.inj hq
      exact ⟨corridor, rfl, hlimits.1, hlimits.2, rfl, rfl, rfl⟩

theorem ratePerBtc_pos (currency : String) : 0 < ratePerBtc currency := by
  unfold ratePerBtc
  split <;> norm_num

theorem limits_allCorridors : ∀ c ∈ allCorridors,
    1 ≤ c.minAmountFiat / ratePerBtc c.currency * 100000000 ∧
      c.maxAmountFiat / ratePerBtc c.currency * 100000000 < 2 ^ 63 := by
  decide +kernel

end BitnobAdapter

namespace DtOneAdapter

/-- The reference rate for one bitcoin that a biller's prefix selects. -/
def ratePerBtc (billerId : String) : ℚ :=
  if startsWith billerId "ng_" then 95000000
  else if startsWith billerId "gh_" then 900000
  else if startsWith billerId "za_" then 1100000
  else if startsWith billerId "ug_" then 220000000
  else if startsWith billerId "rw_" then 80000000
  else 7800000

def serviceType (billerId : String) : BillServiceType :=
  if containsText billerId "data" then .data
  else if containsText billerId "kplc" || containsText billerId "electric" ||
      containsText billerId "ecg" || containsText billerId "eskom" ||
      containsText billerId "umeme" || containsText billerId "eucl" then .electricity
  else if containsText billerId "water" then .water
  else if containsText billerId "dstv" || containsText billerId "tv" then .tv
  else if containsText billerId "zuku" || containsText billerId "spectranet" ||
      containsText billerId "internet" then .internet
  else .airtime

def getBillQuote (req : BillQuoteRequest) (id : Uuid) (now : DateTime) :
    Option (Except ProviderError BillQuote) :=
  if req.amountFiat ≤ 0 then
    some (.error (.validationFailed "Amount must be greater than zero"))
  else
    (now.checkedAddSigned (TimeDelta.minutes 15)).map fun expiresAt =>
      .ok
        { quoteId := s!"bill_quote_{id}"
          billerId := req.billerId
          productId := req.productId
          serviceType := serviceType req.billerId
          amountSats := satsAmount req.amountFiat (ratePerBtc req.billerId)
          amountFiat := req.amountFiat
          feeSats := 50
          exchangeRate := ratePerBtc req.billerId
          customerAccount := req.customerAccount
          expiresAt := expiresAt }

/-- A bill quote converts whatever is positive. -/
theorem getBillQuote_ok {req : BillQuoteRequest} {id : Uuid} {now : DateTime} {q : BillQuote}
    (h : getBillQuote req id now = some (.ok q)) :
    0 < req.amountFiat ∧ q.exchangeRate = ratePerBtc req.billerId ∧
      q.amountFiat = req.amountFiat ∧
      q.amountSats = satsAmount req.amountFiat q.exchangeRate := by
  unfold getBillQuote at h
  split_ifs at h with hpos
  · cases Option.some.inj h
  · obtain ⟨expiresAt, -, hq⟩ := Option.map_eq_some_iff.mp h
    obtain rfl := Except.ok.inj hq
    exact ⟨not_le.mp hpos, rfl, rfl, rfl⟩

/-- A positive amount is quoted unless the quote's expiry overflows the calendar. -/
theorem exists_getBillQuote {req : BillQuoteRequest} (h : 0 < req.amountFiat) (id : Uuid) :
    ∃ q, getBillQuote req id .epoch = some (.ok q) := by
  have hexpires : DateTime.epoch.checkedAddSigned (TimeDelta.minutes 15) =
      some (.ofSeconds 900 (by decide)) := by decide
  unfold getBillQuote
  rw [if_neg (not_le.mpr h), hexpires]
  exact ⟨_, rfl⟩

theorem ratePerBtc_pos (billerId : String) : 0 < ratePerBtc billerId := by
  unfold ratePerBtc
  split_ifs <;> norm_num

end DtOneAdapter
end Hanbova
