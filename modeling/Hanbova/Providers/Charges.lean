import Hanbova.Providers.Quotes

/-! What the quotes of both providers charge, against the value of what they deliver. -/
namespace Hanbova

open Library Library.Text Library.Rounding

/-- A request for a quote, of either provider. -/
inductive QuoteRequest
  | payout (req : PayoutQuoteRequest)
  | bill (req : BillQuoteRequest)

namespace QuoteRequest

def amountFiat : QuoteRequest → ℚ
  | .payout req => req.amountFiat
  | .bill req => req.amountFiat

/-- Both requests name the same corridor, or the same biller. -/
def SameService : QuoteRequest → QuoteRequest → Prop
  | .payout req, .payout req' => req.corridorId = req'.corridorId
  | .bill req, .bill req' => req.billerId = req'.billerId
  | _, _ => False

variable (display : ℚ → String) (U : UpperTable)

/-- The request is accepted with this amount of satoshis, at this rate. -/
def Quoted : QuoteRequest → UInt64 → ℚ → Prop
  | .payout req, sats, rate => ∃ id now q,
    BitnobAdapter.getPayoutQuote display U req id now = some (.ok q) ∧
      q.amountSats = sats ∧ q.exchangeRate = rate
  | .bill req, sats, rate => ∃ id now q,
    DtOneAdapter.getBillQuote req id now = some (.ok q) ∧
      q.amountSats = sats ∧ q.exchangeRate = rate

/-- If the request is accepted and its value is below `2 ^ 64` satoshis, it costs a satoshi or
more, its value to the nearest satoshi, and no more than a larger amount for the same service. -/
def ChargesForDelivery (r : QuoteRequest) : Prop :=
  ∀ sats rate, r.Quoted display U sats rate → r.amountFiat / rate * 10 ^ 8 < 2 ^ 64 →
    1 ≤ sats.toNat ∧ |(sats.toNat : ℚ) - r.amountFiat / rate * 10 ^ 8| ≤ 1 / 2 ∧
      ∀ r' sats' rate', r.SameService r' → r'.Quoted display U sats' rate' →
        r.amountFiat ≤ r'.amountFiat → sats ≤ sats'

variable {display U} {r r' : QuoteRequest} {sats sats' : UInt64} {rate rate' : ℚ}

/-- Both providers convert a positive amount in the same way. -/
theorem Quoted.converted (h : r.Quoted display U sats rate) :
    0 < rate ∧ 0 < r.amountFiat ∧ sats = satsAmount r.amountFiat rate := by
  cases r with
  | payout req =>
    obtain ⟨id, now, q, hq, rfl, rfl⟩ := h
    obtain ⟨corridor, hfind, hmin, -, hrate, -, hsats⟩ :=
      BitnobAdapter.getPayoutQuote_ok display U hq
    have hpos := BitnobAdapter.ratePerBtc_pos corridor.currency
    have hworth := (BitnobAdapter.limits_allCorridors _ (List.mem_of_find?_eq_some hfind)).1
    have hleast : 0 < corridor.minAmountFiat := by
      by_contra hneg
      have hvalue := div_nonpos_of_nonpos_of_nonneg (not_lt.mp hneg) hpos.le
      linarith
    rw [hrate] at hsats ⊢
    exact ⟨hpos, hleast.trans_le hmin, hsats⟩
  | bill req =>
    obtain ⟨id, now, q, hq, rfl, rfl⟩ := h
    obtain ⟨hpos, hrate, -, hsats⟩ := DtOneAdapter.getBillQuote_ok hq
    rw [hrate] at hsats ⊢
    exact ⟨DtOneAdapter.ratePerBtc_pos req.billerId, hpos, hsats⟩

theorem Quoted.rate_eq (h : r.Quoted display U sats rate) (h' : r'.Quoted display U sats' rate')
    (hsame : r.SameService r') : rate = rate' := by
  cases r with
  | payout req =>
    cases r' with
    | bill req' => exact hsame.elim
    | payout req' =>
      obtain ⟨id, now, q, hq, -, rfl⟩ := h
      obtain ⟨id', now', q', hq', -, rfl⟩ := h'
      obtain ⟨corridor, hfind, -, -, hrate, -, -⟩ :=
        BitnobAdapter.getPayoutQuote_ok display U hq
      obtain ⟨corridor', hfind', -, -, hrate', -, -⟩ :=
        BitnobAdapter.getPayoutQuote_ok display U hq'
      have hid : req.corridorId = req'.corridorId := hsame
      rw [hid, hfind'] at hfind
      rw [hrate, hrate', Option.some.inj hfind]
  | bill req =>
    cases r' with
    | payout req' => exact hsame.elim
    | bill req' =>
      obtain ⟨id, now, q, hq, -, rfl⟩ := h
      obtain ⟨id', now', q', hq', -, rfl⟩ := h'
      obtain ⟨-, hrate, -, -⟩ := DtOneAdapter.getBillQuote_ok hq
      obtain ⟨-, hrate', -, -⟩ := DtOneAdapter.getBillQuote_ok hq'
      have hid : req.billerId = req'.billerId := hsame
      rw [hrate, hrate', hid]

theorem Quoted.monotone (h : r.Quoted display U sats rate) (h' : r'.Quoted display U sats' rate')
    (hsame : r.SameService r') (hle : r.amountFiat ≤ r'.amountFiat) : sats ≤ sats' := by
  obtain ⟨hrate, -, rfl⟩ := h.converted
  obtain ⟨-, -, rfl⟩ := h'.converted
  rw [← h.rate_eq h' hsame]
  exact satsAmount_le_satsAmount hrate hle

/-- A value below `2 ^ 64` satoshis is charged to the nearest satoshi unless it is under half a
satoshi, or so close to `2 ^ 64` that it is rounded there. -/
theorem Quoted.charged_iff (h : r.Quoted display U sats rate)
    (hlt : r.amountFiat / rate * 10 ^ 8 < 2 ^ 64) :
    (1 ≤ sats.toNat ∧ |(sats.toNat : ℚ) - r.amountFiat / rate * 10 ^ 8| ≤ 1 / 2) ↔
      1 / 2 ≤ r.amountFiat / rate * 10 ^ 8 ∧
      r.amountFiat / rate * 10 ^ 8 ≤ 2 ^ 64 - 1 / 2 := by
  obtain ⟨hrate, hamount, rfl⟩ := h.converted
  have hpos : 0 ≤ r.amountFiat / rate * 10 ^ 8 := by positivity
  have heq : satsAmount r.amountFiat rate = asU64 (roundAway (r.amountFiat / rate * 10 ^ 8)) := by
    unfold satsAmount
    norm_num
  rw [heq, one_le_asU64_roundAway_iff hpos, abs_asU64_roundAway_sub_le_iff hpos hlt]

theorem Quoted.payout_value {req : PayoutQuoteRequest}
    (h : (payout req).Quoted display U sats rate) :
    1 ≤ req.amountFiat / rate * 10 ^ 8 ∧ req.amountFiat / rate * 10 ^ 8 < 2 ^ 63 := by
  obtain ⟨id, now, q, hq, -, rfl⟩ := h
  obtain ⟨corridor, hfind, hmin, hmax, hrate, -, -⟩ :=
    BitnobAdapter.getPayoutQuote_ok display U hq
  obtain ⟨hleast, hmost⟩ :=
    BitnobAdapter.limits_allCorridors _ (List.mem_of_find?_eq_some hfind)
  have hpos := (BitnobAdapter.ratePerBtc_pos corridor.currency).le
  have hlow := div_le_div_of_nonneg_right hmin hpos
  have hhigh := div_le_div_of_nonneg_right hmax hpos
  rw [hrate]
  constructor <;> linarith

/-- What half a satoshi is worth in the currency of a biller. -/
def halfSatoshi (billerId : String) : ℚ :=
  if startsWith billerId "ng_" then 19 / 40
  else if startsWith billerId "gh_" then 9 / 2000
  else if startsWith billerId "za_" then 11 / 2000
  else if startsWith billerId "ug_" then 11 / 10
  else if startsWith billerId "rw_" then 2 / 5
  else 39 / 1000

theorem halfSatoshi_eq (billerId : String) :
    halfSatoshi billerId = DtOneAdapter.ratePerBtc billerId / 200000000 := by
  unfold halfSatoshi DtOneAdapter.ratePerBtc
  split_ifs <;> norm_num

/-- A bill for a positive amount, below `2 ^ 64` satoshis, is one for half a satoshi at least and
does not come within half a satoshi of `2 ^ 64`. Nothing is asked of a bill for any other amount: it
is refused, or is worth `2 ^ 64` satoshis or more. -/
def Billable : QuoteRequest → Prop
  | .payout _ => True
  | .bill req =>
    0 < req.amountFiat → req.amountFiat < 2 ^ 65 * halfSatoshi req.billerId →
      halfSatoshi req.billerId ≤ req.amountFiat ∧
        req.amountFiat ≤ (2 ^ 65 - 1) * halfSatoshi req.billerId

theorem Quoted.bill_value {req : BillQuoteRequest} (h : (bill req).Quoted display U sats rate)
    (n : ℚ) :
    (req.amountFiat / rate * 10 ^ 8 < n / 2 ↔ req.amountFiat < n * halfSatoshi req.billerId) ∧
      (req.amountFiat / rate * 10 ^ 8 ≤ n / 2 ↔
        req.amountFiat ≤ n * halfSatoshi req.billerId) ∧
      (n / 2 ≤ req.amountFiat / rate * 10 ^ 8 ↔
        n * halfSatoshi req.billerId ≤ req.amountFiat) := by
  obtain ⟨id, now, q, hq, -, rfl⟩ := h
  obtain ⟨-, hrate, -, -⟩ := DtOneAdapter.getBillQuote_ok hq
  have hper := DtOneAdapter.ratePerBtc_pos req.billerId
  rw [hrate, halfSatoshi_eq, div_mul_eq_mul_div, div_lt_iff₀ hper, div_le_iff₀ hper,
    le_div_iff₀ hper]
  refine ⟨?_, ?_, ?_⟩
  all_goals constructor <;> intro h <;> linarith

theorem Quoted.bill_charged_iff {req : BillQuoteRequest}
    (h : (bill req).Quoted display U sats rate) (hlt : req.amountFiat / rate * 10 ^ 8 < 2 ^ 64) :
    (1 ≤ sats.toNat ∧ |(sats.toNat : ℚ) - req.amountFiat / rate * 10 ^ 8| ≤ 1 / 2) ↔
      (bill req).Billable := by
  obtain ⟨-, hpos, -⟩ := h.converted
  have htop := (h.bill_value (2 ^ 65)).1
  have hhalf := (h.bill_value 1).2.2
  have hlast := (h.bill_value (2 ^ 65 - 1)).2.1
  have htop' : (2 ^ 65 : ℚ) / 2 = 2 ^ 64 := by norm_num
  have hlast' : ((2 ^ 65 - 1 : ℚ)) / 2 = 2 ^ 64 - 1 / 2 := by norm_num
  rw [htop'] at htop
  rw [hlast'] at hlast
  rw [one_mul] at hhalf
  have hcharged := h.charged_iff hlt
  simp only [amountFiat] at hcharged hpos
  rw [hcharged, hhalf, hlast]
  constructor
  · intro hbounds _ _
    exact hbounds
  · intro hbillable
    exact hbillable hpos (htop.mp hlt)

/-- Every payout, and exactly the billable bills, cost what they deliver. -/
theorem chargesForDelivery_iff (r : QuoteRequest) :
    r.ChargesForDelivery display U ↔ r.Billable := by
  cases r with
  | payout req =>
    refine iff_of_true ?_ trivial
    intro sats rate h hlt
    obtain ⟨hleast, hmost⟩ := h.payout_value
    obtain ⟨hpositive, hnearest⟩ := (h.charged_iff hlt).mpr
      (by constructor <;> simp only [amountFiat] <;> linarith)
    exact ⟨hpositive, hnearest, fun _ _ _ hsame h' hle => h.monotone h' hsame hle⟩
  | bill req =>
    constructor
    · intro hcharges hpos hlt
      obtain ⟨q, hq⟩ := DtOneAdapter.exists_getBillQuote hpos (.ofNat 0)
      have h : (bill req).Quoted display U q.amountSats q.exchangeRate :=
        ⟨.ofNat 0, .epoch, q, hq, rfl, rfl⟩
      have hbelow : req.amountFiat / q.exchangeRate * 10 ^ 8 < 2 ^ 64 := by
        have htop := (h.bill_value (2 ^ 65)).1.mpr hlt
        linarith
      obtain ⟨hpositive, hnearest, -⟩ := hcharges _ _ h hbelow
      exact (h.bill_charged_iff hbelow).mp ⟨hpositive, hnearest⟩ hpos hlt
    · intro hbillable sats rate h hlt
      obtain ⟨hpositive, hnearest⟩ := (h.bill_charged_iff hlt).mpr hbillable
      exact ⟨hpositive, hnearest, fun _ _ _ hsame h' hle => h.monotone h' hsame hle⟩

/-- A cent of electricity, worth an eighth of a satoshi. -/
def cent : BillQuoteRequest where
  billerId := "ke_kplc"
  productId := none
  amountFiat := 1 / 100
  customerAccount := "14123456789"

def freeQuote : BillQuote where
  quoteId := "bill_quote_00000000-0000-0000-0000-000000000001"
  billerId := "ke_kplc"
  productId := none
  serviceType := .electricity
  amountSats := 0
  amountFiat := 1 / 100
  feeSats := 50
  exchangeRate := 7800000
  customerAccount := "14123456789"
  expiresAt := .ofSeconds 900 (by decide)

theorem cent_free :
    DtOneAdapter.getBillQuote cent (.ofNat 1) .epoch = some (.ok freeQuote) ∧
      ¬ (bill cent).ChargesForDelivery toString UpperTable.ascii := by
  have hquote : DtOneAdapter.getBillQuote cent (.ofNat 1) .epoch = some (.ok freeQuote) := by
    decide +kernel
  refine ⟨hquote, ?_⟩
  intro h
  have hvalue : cent.amountFiat / freeQuote.exchangeRate * 10 ^ 8 < 2 ^ 64 := by
    norm_num [cent, freeQuote]
  have hpositive := (h 0 7800000 ⟨.ofNat 1, .epoch, freeQuote, hquote, rfl, rfl⟩ hvalue).1
  exact absurd hpositive (by decide)

end QuoteRequest
end Hanbova
