import Hanbova.Library.Decimal
import Hanbova.Library.Rounding
import Hanbova.Rates.Service

/-! The customer-facing texts of rates: `rate.rs`, with rationals in place of doubles. -/
namespace Hanbova

open Library.Decimal Library.Rounding

/-- The parts of a number, with commas in the first and the second padded to two digits. -/
def withCommas (integerPart decimalPart : ℕ) : String :=
  String.ofList (group ',' 3 (Nat.toDigits 10 integerPart) ++ '.' :: padded 2 decimalPart)

def formatNumberWithCommas (num : ℚ) : String :=
  let integerPart := asU64 (abs (trunc num : ℚ))
  let decimalPart := asU64 (roundAway ((abs num - integerPart.toNat) * 100))
  withCommas integerPart.toNat decimalPart.toNat

/-- What stands before the number in a quote currency. -/
def quotePrefix (quote : String) : Option String :=
  match quote with
  | "NGN" => some "₦"
  | "KES" => some "KSh "
  | "GHS" => some "GH₵ "
  | "ZAR" => some "R "
  | "UGX" => some "USh "
  | "RWF" => some "RWF "
  | "TZS" => some "TSh "
  | _ => none

/-- `HanbovaRate::format_display`; `fixed` writes a double to two places. -/
def formatDisplay (fixed : ℚ → String) (base quote : String) (rate : ℚ) : String :=
  if quote == "USD" || quote == "USDT" then "1 USDT = $" ++ formatNumberWithCommas rate
  else
    let baseSymbol :=
      match base with
      | "USD" => "$1"
      | "EUR" => "€1"
      | "GBP" => "£1"
      | _ => base
    let quoteFormatted :=
      match quotePrefix quote with
      | some symbol => symbol ++ formatNumberWithCommas rate
      | none => quote ++ " " ++ fixed rate
    baseSymbol ++ " = " ++ quoteFormatted

example : formatDisplay (fun _ => "") "USD" "NGN" (3041 / 2) = "$1 = ₦1,520.50" := by
  decide +kernel

theorem exists_formatDisplay {key : MarketKey} (hkey : key ∈ allMarkets) (fixed : ℚ → String)
    (base : String) (rate : ℚ) :
    ∃ lead, formatDisplay fixed base key.2.2 rate = lead ++ formatNumberWithCommas rate := by
  have hquote : (key.2.2 == "USD" || key.2.2 == "USDT") = true ∨
      (quotePrefix key.2.2).isSome = true := by
    revert key
    decide +kernel
  unfold formatDisplay
  split_ifs with husd
  · exact ⟨_, rfl⟩
  · obtain ⟨symbol, hsymbol⟩ := Option.isSome_iff_exists.mp (hquote.resolve_left husd)
    simp only [hsymbol, ← String.append_assoc]
    exact ⟨_, rfl⟩

/-- The text is a numeral with separated thousands and two decimals, and its value is `x`. -/
def Shows (s : String) (x : ℚ) : Prop :=
  ∃ whole hundredths, s.toList = whole ++ '.' :: hundredths ∧ Grouped ',' 3 whole ∧
    Digits hundredths ∧ hundredths.length = 2 ∧
      Nat.ofDigitChars 10 (whole.filter (· != ',')) 0 +
        (Nat.ofDigitChars 10 hundredths 0 : ℚ) / 100 = x

/-- The number rounded to the nearest hundredth. -/
def toHundredths (num : ℚ) : ℚ := roundAway (num * 100) / 100

theorem not_mem_of_digits {c : Char} {cs : List Char} (h : Digits cs) (hc : c.isDigit = false) :
    c ∉ cs := by
  intro hmem
  rw [h c hmem] at hc
  cases hc

/-- A whole number, a point and hundredths show what they add up to when there are less than a
hundred hundredths. -/
theorem shows_withCommas_iff {n d : ℕ} {x : ℚ} (h : (n : ℚ) + d / 100 = x) :
    Shows (withCommas n d) x ↔ d < 100 := by
  have hcomma : ',' ∉ Nat.toDigits 10 n := not_mem_of_digits (digits_toDigits n) rfl
  have hgrouped : Grouped ',' 3 (group ',' 3 (Nat.toDigits 10 n)) :=
    grouped_group (by decide) Nat.toDigits_ne_nil (digits_toDigits n)
  have htwo : (padded 2 d).length = 2 ↔ d < 100 := length_padded_eq_iff (by decide)
  constructor
  · intro hshows
    obtain ⟨whole, hundredths, htext, hwhole, hdigits, hlen, -⟩ := hshows
    have hpoint : '.' ∉ whole := by
      intro hmem
      rcases hwhole.mem hmem with hc | hc <;> exact absurd hc (by decide)
    have hpoint' : '.' ∉ hundredths := not_mem_of_digits hdigits rfl
    -- Neither part of the text has a point, so it has one way to be split.
    rw [withCommas, String.toList_ofList, eq_comm,
      List.append_cons_inj_of_notMem hpoint hpoint'] at htext
    rw [← htwo, ← htext.2.2]
    exact hlen
  · intro hd
    refine ⟨_, _, String.toList_ofList, hgrouped, digits_padded 2 d, htwo.mpr hd, ?_⟩
    rw [filter_group hcomma, Nat.ofDigitChars_ten_toDigits, ofDigitChars_padded, h]

theorem toNat_asU64_trunc {num : ℚ} (h₀ : 0 ≤ num) (hlt : num < 2 ^ 64 - 1) :
    ((asU64 (abs (trunc num : ℚ))).toNat : ℤ) = ⌊num⌋ := by
  have hfloor : 0 ≤ ⌊num⌋ := Int.floor_nonneg.mpr h₀
  have hbelow : ⌊num⌋ < 2 ^ 64 - 1 := by
    rw [Int.floor_lt]
    exact_mod_cast hlt
  rw [trunc_of_nonneg h₀, ← Int.cast_abs, abs_of_nonneg hfloor, toNat_asU64, Int.floor_intCast]
  omega

/-- The hundredths are those of the fractional part, which may round up to a hundred of them. -/
theorem toNat_decimalPart (num : ℚ) :
    ((asU64 (roundAway (Int.fract num * 100))).toNat : ℤ) = round (Int.fract num * 100) := by
  have hfract := Int.fract_nonneg num
  have hle : round (Int.fract num * 100) ≤ round (100 : ℚ) := by
    apply round_le_round
    linarith [(Int.fract_lt_one num).le]
  rw [toNat_asU64_roundAway (by linarith)]
  rw [round_ofNat] at hle
  omega

theorem round_fract_lt_iff (num : ℚ) :
    round (Int.fract num * 100) < 100 ↔ Int.fract num < 199 / 200 := by
  rw [round_eq, Int.floor_lt]
  constructor
  · intro h
    norm_num at h
    linarith
  · intro h
    norm_num
    linarith

theorem toHundredths_eq {num : ℚ} (h₀ : 0 ≤ num) :
    toHundredths num = ⌊num⌋ + (round (Int.fract num * 100) : ℚ) / 100 := by
  have hsplit : num * 100 = ((⌊num⌋ * 100 : ℤ) : ℚ) + Int.fract num * 100 := by
    have h := Int.floor_add_fract num
    push_cast
    linarith
  unfold toHundredths
  rw [roundAway_of_nonneg (by linarith), hsplit, round_intCast_add]
  push_cast
  ring

/-- The parts of a number in range add up to the rounded number, but a hundred hundredths are not
carried over. -/
theorem formatNumberWithCommas_eq {num : ℚ} (h₀ : 0 ≤ num) (hlt : num < 2 ^ 64 - 1) :
    ∃ n d : ℕ, formatNumberWithCommas num = withCommas n d ∧
      (n : ℚ) + d / 100 = toHundredths num ∧ (d < 100 ↔ Int.fract num < 199 / 200) := by
  have hinteger := toNat_asU64_trunc h₀ hlt
  have hdecimal := toNat_decimalPart num
  have hcast : ((asU64 (abs (trunc num : ℚ))).toNat : ℚ) = ⌊num⌋ := by
    exact_mod_cast hinteger
  have hfract : abs num - ((asU64 (abs (trunc num : ℚ))).toNat : ℚ) = Int.fract num := by
    rw [hcast, abs_of_nonneg h₀, Int.self_sub_floor]
  refine ⟨_, _, rfl, ?_, ?_⟩
  · rw [hfract, toHundredths_eq h₀, ← hinteger, ← hdecimal]
    rfl
  · rw [hfract, ← round_fract_lt_iff, ← hdecimal]
    omega

/-- A number is shown rounded unless its fractional part rounds up to a whole. -/
theorem shows_toHundredths_iff {num : ℚ} (h₀ : 0 ≤ num) (hlt : num < 2 ^ 64 - 1) :
    Shows (formatNumberWithCommas num) (toHundredths num) ↔ Int.fract num < 199 / 200 := by
  obtain ⟨n, d, hformat, hvalue, hcarry⟩ := formatNumberWithCommas_eq h₀ hlt
  rw [hformat, shows_withCommas_iff hvalue, hcarry]

theorem shows_toHundredths_sample :
    Shows (formatNumberWithCommas (1234567891 / 1000)) (toHundredths (1234567891 / 1000)) :=
  (shows_toHundredths_iff (by norm_num) (by norm_num)).mpr (by norm_num [Int.fract])

/-- 1.999 is shown as `1.100`. -/
theorem two_not_shown :
    formatNumberWithCommas (1999 / 1000) = "1.100" ∧ toHundredths (1999 / 1000) = 2 ∧
      ¬ Shows (formatNumberWithCommas (1999 / 1000)) (toHundredths (1999 / 1000)) := by
  have hformat : formatNumberWithCommas (1999 / 1000) = withCommas 1 100 := by decide +kernel
  have hvalue : toHundredths (1999 / 1000) = 2 := by decide +kernel
  refine ⟨by decide +kernel, hvalue, ?_⟩
  rw [hformat, hvalue, shows_withCommas_iff (by norm_num)]
  decide

/-- The displayed rate of a market ends with the rounded rate, unless it rounds up to a whole. -/
theorem formatDisplay_shows {key : MarketKey} (hkey : key ∈ allMarkets) (fixed : ℚ → String)
    (base : String) {rate : ℚ} (h₀ : 0 ≤ rate) (hlt : rate < 2 ^ 64 - 1)
    (hcarry : Int.fract rate < 199 / 200) :
    ∃ lead number, formatDisplay fixed base key.2.2 rate = lead ++ number ∧
      Shows number (toHundredths rate) := by
  obtain ⟨lead, hlead⟩ := exists_formatDisplay hkey fixed base rate
  obtain ⟨n, d, hformat, hvalue, hd⟩ := formatNumberWithCommas_eq h₀ hlt
  refine ⟨lead, _, hlead, ?_⟩
  rw [hformat, shows_withCommas_iff hvalue, hd]
  exact hcarry

end Hanbova
