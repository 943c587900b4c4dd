import Mathlib.Data.Rat.Floor
import Mathlib.Tactic.Linarith
import Mathlib.Tactic.NormNum

/-! Operations of `f64` with exact rationals in place of doubles, and the cast to `u64`. -/
namespace Library.Rounding

/-- `f64::round`: to the nearest integer, halves away from zero. -/
def roundAway (x : ℚ) : ℤ := if x < 0 then -round (-x) else round x

/-- `f64::trunc`. -/
def trunc (x : ℚ) : ℤ := if x < 0 then ⌈x⌉ else ⌊x⌋

/-- `x as u64`: towards zero, and no further than the ends of the type. -/
def asU64 (x : ℚ) : UInt64 := UInt64.ofNat (min ⌊x⌋.toNat (2 ^ 64 - 1))

variable {x y : ℚ}

theorem trunc_of_nonneg (h : 0 ≤ x) : trunc x = ⌊x⌋ := if_neg h.not_gt

theorem roundAway_of_nonneg (h : 0 ≤ x) : roundAway x = round x := if_neg h.not_gt

theorem round_le_round (h : x ≤ y) : round x ≤ round y := by
  rw [round_eq, round_eq]
  apply Int.floor_le_floor
  linarith

theorem round_nonneg (h : 0 ≤ x) : 0 ≤ round x := by
  have hzero : round (0 : ℚ) = 0 := round_zero
  rw [← hzero]
  exact round_le_round h

theorem roundAway_le_roundAway (h : x ≤ y) : roundAway x ≤ roundAway y := by
  unfold roundAway
  split_ifs with hx hy hy
  · exact neg_le_neg (round_le_round (neg_le_neg h))
  · have hleft : 0 ≤ round (-x) := round_nonneg (by linarith)
    have hright : 0 ≤ round y := round_nonneg (not_lt.mp hy)
    omega
  · exact absurd (h.trans_lt hy) hx
  · exact round_le_round h

theorem toNat_asU64 (x : ℚ) : (asU64 x).toNat = min ⌊x⌋.toNat (2 ^ 64 - 1) := by
  unfold asU64
  rw [UInt64.toNat_ofNat']
  apply Nat.mod_eq_of_lt
  omega

theorem asU64_le_asU64 (h : x ≤ y) : asU64 x ≤ asU64 y := by
  have hfloor := Int.toNat_le_toNat (Int.floor_le_floor h)
  rw [UInt64.le_iff_toNat_le, toNat_asU64, toNat_asU64]
  omega

/-- A rounded value below `2 ^ 64` is kept, except that `2 ^ 64` itself becomes the last `u64`. -/
theorem toNat_asU64_roundAway (h₀ : 0 ≤ x) :
    ((asU64 (roundAway x)).toNat : ℤ) = min (round x) (2 ^ 64 - 1) := by
  have hround := round_nonneg h₀
  rw [toNat_asU64, Int.floor_intCast, roundAway_of_nonneg h₀]
  omega

/-- The cast value is positive from one half on. -/
theorem one_le_asU64_roundAway_iff (h₀ : 0 ≤ x) :
    1 ≤ (asU64 (roundAway x)).toNat ↔ 1 / 2 ≤ x := by
  have hcast := toNat_asU64_roundAway h₀
  have hone : 1 ≤ round x ↔ 1 / 2 ≤ x := by
    rw [round_eq, Int.le_floor]
    constructor
    · intro h
      norm_num at h
      linarith
    · intro h
      norm_num
      linarith
  rw [← hone]
  omega

/-- Below `2 ^ 64` the cast value is the nearest integer, except above the last `u64`'s half. -/
theorem abs_asU64_roundAway_sub_le_iff (h₀ : 0 ≤ x) (h : x < 2 ^ 64) :
    |((asU64 (roundAway x)).toNat : ℚ) - x| ≤ 1 / 2 ↔ x ≤ 2 ^ 64 - 1 / 2 := by
  have hcast := toNat_asU64_roundAway h₀
  have hclose := abs_sub_round x
  rw [abs_sub_comm] at hclose
  by_cases hlast : round x ≤ 2 ^ 64 - 1
  · rw [min_eq_left hlast] at hcast
    have heq : ((asU64 (roundAway x)).toNat : ℚ) = (round x : ℚ) := by exact_mod_cast hcast
    rw [heq]
    refine iff_of_true hclose ?_
    have hle : (round x : ℚ) ≤ 2 ^ 64 - 1 := by exact_mod_cast hlast
    rw [abs_le] at hclose
    linarith
  · rw [min_eq_right (le_of_not_ge hlast)] at hcast
    have heq : ((asU64 (roundAway x)).toNat : ℚ) = 2 ^ 64 - 1 := by exact_mod_cast hcast
    have hlarge : (2 ^ 64 : ℚ) ≤ round x := by
      exact_mod_cast (by omega : (2 ^ 64 : ℤ) ≤ round x)
    rw [abs_le] at hclose
    rw [heq, abs_le]
    constructor
    · intro hle
      linarith [hle.1]
    · intro hle
      constructor <;> linarith

end Library.Rounding
