import Mathlib.Algebra.Order.Group.Int
import Mathlib.Order.Lattice

/-! UTC instants and time spans of the `chrono` crate, in nanoseconds. -/
namespace Library

/-- The first instant of the year -262143. -/
def minUtc : ℤ := -8334601315200 * 1000000000

/-- The last instant of the year 262142. -/
def maxUtc : ℤ := 8210266876799 * 1000000000 + 999999999

/-- Nanoseconds since the Unix epoch, within the calendar's range. -/
@[ext]
structure DateTime where
  nanos : ℤ
  inRange : minUtc ≤ nanos ∧ nanos ≤ maxUtc
  deriving DecidableEq

/-- A span of time in nanoseconds. -/
abbrev TimeDelta := ℤ

namespace TimeDelta

/-- A span is limited to `i64::MAX` milliseconds either way. -/
def trySeconds (secs : ℤ) : Option TimeDelta :=
  if -9223372036854775 ≤ secs ∧ secs ≤ 9223372036854775 then some (secs * 1000000000)
  else none

def minutes (n : ℤ) : TimeDelta := n * 60 * 1000000000

def hours (n : ℤ) : TimeDelta := n * 3600 * 1000000000

def days (n : ℤ) : TimeDelta := n * 86400 * 1000000000

end TimeDelta

namespace DateTime

instance : LinearOrder DateTime where
  le t u := t.nanos ≤ u.nanos
  lt t u := t.nanos < u.nanos
  le_refl t := Int.le_refl t.nanos
  le_trans _ _ _ := Int.le_trans
  le_antisymm _ _ h h' := DateTime.ext (Int.le_antisymm h h')
  le_total t u := Int.le_total t.nanos u.nanos
  lt_iff_le_not_ge _ _ := Int.lt_iff_le_and_not_ge
  toDecidableLE t u := Int.decLe t.nanos u.nanos
  toDecidableLT t u := Int.decLt t.nanos u.nanos

def ofSeconds (n : ℤ) (h : minUtc ≤ n * 1000000000 ∧ n * 1000000000 ≤ maxUtc) : DateTime :=
  ⟨n * 1000000000, h⟩

def epoch : DateTime := ofSeconds 0 (by decide)

/-- One day after the epoch. -/
def nextDay : DateTime := ofSeconds 86400 (by decide)

def checkedAddSigned (t : DateTime) (d : TimeDelta) : Option DateTime :=
  if h : minUtc ≤ t.nanos + d ∧ t.nanos + d ≤ maxUtc then some ⟨t.nanos + d, h⟩ else none

theorem checkedAddSigned_eq_some {t u : DateTime} {d : TimeDelta} :
    t.checkedAddSigned d = some u ↔ u.nanos = t.nanos + d := by
  unfold checkedAddSigned
  constructor
  · intro h
    split_ifs at h with hr
    rw [← Option.some.inj h]
  · intro h
    have hr := u.inRange
    rw [h] at hr
    rw [dif_pos hr]
    exact congrArg some (DateTime.ext h.symm)

/-- The Unix timestamp in whole seconds, rounded down. -/
def timestamp (t : DateTime) : ℤ := t.nanos / 1000000000

end DateTime
end Library
