import Mathlib.Data.Nat.Notation
import Mathlib.Tactic.SplitIfs

/-! C strings and their conversion to UTF-8 text. -/
namespace Library

/-- The bytes of a C string before the zero that ends it. -/
structure CStr where
  bytes : ByteArray
  noZero : 0 ∉ bytes.data

/-- Where a byte string stops to be UTF-8. The length is that of the bytes that no character can
begin with, and is missing when the string ends inside a character. -/
structure Utf8Error where
  validUpTo : ℕ
  errorLen : Option ℕ
  deriving DecidableEq

namespace Utf8Error

instance : ToString Utf8Error where
  toString e :=
    match e.errorLen with
    | some n => s!"invalid utf-8 sequence of {n} bytes from index {e.validUpTo}"
    | none => s!"incomplete utf-8 byte sequence from index {e.validUpTo}"

/-- How many bytes a first byte asks for, and between which bounds the next one has to be. -/
def continuation (b : UInt8) : Option (ℕ × UInt8 × UInt8) :=
  if b ≤ 0x7F then some (0, 0x80, 0xBF)
  else if 0xC2 ≤ b ∧ b ≤ 0xDF then some (1, 0x80, 0xBF)
  else if b = 0xE0 then some (2, 0xA0, 0xBF)
  else if b = 0xED then some (2, 0x80, 0x9F)
  else if 0xE1 ≤ b ∧ b ≤ 0xEF then some (2, 0x80, 0xBF)
  else if b = 0xF0 then some (3, 0x90, 0xBF)
  else if 0xF1 ≤ b ∧ b ≤ 0xF3 then some (3, 0x80, 0xBF)
  else if b = 0xF4 then some (3, 0x80, 0x8F)
  else none

/-- The scan of invalid bytes, behind `seen` bytes of a character at `start` that asks for `owed`
more, the first of them from `low` to `high`. -/
def scan (start seen owed : ℕ) (low high : UInt8) : List UInt8 → Utf8Error
  | [] => ⟨start, none⟩
  | b :: bs =>
    match owed with
    | 0 =>
      match continuation b with
      | none => ⟨start, some 1⟩
      | some (0, _, _) => scan (start + 1) 0 0 low high bs
      | some (owed, low, high) => scan start 1 owed low high bs
    | 1 =>
      if low ≤ b ∧ b ≤ high then scan (start + seen + 1) 0 0 low high bs
      else ⟨start, some seen⟩
    | owed + 1 =>
      if low ≤ b ∧ b ≤ high then scan start (seen + 1) owed 0x80 0xBF bs
      else ⟨start, some seen⟩

end Utf8Error

namespace CStr

/-- `CStr::to_str`. -/
def toStr (s : CStr) : Except Utf8Error String :=
  if h : s.bytes.IsValidUTF8 then .ok (.fromUTF8 s.bytes h)
  else .error (Utf8Error.scan 0 0 0 0x80 0xBF s.bytes.data.toList)

variable {s : CStr} {t : String}

theorem toStr_eq_ok : s.toStr = .ok t ↔ t.toByteArray = s.bytes := by
  unfold toStr
  split_ifs with h
  · rw [Except.ok.injEq, ← String.toByteArray_inj]
    exact eq_comm
  · refine iff_of_false (by simp) ?_
    intro he
    exact h (he ▸ t.isValidUTF8)

theorem exists_toStr (h : s.bytes.IsValidUTF8) : ∃ t, s.toStr = .ok t :=
  ⟨_, dif_pos h⟩

theorem isValidUTF8_of_toStr (h : s.toStr = .ok t) : s.bytes.IsValidUTF8 := by
  rw [← toStr_eq_ok.mp h]
  exact t.isValidUTF8

theorem isValidUTF8_of_size_eq_zero (h : s.bytes.size = 0) : s.bytes.IsValidUTF8 := by
  rw [ByteArray.size_eq_zero_iff.mp h]
  exact ByteArray.isValidUTF8_empty

theorem toStr_of_not_valid (h : ¬ s.bytes.IsValidUTF8) : ∃ e, s.toStr = .error e :=
  ⟨_, dif_neg h⟩

/-- The text is empty exactly when there are no bytes. -/
theorem isEmpty_of_toStr (h : s.toStr = .ok t) : t.isEmpty = true ↔ s.bytes.size = 0 := by
  rw [← toStr_eq_ok.mp h, String.isEmpty_iff_utf8ByteSize_eq_zero]
  rfl

end CStr
end Library
