import Hanbova.Library.Uuid

/-! Bytes read from hexadecimal digits, in either case. -/
namespace Library.Hex

/-- The value of a hexadecimal digit. -/
def digit? (c : Char) : Option ℕ :=
  if '0' ≤ c ∧ c ≤ '9' then some (c.toNat - '0'.toNat)
  else if 'a' ≤ c ∧ c ≤ 'f' then some (c.toNat - 'a'.toNat + 10)
  else if 'A' ≤ c ∧ c ≤ 'F' then some (c.toNat - 'A'.toNat + 10)
  else none

/-- Two digits for each byte, the high one first. -/
def decode : List Char → Option (List UInt8)
  | [] => some []
  | [_] => none
  | hi :: lo :: cs => do
    let h ← digit? hi
    let l ← digit? lo
    let bs ← decode cs
    pure (UInt8.ofNat (16 * h + l) :: bs)

theorem digit?_digitChar {n : ℕ} (hn : n < 16) : digit? n.digitChar = some n := by
  have key : ∀ x : Fin 16, digit? x.val.digitChar = some x.val := by decide
  exact key ⟨n, hn⟩

theorem decode_hexByte (b : UInt8) (cs : List Char) :
    decode (Uuid.hexByte b ++ cs) = (decode cs).map (b :: ·) := by
  have hb := b.toNat_lt
  have hhi : digit? (b.toNat / 16).digitChar = some (b.toNat / 16) :=
    digit?_digitChar (by omega)
  have hlo : digit? (b.toNat % 16).digitChar = some (b.toNat % 16) :=
    digit?_digitChar (by omega)
  have hbyte : UInt8.ofNat (16 * (b.toNat / 16) + b.toNat % 16) = b := by
    rw [Nat.div_add_mod]
    exact UInt8.ofNat_toNat
  simp only [Uuid.hexByte, List.cons_append, List.nil_append, decode, hhi, hlo, Option.bind_eq_bind,
    Option.bind_some, hbyte]
  cases decode cs <;> rfl

/-- Bytes are read back from the digits they are written with. -/
theorem decode_flatMap_hexByte (bs : List UInt8) : decode (bs.flatMap Uuid.hexByte) = some bs := by
  induction bs with
  | nil => rfl
  | cons b bs ih => rw [List.flatMap_cons, decode_hexByte, ih, Option.map_some]

end Library.Hex
