import Mathlib.Algebra.Ring.Nat
import Mathlib.Data.List.Basic
import Mathlib.Order.Lattice

/-! Decimal numerals: digits in separated groups, and numerals padded with zeros. -/
namespace Library.Decimal

variable {sep : Char} {n : ℕ} {cs : List Char}

/-- `sep` after each digit that a whole number of groups of `n` digits follows. -/
def group (sep : Char) (n : ℕ) : List Char → List Char
  | [] => []
  | c :: cs =>
    if 0 < cs.length ∧ cs.length % n = 0 then c :: sep :: group sep n cs
    else c :: group sep n cs

def Digits (cs : List Char) : Prop := ∀ c ∈ cs, c.isDigit = true

/-- A first group of up to `n` digits, and then groups of `n` digits, each behind a `sep`. -/
structure Grouping (sep : Char) (n : ℕ) (first : List Char) (groups : List (List Char))
    (cs : List Char) : Prop where
  text : cs = first ++ groups.flatMap (sep :: ·)
  first_digits : Digits first
  first_length : 1 ≤ first.length ∧ first.length ≤ n
  groups_full : ∀ g ∈ groups, Digits g ∧ g.length = n

/-- The separators stand before the full groups behind the first one, and nowhere else. -/
def Grouped (sep : Char) (n : ℕ) (cs : List Char) : Prop :=
  ∃ first groups, Grouping sep n first groups cs

theorem Grouped.mem (h : Grouped sep n cs) {c : Char} (hc : c ∈ cs) :
    c.isDigit = true ∨ c = sep := by
  obtain ⟨first, groups, rfl, hfirst, -, hgroups⟩ := h
  rw [List.mem_append, List.mem_flatMap] at hc
  rcases hc with hc | ⟨g, hg, hc⟩
  · exact .inl (hfirst c hc)
  · rw [List.mem_cons] at hc
    rcases hc with hc | hc
    · exact .inr hc
    · exact .inl ((hgroups g hg).1 c hc)

namespace Grouping

variable {first : List Char} {groups : List (List Char)} {c : Char}

/-- A digit joins a first group that has room. -/
theorem cons (h : Grouping sep n first groups cs) (hc : c.isDigit = true)
    (hroom : first.length ≠ n) : Grouping sep n (c :: first) groups (c :: cs) where
  text := by rw [h.text, List.cons_append]
  first_digits := List.forall_mem_cons.mpr ⟨hc, h.first_digits⟩
  first_length := by
    have hlen := h.first_length
    rw [List.length_cons]
    omega
  groups_full := h.groups_full

/-- Before a full first group, a digit starts a group of its own. -/
theorem cons_sep (h : Grouping sep n first groups cs) (hc : c.isDigit = true)
    (hfull : first.length = n) : Grouping sep n [c] (first :: groups) (c :: sep :: cs) where
  text := by
    rw [h.text]
    rfl
  first_digits := List.forall_mem_cons.mpr ⟨hc, fun _ hd => absurd hd List.not_mem_nil⟩
  first_length := ⟨le_refl 1, hfull ▸ h.first_length.1⟩
  groups_full := List.forall_mem_cons.mpr ⟨⟨h.first_digits, hfull⟩, h.groups_full⟩

end Grouping

theorem exists_grouping (hn : 0 < n) (hne : cs ≠ []) (h : Digits cs) :
    ∃ first groups, Grouping sep n first groups (group sep n cs) ∧
      cs.length = first.length + n * groups.length := by
  induction cs with
  | nil => exact absurd rfl hne
  | cons c cs ih =>
    obtain ⟨hc, hcs⟩ := List.forall_mem_cons.mp h
    rcases eq_or_ne cs [] with rfl | hrest
    · exact ⟨[c], [], ⟨rfl, h, ⟨le_refl 1, hn⟩, by simp⟩, rfl⟩
    · obtain ⟨first, groups, hgrouping, hlen⟩ := ih hrest hcs
      have hfirst := hgrouping.first_length
      -- The rest makes up whole groups if and only if its first group is full.
      have hwhole : cs.length % n = 0 ↔ first.length = n := by
        rw [hlen, Nat.add_mul_mod_self_left]
        constructor
        · intro hmod
          by_contra hlt
          rw [Nat.mod_eq_of_lt (by omega)] at hmod
          omega
        · intro he
          rw [he, Nat.mod_self]
      unfold group
      split_ifs with hsep
      · refine ⟨[c], first :: groups, hgrouping.cons_sep hc (hwhole.mp hsep.2), ?_⟩
        have hfull := hwhole.mp hsep.2
        rw [List.length_cons, List.length_cons, List.length_cons, List.length_nil, hlen,
          Nat.mul_succ]
        omega
      · have hroom : first.length ≠ n := by
          intro he
          exact hsep ⟨List.length_pos_of_ne_nil hrest, hwhole.mpr he⟩
        refine ⟨c :: first, groups, hgrouping.cons hc hroom, ?_⟩
        rw [List.length_cons, List.length_cons, hlen]
        omega

theorem grouped_group (hn : 0 < n) (hne : cs ≠ []) (h : Digits cs) :
    Grouped sep n (group sep n cs) := by
  obtain ⟨first, groups, hgrouping, -⟩ := exists_grouping hn hne h
  exact ⟨first, groups, hgrouping⟩

/-- The digits are what is left without the separators. -/
theorem filter_group (h : sep ∉ cs) : (group sep n cs).filter (· != sep) = cs := by
  induction cs with
  | nil => rfl
  | cons c cs ih =>
    rw [List.mem_cons, not_or] at h
    have hc : c ≠ sep := Ne.symm h.1
    unfold group
    split_ifs <;> simp [hc, ih h.2]

theorem digits_toDigits (d : ℕ) : Digits (Nat.toDigits 10 d) :=
  fun _ hc => Nat.isDigit_of_mem_toDigits (by decide) (le_refl 10) hc

/-- A numeral padded with zeros to `k` digits: `{:0k}`. -/
def padded (k d : ℕ) : List Char := (Nat.toDigits 10 d).leftpad k '0'

theorem digits_padded (k d : ℕ) : Digits (padded k d) := by
  intro c hc
  rcases List.mem_append.mp hc with hc | hc
  · rw [List.eq_of_mem_replicate hc]
    rfl
  · exact digits_toDigits d c hc

theorem length_padded_eq_iff {k d : ℕ} (hk : 0 < k) : (padded k d).length = k ↔ d < 10 ^ k := by
  unfold padded
  rw [List.length_leftpad, ← Nat.length_toDigits_le_iff (by decide) hk]
  omega

theorem ofDigitChars_padded (k d : ℕ) : Nat.ofDigitChars 10 (padded k d) 0 = d := by
  unfold padded List.leftpad
  rw [Nat.ofDigitChars_append, Nat.ofDigitChars_replicate_zero, Nat.mul_zero,
    Nat.ofDigitChars_ten_toDigits]

end Library.Decimal
