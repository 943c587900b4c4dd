import Mathlib.Algebra.Ring.Nat
import Mathlib.Data.List.DropRight
import Mathlib.Data.List.Infix
import Mathlib.Tactic.Common

/-! The string operations of the Rust standard library that decide about identifiers.
Strings are read as lists of Unicode scalar values; lengths are in UTF-8 bytes. -/
namespace Library.Text

/-- The Unicode property White_Space. -/
def isWhiteSpace (c : Char) : Bool :=
  let n := c.toNat
  (9 ≤ n && n ≤ 13) || n == 0x20 || n == 0x85 || n == 0xA0 || n == 0x1680 ||
    (0x2000 ≤ n && n ≤ 0x200A) || n == 0x2028 || n == 0x2029 || n == 0x202F || n == 0x205F ||
    n == 0x3000

def trimChars (cs : List Char) : List Char := (cs.dropWhile isWhiteSpace).rdropWhile isWhiteSpace

def trim (s : String) : String := String.ofList (trimChars s.toList)

def trimStartMatches (c : Char) (s : String) : String :=
  String.ofList (s.toList.dropWhile (· == c))

def stripChars (c : Char) : List Char → Option (List Char)
  | d :: cs => if d = c then some cs else none
  | [] => none

def stripPrefix (c : Char) (s : String) : Option String :=
  (stripChars c s.toList).map String.ofList

/-- `s.strip_prefix(c).unwrap_or(s)`. -/
def unprefixed (c : Char) (s : String) : String := (stripPrefix c s).getD s

def replaceChar (c d : Char) (s : String) : String :=
  String.ofList (s.toList.map fun x => if x = c then d else x)

def contains (s : String) (c : Char) : Bool := s.toList.contains c

/-- `s.starts_with(t)` for a text `t`. -/
def startsWith (s t : String) : Bool := t.toList.isPrefixOf s.toList

/-- `s.contains(t)` for a text `t`. -/
def containsText (s t : String) : Bool := decide (t.toList <:+: s.toList)

def len (s : String) : ℕ := (s.toList.map Char.utf8Size).sum

/-- Equality up to the case of ASCII letters; `Char.toLower` folds exactly these. -/
def eqIgnoreAsciiCase (s t : String) : Bool :=
  s.toList.map Char.toLower == t.toList.map Char.toLower

/-! ### Trimming -/

theorem dropWhile_of_isPrefix {p : Char → Bool} {xs cs : List Char} (h : xs <+: cs.dropWhile p) :
    xs.dropWhile p = xs := by
  cases xs with
  | nil => rfl
  | cons c xs =>
    obtain ⟨ys, h⟩ := h
    have hc := List.head?_dropWhile_not p cs
    rw [← h] at hc
    exact List.dropWhile_cons_of_neg (by simpa using hc)

theorem trimChars_trimChars (cs : List Char) : trimChars (trimChars cs) = trimChars cs := by
  have h : (trimChars cs).dropWhile isWhiteSpace = trimChars cs :=
    dropWhile_of_isPrefix (List.rdropWhile_prefix _ _)
  rw [trimChars, h, trimChars, List.rdropWhile_idempotent]

@[simp] theorem trim_trim (s : String) : trim (trim s) = trim s := by
  rw [trim, trim, String.toList_ofList, trimChars_trimChars]

/-! ### Case folding of ASCII letters -/

theorem toLower_cases (c : Char) :
    (c.toLower = c ∧ ¬ (65 ≤ c.toNat ∧ c.toNat ≤ 90)) ∨
      (c.toLower.toNat = c.toNat + 32 ∧ 65 ≤ c.toNat ∧ c.toNat ≤ 90) := by
  unfold Char.toLower
  split_ifs with h
  · right
    obtain ⟨h₁, h₂⟩ := h
    rw [ge_iff_le, UInt32.le_iff_toNat_le] at h₁
    rw [UInt32.le_iff_toNat_le] at h₂
    change 65 ≤ c.toNat at h₁
    change c.toNat ≤ 90 at h₂
    refine ⟨?_, h₁, h₂⟩
    show (c.val + ('a'.val - 'A'.val)).toNat = c.val.toNat + 32
    rw [UInt32.toNat_add]
    show (c.val.toNat + 32) % 2 ^ 32 = _
    have : c.val.toNat ≤ 90 := h₂
    omega
  · left
    refine ⟨rfl, fun ⟨h₁, h₂⟩ => h ⟨?_, ?_⟩⟩
    · rw [ge_iff_le, UInt32.le_iff_toNat_le]; exact h₁
    · rw [UInt32.le_iff_toNat_le]; exact h₂

theorem range_of_isAlpha {c : Char} (h : c.isAlpha = true) :
    (65 ≤ c.toNat ∧ c.toNat ≤ 90) ∨ (97 ≤ c.toNat ∧ c.toNat ≤ 122) := by
  have key : (decide ('A'.val ≤ c.val ∧ c.val ≤ 'Z'.val) ||
      (decide ('a'.val ≤ c.val) && decide (c.val ≤ 'z'.val))) = true := h
  rw [Bool.or_eq_true, Bool.and_eq_true, decide_eq_true_eq, decide_eq_true_eq,
    decide_eq_true_eq] at key
  exact key

theorem toLower_eq_at {c : Char} : c.toLower = '@' ↔ c = '@' := by
  rcases toLower_cases c with ⟨h, -⟩ | ⟨h, hl, hu⟩
  · rw [h]
  · constructor
    · intro he
      rw [he] at h
      change 64 = _ at h
      omega
    · rintro rfl
      exact absurd hl (by decide)

theorem utf8Size_toLower (c : Char) : c.toLower.utf8Size = c.utf8Size := by
  rcases toLower_cases c with ⟨h, -⟩ | ⟨h, hl, hu⟩
  · rw [h]
  · have h₁ : c.val ≤ 127 := by rw [UInt32.le_iff_toNat_le]; change c.toNat ≤ 127; omega
    have h₂ : c.toLower.val ≤ 127 := by
      rw [UInt32.le_iff_toNat_le]; change c.toLower.toNat ≤ 127; omega
    simp [Char.utf8Size, h₁, h₂]

theorem eqIgnoreAsciiCase_iff {s t : String} :
    eqIgnoreAsciiCase s t = true ↔ s.toList.map Char.toLower = t.toList.map Char.toLower := by
  simp [eqIgnoreAsciiCase]

@[simp] theorem eqIgnoreAsciiCase_refl (s : String) : eqIgnoreAsciiCase s s = true := by
  simp [eqIgnoreAsciiCase]

theorem eqIgnoreAsciiCase_comm (s t : String) : eqIgnoreAsciiCase s t = eqIgnoreAsciiCase t s :=
  Bool.eq_iff_iff.mpr (by rw [eqIgnoreAsciiCase_iff, eqIgnoreAsciiCase_iff, eq_comm])

theorem eqIgnoreAsciiCase_symm {s t : String} (h : eqIgnoreAsciiCase s t = true) :
    eqIgnoreAsciiCase t s = true := eqIgnoreAsciiCase_comm s t ▸ h

theorem eqIgnoreAsciiCase_trans {s t u : String} (h : eqIgnoreAsciiCase s t = true)
    (h' : eqIgnoreAsciiCase t u = true) : eqIgnoreAsciiCase s u = true := by
  rw [eqIgnoreAsciiCase_iff] at *
  exact h.trans h'

theorem len_eq_of_eqIgnoreAsciiCase {s t : String} (h : eqIgnoreAsciiCase s t = true) :
    len s = len t := by
  have key : ∀ u : String, len u = ((u.toList.map Char.toLower).map Char.utf8Size).sum := by
    intro u
    rw [len, List.map_map]
    congr 1
    exact List.map_congr_left fun c _ => (utf8Size_toLower c).symm
  rw [key s, key t, eqIgnoreAsciiCase_iff.mp h]

/-! ### A leading `@` -/

/-- The text starts with an at sign. -/
def AtSigned (s : String) : Prop := s.toList.head? = some '@'

instance (s : String) : Decidable (AtSigned s) := inferInstanceAs (Decidable (_ = _))

theorem AtSigned.of_eqIgnoreAsciiCase {s t : String} (h : eqIgnoreAsciiCase s t = true)
    (hs : AtSigned s) : AtSigned t := by
  have hm := congrArg List.head? (eqIgnoreAsciiCase_iff.mp h)
  rw [List.head?_map, List.head?_map, hs] at hm
  obtain ⟨c, hc, hl⟩ := Option.map_eq_some_iff.mp hm.symm
  rw [AtSigned, hc, toLower_eq_at.mp hl]

theorem stripPrefix_eq_none {s : String} (h : ¬ AtSigned s) : stripPrefix '@' s = none := by
  unfold stripPrefix
  cases hs : s.toList with
  | nil => rfl
  | cons c cs =>
    have hc : c ≠ '@' := by rintro rfl; exact h (by simp [AtSigned, hs])
    simp [stripChars, hc]

theorem unprefixed_eq_self {s : String} (h : ¬ AtSigned s) : unprefixed '@' s = s := by
  rw [unprefixed, stripPrefix_eq_none h, Option.getD_none]

theorem unprefixed_of_stripPrefix {s t : String} (h : stripPrefix '@' s = some t) :
    unprefixed '@' s = t := by
  rw [unprefixed, h, Option.getD_some]

/-- Either an at sign is taken off, or there is none. -/
theorem unprefixed_eq_iff {s t : String} :
    unprefixed '@' s = t ↔ stripPrefix '@' s = some t ∨ (s = t ∧ ¬ AtSigned t) := by
  constructor
  · intro h
    by_cases hs : AtSigned s
    · left
      obtain ⟨cs, hcs⟩ := List.head?_eq_some_iff.mp hs
      have hp : stripPrefix '@' s = some (String.ofList cs) := by
        simp [stripPrefix, hcs, stripChars]
      rw [hp, ← h, unprefixed_of_stripPrefix hp]
    · right
      rw [unprefixed_eq_self hs] at h
      exact ⟨h, h ▸ hs⟩
  · rintro (h | ⟨rfl, h⟩)
    · exact unprefixed_of_stripPrefix h
    · exact unprefixed_eq_self h

/-- Texts that differ in the case of their letters only do so behind an at sign, too. -/
theorem eqIgnoreAsciiCase_unprefixed {s t : String} (h : eqIgnoreAsciiCase s t = true) :
    eqIgnoreAsciiCase (unprefixed '@' s) (unprefixed '@' t) = true := by
  by_cases hs : AtSigned s
  · obtain ⟨cs, hcs⟩ := List.head?_eq_some_iff.mp hs
    obtain ⟨ds, hds⟩ := List.head?_eq_some_iff.mp (hs.of_eqIgnoreAsciiCase h)
    have htail := eqIgnoreAsciiCase_iff.mp h
    rw [hcs, hds, List.map_cons, List.map_cons, List.cons.injEq] at htail
    rw [eqIgnoreAsciiCase_iff]
    simpa [unprefixed, stripPrefix, hcs, hds, stripChars] using htail.2
  · have ht : ¬ AtSigned t := fun ht => hs (ht.of_eqIgnoreAsciiCase (eqIgnoreAsciiCase_symm h))
    rwa [unprefixed_eq_self hs, unprefixed_eq_self ht]

theorem not_atSigned_trimStartMatches (s : String) : ¬ AtSigned (trimStartMatches '@' s) := by
  have h := List.head?_dropWhile_not (· == '@') s.toList
  rw [AtSigned, trimStartMatches, String.toList_ofList]
  intro he
  simp [he] at h

theorem trimStartMatches_eq_self {s : String} (h : ¬ AtSigned s) : trimStartMatches '@' s = s := by
  have hd : s.toList.dropWhile (· == '@') = s.toList := by
    cases hs : s.toList with
    | nil => rfl
    | cons c cs =>
      have hc : c ≠ '@' := by rintro rfl; exact h (by simp [AtSigned, hs])
      exact List.dropWhile_cons_of_neg (by simpa using hc)
  rw [trimStartMatches, hd, String.ofList_toList]

/-! ### Blanks at the two ends -/

/-- White space and `@`, which normalisation takes off the front. -/
def IsSeparator (c : Char) : Prop := c = '@' ∨ isWhiteSpace c = true

def StartsBlank (s : String) : Prop := s.toList.head?.any isWhiteSpace = true

instance (s : String) : Decidable (StartsBlank s) := inferInstanceAs (Decidable (_ = _))

/-- No white space at the end. -/
def EndTrimmed (s : String) : Prop := s.toList.rdropWhile isWhiteSpace = s.toList

variable {s : String}

theorem endTrimmed_of_suffix {t : String} (ht : EndTrimmed t) (h : s.toList <:+ t.toList) :
    EndTrimmed s := by
  refine List.rdropWhile_eq_self_iff.mpr fun hs => ?_
  rw [h.getLast hs]
  exact List.rdropWhile_eq_self_iff.mp ht _

theorem endTrimmed_trim (s : String) : EndTrimmed (trim s) := by
  rw [EndTrimmed, trim, String.toList_ofList]
  exact List.rdropWhile_idempotent _ _

theorem EndTrimmed.trimStartMatches (h : EndTrimmed s) (c : Char) :
    EndTrimmed (trimStartMatches c s) := by
  apply endTrimmed_of_suffix h
  rw [Text.trimStartMatches, String.toList_ofList]
  exact List.dropWhile_suffix _

/-- Trimming takes off the blanks in front. -/
theorem EndTrimmed.toList_trim (h : EndTrimmed s) :
    (trim s).toList = s.toList.dropWhile isWhiteSpace := by
  have hd : EndTrimmed (String.ofList (s.toList.dropWhile isWhiteSpace)) :=
    endTrimmed_of_suffix h (by rw [String.toList_ofList]; exact List.dropWhile_suffix _)
  rw [EndTrimmed, String.toList_ofList] at hd
  rw [trim, String.toList_ofList, trimChars, hd]

theorem EndTrimmed.trim_eq_self (h : EndTrimmed s) (hb : ¬ StartsBlank s) : trim s = s := by
  rw [← String.toList_inj, h.toList_trim]
  cases hs : s.toList with
  | nil => rfl
  | cons c cs => exact List.dropWhile_cons_of_neg (by simpa [StartsBlank, hs] using hb)

theorem not_startsBlank_of_trim_eq_self (h : trim s = s) : ¬ StartsBlank s := by
  have ht : EndTrimmed s := h ▸ endTrimmed_trim s
  have hc := List.head?_dropWhile_not isWhiteSpace s.toList
  rw [← ht.toList_trim, h] at hc
  intro hb
  cases hs : s.toList with
  | nil => simp [StartsBlank, hs] at hb
  | cons c cs => simp_all [StartsBlank]

/-- Taking off the blanks and then the at signs leaves out a part made of separators. -/
theorem exists_separators (h : EndTrimmed s) :
    ∃ w, (∀ c ∈ w, IsSeparator c) ∧
      s.toList = w ++ (trimStartMatches '@' (trim s)).toList ∧
      (StartsBlank s → w ≠ []) := by
  refine ⟨s.toList.takeWhile isWhiteSpace ++
    (s.toList.dropWhile isWhiteSpace).takeWhile (· == '@'), ?_, ?_, ?_⟩
  · intro c hc
    rcases List.mem_append.mp hc with hc | hc
    · exact .inr (List.mem_takeWhile_imp hc)
    · exact .inl (by simpa using List.mem_takeWhile_imp hc)
  · rw [trimStartMatches, String.toList_ofList, h.toList_trim, List.append_assoc,
      List.takeWhile_append_dropWhile, List.takeWhile_append_dropWhile]
  · intro hb hw
    cases hs : s.toList with
    | nil => simp [StartsBlank, hs] at hb
    | cons c cs => simp_all [StartsBlank]

theorem len_lt_of_append {t : String} {w : List Char} (h : s.toList = w ++ t.toList)
    (hw : w ≠ []) : len t < len s := by
  rw [len, len, h, List.map_append, List.sum_append]
  cases w with
  | nil => exact absurd rfl hw
  | cons c cs =>
    have := c.utf8Size_pos
    simp only [List.map_cons, List.sum_cons]
    omega

theorem len_le_of_append {t : String} {w : List Char} (h : s.toList = w ++ t.toList) :
    len t ≤ len s := by
  rw [len, len, h, List.map_append, List.sum_append]
  exact Nat.le_add_left _ _

theorem len_le_of_isPrefix {t : String} (h : t.toList <+: s.toList) : len t ≤ len s := by
  obtain ⟨w, hw⟩ := h
  rw [len, len, ← hw, List.map_append, List.sum_append]
  exact Nat.le_add_right _ _

theorem len_lt_of_isPrefix {t : String} (h : t.toList <+: s.toList) (hne : t.toList ≠ s.toList) :
    len t < len s := by
  obtain ⟨w, hw⟩ := h
  rw [len, len, ← hw, List.map_append, List.sum_append]
  cases w with
  | nil => exact absurd (by simpa using hw) hne
  | cons c cs =>
    have := c.utf8Size_pos
    simp only [List.map_cons, List.sum_cons]
    omega

/-- Trimming shortens what it changes. -/
theorem len_trim_lt (h : trim s ≠ s) : len (trim s) < len s := by
  obtain ⟨t, ht⟩ : ∃ t : String, t.toList = s.toList.dropWhile isWhiteSpace :=
    ⟨_, String.toList_ofList⟩
  have hs : s.toList = s.toList.takeWhile isWhiteSpace ++ t.toList := by
    rw [ht, List.takeWhile_append_dropWhile]
  have hp : (trim s).toList <+: t.toList := by
    rw [trim, String.toList_ofList, ht]
    exact List.rdropWhile_prefix _ _
  by_cases hw : s.toList.takeWhile isWhiteSpace = []
  · rw [hw, List.nil_append] at hs
    obtain rfl := String.toList_inj.mp hs
    apply len_lt_of_isPrefix hp
    intro he
    exact h (String.toList_inj.mp he)
  · exact (len_le_of_isPrefix hp).trans_lt (len_lt_of_append hs hw)

end Library.Text
