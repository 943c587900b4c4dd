import Hanbova.Library.Text

/-! UUIDs and their two text forms. -/
namespace Library

open Text

/-- A UUID: sixteen bytes. -/
structure Uuid where
  bytes : List UInt8
  size : bytes.length = 16
  deriving DecidableEq

namespace Uuid

def ofNat (n : ℕ) : Uuid :=
  ⟨(List.range 16).map fun i => UInt8.ofNat (n / 256 ^ (15 - i)), by simp⟩

def hexByte (b : UInt8) : List Char := [(b.toNat / 16).digitChar, (b.toNat % 16).digitChar]

def simpleChars (u : Uuid) : List Char := u.bytes.flatMap hexByte

/-- The 32 lower-case hexadecimal digits. -/
def simple (u : Uuid) : String := String.ofList u.simpleChars

def hyphenate (cs : List Char) : List Char :=
  cs.take 8 ++ '-' :: ((cs.drop 8).take 4 ++ '-' :: ((cs.drop 12).take 4 ++
    '-' :: ((cs.drop 16).take 4 ++ '-' :: cs.drop 20)))

/-- The hyphenated form, which `Display` writes. -/
protected def toString (u : Uuid) : String := String.ofList (hyphenate u.simpleChars)

instance : ToString Uuid := ⟨Uuid.toString⟩

theorem hexByte_injective : Function.Injective hexByte := by
  intro a b h
  have key : ∀ x y : Fin 16, x.val.digitChar = y.val.digitChar → x = y := by decide
  have digit : ∀ {m n : ℕ}, m < 16 → n < 16 → m.digitChar = n.digitChar → m = n := by
    intro m n hm hn he
    exact congrArg Fin.val (key ⟨m, hm⟩ ⟨n, hn⟩ he)
  have ha := a.toNat_lt
  have hb := b.toNat_lt
  simp only [hexByte, List.cons.injEq, and_true] at h
  have hq := digit (by omega) (by omega) h.1
  have hr := digit (by omega) (by omega) h.2
  apply UInt8.toNat.inj
  omega

theorem flatMap_hexByte_injective : Function.Injective (List.flatMap hexByte) := by
  intro xs ys h
  induction xs generalizing ys with
  | nil =>
    cases ys with
    | nil => rfl
    | cons y ys => simp [hexByte] at h
  | cons x xs ih =>
    cases ys with
    | nil => simp [hexByte] at h
    | cons y ys =>
      simp only [List.flatMap_cons] at h
      obtain ⟨hx, hxs⟩ := List.append_inj h rfl
      rw [hexByte_injective hx, ih hxs]

theorem simpleChars_injective : Function.Injective simpleChars := by
  rintro ⟨xs, hx⟩ ⟨ys, hy⟩ h
  simpa using flatMap_hexByte_injective h

theorem length_simpleChars (u : Uuid) : u.simpleChars.length = 32 := by
  have h : ∀ bs : List UInt8, (bs.flatMap hexByte).length = 2 * bs.length := by
    intro bs
    induction bs with
    | nil => rfl
    | cons b bs ih => simp only [List.flatMap_cons, List.length_append, ih, hexByte,
        List.length_cons, List.length_nil]; omega
  rw [simpleChars, h, u.size]

theorem mem_simpleChars {u : Uuid} {c : Char} (h : c ∈ u.simpleChars) :
    c ∈ "0123456789abcdef".toList := by
  obtain ⟨b, -, hc⟩ := List.mem_flatMap.mp h
  have key : ∀ x : Fin 16, x.val.digitChar ∈ "0123456789abcdef".toList := by decide
  have hb := b.toNat_lt
  simp only [hexByte, List.mem_cons, List.not_mem_nil, or_false] at hc
  rcases hc with rfl | rfl
  · exact key ⟨b.toNat / 16, by omega⟩
  · exact key ⟨b.toNat % 16, by omega⟩

theorem mem_hyphenate {cs : List Char} {c : Char} (h : c ∈ hyphenate cs) :
    c = '-' ∨ c ∈ cs := by
  have hd : ∀ n, c ∈ cs.drop n → c ∈ cs := fun n => List.mem_of_mem_drop
  simp only [hyphenate, List.mem_append, List.mem_cons] at h
  rcases h with h | h | h | h | h | h | h | h | h
  · exact .inr (List.mem_of_mem_take h)
  · exact .inl h
  · exact .inr (hd 8 (List.mem_of_mem_take h))
  · exact .inl h
  · exact .inr (hd 12 (List.mem_of_mem_take h))
  · exact .inl h
  · exact .inr (hd 16 (List.mem_of_mem_take h))
  · exact .inl h
  · exact .inr (hd 20 h)

/-- Equal hyphenated texts have equal groups. -/
theorem hyphenate_inj {xs ys : List Char} (hl : xs.length = ys.length)
    (h : hyphenate xs = hyphenate ys) : xs = ys := by
  have group : ∀ a n, ((xs.drop a).take n).length = ((ys.drop a).take n).length := by
    intro a n
    simp only [List.length_take, List.length_drop, hl]
  obtain ⟨h₁, h⟩ := List.append_inj h (group 0 8)
  obtain ⟨h₂, h⟩ := List.append_inj (List.cons.inj h).2 (group 8 4)
  obtain ⟨h₃, h⟩ := List.append_inj (List.cons.inj h).2 (group 12 4)
  obtain ⟨h₄, h⟩ := List.append_inj (List.cons.inj h).2 (group 16 4)
  have h₅ := (List.cons.inj h).2
  have join : ∀ {a n}, (xs.drop a).take n = (ys.drop a).take n →
      xs.drop (n + a) = ys.drop (n + a) → xs.drop a = ys.drop a := by
    intro a n ht hd
    rw [← List.take_append_drop n (xs.drop a), ← List.take_append_drop n (ys.drop a), ht,
      List.drop_drop, List.drop_drop, Nat.add_comm a n, hd]
  exact join (a := 0) h₁ (join h₂ (join h₃ (join h₄ h₅)))

theorem toString_injective : Function.Injective Uuid.toString := by
  intro u v h
  have h := congrArg String.toList h
  simp only [Uuid.toString, String.toList_ofList] at h
  exact simpleChars_injective (hyphenate_inj (by rw [length_simpleChars, length_simpleChars]) h)

theorem length_toString (u : Uuid) : u.toString.toList.length = 36 := by
  simp [Uuid.toString, hyphenate, length_simpleChars]

theorem mem_toString {u : Uuid} {c : Char} (h : c ∈ u.toString.toList) :
    c ∈ "-0123456789abcdef".toList := by
  rw [Uuid.toString, String.toList_ofList] at h
  rcases mem_hyphenate h with rfl | h
  · decide
  · exact List.mem_cons_of_mem _ (mem_simpleChars h)

theorem not_atSigned_toString (u : Uuid) : ¬ AtSigned u.toString := by
  intro h
  exact absurd (mem_toString (List.mem_of_head? h)) (by decide)

/-- The text of a UUID is 36 bytes long. -/
theorem len_toString (u : Uuid) : len u.toString = 36 := by
  have h : ∀ c ∈ u.toString.toList, c.utf8Size = 1 := by
    intro c hc
    have key : "-0123456789abcdef".toList.all (fun c => c.utf8Size == 1) = true := by decide
    exact eq_of_beq (List.all_eq_true.mp key c (mem_toString hc))
  rw [len, List.map_congr_left h, List.map_const', length_toString]
  rfl

/-! ### Reading an identifier back -/

/-- The last 32 characters of a text that are not hyphens. -/
def trailing (s : String) : List Char :=
  let cs := s.toList.filter (· ≠ '-')
  cs.drop (cs.length - 32)

theorem not_hyphen_mem_simpleChars (u : Uuid) : '-' ∉ u.simpleChars := by
  intro h
  exact absurd (mem_simpleChars h) (by decide)

/-- The groups, put together. -/
theorem append_groups (cs : List Char) :
    cs.take 8 ++ ((cs.drop 8).take 4 ++ ((cs.drop 12).take 4 ++
      ((cs.drop 16).take 4 ++ cs.drop 20))) = cs := by
  have join : ∀ n k, (cs.drop n).take k ++ cs.drop (k + n) = cs.drop n := by
    intro n k
    rw [Nat.add_comm, ← List.drop_drop, List.take_append_drop]
  rw [join 16 4, join 12 4, join 8 4, List.take_append_drop]

theorem filter_hyphenate (cs : List Char) :
    (hyphenate cs).filter (· ≠ '-') = cs.filter (· ≠ '-') := by
  have skip : ∀ xs : List Char, ('-' :: xs).filter (· ≠ '-') = xs.filter (· ≠ '-') :=
    fun xs => List.filter_cons_of_neg (by simp)
  rw [hyphenate, List.filter_append, skip, List.filter_append, skip, List.filter_append, skip,
    List.filter_append, skip, ← List.filter_append, ← List.filter_append,
    ← List.filter_append,
    ← List.filter_append, append_groups]

theorem filter_simpleChars (u : Uuid) : u.simpleChars.filter (· ≠ '-') = u.simpleChars := by
  refine List.filter_eq_self.mpr fun c hc => decide_eq_true ?_
  rintro rfl
  exact u.not_hyphen_mem_simpleChars hc

theorem trailing_eq {s : String} {p : List Char} {u : Uuid}
    (h : s.toList.filter (· ≠ '-') = p ++ u.simpleChars) : trailing s = u.simpleChars := by
  unfold trailing
  simp only [h]
  rw [List.length_append, length_simpleChars, Nat.add_sub_cancel, List.drop_left]

theorem trailing_toString (u : Uuid) : trailing u.toString = u.simpleChars := by
  apply trailing_eq (p := [])
  rw [Uuid.toString, String.toList_ofList, filter_hyphenate, filter_simpleChars, List.nil_append]

/-- A text that ends with a UUID gives it away. -/
theorem trailing_append_simple (p : String) (u : Uuid) :
    trailing (p ++ u.simple) = u.simpleChars := by
  apply trailing_eq (p := p.toList.filter (· ≠ '-'))
  rw [String.toList_append, simple, String.toList_ofList, List.filter_append, filter_simpleChars]

theorem length_simple (u : Uuid) : u.simple.toList.length = 32 := by
  rw [simple, String.toList_ofList, length_simpleChars]

end Uuid
end Library
