import Hanbova.Library.Text

/-! `str::to_lowercase` over a table of Unicode case data. The mapping works character by
character, except that a capital sigma looks at the letters around it. -/
namespace Library.Text

/-- The case data of the Unicode character database, with the facts about it that hold in
every version: the images are themselves in lower case, and neither white space nor `@` is
changed, introduced, or taken for part of a word. -/
structure CaseTable where
  lower : Char → List Char
  cased : Char → Bool
  caseIgnorable : Char → Bool
  lower_ne_nil : ∀ c, lower c ≠ []
  lower_ascii : ∀ c, c.toNat < 128 → lower c = [c.toLower]
  lower_fixed : ∀ c, c ≠ 'Σ' → ∀ d ∈ lower c, d ≠ 'Σ' ∧ lower d = [d]
  lower_sigmas : lower 'σ' = ['σ'] ∧ lower 'ς' = ['ς']
  lower_space : ∀ c, isWhiteSpace c = true → lower c = [c]
  space_of_lower : ∀ c, ∀ d ∈ lower c, isWhiteSpace d = true → isWhiteSpace c = true
  at_of_lower : ∀ c, '@' ∈ lower c → c = '@'
  separator : ∀ c, c = '@' ∨ isWhiteSpace c = true → cased c = false ∧
    caseIgnorable c = false

namespace CaseTable
variable (T : CaseTable)

/-- The first character that is not case-ignorable is a cased letter. -/
def ignorableThenCased (cs : List Char) : Bool :=
  match cs.dropWhile T.caseIgnorable with
  | c :: _ => T.cased c
  | [] => false

/-- A capital sigma after `before` (read backwards) and before `after`. -/
def lowerSigma (before after : List Char) : Char :=
  if T.ignorableThenCased before && !T.ignorableThenCased after then 'ς' else 'σ'

def image (before : List Char) (c : Char) (after : List Char) : List Char :=
  if c = 'Σ' then [T.lowerSigma before after] else T.lower c

def lowerFrom (before : List Char) : List Char → List Char
  | [] => []
  | c :: after => T.image before c after ++ lowerFrom (c :: before) after

def toLowercase (s : String) : String := String.ofList (T.lowerFrom [] s.toList)

variable {T}

theorem lowerSigma_cases (before after : List Char) :
    T.lowerSigma before after = 'ς' ∨ T.lowerSigma before after = 'σ' := by
  unfold lowerSigma
  split_ifs
  · exact .inl rfl
  · exact .inr rfl

theorem image_separator {c : Char} (hc : IsSeparator c) (before after : List Char) :
    T.image before c after = [c] := by
  rcases hc with rfl | hc
  · simp [image, T.lower_ascii '@' (by decide)]
  · have hne : c ≠ 'Σ' := by rintro rfl; exact absurd hc (by decide)
    rw [image, if_neg hne, T.lower_space c hc]

theorem image_fixed {c d : Char} {before after : List Char} (hd : d ∈ T.image before c after) :
    d ≠ 'Σ' ∧ T.lower d = [d] := by
  unfold image at hd
  split_ifs at hd with hc
  · obtain rfl := List.mem_singleton.mp hd
    rcases lowerSigma_cases (T := T) before after with h | h <;> rw [h]
    · exact ⟨by decide, T.lower_sigmas.2⟩
    · exact ⟨by decide, T.lower_sigmas.1⟩
  · exact T.lower_fixed c hc d hd

theorem space_of_image {c d : Char} {before after : List Char} (hd : d ∈ T.image before c after)
    (hs : isWhiteSpace d = true) : isWhiteSpace c = true := by
  unfold image at hd
  split_ifs at hd with hc
  · obtain rfl := List.mem_singleton.mp hd
    rcases lowerSigma_cases (T := T) before after with h | h <;> rw [h] at hs <;>
      exact absurd hs (by decide)
  · exact T.space_of_lower c d hd hs

theorem at_of_image {c : Char} {before after : List Char} (hd : '@' ∈ T.image before c after) :
    c = '@' := by
  unfold image at hd
  split_ifs at hd with hc
  · rcases lowerSigma_cases (T := T) before after with h | h <;> rw [h] at hd <;>
      exact absurd hd (by decide)
  · exact T.at_of_lower c hd

theorem image_ne_nil (before : List Char) (c : Char) (after : List Char) :
    T.image before c after ≠ [] := by
  unfold image
  split_ifs
  · simp
  · exact T.lower_ne_nil c

/-! ### Separators cut the text into parts that are lower-cased on their own -/

theorem ignorableThenCased_append {c : Char} (hc : IsSeparator c) (xs ys : List Char) :
    T.ignorableThenCased (xs ++ c :: ys) = T.ignorableThenCased xs := by
  obtain ⟨h₁, h₂⟩ := T.separator c hc
  unfold ignorableThenCased
  rw [List.dropWhile_append]
  cases hd : xs.dropWhile T.caseIgnorable with
  | nil => simp [h₁, h₂]
  | cons d ds => simp

theorem lowerFrom_context {c : Char} (hc : IsSeparator c) (before rest xs : List Char) :
    T.lowerFrom (before ++ c :: rest) xs = T.lowerFrom before xs := by
  induction xs generalizing before with
  | nil => rfl
  | cons x xs ih =>
    have h := ih (x :: before)
    rw [List.cons_append] at h
    simp only [lowerFrom, image, lowerSigma, ignorableThenCased_append hc, h]

theorem lowerFrom_append_separator {c : Char} (hc : IsSeparator c) (before xs ys : List Char) :
    T.lowerFrom before (xs ++ c :: ys) = T.lowerFrom before xs ++ c :: T.lowerFrom [] ys := by
  induction xs generalizing before with
  | nil =>
    have h := lowerFrom_context (T := T) hc [] before ys
    rw [List.nil_append] at h
    simp [lowerFrom, image_separator hc, h]
  | cons x xs ih =>
    simp only [List.cons_append, lowerFrom, image, lowerSigma, ignorableThenCased_append hc, ih,
      List.append_assoc]

theorem lowerFrom_cons_separator {c : Char} (hc : IsSeparator c) (ys : List Char) :
    T.lowerFrom [] (c :: ys) = c :: T.lowerFrom [] ys := by
  simpa [lowerFrom] using lowerFrom_append_separator (T := T) hc [] [] ys

theorem lowerFrom_append_of_separators {w : List Char} (hw : ∀ c ∈ w, IsSeparator c)
    (ys : List Char) : T.lowerFrom [] (w ++ ys) = w ++ T.lowerFrom [] ys := by
  induction w with
  | nil => rfl
  | cons c w ih =>
    rw [List.cons_append, lowerFrom_cons_separator (hw c (by simp)),
      ih fun d hd => hw d (List.mem_cons_of_mem _ hd), List.cons_append]

theorem mem_lowerFrom {d : Char} {before xs : List Char} (hd : d ∈ T.lowerFrom before xs) :
    ∃ b c a, c ∈ xs ∧ d ∈ T.image b c a := by
  induction xs generalizing before with
  | nil => simp [lowerFrom] at hd
  | cons x xs ih =>
    rcases List.mem_append.mp hd with hd | hd
    · exact ⟨before, x, xs, by simp, hd⟩
    · obtain ⟨b, c, a, hc, hi⟩ := ih hd
      exact ⟨b, c, a, List.mem_cons_of_mem _ hc, hi⟩

/-! ### Lower-casing a second time, trimming, and dropping the at signs -/

theorem lowerFrom_eq_self {xs : List Char} (h : ∀ c ∈ xs, c ≠ 'Σ' ∧ T.lower c = [c])
    (before : List Char) : T.lowerFrom before xs = xs := by
  induction xs generalizing before with
  | nil => rfl
  | cons x xs ih =>
    obtain ⟨hne, hx⟩ := h x (by simp)
    rw [lowerFrom, image, if_neg hne, hx, ih fun c hc => h c (List.mem_cons_of_mem _ hc)]
    rfl

theorem lowerFrom_idem (before before' xs : List Char) :
    T.lowerFrom before' (T.lowerFrom before xs) = T.lowerFrom before xs := by
  refine lowerFrom_eq_self (fun c hc => ?_) before'
  obtain ⟨_, _, _, -, hi⟩ := mem_lowerFrom hc
  exact image_fixed hi

/-- A leading part of separators that the images can neither enter nor leave. -/
theorem dropWhile_lowerFrom {p : Char → Bool} (hp : ∀ c, p c = true → IsSeparator c)
    (hi : ∀ b c a, ∀ d ∈ T.image b c a, p d = true → p c = true) (xs : List Char) :
    (T.lowerFrom [] xs).dropWhile p = T.lowerFrom [] (xs.dropWhile p) := by
  induction xs with
  | nil => rfl
  | cons x xs ih =>
    by_cases hx : p x = true
    · rw [lowerFrom_cons_separator (hp x hx), List.dropWhile_cons_of_pos hx,
        List.dropWhile_cons_of_pos hx, ih]
    · rw [List.dropWhile_cons_of_neg hx, lowerFrom]
      cases hd : T.image [] x xs with
      | nil => exact absurd hd (image_ne_nil _ _ _)
      | cons d ds =>
        have : ¬ p d = true := fun h => hx (hi [] x xs d (by simp [hd]) h)
        rw [List.cons_append, List.dropWhile_cons_of_neg this]

theorem lowerFrom_append (before xs ys : List Char) :
    ∃ zs, T.lowerFrom before (xs ++ ys) = zs ++ T.lowerFrom (xs.reverse ++ before) ys := by
  induction xs generalizing before with
  | nil => exact ⟨[], rfl⟩
  | cons x xs ih =>
    obtain ⟨zs, h⟩ := ih (x :: before)
    refine ⟨T.image before x (xs ++ ys) ++ zs, ?_⟩
    simp [lowerFrom, h]

theorem rdropWhile_lowerFrom (xs : List Char) :
    (T.lowerFrom [] xs).rdropWhile isWhiteSpace =
      T.lowerFrom [] (xs.rdropWhile isWhiteSpace) := by
  induction xs using List.reverseRecOn with
  | nil => rfl
  | append_singleton xs x ih =>
    by_cases hx : isWhiteSpace x = true
    · have h := lowerFrom_append_separator (T := T) (.inr hx) [] xs []
      rw [show T.lowerFrom [] [] = [] from rfl] at h
      rw [h, List.rdropWhile_concat_pos _ _ _ hx, List.rdropWhile_concat_pos _ _ _ hx, ih]
    · rw [List.rdropWhile_concat_neg _ _ _ hx, List.rdropWhile_eq_self_iff]
      obtain ⟨zs, h⟩ := lowerFrom_append (T := T) [] xs [x]
      intro hl hs
      simp only [h, lowerFrom, List.append_nil] at hs
      rw [List.getLast_append_of_ne_nil _ (image_ne_nil _ _ _)] at hs
      exact hx (space_of_image (List.getLast_mem (image_ne_nil _ _ _)) hs)

@[simp] theorem toList_toLowercase (s : String) :
    (T.toLowercase s).toList = T.lowerFrom [] s.toList := String.toList_ofList

@[simp] theorem toLowercase_idem (s : String) :
    T.toLowercase (T.toLowercase s) = T.toLowercase s := by
  rw [toLowercase, toList_toLowercase, lowerFrom_idem]
  rfl

theorem trim_toLowercase (s : String) : trim (T.toLowercase s) = T.toLowercase (trim s) := by
  have h : (T.lowerFrom [] s.toList).dropWhile isWhiteSpace =
      T.lowerFrom [] (s.toList.dropWhile isWhiteSpace) :=
    dropWhile_lowerFrom (fun _ hc => .inr hc) (fun _ _ _ _ hd => space_of_image hd) _
  simp only [trim, trimChars, toLowercase, String.toList_ofList, h, rdropWhile_lowerFrom]

theorem trimStartMatches_toLowercase (s : String) :
    trimStartMatches '@' (T.toLowercase s) = T.toLowercase (trimStartMatches '@' s) := by
  have h : (T.lowerFrom [] s.toList).dropWhile (· == '@') =
      T.lowerFrom [] (s.toList.dropWhile (· == '@')) := by
    refine dropWhile_lowerFrom (fun c hc => .inl (by simpa using hc)) ?_ _
    intro b c a d hd hat
    obtain rfl : d = '@' := by simpa using hat
    simpa using at_of_image hd
  simp only [trimStartMatches, toLowercase, String.toList_ofList, h]

theorem not_atSigned_toLowercase {s : String} (h : ¬ AtSigned s) :
    ¬ AtSigned (T.toLowercase s) := by
  unfold AtSigned at *
  rw [toList_toLowercase]
  cases hs : s.toList with
  | nil => simp [lowerFrom]
  | cons c cs =>
    have hc : c ≠ '@' := by rintro rfl; exact h (by simp [hs])
    rw [lowerFrom]
    cases hd : T.image [] c cs with
    | nil => exact absurd hd (image_ne_nil _ _ _)
    | cons d ds =>
      have hat : d ≠ '@' := by
        rintro rfl
        have hmem : '@' ∈ T.image [] c cs := by simp [hd]
        exact hc (at_of_image hmem)
      simpa using hat

theorem endTrimmed_toLowercase {s : String} (h : EndTrimmed s) : EndTrimmed (T.toLowercase s) := by
  rw [EndTrimmed, toList_toLowercase, rdropWhile_lowerFrom, h]

theorem map_toLower_of_lower {s : String} (h : T.toLowercase s = s) :
    s.toList.map Char.toLower = s.toList := by
  conv_rhs => rw [← List.map_id s.toList]
  refine List.map_congr_left fun c hc => ?_
  rw [← h, toLowercase, String.toList_ofList] at hc
  obtain ⟨_, _, _, -, hi⟩ := mem_lowerFrom hc
  rcases toLower_cases c with ⟨hc, -⟩ | ⟨-, -, hu⟩
  · exact hc
  · have hascii := T.lower_ascii c (by omega)
    rw [(image_fixed hi).2] at hascii
    exact (List.singleton_inj.mp hascii).symm

/-- Of lower-cased texts only equal ones are equal up to the case of their letters. -/
theorem eq_of_eqIgnoreAsciiCase {s t : String} (hs : T.toLowercase s = s)
    (ht : T.toLowercase t = t) (h : eqIgnoreAsciiCase s t = true) : s = t := by
  rw [eqIgnoreAsciiCase_iff, map_toLower_of_lower hs, map_toLower_of_lower ht] at h
  exact String.toList_injective h

theorem toLowercase_ascii {s : String} (h : ∀ c ∈ s.toList, c.toNat < 128 ∧ c.toLower = c) :
    T.toLowercase s = s := by
  rw [toLowercase, lowerFrom_eq_self, String.ofList_toList]
  intro c hc
  obtain ⟨ha, hl⟩ := h c hc
  refine ⟨?_, by rw [T.lower_ascii c ha, hl]⟩
  rintro rfl
  exact absurd ha (by decide)

/-- The ASCII part of the table, every other character being left as it is. -/
def ascii : CaseTable where
  lower c := [c.toLower]
  cased c := c.isAlpha
  caseIgnorable c := c == '\'' || c == '.' || c == ':' || c == '^' || c == '`'
  lower_ne_nil _ := by simp
  lower_ascii _ _ := rfl
  lower_fixed c hc d hd := by
    obtain rfl := List.mem_singleton.mp hd
    rcases toLower_cases c with ⟨h, -⟩ | ⟨h, hl, hu⟩
    · rw [h, h]
      exact ⟨hc, rfl⟩
    · refine ⟨fun he => ?_, ?_⟩
      · rw [he] at h
        change 931 = _ at h
        omega
      · rcases toLower_cases c.toLower with ⟨h', -⟩ | ⟨-, -, hu'⟩
        · rw [h']
        · omega
  lower_sigmas := by decide
  lower_space c hc := by
    rcases toLower_cases c with ⟨h, -⟩ | ⟨-, hl, hu⟩
    · rw [h]
    · simp [isWhiteSpace] at hc
      omega
  space_of_lower c d hd hs := by
    obtain rfl := List.mem_singleton.mp hd
    rcases toLower_cases c with ⟨h, -⟩ | ⟨h, hl, hu⟩
    · rwa [h] at hs
    · simp [isWhiteSpace, h] at hs
      omega
  at_of_lower c hd := toLower_eq_at.mp (List.mem_singleton.mp hd).symm
  separator c hc := by
    rcases hc with rfl | hc
    · decide
    · have hne : ∀ d : Char, isWhiteSpace d = false → c ≠ d := by
        rintro d hd rfl
        rw [hc] at hd
        cases hd
      constructor
      · by_contra ha
        have hletter := range_of_isAlpha (Bool.not_eq_false _ ▸ ha)
        simp [isWhiteSpace] at hc
        omega
      · simp [hne '\'' (by decide), hne '.' (by decide), hne ':' (by decide), hne '^' (by decide),
          hne '`' (by decide)]

end CaseTable
end Library.Text
