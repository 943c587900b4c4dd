import Hanbova.Library.Hex

/-! The text forms that `Uuid::parse_str` accepts: 32 digits, the hyphenated form, and the latter in
braces or as a URN. -/
namespace Library.Uuid

def parseSimple (cs : List Char) : Option Uuid :=
  (Hex.decode cs).bind fun bs => if h : bs.length = 16 then some ⟨bs, h⟩ else none

/-- The hyphens are checked first, then the five groups of digits. -/
def parseHyphenated (cs : List Char) : Option Uuid :=
  if cs.length = 36 ∧ cs[8]? = some '-' ∧ cs[13]? = some '-' ∧ cs[18]? = some '-' ∧
      cs[23]? = some '-' then
    parseSimple (cs.take 8 ++ ((cs.drop 9).take 4 ++ ((cs.drop 14).take 4 ++
      ((cs.drop 19).take 4 ++ cs.drop 24))))
  else none

def parseStr (s : String) : Option Uuid :=
  let cs := s.toList
  if cs.length = 32 then parseSimple cs
  else if cs.length = 36 then parseHyphenated cs
  else if cs.length = 38 ∧ cs.head? = some '{' ∧ cs.getLast? = some '}' then
    parseHyphenated ((cs.drop 1).take 36)
  else if cs.length = 45 ∧ cs.take 9 = "urn:uuid:".toList then parseHyphenated (cs.drop 9)
  else none

theorem parseSimple_simpleChars (u : Uuid) : parseSimple u.simpleChars = some u := by
  rw [parseSimple, simpleChars, Hex.decode_flatMap_hexByte, Option.bind_some, dif_pos u.size]

theorem parseHyphenated_groups {a b c d e : List Char} (ha : a.length = 8) (hb : b.length = 4)
    (hc : c.length = 4) (hd : d.length = 4) (he : e.length = 12) :
    parseHyphenated (a ++ '-' :: (b ++ '-' :: (c ++ '-' :: (d ++ '-' :: e)))) =
      parseSimple (a ++ (b ++ (c ++ (d ++ e)))) := by
  unfold parseHyphenated
  simp [List.drop_append, ha, hb, hc, hd, he, List.drop_of_length_le]

theorem parseHyphenated_hyphenate {cs : List Char} (h : cs.length = 32) :
    parseHyphenated (hyphenate cs) = parseSimple cs := by
  have group : ∀ a n, a + n ≤ 32 → ((cs.drop a).take n).length = n := by
    intro a n hn
    rw [List.length_take, List.length_drop, h]
    omega
  have hparse := parseHyphenated_groups (group 0 8 (by omega)) (group 8 4 (by omega))
    (group 12 4 (by omega)) (group 16 4 (by omega)) (e := cs.drop 20)
    (by rw [List.length_drop, h])
  rw [List.drop_zero, append_groups] at hparse
  exact hparse

/-- The text that an identifier is displayed as is read back as this identifier. -/
theorem parseStr_toString (u : Uuid) : parseStr u.toString = some u := by
  have hlen := u.length_toString
  unfold parseStr
  simp only
  rw [if_neg (by omega), if_pos hlen, Uuid.toString, String.toList_ofList,
    parseHyphenated_hyphenate u.length_simpleChars, parseSimple_simpleChars]

end Library.Uuid
