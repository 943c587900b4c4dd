import Hanbova.Library.Text

/-! `str::to_uppercase` over a table of Unicode case data, character by character. -/
namespace Library.Text

/-- The upper-case images of the Unicode character database, which agree with ASCII on ASCII. -/
structure UpperTable where
  upper : Char → List Char
  upper_ascii : ∀ c, c.toNat < 128 → upper c = [c.toUpper]

namespace UpperTable

def toUppercase (U : UpperTable) (s : String) : String :=
  String.ofList (s.toList.flatMap U.upper)

/-- A text in ASCII capitals is left alone. -/
theorem toUppercase_of_capitals (U : UpperTable) {s : String}
    (h : ∀ c ∈ s.toList, c.toNat < 128 ∧ c.toUpper = c) : U.toUppercase s = s := by
  have himage : ∀ cs : List Char, (∀ c ∈ cs, c.toNat < 128 ∧ c.toUpper = c) →
      cs.flatMap U.upper = cs := by
    intro cs hcs
    induction cs with
    | nil => rfl
    | cons c cs ih =>
      obtain ⟨hascii, hupper⟩ := hcs c List.mem_cons_self
      rw [List.flatMap_cons, U.upper_ascii c hascii, hupper,
        ih fun d hd => hcs d (List.mem_cons_of_mem c hd)]
      rfl
  rw [toUppercase, himage _ h, String.ofList_toList]

/-- A table for texts in ASCII. -/
def ascii : UpperTable := ⟨fun c => [c.toUpper], fun _ _ => rfl⟩

end UpperTable
end Library.Text
