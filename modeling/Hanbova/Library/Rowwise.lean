import Mathlib.Data.List.Basic
import Mathlib.Data.List.Induction
import Mathlib.Logic.Function.Basic

/-! Calls that each act on one row: only the order of the calls on each row matters. -/
namespace Library

universe u v w
variable {κ : Type u} {ν : Type v} {α : Type w}

/-- The calls, in order, lead a row from one content to another; `act` says what one call does. -/
inductive RowActs (act : Option ν → α → Option ν → Prop) (x : Option ν) :
    List α → Option ν → Prop
  | nil : RowActs act x [] x
  | snoc {as : List α} {y z : Option ν} {a : α} :
      RowActs act x as y → act y a z → RowActs act x (as ++ [a]) z

/-- The calls, in order, lead the rows of a table from one content to another; each acts on the row
of its key. -/
inductive Acts [DecidableEq κ] (key : α → κ) (act : Option ν → α → Option ν → Prop)
    (f : κ → Option ν) : List α → (κ → Option ν) → Prop
  | nil : Acts key act f [] f
  | snoc {as : List α} {g : κ → Option ν} {a : α} {z : Option ν} :
      Acts key act f as g → act (g (key a)) a z →
      Acts key act f (as ++ [a]) (Function.update g (key a) z)

variable {act : Option ν → α → Option ν → Prop} {x z : Option ν}
    {as bs : List α} {a : α}

theorem RowActs.eq_of_nil (h : RowActs act x [] z) : z = x := by
  generalize he : ([] : List α) = as at h
  cases h with
  | nil => rfl
  | snoc => simp at he

theorem RowActs.unsnoc (h : RowActs act x (as ++ [a]) z) :
    ∃ y, RowActs act x as y ∧ act y a z := by
  generalize he : as ++ [a] = bs at h
  cases h with
  | nil => simp at he
  | snoc hr ha =>
    obtain ⟨rfl, hx⟩ := List.append_inj' he rfl
    obtain rfl := List.singleton_inj.mp hx
    exact ⟨_, hr, ha⟩

section
variable [DecidableEq κ] {key : α → κ} {f g : κ → Option ν}

theorem Acts.row (h : Acts key act f as g) (k : κ) :
    RowActs act (f k) (as.filter fun a => key a = k) (g k) := by
  induction h with
  | nil => exact .nil
  | @snoc as g a z _ ha ih =>
    rw [List.filter_append]
    by_cases hk : key a = k
    · subst hk
      simpa using ih.snoc ha
    · rw [Function.update_of_ne (Ne.symm hk)]
      simpa [hk] using ih

/-- Rows that are each led somewhere by their own calls are led there together. -/
theorem Acts.of_rows (h : ∀ k, RowActs act (f k) (as.filter fun a => key a = k) (g k)) :
    Acts key act f as g := by
  induction as using List.reverseRecOn generalizing g with
  | nil =>
    have hfg : g = f := funext fun k => (h k).eq_of_nil
    rw [hfg]
    exact .nil
  | append_singleton as a ih =>
    have hlast := h (key a)
    rw [List.filter_append, List.filter_cons_of_pos (by simp), List.filter_nil] at hlast
    obtain ⟨y, hy, ha⟩ := hlast.unsnoc
    have hbefore : Acts key act f as (Function.update g (key a) y) := by
      apply ih
      intro k
      by_cases hk : k = key a
      · subst hk
        simpa using hy
      · rw [Function.update_of_ne hk]
        simpa [List.filter_append, Ne.symm hk] using h k
    have hg : Function.update (Function.update g (key a) y) (key a) (g (key a)) = g := by
      rw [Function.update_idem, Function.update_eq_self]
    rw [← hg]
    apply hbefore.snoc
    rwa [Function.update_self]

/-- Calls may change places as long as those on each row keep their order. -/
theorem Acts.reorder (h : Acts key act f as g)
    (hab : ∀ k, (bs.filter fun a => key a = k) = as.filter fun a => key a = k) :
    Acts key act f bs g := by
  apply Acts.of_rows
  intro k
  rw [hab k]
  exact h.row k

/-! ### Marks -/

variable {β : Type*} {mark : α → Option β} {row : β → κ}

theorem exists_zip {γ : Type*} {f : α → β} {ys : List (γ × β)}
    (h : as.map f = ys.map Prod.snd) :
    ∃ zs : List (γ × α), zs.map Prod.snd = as ∧ zs.map (fun z => (z.1, f z.2)) = ys := by
  induction ys generalizing as with
  | nil =>
    obtain rfl : as = [] := by simpa using h
    exact ⟨[], rfl, rfl⟩
  | cons y ys ih =>
    rw [List.map_cons, List.map_eq_cons_iff] at h
    obtain ⟨a, as, rfl, ha, has⟩ := h
    obtain ⟨zs, rfl, rfl⟩ := ih has
    exact ⟨(y.1, a) :: zs, rfl, by simp [ha]⟩

theorem filterMap_filter_of_none {p : α → Bool}
    (h : ∀ a ∈ as, p a = false → mark a = none) :
    (as.filter p).filterMap mark = as.filterMap mark := by
  rw [List.filterMap_filter]
  apply List.filterMap_congr
  intro a ha
  cases hp : p a with
  | true => rfl
  | false => simp [h a ha hp]

theorem exists_first_mark (hrow : ∀ a b, mark a = some b → row b = key a) {b : β}
    {bs : List β}
    (h : ((as.filterMap mark).filter fun x => row x = row b) = b :: bs) :
    ∃ xs a ys, as = xs ++ a :: ys ∧ mark a = some b ∧ key a = row b ∧
      ∀ x ∈ xs, key x = row b → mark x = none := by
  obtain ⟨l₁, l₂, hl, hbefore, -, -⟩ := List.filter_eq_cons_iff.mp h
  obtain ⟨xs₁, rest, rfl, rfl, hrest⟩ := List.filterMap_eq_append_iff.mp hl
  obtain ⟨xs₂, a, ys, rfl, hskip, ha, -⟩ := List.filterMap_eq_cons_iff.mp hrest
  refine ⟨xs₁ ++ xs₂, a, ys, by simp, ha, (hrow a b ha).symm, ?_⟩
  intro x hx hk
  rcases List.mem_append.mp hx with hx | hx
  · cases hm : mark x with
    | none => rfl
    | some c =>
      have hc : row c = row b := (hrow x c hm).trans hk
      exact absurd (by simpa using hc) (hbefore c (List.mem_filterMap.mpr ⟨x, hx, hm⟩))
  · exact hskip x hx

theorem filter_front (xs ys : List α) (a : α) (k : κ) :
    (((xs.filter fun x => key x = key a) ++
        a :: ((xs.filter fun x => key x ≠ key a) ++ ys)).filter fun x => key x = k) =
      (xs ++ a :: ys).filter fun x => key x = k := by
  simp only [List.filter_append, List.filter_filter, List.filter_cons]
  by_cases hk : key a = k
  · subst hk
    simp
  · have hempty : (xs.filter fun x => key x = k && key x = key a) = [] := by
      rw [List.filter_eq_nil_iff]
      intro x _ hx
      simp only [Bool.and_eq_true, decide_eq_true_eq] at hx
      exact hk (hx.2.symm.trans hx.1)
    have hall : (xs.filter fun x => key x = k && key x ≠ key a) =
        xs.filter fun x => key x = k := by
      apply List.filter_congr
      intro x _
      by_cases hx : key x = k
      · simp [hx, Ne.symm hk]
      · simp [hx]
    rw [hempty, hall]
    simp [hk]

theorem exists_front (hrow : ∀ a b, mark a = some b → row b = key a) {b : β} {bs : List β}
    (h : ((as.filterMap mark).filter fun x => row x = row b) = b :: bs) :
    ∃ (front rest : List α) (l₁ l₂ : List β),
      (∀ k, ((front ++ rest).filter fun x => key x = k) = as.filter fun x => key x = k) ∧
      front.filterMap mark = [b] ∧ rest.filterMap mark = l₁ ++ l₂ ∧
      as.filterMap mark = l₁ ++ b :: l₂ ∧ ∀ c ∈ l₁, row c ≠ row b := by
  obtain ⟨xs, a, ys, rfl, ha, hka, hnone⟩ := exists_first_mark hrow h
  have hself : (xs.filter fun x => key x = key a).filterMap mark = [] := by
    rw [List.filterMap_eq_nil_iff]
    intro x hx
    have hk := of_decide_eq_true (List.mem_filter.mp hx).2
    exact hnone x (List.mem_filter.mp hx).1 (hk.trans hka)
  have hothers : (xs.filter fun x => key x ≠ key a).filterMap mark = xs.filterMap mark := by
    apply filterMap_filter_of_none
    intro x hx hk
    exact hnone x hx ((not_not.mp (of_decide_eq_false hk)).trans hka)
  refine ⟨(xs.filter fun x => key x = key a) ++ [a], (xs.filter fun x => key x ≠ key a) ++ ys,
    xs.filterMap mark, ys.filterMap mark, ?_, ?_, ?_, ?_, ?_⟩
  · intro k
    rw [List.append_assoc]
    exact filter_front xs ys a k
  · rw [List.filterMap_append, hself, List.filterMap_cons_some ha]
    rfl
  · rw [List.filterMap_append, hothers]
  · rw [List.filterMap_append, List.filterMap_cons_some ha]
  · intro c hc hk
    obtain ⟨x, hx, hm⟩ := List.mem_filterMap.mp hc
    rw [hnone x hx ((hrow x c hm).symm.trans hk)] at hm
    cases hm

/-- Calls some of which are marked can be put in any order of the marks that agrees with theirs on
each row. -/
theorem exists_reorder (hrow : ∀ a b, mark a = some b → row b = key a) {bs : List β}
    (h : ∀ k, (bs.filter fun b => row b = k) = (as.filterMap mark).filter fun b => row b = k) :
    ∃ as' : List α, (∀ k, (as'.filter fun a => key a = k) = as.filter fun a => key a = k) ∧
      as'.filterMap mark = bs := by
  induction bs generalizing as with
  | nil =>
    refine ⟨as, fun _ => rfl, ?_⟩
    apply List.eq_nil_iff_forall_not_mem.mpr
    intro b hb
    have hmem : b ∈ (as.filterMap mark).filter fun x => row x = row b :=
      List.mem_filter.mpr ⟨hb, by simp⟩
    rw [← h (row b)] at hmem
    simp at hmem
  | cons b bs ih =>
    have hb := h (row b)
    rw [List.filter_cons_of_pos (by simp)] at hb
    obtain ⟨front, rest, l₁, l₂, hkeys, hfront, hrest, hall, hne⟩ :=
      exists_front hrow hb.symm
    have hbs : ∀ k, (bs.filter fun x => row x = k) =
        (rest.filterMap mark).filter fun x => row x = k := by
      intro k
      have hk := h k
      rw [hall] at hk
      rw [hrest]
      by_cases hbk : row b = k
      · have hnil : (l₁.filter fun x => row x = k) = [] := by
          rw [List.filter_eq_nil_iff]
          intro c hc hck
          exact hne c hc ((of_decide_eq_true hck).trans hbk.symm)
        simpa [hnil, hbk] using hk
      · simpa [hbk] using hk
    obtain ⟨as', hkeys', hmarks⟩ := ih hbs
    refine ⟨front ++ as', ?_, ?_⟩
    · intro k
      rw [← hkeys k, List.filter_append, List.filter_append, hkeys' k]
    · rw [List.filterMap_append, hfront, hmarks]
      rfl

end
end Library
