import Mathlib.Data.List.AList
import Mathlib.Data.Set.Function

/-! Keyed tables with one record for each key, and how records change under writes. -/
namespace Library

universe u v

/-- A finite map; the order of its entries stands for one iteration order. -/
abbrev Table (κ : Type u) (ν : Type v) := AList fun _ : κ => ν

namespace Table
variable {κ : Type u} {ν : Type v} {m m' m'' : Table κ ν} {k k' : κ} {x y : ν}

def values (m : Table κ ν) : List ν := m.entries.map Sigma.snd

/-- Equality that evaluates, for tests on concrete tables. -/
instance [DecidableEq κ] [DecidableEq ν] : DecidableEq (Table κ ν) :=
  fun m m' => decidable_of_iff (m.entries = m'.entries) AList.ext_iff.symm

/-- `m'` iterates over the same entries as `m`, in some order. -/
def Rehash (m m' : Table κ ν) : Prop := m.entries.Perm m'.entries

/-- Every record is replaced by its image under `f`. -/
def mapValues (f : ν → ν) (m : Table κ ν) : Table κ ν :=
  ⟨m.entries.map (.map id fun _ => f), by
    have h := m.nodupKeys
    rw [List.nodupKeys_iff_pairwise] at h ⊢
    exact List.pairwise_map.mpr h⟩

def size (m : Table κ ν) : ℕ := m.keys.length

/-- The entries that pass the test. -/
def retain (p : κ → ν → Bool) (m : Table κ ν) : Table κ ν :=
  ⟨m.entries.filter fun e => p e.1 e.2, m.nodupKeys.sublist List.filter_sublist⟩

theorem values_mapValues (f : ν → ν) (m : Table κ ν) :
    (m.mapValues f).values = m.values.map f := by
  simp [values, mapValues, Function.comp_def, Sigma.map]

theorem Rehash.values (h : Rehash m m') : m.values.Perm m'.values := List.Perm.map _ h

theorem Rehash.mapValues (h : Rehash m m') (f : ν → ν) :
    Rehash (m.mapValues f) (m'.mapValues f) :=
  List.Perm.map _ h

theorem size_retain_le (p : κ → ν → Bool) (m : Table κ ν) :
    (m.retain p).size ≤ m.size := by
  unfold size AList.keys List.keys
  rw [List.length_map, List.length_map]
  exact List.length_filter_le _ _

section
variable [DecidableEq κ]

theorem lookup_mapValues (f : ν → ν) (m : Table κ ν) (k : κ) :
    (m.mapValues f).lookup k = (m.lookup k).map f :=
  @List.dlookup_map κ κ (fun _ => ν) (fun _ => ν) _ _ m.entries id Function.injective_id
    (fun _ => f) k

def insert (m : Table κ ν) (k : κ) (x : ν) : Table κ ν := AList.insert k x m

theorem mapValues_insert (f : ν → ν) (m : Table κ ν) (k : κ) (x : ν) :
    (m.insert k x).mapValues f = (m.mapValues f).insert k (f x) := by
  apply AList.ext
  simp only [mapValues, insert, AList.entries_insert, List.map_cons, List.kerase, List.eraseP_map]
  rfl

def erase (m : Table κ ν) (k : κ) : Table κ ν := AList.erase k m

theorem mem_values : x ∈ m.values ↔ ∃ k, m.lookup k = some x := by
  simp only [values, List.mem_map]
  constructor
  · rintro ⟨⟨k, v⟩, he, rfl⟩
    exact ⟨k, AList.mem_lookup_iff.mpr he⟩
  · rintro ⟨k, hk⟩
    exact ⟨⟨k, x⟩, AList.mem_lookup_iff.mp hk, rfl⟩

theorem values_insert_of_lookup (h : m.lookup k = none) (x : ν) :
    (m.insert k x).values = x :: m.values := by
  have hk : k ∉ m := AList.lookup_eq_none.mp h
  rw [values, insert, AList.insert_of_notMem hk]
  rfl

/-- A record that a fold passes over might as well be missing. -/
theorem foldl_values_erase {β : Type*} {f : β → ν → β} {b : β} (h : m.lookup k = some x)
    (hf : ∀ b, f b x = b) : (m.erase k).values.foldl f b = m.values.foldl f b := by
  have hk : k ∈ m.entries.keys := AList.mem_keys.mp (AList.lookup_isSome.mp (by rw [h]; rfl))
  obtain ⟨y, xs, ys, hxs, he, herase⟩ := List.exists_of_kerase hk
  have hy : y = x := by
    have hl : m.entries.dlookup k = some x := h
    have hnone : xs.dlookup k = none := List.dlookup_eq_none.mpr hxs
    rw [he, List.dlookup_append, hnone] at hl
    simpa using hl
  have hrest : (m.erase k).entries = xs ++ ys := herase
  simp only [values, hrest, he, hy, List.map_append, List.map_cons, List.foldl_append,
    List.foldl_cons, hf]

/-- `m'` is `m` with the record of `k` set to `x`. -/
def SetAt (m : Table κ ν) (k : κ) (x : ν) (m' : Table κ ν) : Prop :=
  ∀ k', m'.lookup k' = if k' = k then some x else m.lookup k'

theorem setAt_insert (m : Table κ ν) (k : κ) (x : ν) : SetAt m k x (m.insert k x) := by
  intro k'
  split_ifs with h
  · subst h; exact AList.lookup_insert m
  · exact AList.lookup_insert_ne h

/-- Writing back what is there changes nothing. -/
theorem setAt_self (h : m.lookup k = some x) : SetAt m k x m := by
  intro k'
  split_ifs with hk
  · rw [hk, h]
  · rfl

theorem SetAt.lookup_self (h : SetAt m k x m') : m'.lookup k = some x := by rw [h k, if_pos rfl]

theorem SetAt.lookup_ne (h : SetAt m k x m') (hk : k' ≠ k) : m'.lookup k' = m.lookup k' := by
  rw [h k', if_neg hk]

theorem SetAt.lookup_ne_none (h : SetAt m k x m') (hk : m.lookup k' ≠ none) :
    m'.lookup k' ≠ none := by
  rw [h k']
  split_ifs
  · simp
  · exact hk

theorem lookup_erase (m : Table κ ν) (k k' : κ) :
    (m.erase k).lookup k' = if k' = k then none else m.lookup k' := by
  split_ifs with h
  · subst h; exact AList.lookup_erase _ m
  · exact AList.lookup_erase_ne h

theorem lookup_retain (p : κ → ν → Bool) (m : Table κ ν) (k : κ) :
    (m.retain p).lookup k = (m.lookup k).filter (p k) := by
  apply Option.ext
  intro x
  have hmem : (⟨k, x⟩ : Sigma fun _ : κ => ν) ∈ (m.retain p).entries ↔
      ⟨k, x⟩ ∈ m.entries ∧ p k x = true := List.mem_filter
  rw [← Option.mem_def, AList.mem_lookup_iff, hmem, Option.filter_eq_some_iff,
    ← AList.mem_lookup_iff, Option.mem_def]

theorem size_insert_of_lookup (h : m.lookup k = some x) : (m.insert k y).size = m.size := by
  have hk : k ∈ m.keys := AList.mem_keys.mp (AList.lookup_isSome.mp (by rw [h]; rfl))
  have hpos := List.length_pos_of_mem hk
  unfold size insert
  rw [AList.keys_insert, List.length_cons, List.length_erase_of_mem hk]
  omega

theorem size_insert_of_fresh (h : m.lookup k = none) : (m.insert k x).size = m.size + 1 := by
  have hk : k ∉ m.keys := by
    rw [← AList.mem_keys, ← AList.lookup_isSome, h]
    exact Bool.false_ne_true
  unfold size insert
  rw [AList.keys_insert, List.length_cons, List.erase_of_not_mem hk]

theorem size_insert_le (m : Table κ ν) (k : κ) (x : ν) :
    (m.insert k x).size ≤ m.size + 1 := by
  unfold size insert
  rw [AList.keys_insert, List.length_cons]
  have := List.length_erase_le (a := k) (l := m.keys)
  omega

/-- The records are written one after the other. -/
def insertAll (m : Table κ ν) (ps : List (κ × ν)) : Table κ ν :=
  ps.foldl (fun m p => m.insert p.1 p.2) m

/-- The records that are written to one key, in order. -/
def writesTo (k : κ) (ps : List (κ × ν)) : List ν :=
  ps.filterMap fun p => if p.1 = k then some p.2 else none

theorem mem_writesTo {ps : List (κ × ν)} : x ∈ writesTo k ps ↔ (k, x) ∈ ps := by
  simp only [writesTo, List.mem_filterMap]
  constructor
  · rintro ⟨⟨k', y⟩, hp, hx⟩
    split_ifs at hx with hk
    rw [← hk, ← Option.some.inj hx]
    exact hp
  · intro hp
    exact ⟨(k, x), hp, if_pos rfl⟩

theorem writesTo_append (k : κ) (ps qs : List (κ × ν)) :
    writesTo k (ps ++ qs) = writesTo k ps ++ writesTo k qs := List.filterMap_append

/-- The last record that is written to a key stays. -/
theorem lookup_insertAll (m : Table κ ν) (ps : List (κ × ν)) (k : κ) :
    (m.insertAll ps).lookup k = (writesTo k ps).getLast?.or (m.lookup k) := by
  induction ps generalizing m with
  | nil => rfl
  | cons p ps ih =>
    have hcons : m.insertAll (p :: ps) = (m.insert p.1 p.2).insertAll ps := rfl
    have happ : writesTo k (p :: ps) = writesTo k [p] ++ writesTo k ps := writesTo_append k [p] ps
    rw [hcons, ih, happ, List.getLast?_append, Option.or_assoc, setAt_insert m p.1 p.2 k]
    congr 1
    by_cases hk : k = p.1
    · subst hk
      simp [writesTo]
    · have hk' : ¬ p.1 = k := fun h => hk h.symm
      simp [writesTo, hk, hk']

theorem insertAll_some {ps : List (κ × ν)} (h : (m.insertAll ps).lookup k = some x) :
    (k, x) ∈ ps ∨ m.lookup k = some x := by
  rw [lookup_insertAll] at h
  rcases Option.or_eq_some_iff.mp h with hl | ⟨-, hm⟩
  · exact .inl (mem_writesTo.mp (List.mem_of_getLast? hl))
  · exact .inr hm

theorem SetAt.mem_values (h : SetAt m k x m') (hy : y ∈ m'.values) :
    y = x ∨ y ∈ m.values := by
  obtain ⟨k', hk⟩ := Table.mem_values.mp hy
  rw [h k'] at hk
  split_ifs at hk with he
  · exact .inl (Option.some.inj hk).symm
  · exact .inr (Table.mem_values.mpr ⟨k', hk⟩)

theorem Rehash.lookup (h : Rehash m m') (k : κ) : m'.lookup k = m.lookup k :=
  (AList.perm_lookup h).symm

/-- Tables with the same records differ in their order only. -/
theorem rehash_of_lookup (h : ∀ k, m'.lookup k = m.lookup k) : Rehash m m' :=
  List.lookup_ext m.nodupKeys m'.nodupKeys fun k x => by
    have hk : m'.entries.dlookup k = m.entries.dlookup k := h k
    rw [hk]

theorem Rehash.mem_values (h : Rehash m m') : x ∈ m'.values ↔ x ∈ m.values := by
  rw [Table.mem_values, Table.mem_values]
  simp only [h.lookup]

/-- Every record is stored under its own key. -/
def Keyed (key : ν → κ) (m : Table κ ν) : Prop := ∀ k x, m.lookup k = some x → key x = k

theorem keyed_empty (key : ν → κ) : Keyed key ∅ := by simp [Keyed]

theorem Keyed.set {key : ν → κ} (h : Keyed key m) (hm : SetAt m k x m') (hx : key x = k) :
    Keyed key m' := by
  intro k' y hy
  rw [hm k'] at hy
  split_ifs at hy with he
  · rw [he, ← hx, Option.some.inj hy]
  · exact h _ _ hy

theorem Keyed.lookup {key : ν → κ} (h : Keyed key m) (hx : x ∈ m.values) :
    m.lookup (key x) = some x := by
  obtain ⟨k, hk⟩ := mem_values.mp hx
  rw [h _ _ hk, hk]

theorem Keyed.entries {key : ν → κ} (h : Keyed key m) :
    m.entries = m.values.map fun x => ⟨key x, x⟩ := by
  rw [values, List.map_map]
  conv_lhs => rw [← List.map_id m.entries]
  refine List.map_congr_left fun e he => ?_
  have hk := h e.1 e.2 (AList.mem_lookup_iff.mpr he)
  exact Sigma.ext hk.symm HEq.rfl

/-- The records can be iterated in any order. -/
theorem Keyed.exists_rehash {key : ν → κ} {xs : List ν} (h : Keyed key m)
    (hp : xs.Perm m.values) : ∃ m', Rehash m m' ∧ m'.values = xs := by
  have hentries : m.entries.Perm (xs.map fun x => ⟨key x, x⟩) := by
    rw [h.entries]
    exact (hp.map _).symm
  refine ⟨⟨xs.map fun x => ⟨key x, x⟩, ?_⟩, hentries, ?_⟩
  · exact (List.perm_nodupKeys hentries).mp m.nodupKeys
  · rw [values, List.map_map]
    exact List.map_id _

theorem Keyed.injOn {key : ν → κ} (h : Keyed key m) : Set.InjOn key {x | x ∈ m.values} := by
  intro x hx y hy he
  have hl := h.lookup hx
  rw [he, h.lookup hy] at hl
  exact (Option.some.inj hl).symm

/-- Every record of `m` is still in `m'` under its key, and moved only along `R`. -/
def Evolves (R : ν → ν → Prop) (m m' : Table κ ν) : Prop :=
  ∀ k x, m.lookup k = some x → ∃ y, m'.lookup k = some y ∧ R x y

variable {R : ν → ν → Prop}

theorem Evolves.refl (hR : ∀ x, R x x) (m : Table κ ν) : Evolves R m m :=
  fun _ x hx => ⟨x, hx, hR x⟩

theorem Evolves.trans (hR : ∀ {x y z}, R x y → R y z → R x z) (h : Evolves R m m')
    (h' : Evolves R m' m'') : Evolves R m m'' := by
  intro k x hx
  obtain ⟨y, hy, hxy⟩ := h k x hx
  obtain ⟨z, hz, hyz⟩ := h' k y hy
  exact ⟨z, hz, hR hxy hyz⟩

/-- A record is added under a new key. -/
theorem Evolves.add (hR : ∀ x, R x x) (hm : SetAt m k x m') (hk : m.lookup k = none) :
    Evolves R m m' := by
  intro k' y hy
  have hne : k' ≠ k := by rintro rfl; rw [hk] at hy; cases hy
  exact ⟨y, by rw [hm.lookup_ne hne, hy], hR y⟩

/-- One record is replaced by one that `R` allows. -/
theorem Evolves.set (hR : ∀ x, R x x) (hm : SetAt m k y m') (hk : m.lookup k = some x)
    (hxy : R x y) : Evolves R m m' := by
  intro k' z hz
  by_cases he : k' = k
  · subst he
    obtain rfl := Option.some.inj (hk.symm.trans hz)
    exact ⟨y, hm.lookup_self, hxy⟩
  · exact ⟨z, by rw [hm.lookup_ne he, hz], hR z⟩

/-- Every record is replaced by one that `R` allows. -/
theorem Evolves.mapValues {f : ν → ν} (hf : ∀ x, R x (f x)) (m : Table κ ν) :
    Evolves R m (m.mapValues f) := by
  intro k x hx
  exact ⟨f x, by rw [lookup_mapValues, hx]; rfl, hf x⟩

/-! ### Records on their way into the table -/

/-- What waits in `xs` for its place in the table has keys that no record of the table has, and no
two the same. -/
structure Incoming {α : Type*} (key : α → κ) (m : Table κ ν) (xs : List α) : Prop where
  nodup : (xs.map key).Nodup
  new : ∀ a ∈ xs, m.lookup (key a) = none

namespace Incoming
variable {α : Type*} {key : α → κ} {xs : List α} {a : α}

theorem nil (key : α → κ) (m : Table κ ν) : Incoming key m [] := ⟨List.nodup_nil, by simp⟩

theorem cons (h : Incoming key m xs) (ha : m.lookup (key a) = none)
    (hxs : ∀ b ∈ xs, key b ≠ key a) : Incoming key m (a :: xs) where
  nodup := by
    rw [List.map_cons, List.nodup_cons]
    refine ⟨fun hmem => ?_, h.nodup⟩
    obtain ⟨b, hb, he⟩ := List.mem_map.mp hmem
    exact hxs b hb he
  new := by
    intro b hb
    rcases List.mem_cons.mp hb with rfl | hb
    · exact ha
    · exact h.new b hb

/-- The keys stay new while the table gains no record. -/
theorem congr (h : Incoming key m xs) (hm : ∀ k, m.lookup k = none → m'.lookup k = none) :
    Incoming key m' xs := ⟨h.nodup, fun b hb => hm _ (h.new b hb)⟩

theorem eq_of_key (h : Incoming key m xs) {b : α} (ha : a ∈ xs) (hb : b ∈ xs)
    (he : key a = key b) : a = b := List.inj_on_of_nodup_map h.nodup ha hb he

/-- One of them gets its place. -/
theorem store [DecidableEq α] (h : Incoming key m xs) (ha : a ∈ xs) (hm : SetAt m (key a) x m') :
    Incoming key m' (xs.erase a) where
  nodup := h.nodup.sublist (List.erase_sublist.map _)
  new := by
    intro b hb
    have hmem := List.mem_of_mem_erase hb
    have hne : key b ≠ key a := by
      intro he
      obtain rfl := h.eq_of_key hmem ha he
      exact (List.Nodup.of_map _ h.nodup).not_mem_erase hb
    rw [hm.lookup_ne hne]
    exact h.new b hmem

end Incoming

/-- The keys that the table has, or is about to get, are among `drawn`. -/
def Drawn {α : Type*} (key : α → κ) (m : Table κ ν) (xs : List α)
    (drawn : List κ) : Prop :=
  ∀ k ∉ drawn, m.lookup k = none ∧ ∀ a ∈ xs, key a ≠ k

namespace Drawn
variable {α : Type*} {key : α → κ} {xs : List α} {drawn : List κ}

theorem cons (h : Drawn key m xs drawn) (a : α) : Drawn key m (a :: xs) (key a :: drawn) := by
  intro k hk
  rw [List.mem_cons, not_or] at hk
  refine ⟨(h k hk.2).1, fun b hb => ?_⟩
  rcases List.mem_cons.mp hb with rfl | hb
  · exact fun he => hk.1 he.symm
  · exact (h k hk.2).2 b hb

theorem congr (h : Drawn key m xs drawn) (hm : ∀ k, m.lookup k = none → m'.lookup k = none) :
    Drawn key m' xs drawn := fun k hk => ⟨hm k (h k hk).1, (h k hk).2⟩

theorem store [DecidableEq α] (h : Drawn key m xs drawn) {a : α} (ha : a ∈ xs)
    (hm : SetAt m (key a) x m') : Drawn key m' (xs.erase a) drawn := by
  intro k hk
  obtain ⟨hl, hne⟩ := h k hk
  exact ⟨(hm.lookup_ne fun he => hne a ha he.symm).trans hl,
    fun b hb => hne b (List.mem_of_mem_erase hb)⟩

end Drawn

/-- No record has this key, in the table or on its way there. -/
def Fresh (key : ν → κ) (m : Table κ ν) (xs : List ν) (k : κ) : Prop :=
  m.lookup k = none ∧ ∀ x ∈ xs, key x ≠ k

/-- The records `xs` have been given keys that nothing in the table has, and no two the same. -/
structure Inbound (key : ν → κ) (m : Table κ ν) (xs : List ν) : Prop where
  keyed : Keyed key m
  nodup : (xs.map key).Nodup
  new : ∀ x ∈ xs, m.lookup (key x) = none

variable {key : ν → κ} {xs : List ν}

theorem inbound_empty (key : ν → κ) : Inbound key ∅ [] :=
  ⟨keyed_empty key, List.nodup_nil, by simp⟩

theorem Inbound.incoming (h : Inbound key m xs) : Incoming key m xs := ⟨h.nodup, h.new⟩

theorem Inbound.add (h : Inbound key m xs) (hf : Fresh key m xs (key x)) :
    Inbound key m (x :: xs) :=
  have hc := h.incoming.cons hf.1 hf.2
  ⟨h.keyed, hc.nodup, hc.new⟩

theorem Inbound.drop [DecidableEq ν] (h : Inbound key m xs) (x : ν) :
    Inbound key m (xs.erase x) where
  keyed := h.keyed
  nodup := h.nodup.sublist (List.erase_sublist.map _)
  new y hy := h.new y (List.mem_of_mem_erase hy)

theorem Inbound.store [DecidableEq ν] (h : Inbound key m xs) (hx : x ∈ xs)
    (hm : SetAt m (key x) x m') : Inbound key m' (xs.erase x) :=
  have hc := h.incoming.store hx hm
  ⟨h.keyed.set hm rfl, hc.nodup, hc.new⟩

/-- A stored record is replaced. -/
theorem Inbound.set (h : Inbound key m xs) (hk : m.lookup k = some x) (hm : SetAt m k y m')
    (hy : key y = k) : Inbound key m' xs where
  keyed := h.keyed.set hm hy
  nodup := h.nodup
  new := by
    intro z hz
    have hne : key z ≠ k := by
      intro he
      have hn := h.new z hz
      rw [he, hk] at hn
      cases hn
    rw [hm.lookup_ne hne]
    exact h.new z hz

theorem Inbound.rehash (h : Inbound key m xs) (hm : Rehash m m') : Inbound key m' xs where
  keyed k x hx := h.keyed k x (hm.lookup k ▸ hx)
  nodup := h.nodup
  new x hx := (hm.lookup _).trans (h.new x hx)

end
end Table

/-! ### Searches that can find one record only -/

variable {ν : Type v} {xs ys : List ν} {p : ν → Bool} {x : ν}

theorem find?_eq_some_of_unique (hx : x ∈ xs) (hp : p x = true)
    (h : ∀ y ∈ xs, p y = true → y = x) : xs.find? p = some x := by
  cases hf : xs.find? p with
  | none => exact absurd hp (List.find?_eq_none.mp hf x hx)
  | some y => rw [h y (List.mem_of_find?_eq_some hf) (List.find?_some hf)]

/-- The order of the search does not matter. -/
theorem find?_eq_of_perm (hxy : xs.Perm ys)
    (h : ∀ x ∈ ys, ∀ y ∈ ys, p x = true → p y = true → x = y) :
    xs.find? p = ys.find? p := by
  cases hf : ys.find? p with
  | none =>
    rw [List.find?_eq_none] at hf ⊢
    exact fun x hx => hf x (hxy.mem_iff.mp hx)
  | some y =>
    have hy := List.mem_of_find?_eq_some hf
    exact find?_eq_some_of_unique (hxy.mem_iff.mpr hy) (List.find?_some hf)
      fun x hx hp => h x (hxy.mem_iff.mp hx) y hy hp (List.find?_some hf)

/-- A lookup is a search for the key. -/
theorem Table.Keyed.lookup_eq_find? {κ : Type u} [DecidableEq κ] {m : Table κ ν}
    {key : ν → κ}
    (h : Table.Keyed key m) (k : κ) : m.lookup k = m.values.find? fun x => key x = k := by
  cases hl : m.lookup k with
  | none =>
    rw [eq_comm, List.find?_eq_none]
    intro x hx hk
    rw [← of_decide_eq_true hk, h.lookup hx] at hl
    cases hl
  | some x =>
    have hx := Table.mem_values.mpr ⟨k, hl⟩
    have hkey := h k x hl
    refine (find?_eq_some_of_unique hx (decide_eq_true hkey) fun y hy hk => ?_).symm
    exact h.injOn hy hx ((of_decide_eq_true hk).trans hkey.symm)

end Library
