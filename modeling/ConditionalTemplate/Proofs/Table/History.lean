import ConditionalTemplate.Table
import Mathlib.Data.List.Dedup
import Mathlib.Data.List.Nodup

/-!
# Tables and the entries put into them

Entries are put into a table one after the other, and of several with one name the last one counts.
So a table answers with the value of the last entry of a name (`get?_ofList`), has the names of the
entries (`contains_ofList`), and is as large as there are different names (`size_ofList`). Lists
with the same last values make one table (`ofList_congr`): the order matters only among the entries
of one name (`lastValue?_congr`), and an entry with a later one of its name does not matter at all
(`lastValue?_append_cons`). A table is what its own entries make, in any order
(`ofList_of_perm_entries`). Values may be mapped before or after (`ofList_map`).
-/

namespace ConditionalTemplate.Table

variable {α β : Type} {t : Table α} {l m : List (String × α)} {name n : String} {value : α}

/-- The names of a list of entries. -/
def namesOf (l : List (String × α)) : List String :=
  l.map (·.1)

/-- The entries of one name, in their order. -/
def entriesOf (name : String) (l : List (String × α)) : List (String × α) :=
  l.filter fun e => e.1 = name

/-- The value of the last entry of a name. -/
def lastValue? (name : String) (l : List (String × α)) : Option α :=
  (entriesOf name l).getLast?.map (·.2)

theorem mem_namesOf : name ∈ namesOf l ↔ ∃ value, (name, value) ∈ l := by
  simp [namesOf]

theorem mem_entriesOf {e : String × α} : e ∈ entriesOf name l ↔ e ∈ l ∧ e.1 = name := by
  rw [entriesOf, List.mem_filter, decide_eq_true_eq]

/-! ### Last values -/

theorem lastValue?_append (l m : List (String × α)) (name : String) :
    lastValue? name (l ++ m) = (lastValue? name m).or (lastValue? name l) := by
  rw [lastValue?, entriesOf, List.filter_append, List.getLast?_append, Option.map_or]
  rfl

theorem lastValue?_singleton (e : String × α) (name : String) :
    lastValue? name [e] = if name = e.1 then some e.2 else none := by
  by_cases h : name = e.1
  · rw [if_pos h, lastValue?, entriesOf, List.filter_cons_of_pos (by simp [h])]
    rfl
  · rw [if_neg h, lastValue?, entriesOf, List.filter_cons_of_neg (by simp [Ne.symm h])]
    rfl

theorem lastValue?_isSome_iff : (lastValue? name l).isSome = true ↔ name ∈ namesOf l := by
  rw [lastValue?, Option.isSome_map, Option.isSome_iff_ne_none, Ne, List.getLast?_eq_none_iff,
    mem_namesOf]
  constructor
  · intro hne
    obtain ⟨⟨n, value⟩, he⟩ := List.exists_mem_of_ne_nil _ hne
    obtain ⟨hmem, rfl⟩ := mem_entriesOf.mp he
    exact ⟨value, hmem⟩
  · rintro ⟨value, hmem⟩
    exact List.ne_nil_of_mem (mem_entriesOf.mpr ⟨hmem, rfl⟩)

/-- Where no name is there twice, every entry is the last one of its name. -/
theorem lastValue?_eq_some_iff (h : (namesOf l).Nodup) :
    lastValue? name l = some value ↔ (name, value) ∈ l := by
  have mem_of_last {value : α} (hlast : lastValue? name l = some value) : (name, value) ∈ l := by
    obtain ⟨e, he, rfl⟩ := Option.map_eq_some_iff.mp hlast
    obtain ⟨hmem, rfl⟩ := mem_entriesOf.mp (List.mem_of_getLast? he)
    exact hmem
  refine ⟨mem_of_last, fun hmem => ?_⟩
  obtain ⟨last, hlast⟩ :=
    Option.isSome_iff_exists.mp (lastValue?_isSome_iff.mpr (mem_namesOf.mpr ⟨value, hmem⟩))
  have heq := List.inj_on_of_nodup_map h (mem_of_last hlast) hmem rfl
  rw [hlast, (Prod.mk.inj heq).2]

/-- Only the order of the entries of one name matters. -/
theorem lastValue?_congr (h : entriesOf name l = entriesOf name m) :
    lastValue? name l = lastValue? name m := by
  rw [lastValue?, lastValue?, h]

theorem lastValue?_perm (h : (namesOf l).Nodup) (hperm : l.Perm m) :
    lastValue? name l = lastValue? name m := by
  have hm : (namesOf m).Nodup := (hperm.map _).nodup_iff.mp h
  exact Option.ext fun value => by
    rw [lastValue?_eq_some_iff h, lastValue?_eq_some_iff hm, hperm.mem_iff]

/-- A later entry of the same name hides an entry. -/
theorem lastValue?_append_cons (h : name ∈ namesOf m) (l : List (String × α)) (value : α) :
    lastValue? n (l ++ (name, value) :: m) = lastValue? n (l ++ m) := by
  rw [← List.singleton_append, lastValue?_append, lastValue?_append, lastValue?_append,
    lastValue?_singleton]
  by_cases hn : n = name
  · obtain ⟨later, hlater⟩ := Option.isSome_iff_exists.mp (lastValue?_isSome_iff.mpr h)
    rw [hn, hlater]
    rfl
  · rw [if_neg hn, Option.or_none]

/-! ### The entries of a table -/

theorem nodup_namesOf_entries (t : Table α) : (namesOf t.entries).Nodup :=
  List.pairwise_map.mpr (t.sorted.imp fun hlt heq => String.ne_of_lt hlt heq)

theorem contains_eq_true_iff : t.contains name = true ↔ name ∈ namesOf t.entries := by
  rw [contains, get?, List.lookup_isSome_iff, mem_namesOf]
  simp

theorem get?_eq_some_iff : t.get? name = some value ↔ (name, value) ∈ t.entries := by
  have mem_of_get {value : α} (hget : t.get? name = some value) : (name, value) ∈ t.entries := by
    obtain ⟨before, after, heq, -⟩ := List.lookup_eq_some_iff.mp hget
    simp [heq]
  refine ⟨mem_of_get, fun hmem => ?_⟩
  obtain ⟨found, hfound⟩ :=
    Option.isSome_iff_exists.mp (contains_eq_true_iff.mpr (mem_namesOf.mpr ⟨value, hmem⟩))
  have heq := List.inj_on_of_nodup_map (nodup_namesOf_entries t) (mem_of_get hfound) hmem rfl
  rw [hfound, (Prod.mk.inj heq).2]

/-! ### Putting entries in -/

theorem get?_foldl_insert (t : Table α) (l : List (String × α)) (name : String) :
    (l.foldl (fun t e => t.insert e.1 e.2) t).get? name = (lastValue? name l).or (t.get? name) := by
  induction l generalizing t with
  | nil => rfl
  | cons e l ih =>
    rw [List.foldl_cons, ih, get?_insert, ← List.singleton_append, lastValue?_append,
      lastValue?_singleton, Option.or_assoc]
    split <;> rfl

/-- The table answers with the last entry of a name. -/
theorem get?_ofList (l : List (String × α)) (name : String) :
    (ofList l).get? name = lastValue? name l := by
  rw [ofList, get?_foldl_insert, get?_empty, Option.or_none]

theorem contains_ofList : (ofList l).contains name = true ↔ name ∈ namesOf l := by
  rw [contains, get?_ofList, lastValue?_isSome_iff]

theorem perm_namesOf_ofList (l : List (String × α)) :
    (namesOf (ofList l).entries).Perm (namesOf l).dedup :=
  (List.perm_ext_iff_of_nodup (nodup_namesOf_entries _) (List.nodup_dedup _)).mpr fun _ => by
    rw [← contains_eq_true_iff, contains_ofList, List.mem_dedup]

theorem size_ofList (l : List (String × α)) : (ofList l).size = (namesOf l).dedup.length := by
  rw [← (perm_namesOf_ofList l).length_eq, namesOf, List.length_map, size]

theorem isEmpty_ofList : (ofList l).isEmpty = true ↔ l = [] := by
  rw [isEmpty, List.isEmpty_iff, ← List.length_eq_zero_iff, ← size, size_ofList,
    List.length_eq_zero_iff, List.dedup_eq_nil, namesOf, List.map_eq_nil_iff]

theorem ofList_congr (h : ∀ name, lastValue? name l = lastValue? name m) : ofList l = ofList m :=
  eq_of_get? fun name => by rw [get?_ofList, get?_ofList, h]

theorem ofList_of_perm_entries (h : l.Perm t.entries) : ofList l = t := by
  have hnodup : (namesOf l).Nodup := (h.map _).nodup_iff.mpr (nodup_namesOf_entries t)
  refine eq_of_get? fun name => Option.ext fun value => ?_
  rw [get?_ofList, lastValue?_eq_some_iff hnodup, get?_eq_some_iff, h.mem_iff]

theorem get?_eq_lastValue? (t : Table α) (name : String) :
    t.get? name = lastValue? name t.entries := by
  rw [← get?_ofList, ofList_of_perm_entries (.refl t.entries)]

/-! ### Mapping the values -/

/-- Entries with other values under their names. -/
def mapEntries (f : α → β) (l : List (String × α)) : List (String × β) :=
  l.map fun e => (e.1, f e.2)

theorem lastValue?_mapEntries (f : α → β) (l : List (String × α)) (name : String) :
    lastValue? name (mapEntries f l) = (lastValue? name l).map f := by
  rw [lastValue?, entriesOf, mapEntries, List.filter_map, List.getLast?_map, Option.map_map,
    lastValue?, Option.map_map]
  rfl

/-- The table with other values under its names. -/
def map (f : α → β) (t : Table α) : Table β :=
  ⟨mapEntries f t.entries, List.pairwise_map.mpr t.sorted⟩

theorem get?_map (f : α → β) (t : Table α) (name : String) :
    (t.map f).get? name = (t.get? name).map f := by
  rw [get?_eq_lastValue?, get?_eq_lastValue?]
  exact lastValue?_mapEntries f t.entries name

theorem values_map (f : α → β) (t : Table α) :
    (t.map f).values = t.entries.map fun e => f e.2 :=
  List.map_map

theorem ofList_map (f : α → β) (l : List (String × α)) :
    ofList (mapEntries f l) = (ofList l).map f :=
  eq_of_get? fun name => by rw [get?_map, get?_ofList, get?_ofList, lastValue?_mapEntries]

end ConditionalTemplate.Table
