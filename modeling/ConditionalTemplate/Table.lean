/-!
# Tables

A finite map from names to values, kept as its entries in the order of the names. Two tables that
answer alike are equal.
-/

namespace ConditionalTemplate

structure Table (α : Type) where
  entries : List (String × α)
  sorted : entries.Pairwise fun a b => a.1 < b.1

namespace Table

variable {α : Type}

def empty : Table α :=
  ⟨[], .nil⟩

instance : EmptyCollection (Table α) := ⟨empty⟩

instance : Inhabited (Table α) := ⟨empty⟩

/-- Puts an entry in its place, over an older one of the same name. -/
def insertEntry (name : String) (value : α) : List (String × α) → List (String × α)
  | [] => [(name, value)]
  | (n, v) :: rest =>
    if name < n then (name, value) :: (n, v) :: rest
    else if name = n then (name, value) :: rest
    else (n, v) :: insertEntry name value rest

theorem mem_insertEntry {name : String} {value : α} {e : String × α} {l : List (String × α)}
    (h : e ∈ insertEntry name value l) : e = (name, value) ∨ e ∈ l := by
  induction l with
  | nil => exact .inl (List.mem_singleton.mp h)
  | cons a l ih =>
    rw [insertEntry] at h
    split at h
    · exact List.mem_cons.mp h
    · split at h
      · rcases List.mem_cons.mp h with h | h
        · exact .inl h
        · exact .inr (List.mem_cons_of_mem _ h)
      · rcases List.mem_cons.mp h with h | h
        · exact .inr (h ▸ List.mem_cons_self)
        · exact (ih h).imp_right (List.mem_cons_of_mem _)

theorem sorted_insertEntry {name : String} {value : α} {l : List (String × α)}
    (h : l.Pairwise fun a b => a.1 < b.1) :
    (insertEntry name value l).Pairwise fun a b => a.1 < b.1 := by
  induction l with
  | nil => exact List.pairwise_singleton _ _
  | cons a l ih =>
    obtain ⟨ha, hl⟩ := List.pairwise_cons.mp h
    rw [insertEntry]
    split
    · next hlt =>
      refine List.pairwise_cons.mpr ⟨fun b hb => ?_, h⟩
      rcases List.mem_cons.mp hb with rfl | hb
      · exact hlt
      · exact String.lt_trans hlt (ha b hb)
    · next hlt =>
      split
      · next heq => exact List.pairwise_cons.mpr ⟨fun b hb => heq ▸ ha b hb, hl⟩
      · next hne =>
        refine List.pairwise_cons.mpr ⟨fun b hb => ?_, ih hl⟩
        rcases mem_insertEntry hb with rfl | hb
        · exact String.not_le.mp fun hle => hne (String.le_antisymm hle (String.not_lt.mp hlt))
        · exact ha b hb

/-- The table with one more entry, over an older one of the same name. -/
def insert (t : Table α) (name : String) (value : α) : Table α :=
  ⟨insertEntry name value t.entries, sorted_insertEntry t.sorted⟩

/-- The table of a list of entries; of several with one name the last one counts. -/
def ofList (l : List (String × α)) : Table α :=
  l.foldl (fun t e => t.insert e.1 e.2) empty

def get? (t : Table α) (name : String) : Option α :=
  t.entries.lookup name

def contains (t : Table α) (name : String) : Bool :=
  (t.get? name).isSome

def size (t : Table α) : Nat :=
  t.entries.length

def isEmpty (t : Table α) : Bool :=
  t.entries.isEmpty

/-- The values in the order of their names. -/
def values (t : Table α) : List α :=
  t.entries.map (·.2)

@[simp] theorem get?_empty (name : String) : (empty : Table α).get? name = none := rfl

theorem lookup_cons (n : String) (a : String × α) (l : List (String × α)) :
    (a :: l).lookup n = if n = a.1 then some a.2 else l.lookup n := by
  rw [List.lookup_cons]
  by_cases h : n = a.1
  · rw [if_pos h, h, beq_self_eq_true]
  · rw [if_neg h, beq_eq_false_iff_ne.mpr h]

theorem lookup_insertEntry (name : String) (value : α) (l : List (String × α)) (n : String) :
    (insertEntry name value l).lookup n = if n = name then some value else l.lookup n := by
  induction l with
  | nil => rw [insertEntry, lookup_cons]
  | cons a l ih =>
    rw [insertEntry]
    split
    · rw [lookup_cons]
    · split
      · next heq =>
        rw [lookup_cons, lookup_cons n a]
        by_cases h : n = name
        · rw [if_pos h, if_pos h]
        · rw [if_neg h, if_neg h, if_neg (heq ▸ h)]
      · next hne =>
        rw [lookup_cons, lookup_cons n a, ih]
        by_cases h : n = a.1
        · rw [if_pos h, if_neg fun hn : n = name => hne (hn ▸ h), if_pos h]
        · rw [if_neg h, if_neg h]

/-- An insertion changes the answer to its own name only. -/
theorem get?_insert (t : Table α) (name : String) (value : α) (n : String) :
    (t.insert name value).get? n = if n = name then some value else t.get? n :=
  lookup_insertEntry name value t.entries n

theorem lookup_eq_none {n : String} {l : List (String × α)} (h : ∀ e ∈ l, n < e.1) :
    l.lookup n = none := by
  induction l with
  | nil => rfl
  | cons a l ih =>
    rw [lookup_cons, if_neg fun he => String.lt_irrefl _ (he ▸ h a List.mem_cons_self)]
    exact ih fun e he => h e (List.mem_cons_of_mem _ he)

theorem eq_of_lookup {l m : List (String × α)} (hl : l.Pairwise fun a b => a.1 < b.1)
    (hm : m.Pairwise fun a b => a.1 < b.1) (h : ∀ n, l.lookup n = m.lookup n) : l = m := by
  have below {a : String × α} {l : List (String × α)} {n : String}
      (h : (a :: l).Pairwise fun a b => a.1 < b.1) (hn : n < a.1) : (a :: l).lookup n = none :=
    lookup_eq_none fun e he => by
      rcases List.mem_cons.mp he with rfl | he
      · exact hn
      · exact String.lt_trans hn ((List.pairwise_cons.mp h).1 e he)
  have head {a : String × α} {l : List (String × α)} : (a :: l).lookup a.1 = some a.2 := by
    rw [lookup_cons, if_pos rfl]
  induction l generalizing m with
  | nil =>
    cases m with
    | nil => rfl
    | cons b m => cases (h b.1).trans head
  | cons a l ih =>
    cases m with
    | nil => cases (h a.1).symm.trans head
    | cons b m =>
      have hab : ¬ a.1 < b.1 := fun hlt => by cases head.symm.trans ((h a.1).trans (below hm hlt))
      have hba : ¬ b.1 < a.1 := fun hlt => by
        cases head.symm.trans ((h b.1).symm.trans (below hl hlt))
      have hn : a.1 = b.1 := String.le_antisymm (String.not_lt.mp hba) (String.not_lt.mp hab)
      have hv : a.2 = b.2 := by
        have := (head (a := a) (l := l)).symm.trans (h a.1)
        rw [hn, head] at this
        exact Option.some.inj this
      obtain rfl : a = b := Prod.ext hn hv
      rw [ih (List.pairwise_cons.mp hl).2 (List.pairwise_cons.mp hm).2 fun n => ?_]
      have := h n
      rw [lookup_cons, lookup_cons] at this
      by_cases he : n = a.1
      · rw [he, lookup_eq_none (List.pairwise_cons.mp hl).1,
          lookup_eq_none (List.pairwise_cons.mp hm).1]
      · rwa [if_neg he, if_neg he] at this

/-- Tables that answer alike are equal. -/
theorem eq_of_get? {t u : Table α} (h : ∀ n, t.get? n = u.get? n) : t = u := by
  obtain ⟨l, hl⟩ := t
  obtain ⟨m, hm⟩ := u
  obtain rfl : l = m := eq_of_lookup hl hm h
  rfl

end Table

end ConditionalTemplate
