import ConditionalTemplate.Proofs.Table.History
import ConditionalTemplate.Proofs.Value.Equality
import ConditionalTemplate.Renderer

/-!
# Records as finite maps

A record that entries are put into, or that is collected from them, is the finite map of these
entries in every respect that can be asked for (`Record.Reflects`). Records are equal if they have
the same names and equal values under each (`Record.same_iff`). Data with the same record is
rendered alike, so the order of entries of different names cannot be seen in a render
(`Renderer.renderNamed_congr_data`).
-/

namespace ConditionalTemplate

open Table (namesOf entriesOf lastValue?)

namespace Record

variable {r s : Record} {l m : List (String × Value)} {name : String}

/-- A record that is the finite map of a list of entries. A field that is null is there, but reads
like one that is not. -/
structure Reflects (r : Record) (l : List (String × Value)) : Prop where
  get_eq : ∀ name, Record.get r name = (lastValue? name l).getD .null
  contains_iff : ∀ name, r.contains name = true ↔ ∃ value, (name, value) ∈ l
  size_eq : r.size = (namesOf l).dedup.length
  isEmpty_iff : r.isEmpty = true ↔ l = []

theorem reflects_ofList (l : List (String × Value)) : Reflects (Table.ofList l) l where
  get_eq name := by rw [Record.get, Table.get?_ofList]
  contains_iff _ := Table.contains_ofList.trans Table.mem_namesOf
  size_eq := Table.size_ofList l
  isEmpty_iff := Table.isEmpty_ofList

/-! ### Equal records -/

/-- Equal lists of entries answer alike. -/
theorem lookup_of_sameEntries (h : sameEntries l m = true) (name : String) :
    (l.lookup name = none ∧ m.lookup name = none) ∨
      ∃ v w, l.lookup name = some v ∧ m.lookup name = some w ∧ v.same w = true := by
  fun_induction sameEntries l m with
  | case1 => exact .inl ⟨rfl, rfl⟩
  | case2 a l b m ih =>
    simp only [Bool.and_eq_true, beq_iff_eq] at h
    obtain ⟨⟨hname, hvalue⟩, hrest⟩ := h
    rw [Table.lookup_cons, Table.lookup_cons, ← hname]
    by_cases hn : name = a.1
    · rw [if_pos hn, if_pos hn]
      exact .inr ⟨a.2, b.2, rfl, rfl, hvalue⟩
    · rw [if_neg hn, if_neg hn]
      exact ih hrest
  | case3 => cases h

theorem sameEntries_of_names (hnames : namesOf l = namesOf m)
    (h : ∀ name v w, (name, v) ∈ l → (name, w) ∈ m → v.same w = true) :
    sameEntries l m = true := by
  induction l generalizing m with
  | nil =>
    obtain rfl : m = [] := List.map_eq_nil_iff.mp hnames.symm
    rfl
  | cons a l ih =>
    cases m with
    | nil => cases hnames
    | cons b m =>
      obtain ⟨hname, hrest⟩ : a.1 = b.1 ∧ namesOf l = namesOf m := List.cons.inj hnames
      have hvalue : a.2.same b.2 = true :=
        h a.1 a.2 b.2 List.mem_cons_self (hname ▸ List.mem_cons_self)
      have htail := ih hrest fun name v w hv hw =>
        h name v w (List.mem_cons_of_mem _ hv) (List.mem_cons_of_mem _ hw)
      rw [sameEntries, beq_iff_eq.mpr hname, hvalue, htail]
      rfl

/-- The names of a record in their order are settled by which of them it has. -/
theorem namesOf_entries_eq (h : ∀ name, r.contains name = s.contains name) :
    namesOf r.entries = namesOf s.entries := by
  have hmem (name : String) : name ∈ namesOf r.entries ↔ name ∈ namesOf s.entries := by
    rw [← Table.contains_eq_true_iff, ← Table.contains_eq_true_iff, h]
  have hperm := (List.perm_ext_iff_of_nodup (Table.nodup_namesOf_entries r)
    (Table.nodup_namesOf_entries s)).mpr hmem
  have hr : (namesOf r.entries).Pairwise (· < ·) := List.pairwise_map.mpr r.sorted
  have hs : (namesOf s.entries).Pairwise (· < ·) := List.pairwise_map.mpr s.sorted
  exact hperm.eq_of_pairwise
    (fun a b _ _ hab hba => absurd (String.lt_trans hab hba) (String.lt_irrefl a)) hr hs

/-- Records are equal if they have the same names, and equal values under each. -/
theorem same_iff : Record.same r s = true ↔ ∀ name, r.contains name = s.contains name ∧
    (Record.get r name).same (Record.get s name) = true := by
  constructor
  · intro h name
    have hlookup := lookup_of_sameEntries h name
    rw [Table.contains, Table.contains, Record.get, Record.get, Table.get?, Table.get?]
    rcases hlookup with ⟨hr, hs⟩ | ⟨v, w, hr, hs, hvw⟩
    · rw [hr, hs]
      exact ⟨rfl, rfl⟩
    · rw [hr, hs]
      exact ⟨rfl, hvw⟩
  · intro h
    refine sameEntries_of_names (namesOf_entries_eq fun name => (h name).1) fun name v w hv hw => ?_
    have hvalue := (h name).2
    rwa [Record.get, Record.get, Table.get?_eq_some_iff.mpr hv, Table.get?_eq_some_iff.mpr hw]
      at hvalue

theorem same_refl (r : Record) : Record.same r r = true :=
  same_iff.mpr fun _ => ⟨rfl, Value.same_refl _⟩

end Record

/-! ### Renders -/

namespace Renderer

variable {d e : Data}

theorem renderNamed_congr_data (h : d.toRecord = e.toRecord) (renderer : Renderer)
    (template : String) (name : Option String) :
    renderer.renderNamed template d name = renderer.renderNamed template e name := by
  rw [renderNamed, renderNamed, h]

theorem renderFile_congr_data (h : d.toRecord = e.toRecord) (renderer : Renderer)
    (file : String) : renderer.renderFile file d = renderer.renderFile file e := by
  rw [renderFile, renderFile]
  exact congrArg _ (funext fun _ => congrArg _ (funext fun template =>
    renderNamed_congr_data h renderer template (some file)))

end Renderer

/-- Putting entries in one by one and collecting them both make the finite map of the entries. Two
records are equal exactly if they have the same names and equal values under each. Entries whose
order is changed, but not within a name, make an equal record, and so the same renders: output or
failure, calls and log. A record, or its entries in any order, makes that record again. -/
theorem Record.reflects_history (l : List (String × Value)) :
    (Reflects (l.foldl (fun r e => r.insert e.1 e.2) Table.empty) l ∧
        Reflects (Table.ofList l) l) ∧
      (∀ r s : Record, Record.same r s = true ↔ ∀ name, r.contains name = s.contains name ∧
        (Record.get r name).same (Record.get s name) = true) ∧
      (∀ m : List (String × Value),
        (∀ name, (l.filter fun e => e.1 = name) = m.filter fun e => e.1 = name) →
          Record.same (Table.ofList l) (Table.ofList m) = true ∧
            ∀ (renderer : Renderer) (template : String) (name : Option String) (file : String),
              renderer.renderNamed template (.entries l) name =
                  renderer.renderNamed template (.entries m) name ∧
                renderer.renderFile file (.entries l) = renderer.renderFile file (.entries m)) ∧
      (Data.entries l).toRecord = .ok (Table.ofList l) ∧
      ∀ r : Record, (Data.record r).toRecord = .ok r ∧
        ∀ m : List (String × Value), m.Perm r.entries → (Data.entries m).toRecord = .ok r := by
  refine ⟨⟨reflects_ofList l, reflects_ofList l⟩, fun r s => same_iff, fun m h => ?_, rfl,
    fun r => ⟨rfl, fun m hm => congrArg Except.ok (Table.ofList_of_perm_entries hm)⟩⟩
  have heq : Table.ofList l = Table.ofList m :=
    Table.ofList_congr fun name => Table.lastValue?_congr (h name)
  have hdata : (Data.entries l).toRecord = (Data.entries m).toRecord := congrArg Except.ok heq
  refine ⟨heq ▸ same_refl _, fun renderer template name file => ?_⟩
  exact ⟨Renderer.renderNamed_congr_data hdata renderer template name,
    Renderer.renderFile_congr_data hdata renderer file⟩

/-- Two fields that are overwritten, one of them by null. -/
def Record.overwrittenHistory : List (String × Value) :=
  [("limit", .null), ("status", .text "open"), ("limit", .int 5), ("status", .null)]

/-- The same entries, put together by name. -/
def Record.groupedHistory : List (String × Value) :=
  [("status", .text "open"), ("status", .null), ("limit", .null), ("limit", .int 5)]

theorem Record.reflects_history_grouped :
    (∀ name, (overwrittenHistory.filter fun e => e.1 = name) =
        groupedHistory.filter fun e => e.1 = name) ∧
      Record.same (Table.ofList overwrittenHistory) (Table.ofList groupedHistory) = true ∧
      [("status", Value.null), ("limit", .int 5)].Perm (Table.ofList overwrittenHistory).entries ∧
      (Data.entries [("status", .null), ("limit", .int 5)]).toRecord =
        .ok (Table.ofList overwrittenHistory) := by
  have horder : ∀ name, (overwrittenHistory.filter fun e => e.1 = name) =
      groupedHistory.filter fun e => e.1 = name := by
    intro name
    by_cases hlimit : "limit" = name
    · subst hlimit
      rfl
    · by_cases hstatus : "status" = name
      · subst hstatus
        rfl
      · simp [overwrittenHistory, groupedHistory, hlimit, hstatus]
  have hentries : [("status", Value.null), ("limit", .int 5)].Perm
    (Table.ofList overwrittenHistory).entries := .swap _ _ []
  obtain ⟨-, -, hgrouped, -, hcollect⟩ := reflects_history overwrittenHistory
  exact ⟨horder, (hgrouped groupedHistory horder).1, hentries, (hcollect _).2 _ hentries⟩

end ConditionalTemplate
