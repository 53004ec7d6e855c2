import ConditionalTemplate.Json.Reader
import ConditionalTemplate.Proofs.Record.Map
import ConditionalTemplate.Proofs.Text.ByteOrder
import Mathlib

/-!
# JSON trees with rearranged members

The members of an object may be written in any order, and a member does not count if a later one has
its name. `SameTree` relates trees that differ in nothing else, at any depth. They have the same
value and make the same record (`SameTree.conversion_eq`), since an object becomes the sequence of
the members that count, in the order of the bytes of their names (`standing_standingMembers`).
-/

namespace ConditionalTemplate.Json

open Table (namesOf lastValue? mapEntries)

/-- Two ways to write one tree, with one difference between them. -/
inductive Rewritten : Json → Json → Prop where
  /-- The members of an object in another order; no name is there twice. -/
  | reordered {l m : List (String × Json)} (hnames : (l.map (·.1)).Nodup) (h : l.Perm m) :
    Rewritten (.object l) (.object m)
  /-- One more member, before another one of its name. -/
  | repeated {l m : List (String × Json)} {name : String} {value : Json}
    (h : name ∈ m.map (·.1)) : Rewritten (.object (l ++ m)) (.object (l ++ (name, value) :: m))
  /-- A difference in an item of an array. -/
  | item {l m : List Json} {j k : Json} (h : Rewritten j k) :
    Rewritten (.array (l ++ j :: m)) (.array (l ++ k :: m))
  /-- A difference in the value of a member. -/
  | member {l m : List (String × Json)} {name : String} {j k : Json} (h : Rewritten j k) :
    Rewritten (.object (l ++ (name, j) :: m)) (.object (l ++ (name, k) :: m))

/-- Ways to write one tree, with any number of differences. -/
def SameTree : Json → Json → Prop :=
  Relation.EqvGen Rewritten

/-- The members of an object that count: of several with one name the last one, in the order of the
bytes of their names. -/
structure Standing (members standing : List (String × Json)) : Prop where
  ordered : standing.Pairwise fun a b => Text.bytes a.1.toList < Text.bytes b.1.toList
  mem_iff : ∀ name value, (name, value) ∈ standing ↔ lastValue? name members = some value
  length_eq : standing.length = (namesOf members).dedup.length

/-! ### The members that count -/

def standingMembers (members : List (String × Json)) : List (String × Json) :=
  (Table.ofList members).entries

theorem standing_standingMembers (members : List (String × Json)) :
    Standing members (standingMembers members) where
  ordered := (Table.ofList members).sorted.imp fun h => Text.bytes_lt_of_lt h
  mem_iff name value := by rw [standingMembers, ← Table.get?_eq_some_iff, Table.get?_ofList]
  length_eq := Table.size_ofList members

/-! ### Conversion by item and by member -/

section

variable [BinaryConversion] {j k : Json} {l m : List (String × Json)}

theorem itemValues_eq_map (items : List Json) : itemValues items = items.map toValue := by
  induction items with
  | nil => rfl
  | cons item items ih => rw [itemValues, ih, List.map_cons]

theorem memberValues_eq_mapEntries (members : List (String × Json)) :
    memberValues members = mapEntries toValue members := by
  induction members with
  | nil => rfl
  | cons member members ih =>
    rw [memberValues, ih]
    rfl

theorem isNull_toValue (j : Json) : j.toValue.isNull = true ↔ j = .null := by
  cases j with
  | null => exact ⟨fun _ => rfl, fun _ => rfl⟩
  | number n =>
    refine ⟨fun h => ?_, nofun⟩
    -- a natural number out of range becomes a decimal, which is not null either
    have hne : n.toValue.isNull = false := by
      cases n with
      | natural n =>
        rw [Number.toValue]
        split <;> rfl
      | negative n => rfl
      | double f => rfl
    cases hne.symm.trans h
  | bool | string | array | object => exact ⟨nofun, nofun⟩

theorem ofList_memberValues (members : List (String × Json)) :
    Table.ofList (memberValues members) = (Table.ofList members).map toValue := by
  rw [memberValues_eq_mapEntries, Table.ofList_map]

theorem toValue_object (members : List (String × Json)) : (Json.object members).toValue =
    .sequence ((standingMembers members).map fun e => e.2.toValue) := by
  rw [toValue, ofList_memberValues, Table.values_map]
  rfl

/-! ### Rearranged trees -/

theorem toRecord_object (members : List (String × Json)) :
    (Data.json (.object members)).toRecord = .ok (Table.ofList (memberValues members)) := rfl

theorem conversion_eq_of_ofList
    (h : Table.ofList (memberValues l) = Table.ofList (memberValues m)) :
    (Json.object l).toValue = (Json.object m).toValue ∧
      (Data.json (.object l)).toRecord = (Data.json (.object m)).toRecord := by
  rw [toValue, toValue, toRecord_object, toRecord_object, h]
  exact ⟨rfl, rfl⟩

theorem Rewritten.conversion_eq (h : Rewritten j k) :
    j.toValue = k.toValue ∧ (Data.json j).toRecord = (Data.json k).toRecord := by
  induction h with
  | reordered hnames hperm =>
    refine conversion_eq_of_ofList ?_
    rw [ofList_memberValues, ofList_memberValues,
      Table.ofList_congr fun name => Table.lastValue?_perm hnames hperm]
  | repeated hname =>
    refine conversion_eq_of_ofList ?_
    rw [ofList_memberValues, ofList_memberValues,
      Table.ofList_congr fun name => (Table.lastValue?_append_cons hname _ _).symm]
  | item _ ih =>
    refine ⟨?_, rfl⟩
    rw [toValue, toValue, itemValues_eq_map, itemValues_eq_map, List.map_append, List.map_append,
      List.map_cons, List.map_cons, ih.1]
  | member _ ih =>
    refine conversion_eq_of_ofList (congrArg Table.ofList ?_)
    rw [memberValues_eq_mapEntries, memberValues_eq_mapEntries, mapEntries, mapEntries,
      List.map_append, List.map_append, List.map_cons, List.map_cons, ih.1]

theorem SameTree.conversion_eq (h : SameTree j k) :
    j.toValue = k.toValue ∧ (Data.json j).toRecord = (Data.json k).toRecord := by
  induction h with
  | rel _ _ h => exact h.conversion_eq
  | refl => exact ⟨rfl, rfl⟩
  | symm _ _ _ ih => exact ⟨ih.1.symm, ih.2.symm⟩
  | trans _ _ _ _ _ ih ih' => exact ⟨ih.1.trans ih'.1, ih.2.trans ih'.2⟩

/-- Texts of one tree, rearranged at any depth, make equal values and equal records. What is
converted is null only if the JSON is, an array becomes the sequence of its items, and an object the
sequence of the members that count, by the bytes of their names. -/
theorem conversion_rearranged (s t : List Char) (j k : Json) (hs : read s = .ok j)
    (ht : read t = .ok k) (h : SameTree j k) :
    ((read s).map toValue = (read t).map toValue ∧
        ((read s).map fun j => (Data.json j).toRecord) =
          (read t).map fun j => (Data.json j).toRecord) ∧
      (∀ r r', (Data.json j).toRecord = .ok r → (Data.json k).toRecord = .ok r' →
        Record.same r r' = true ∧ ∀ name, r.get? name = r'.get? name) ∧
      (∀ j : Json, j.toValue.isNull = true ↔ j = .null) ∧
      (∀ items : List Json, (Json.array items).toValue = .sequence (items.map toValue)) ∧
      ∀ members : List (String × Json), ∃ standing, Standing members standing ∧
        (Json.object members).toValue = .sequence (standing.map fun e => e.2.toValue) ∧
        ∃ r, (Data.json (.object members)).toRecord = .ok r ∧
          r.entries = standing.map fun e => (e.1, e.2.toValue) := by
  obtain ⟨hvalue, hrecord⟩ := h.conversion_eq
  refine ⟨⟨?_, ?_⟩, fun r r' hr hr' => ?_, isNull_toValue, fun items => ?_, fun members => ?_⟩
  · rw [hs, ht, Except.map, Except.map, hvalue]
  · rw [hs, ht, Except.map, Except.map, hrecord]
  · obtain rfl := Except.ok.inj (hr.symm.trans (hrecord.trans hr'))
    exact ⟨Record.same_refl r, fun _ => rfl⟩
  · rw [toValue, itemValues_eq_map]
  · refine ⟨standingMembers members, standing_standingMembers members, toValue_object members,
      _, rfl, ?_⟩
    rw [ofList_memberValues]
    rfl

end

/-- An array with an object of two members. -/
def innerArray : Json :=
  .array [.object [("y", .null), ("x", .bool true)], .number (.natural 2)]

/-- The same array with the two members exchanged. -/
def rearrangedArray : Json :=
  .array [.object [("x", .bool true), ("y", .null)], .number (.natural 2)]

/-- Members exchanged at two depths, and one more that does not count. -/
theorem conversion_rearranged_nested :
    read "\x7b\"a\":[\x7b\"y\":null,\"x\":true\x7d,2],\"b\":\"t\"\x7d".toList =
        .ok (.object [("a", innerArray), ("b", .string "t")]) ∧
      read "\x7b\"b\":0, \"b\":\"t\", \"a\":[\x7b\"x\":true,\"y\":null\x7d,2]\x7d".toList =
        .ok (.object [("b", .number (.natural 0)), ("b", .string "t"), ("a", rearrangedArray)]) ∧
      SameTree (.object [("a", innerArray), ("b", .string "t")])
        (.object [("b", .number (.natural 0)), ("b", .string "t"), ("a", rearrangedArray)]) ∧
      (Data.json (.object [("a", innerArray), ("b", .string "t")])).toRecord =
        (Data.json (.object [("b", .number (.natural 0)), ("b", .string "t"),
          ("a", rearrangedArray)])).toRecord := by
  have hs : read "\x7b\"a\":[\x7b\"y\":null,\"x\":true\x7d,2],\"b\":\"t\"\x7d".toList =
      .ok (.object [("a", innerArray), ("b", .string "t")]) := by
    cbv
  have ht : read "\x7b\"b\":0, \"b\":\"t\", \"a\":[\x7b\"x\":true,\"y\":null\x7d,2]\x7d".toList =
      .ok (.object [("b", .number (.natural 0)), ("b", .string "t"), ("a", rearrangedArray)]) := by
    cbv
  have hinner : Rewritten innerArray rearrangedArray :=
    .item (l := []) (.reordered (by decide) (.swap _ _ []))
  have hmember : Rewritten (.object [("a", innerArray), ("b", .string "t")])
      (.object [("a", rearrangedArray), ("b", .string "t")]) :=
    .member (l := []) hinner
  have houter : Rewritten (.object [("a", rearrangedArray), ("b", .string "t")])
      (.object [("b", .string "t"), ("a", rearrangedArray)]) :=
    .reordered (by decide) (.swap _ _ [])
  have hrepeated : Rewritten (.object [("b", .string "t"), ("a", rearrangedArray)])
      (.object [("b", .number (.natural 0)), ("b", .string "t"), ("a", rearrangedArray)]) :=
    .repeated (l := []) (by decide)
  have hsame := Relation.EqvGen.trans _ _ _ (.rel _ _ hmember)
    (.trans _ _ _ (.rel _ _ houter) (.rel _ _ hrepeated))
  have hrecords := (conversion_rearranged _ _ _ _ hs ht hsame).1.2
  rw [hs, ht] at hrecords
  exact ⟨hs, ht, hsame, Except.ok.inj hrecords⟩

end ConditionalTemplate.Json
