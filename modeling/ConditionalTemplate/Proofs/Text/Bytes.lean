import ConditionalTemplate.Proofs.Text.Occurrence

/-!
# Tags among the bytes of a text

A tag of ASCII characters may be searched for byte by byte, at every offset, also at those inside a
character: the bytes of a character beyond ASCII are beyond ASCII themselves, and no byte of a tag
is (`spelledAt_iff`). So the first offset at which the bytes spell the tag is the position at which
`cut?` cuts (`find?_append`).
-/

namespace ConditionalTemplate.Text

/-- The bytes of the UTF-8 form. -/
def bytes (s : List Char) : List UInt8 :=
  s.flatMap String.utf8EncodeChar

/-- A byte with the ASCII letters in lower case. -/
def lowerByte (b : UInt8) : UInt8 :=
  if 65 ≤ b.toNat ∧ b.toNat ≤ 90 then b + 32 else b

@[simp] theorem bytes_nil : bytes [] = [] := rfl

@[simp] theorem bytes_cons (c : Char) (s : List Char) :
    bytes (c :: s) = String.utf8EncodeChar c ++ bytes s := rfl

theorem length_bytes (s : List Char) : (bytes s).length = width s := by
  induction s with
  | nil => rfl
  | cons c s ih => rw [bytes_cons, List.length_append, String.length_utf8EncodeChar, ih, width_cons]

/-- Positions are those of strings. -/
theorem width_eq_utf8ByteSize (s : List Char) : width s = (String.ofList s).utf8ByteSize := by
  rw [← length_bytes]
  simp [bytes, String.ofList, String.utf8ByteSize, List.utf8Encode]

theorem utf8EncodeChar_of_lt {c : Char} (h : c.toNat < 128) :
    String.utf8EncodeChar c = [UInt8.ofNat c.toNat] := by
  have h : c.val.toNat ≤ 0x7f := Nat.le_of_lt_succ h
  simp only [String.utf8EncodeChar, if_pos h]
  rfl

theorem le_toNat_of_mem_utf8EncodeChar {c : Char} (h : 128 ≤ c.toNat) {b : UInt8}
    (hb : b ∈ String.utf8EncodeChar c) : 128 ≤ b.toNat := by
  have h : ¬ c.val.toNat ≤ 0x7f := Nat.not_le.mpr h
  simp only [String.utf8EncodeChar, if_neg h] at hb
  split at hb
  · simp only [List.mem_cons, List.not_mem_nil, or_false] at hb
    rcases hb with rfl | rfl <;> rw [UInt8.toNat_ofNat'] <;> omega
  split at hb
  · simp only [List.mem_cons, List.not_mem_nil, or_false] at hb
    rcases hb with rfl | rfl | rfl <;> rw [UInt8.toNat_ofNat'] <;> omega
  · simp only [List.mem_cons, List.not_mem_nil, or_false] at hb
    rcases hb with rfl | rfl | rfl | rfl <;> rw [UInt8.toNat_ofNat'] <;> omega

theorem toNat_lowerByte (b : UInt8) :
    (lowerByte b).toNat = if 65 ≤ b.toNat ∧ b.toNat ≤ 90 then b.toNat + 32 else b.toNat := by
  unfold lowerByte
  split
  · rw [UInt8.toNat_add]
    simp only [UInt8.reduceToNat]
    omega
  · rfl

namespace Tag

variable {tag s u v : List Char} {i : Nat}

/-- Every character of the tag is of ASCII. -/
def IsAscii (tag : List Char) : Prop :=
  ∀ c ∈ tag, c.toNat < 128

instance : DecidablePred IsAscii := fun tag =>
  decidable_of_iff (tag.all fun c => c.toNat < 128) (by simp [IsAscii])

theorem toNat_lowerByte_ofNat {c : Char} (h : c.toNat < 128) :
    (lowerByte (UInt8.ofNat c.toNat)).toNat = c.toLower.toNat := by
  rw [toNat_lowerByte, toNat_toLower, UInt8.toNat_ofNat', Nat.mod_eq_of_lt (by omega)]

theorem lowerByte_eq_iff_sameLetter {t c : Char} (ht : t.toNat < 128) (hc : c.toNat < 128) :
    lowerByte (UInt8.ofNat c.toNat) = lowerByte (UInt8.ofNat t.toNat) ↔ sameLetter t c = true := by
  rw [← UInt8.toNat_inj, toNat_lowerByte_ofNat ht, toNat_lowerByte_ofNat hc, sameLetter, beq_iff_eq,
    Char.toNat_inj, eq_comm]

/-- No byte beyond ASCII is one of a tag, whatever its case. -/
theorem lowerByte_ne {t : Char} {b : UInt8} (ht : t.toNat < 128) (hb : 128 ≤ b.toNat) :
    lowerByte b ≠ lowerByte (UInt8.ofNat t.toNat) := by
  intro h
  have h := congrArg UInt8.toNat h
  rw [toNat_lowerByte_ofNat ht, toNat_lowerByte, toNat_toLower] at h
  split at h <;> split at h <;> omega

theorem sameLetter_eq_false {t c : Char} (ht : t.toNat < 128) (hc : 128 ≤ c.toNat) :
    sameLetter t c = false := by
  rw [sameLetter, beq_eq_false_iff_ne]
  intro h
  have h := congrArg Char.toNat h
  rw [toNat_toLower, toNat_toLower] at h
  split at h <;> split at h <;> omega

/-- A tag begins with one byte however it is spelled. -/
theorem Spells.utf8Size_eq_one {c : Char} {w : List Char} (h : Spells tag (c :: w))
    (ht : IsAscii tag) : c.utf8Size = 1 := by
  cases tag with
  | nil => cases h.length_eq
  | cons t tag =>
    have hs := (spells_cons.mp h).1
    rcases Nat.lt_or_ge c.toNat 128 with hc | hc
    · exact Char.utf8Size_eq_one_iff.mpr (UInt32.le_iff_toNat_le.mpr (Nat.le_of_lt_succ hc))
    · rw [sameLetter_eq_false (ht t List.mem_cons_self) hc] at hs
      cases hs

/-- Whether the bytes of the text spell the tag at an offset. -/
def spelledAt (tag s : List Char) (i : Nat) : Bool :=
  (((bytes s).drop i).take (bytes tag).length).map lowerByte == (bytes tag).map lowerByte

theorem spelledAt_zero_iff (ht : IsAscii tag) :
    spelledAt tag s 0 = true ↔ read? tag s ≠ none := by
  rw [spelledAt, beq_iff_eq, List.drop_zero]
  induction tag generalizing s with
  | nil => simp [read?]
  | cons t tag ih =>
    have htt : t.toNat < 128 := ht t List.mem_cons_self
    have ih := @ih s.tail fun c hc => ht c (List.mem_cons_of_mem _ hc)
    rw [bytes_cons, utf8EncodeChar_of_lt htt]
    cases s with
    | nil => simp [read?]
    | cons c s =>
      rcases Nat.lt_or_ge c.toNat 128 with hc | hc
      · rw [bytes_cons, utf8EncodeChar_of_lt hc]
        simp only [List.singleton_append, List.length_cons, List.take_succ_cons, List.map_cons,
          List.cons.injEq, lowerByte_eq_iff_sameLetter htt hc, read?]
        split
        · next hs => simpa [hs] using ih
        · next hs => simp [hs]
      · rw [read?, sameLetter_eq_false htt hc, bytes_cons]
        cases he : String.utf8EncodeChar c with
        | nil => exact absurd he String.utf8EncodeChar_ne_nil
        | cons b l =>
          have hb : 128 ≤ b.toNat :=
            le_toNat_of_mem_utf8EncodeChar hc (by rw [he]; exact List.mem_cons_self)
          simp [lowerByte_ne htt hb]

theorem spelledAt_cons_add (tag : List Char) (c : Char) (s : List Char) (j : Nat) :
    spelledAt tag (c :: s) (c.utf8Size + j) = spelledAt tag s j := by
  rw [spelledAt, bytes_cons, ← String.length_utf8EncodeChar, List.drop_length_add_append, spelledAt]

/-- Inside a character there are only bytes beyond ASCII. -/
theorem spelledAt_cons_eq_false {c : Char} (ht : IsAscii tag) (hne : tag ≠ []) (h0 : i ≠ 0)
    (hi : i < c.utf8Size) : spelledAt tag (c :: s) i = false := by
  have hc : 128 ≤ c.toNat := by
    rcases Nat.lt_or_ge c.toNat 128 with hlt | hge
    · have := String.length_utf8EncodeChar c
      rw [utf8EncodeChar_of_lt hlt] at this
      simp only [List.length_cons, List.length_nil] at this
      omega
    · exact hge
  have hlen : i < (String.utf8EncodeChar c).length := by rwa [String.length_utf8EncodeChar]
  obtain ⟨t, tag', rfl⟩ := List.exists_cons_of_ne_nil hne
  have htt : t.toNat < 128 := ht t List.mem_cons_self
  have hb := le_toNat_of_mem_utf8EncodeChar hc (List.getElem_mem hlen)
  have hd := List.drop_eq_getElem_cons hlen
  generalize (String.utf8EncodeChar c)[i] = b at hb hd
  rw [spelledAt, bytes_cons c, List.drop_append_of_le_length (Nat.le_of_lt hlen), hd, bytes_cons,
    utf8EncodeChar_of_lt htt]
  simp [lowerByte_ne htt hb]

/-- The bytes spell a tag exactly where the text does. -/
theorem spelledAt_iff (ht : IsAscii tag) (hne : tag ≠ []) :
    spelledAt tag s i = true ↔ OccursAt tag s i := by
  induction s generalizing i with
  | nil =>
    obtain ⟨t, tag', rfl⟩ := List.exists_cons_of_ne_nil hne
    constructor
    · intro h
      simp [spelledAt, utf8EncodeChar_of_lt (ht t List.mem_cons_self)] at h
    · rintro ⟨u, w, v, he, -, hs⟩
      have hw := (List.append_eq_nil_iff.mp (List.append_eq_nil_iff.mp he.symm).2).1
      exact absurd hw (hs.ne_nil hne)
  | cons c s ih =>
    rcases Nat.eq_zero_or_pos i with rfl | hpos
    · rw [spelledAt_zero_iff ht, occursAt_zero]
    rcases Nat.lt_or_ge i c.utf8Size with hlt | hge
    · rw [spelledAt_cons_eq_false ht hne (Nat.ne_of_gt hpos) hlt]
      constructor
      · intro h
        cases h
      · intro h
        obtain ⟨j, rfl, -⟩ := h.of_cons (Nat.ne_of_gt hpos)
        omega
    · obtain ⟨j, rfl⟩ := Nat.exists_eq_add_of_le hge
      rw [spelledAt_cons_add, ih]
      constructor
      · exact fun h => h.cons c
      · intro h
        obtain ⟨k, hk, hoc⟩ := h.of_cons (Nat.ne_of_gt hpos)
        rwa [Nat.add_left_cancel hk]

/-- The bytes from one offset up to another one, if both are offsets of the text. -/
def byteSlice? (s : List Char) (start stop : Nat) : Option (List UInt8) :=
  if start ≤ stop ∧ stop ≤ (bytes s).length then
    some (((bytes s).drop start).take (stop - start))
  else none

/-- The first of the offsets at which the bytes spell the tag; fails if there is no room for it. -/
def firstSpelled? (tag s : List Char) : List Nat → Option (Option Nat)
  | [] => some none
  | i :: rest => do
    let part ← byteSlice? s i (i + (bytes tag).length)
    if part.map lowerByte = (bytes tag).map lowerByte then some (some i)
    else firstSpelled? tag s rest

/-- The first offset from `start` on at which the bytes spell the tag. -/
def find? (tag s : List Char) (start : Nat) : Option (Option Nat) :=
  let room := (bytes s).length
  let needed := (bytes tag).length
  if room < start ∨ room - start < needed then some none
  else firstSpelled? tag s (List.range' start (room - needed - start + 1))

theorem firstSpelled?_eq {l : List Nat} (hl : ∀ i ∈ l, i + (bytes tag).length ≤ (bytes s).length) :
    firstSpelled? tag s l = some (l.find? (spelledAt tag s)) := by
  induction l with
  | nil => rfl
  | cons i rest ih =>
    have hi := hl i List.mem_cons_self
    rw [firstSpelled?, byteSlice?, if_pos ⟨Nat.le_add_right _ _, hi⟩,
      ih fun j hj => hl j (List.mem_cons_of_mem _ hj), Nat.add_sub_cancel_left, List.find?_cons,
      spelledAt]
    show (if _ then _ else _) = _
    split
    · next h => rw [beq_iff_eq.mpr h]
    · next h => rw [beq_eq_false_iff_ne.mpr h]

theorem OccursAt.add_le (h : OccursAt tag s i) : i + (bytes tag).length ≤ (bytes s).length := by
  obtain ⟨u, w, v, rfl, rfl, hs⟩ := h
  rw [length_bytes, length_bytes, ← hs.width_eq, width_append, width_append]
  omega

theorem occursAt_append_add {j : Nat} : OccursAt tag (u ++ v) (width u + j) ↔ OccursAt tag v j := by
  constructor
  · rintro ⟨u', w, r, he, hu, hs⟩
    obtain ⟨t, rfl, rfl⟩ := exists_append_of_width_le he (by omega)
    rw [width_append] at hu
    exact ⟨t, w, r, rfl, by omega, hs⟩
  · rintro ⟨u', w, r, rfl, rfl, hs⟩
    exact ⟨u ++ u', w, r, by rw [List.append_assoc], width_append u u', hs⟩

/-- The search among the bytes never runs out of the text, and finds the place of the cut. -/
theorem find?_append (ht : IsAscii tag) (hne : tag ≠ []) (u v : List Char) :
    find? tag (u ++ v) (width u) = some ((cut? tag v).map fun cut => width u + width cut.before) := by
  have hlen : (bytes (u ++ v)).length = width u + width v := by rw [length_bytes, width_append]
  have hnone : ∀ {i}, width u ≤ i → spelledAt tag (u ++ v) i = true → OccursAt tag v (i - width u) := by
    intro i hi hs
    rw [← occursAt_append_add (u := u), Nat.add_sub_cancel' hi]
    exact (spelledAt_iff ht hne).mp hs
  rw [find?]
  split
  · next hroom =>
    rw [hlen] at hroom
    have hcut : cut? tag v = none := by
      rw [cut?_eq_none_iff]
      intro j hj
      have := hj.add_le
      rw [length_bytes v] at this
      omega
    rw [hcut]
    rfl
  · next hroom =>
    rw [hlen] at hroom
    rw [firstSpelled?_eq fun i hi => by rw [List.mem_range'_1] at hi; omega]
    congr 1
    cases hcut : cut? tag v with
    | none =>
      rw [Option.map_none, List.find?_eq_none]
      intro i hi hs
      rw [List.mem_range'_1] at hi
      exact cut?_eq_none_iff.mp hcut _ (hnone hi.1 hs)
    | some cut =>
      have hf := Cut.firstAt hcut
      have hroom' := (occursAt_append_add (u := u).mpr hf.1).add_le
      rw [Option.map_some, List.find?_range'_eq_some]
      refine ⟨(spelledAt_iff ht hne).mpr (occursAt_append_add.mpr hf.1), ?_, fun j hj hlt => ?_⟩
      · rw [List.mem_range'_1]
        omega
      · rw [Bool.not_eq_true', Bool.eq_false_iff]
        exact fun hs => hf.2 _ (by omega) (hnone hj hs)

end Tag

end ConditionalTemplate.Text
