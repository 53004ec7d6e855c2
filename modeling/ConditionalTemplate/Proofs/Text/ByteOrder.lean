import ConditionalTemplate.Proofs.Text.Bytes
import Mathlib.Tactic.SplitIfs

/-!
# The order of texts and the order of their bytes

Texts are ordered by their characters. UTF-8 keeps that order: the bytes of a lesser character come
first in the order of bytes, whatever follows (`utf8EncodeChar_append_lt`), and so do the bytes of a
lesser text (`bytes_lt_of_lt`).
-/

namespace ConditionalTemplate.Text

theorem toNat_lt_codePoints (c : Char) : c.val.toNat < 0x110000 := by
  rcases c.valid with h | ⟨_, h⟩
  · exact Nat.lt_trans h (by decide)
  · exact h

/-- The bytes of a lesser character are lesser at the first place where they differ. -/
theorem utf8EncodeChar_append_lt {c d : Char} (h : c < d) (u v : List UInt8) :
    String.utf8EncodeChar c ++ u < String.utf8EncodeChar d ++ v := by
  have hlt : c.val.toNat < d.val.toNat := UInt32.lt_iff_toNat_lt.mp h
  have hmax := toNat_lt_codePoints d
  simp only [String.utf8EncodeChar]
  generalize c.val.toNat = m at *
  generalize d.val.toNat = n at *
  have htoNat {k : Nat} (hk : k < 256) : (UInt8.ofNat k).toNat = k := UInt8.toNat_ofNat_of_lt' hk
  -- the bytes are the digits of the code point to the base 64
  have h₂ (k : Nat) : k / 4096 = k / 64 / 64 := (Nat.div_div_eq_div_mul k 64 64).symm
  have h₃ (k : Nat) : k / 262144 = k / 64 / 64 / 64 := by
    rw [Nat.div_div_eq_div_mul, Nat.div_div_eq_div_mul]
  split_ifs <;> (try omega) <;>
    simp (disch := omega) only [List.cons_append, List.nil_append, List.cons_lt_cons_iff,
      UInt8.lt_iff_toNat_lt, ← UInt8.toNat_inj, htoNat, h₂, h₃] <;>
    omega

/-- A lesser text has the lesser bytes. -/
theorem bytes_lt_of_lt {s t : List Char} (h : s < t) : bytes s < bytes t := by
  induction s generalizing t with
  | nil =>
    cases t with
    | nil => exact absurd h (List.lt_irrefl _)
    | cons d t =>
      have hne : bytes (d :: t) ≠ [] := by
        rw [← List.length_pos_iff, length_bytes]
        exact width_pos (List.cons_ne_nil d t)
      obtain ⟨b, u, hb⟩ := List.exists_cons_of_ne_nil hne
      rw [hb]
      exact List.nil_lt_cons b u
  | cons c s ih =>
    cases t with
    | nil => exact absurd h (List.not_lt_nil _)
    | cons d t =>
      rw [bytes_cons, bytes_cons]
      rcases List.cons_lt_cons_iff.mp h with hlt | ⟨rfl, hlt⟩
      · exact utf8EncodeChar_append_lt hlt _ _
      · exact List.append_left_lt (ih hlt)

end ConditionalTemplate.Text
