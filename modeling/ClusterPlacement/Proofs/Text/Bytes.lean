import Mathlib.Order.Defs.LinearOrder
import Mathlib.Data.String.Basic
import Mathlib.Tactic.SplitIfs
/-! The order of texts is that of their bytes. In UTF-8 a larger character has more bytes or, with as many,
larger ones, and the number of bytes can be told from the first one. So the first character in which two
texts differ decides about their bytes too. -/

namespace ClusterPlacement.Text

/-- The UTF-8 bytes of a text. -/
def bytes (s : String) : List UInt8 := s.toUTF8.data.toList

theorem bytes_eq_flatMap (s : String) : bytes s = s.toList.flatMap String.utf8EncodeChar := by
  have whole : s.toUTF8 = s.toList.utf8Encode := by
    rw [String.toUTF8_eq_toByteArray, ← String.toByteArray_ofList, String.ofList_toList]
  rw [bytes, whole, List.utf8Encode, List.toList_data_toByteArray]

/-- The smaller character has the smaller bytes, whatever comes after them. -/
theorem utf8EncodeChar_append_lt {c d : Char} (less : c < d) (u v : List UInt8) :
    String.utf8EncodeChar c ++ u < String.utf8EncodeChar d ++ v := by
  have codes : c.val.toNat < d.val.toNat := less
  have bound : d.val.toNat < 0x110000 := by
    have valid := d.valid
    simp only [UInt32.isValidChar, Nat.isValidChar] at valid
    omega
  have lead {x y : Nat} (x' : x < 256) (y' : y < 256) (u v : List UInt8) :
      UInt8.ofNat x :: u < UInt8.ofNat y :: v ↔ x < y ∨ x = y ∧ u < v := by
    rw [List.cons_lt_cons_iff, UInt8.lt_iff_toNat_lt, ← UInt8.toNat_inj, UInt8.toNat_ofNat_of_lt' x',
      UInt8.toNat_ofNat_of_lt' y']
  unfold String.utf8EncodeChar
  generalize c.val.toNat = m at codes
  generalize d.val.toNat = n at codes bound
  dsimp only
  -- The digits of a code point in base 64, of which each byte holds one.
  have digits {k : Nat} (small : k < 0x110000) :
      k / 64 / 64 = k / 4096 ∧ k / 4096 / 64 = k / 262144 ∧ k / 262144 % 8 = k / 262144 :=
    ⟨Nat.div_div_eq_div_mul k 64 64, Nat.div_div_eq_div_mul k 4096 64, Nat.mod_eq_of_lt (by omega)⟩
  have := digits (codes.trans bound)
  have := digits bound
  split_ifs
  all_goals
    simp (disch := omega) only [List.cons_append, List.nil_append, lead]
    omega

theorem bytes_lt_of_lt {s t : String} (less : s < t) : bytes s < bytes t := by
  rw [bytes_eq_flatMap, bytes_eq_flatMap]
  rw [String.lt_iff] at less
  generalize s.toList = cs at less
  generalize t.toList = ds at less
  induction less with
  | nil =>
    rename_i d ds
    obtain ⟨b, more, shape⟩ := List.exists_cons_of_ne_nil (String.utf8EncodeChar_ne_nil (c := d))
    rw [List.flatMap_nil, List.flatMap_cons, shape]
    exact .nil
  | cons _ ih =>
    rw [List.flatMap_cons, List.flatMap_cons]
    exact List.append_left_lt ih
  | rel less =>
    rw [List.flatMap_cons, List.flatMap_cons]
    exact utf8EncodeChar_append_lt less _ _

/-- Texts are in the order of their bytes. -/
theorem bytes_lt_iff {s t : String} : bytes s < bytes t ↔ s < t := by
  constructor
  · intro less
    rcases lt_trichotomy s t with before | rfl | after
    · exact before
    · exact absurd less (List.lt_irrefl _)
    · exact absurd less (List.lt_asymm (bytes_lt_of_lt after))
  · exact bytes_lt_of_lt

end ClusterPlacement.Text
