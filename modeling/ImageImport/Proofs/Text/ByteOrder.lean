/-
# The order of texts is the order of their bytes

Texts are compared character by character, and their encodings byte by byte.  UTF-8 is made so that the two
agree: of two different characters the encodings differ in a byte that both have, and the smaller character
has the smaller byte there (`encode_lt`).
-/
import Mathlib.Tactic.SplitIfs

namespace ImageImport

/-- The bytes of a text in UTF-8. -/
def utf8Bytes (s : String) : List UInt8 := s.toByteArray.data.toList

theorem utf8Bytes_eq (s : String) : utf8Bytes s = s.toList.flatMap String.utf8EncodeChar := by
  rw [utf8Bytes, ← String.utf8Encode_toList, List.utf8Encode, List.data_toByteArray]

theorem toNat_lt (c : Char) : c.val.toNat < 0x110000 := by
  rcases c.valid with h | h
  · exact Nat.lt_trans h (by decide)
  · exact h.2

-- The bytes of an encoding are digits in base 64: with each division taken one digit at a time the
-- comparison of the digits is linear.
theorem div_4096 (v : Nat) : v / 4096 = v / 64 / 64 := by omega

theorem div_262144 (v : Nat) : v / 262144 = v / 64 / 64 / 64 := by omega

/-- **The smaller character comes first by its bytes**, whatever follows the two. -/
theorem encode_lt {a b : Char} (h : a < b) (x y : List UInt8) :
    String.utf8EncodeChar a ++ x < String.utf8EncodeChar b ++ y := by
  have hlt : a.val.toNat < b.val.toNat := UInt32.lt_iff_toNat_lt.mp h
  have hmax := toNat_lt b
  generalize hv : a.val.toNat = v at hlt
  generalize hw : b.val.toNat = w at hlt hmax
  simp only [String.utf8EncodeChar, hv, hw]
  -- by the lengths of the two encodings; a longer one starts with a greater byte
  split_ifs
  all_goals
    simp (disch := omega) only [div_4096, div_262144, List.cons_append, List.nil_append,
      List.cons_lt_cons_iff, UInt8.lt_iff_toNat_lt, ← UInt8.toNat_inj, UInt8.toNat_ofNat', Nat.mod_eq_of_lt]
    omega

/-- The order of the characters is that of their bytes. -/
theorem flatMap_encode_lt {as bs : List Char} (h : as < bs) :
    as.flatMap String.utf8EncodeChar < bs.flatMap String.utf8EncodeChar := by
  induction as generalizing bs with
  | nil =>
    cases bs with
    | nil => exact absurd h (List.not_lt_nil _)
    | cons b bs =>
      cases hb : String.utf8EncodeChar b with
      | nil => simp [String.utf8EncodeChar_ne_nil] at hb
      | cons u us => simp [hb, List.nil_lt_cons]
  | cons a as ih =>
    cases bs with
    | nil => exact absurd h (List.not_lt_nil _)
    | cons b bs =>
      rw [List.flatMap_cons, List.flatMap_cons]
      rcases List.cons_lt_cons_iff.mp h with hab | ⟨rfl, hrest⟩
      · exact encode_lt hab _ _
      · exact List.append_left_lt (ih hrest)

/-- **A text before another one is before it by its bytes.** -/
theorem utf8Bytes_lt {s t : String} (h : s < t) : utf8Bytes s < utf8Bytes t := by
  rw [utf8Bytes_eq, utf8Bytes_eq]
  exact flatMap_encode_lt (String.lt_iff.mp h)

end ImageImport
