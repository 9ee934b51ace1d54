import Mathlib.Data.String.Basic

/-! # Texts in the order of their bytes

Texts are ordered by their characters, and characters by their code points. The UTF-8 forms of texts,
compared byte by byte, stand in the same order (`bytes_lt_iff`), so what is sorted by name is sorted by
the bytes of the names too. Behind it is that the forms of two characters differ before either of them
ends, and that the smaller character has the smaller byte there (`precedes_utf8EncodeChar`): what
follows the two makes no difference then. -/

namespace Tablewright.Text

/-- The bytes of a text in UTF-8. -/
def bytes (s : String) : List UInt8 :=
  s.toUTF8.data.toList

/-- The bytes of a text are those of its characters in turn. -/
theorem bytes_eq_flatMap (s : String) : bytes s = s.toList.flatMap String.utf8EncodeChar := by
  have hs : s.toUTF8 = s.toList.utf8Encode := by
    rw [String.toUTF8, ← String.toByteArray_ofList, String.ofList_toList]
  rw [bytes, hs, List.utf8Encode, List.data_toByteArray]

/-! ## The first difference -/

/-- Two sequences of bytes differ before either of them ends, and the byte of the first one is the
smaller one there. -/
def Precedes : List UInt8 → List UInt8 → Prop
  | b :: bs, c :: cs => b < c ∨ b = c ∧ Precedes bs cs
  | _, _ => False

/-- The first byte decides the order, or the rest does where the first bytes agree. -/
theorem precedes_cons_iff {m n : Nat} (hm : m < 256) (hn : n < 256) {bs cs : List UInt8} :
    Precedes (UInt8.ofNat m :: bs) (UInt8.ofNat n :: cs) ↔ m < n ∨ m = n ∧ Precedes bs cs := by
  rw [Precedes, UInt8.lt_iff_toNat_lt, ← UInt8.toNat_inj, UInt8.toNat_ofNat_of_lt' hm,
    UInt8.toNat_ofNat_of_lt' hn]

/-- Whatever follows the two makes no difference. -/
theorem Precedes.append_lt {bs cs : List UInt8} (h : Precedes bs cs) (r s : List UInt8) :
    bs ++ r < cs ++ s := by
  induction bs generalizing cs with
  | nil => contradiction
  | cons b bs ih =>
      cases cs with
      | nil => contradiction
      | cons c cs =>
          rw [List.cons_append, List.cons_append, List.cons_lt_cons_iff]
          exact h.imp_right (And.imp_right ih)

/-- **The form of the smaller character comes first**: a longer form has the larger first byte, and in
forms of one length the bytes are the digits of the code points. -/
theorem precedes_utf8EncodeChar {c d : Char} (h : c < d) :
    Precedes (String.utf8EncodeChar c) (String.utf8EncodeChar d) := by
  have hlt : c.val.toNat < d.val.toNat := h
  have hbound : d.val.toNat < 0x110000 := by
    rcases d.valid with hlow | hhigh
    · exact Nat.lt_trans hlow (by decide)
    · exact hhigh.2
  -- the digits of a code point, each of them with those in front of it
  have hdigits : ∀ k < 0x110000, k / 64 / 64 = k / 4096 ∧ k / 4096 / 64 = k / 262144 ∧
      k / 262144 / 8 = 0 := by omega
  simp only [String.utf8EncodeChar]
  generalize c.val.toNat = m at hlt
  generalize d.val.toNat = n at hlt hbound
  have hm := hdigits m (Nat.lt_trans hlt hbound)
  have hn := hdigits n hbound
  split_ifs <;> simp (disch := omega) only [precedes_cons_iff] <;> omega

/-! ## Texts -/

/-- Encoding keeps the strict order of texts. -/
theorem flatMap_utf8EncodeChar_lt {l m : List Char} (h : l < m) :
    l.flatMap String.utf8EncodeChar < m.flatMap String.utf8EncodeChar := by
  induction h with
  | @nil d ds =>
      -- the form of a character is not empty
      have hpos := d.utf8Size_pos
      rw [List.flatMap_nil, List.flatMap_cons]
      cases hd : String.utf8EncodeChar d with
      | nil =>
          rw [← String.length_utf8EncodeChar, hd] at hpos
          contradiction
      | cons b bs => exact List.nil_lt_cons b _
  | rel hlt =>
      rw [List.flatMap_cons, List.flatMap_cons]
      exact (precedes_utf8EncodeChar hlt).append_lt _ _
  | cons _ ih =>
      rw [List.flatMap_cons, List.flatMap_cons]
      exact List.append_left_lt ih

/-- **The bytes of texts stand in the order of the texts.** -/
theorem bytes_lt_iff {a b : String} : bytes a < bytes b ↔ a < b := by
  have hmono {a b : String} (h : a < b) : bytes a < bytes b := by
    rw [bytes_eq_flatMap, bytes_eq_flatMap]
    exact flatMap_utf8EncodeChar_lt (String.lt_iff_toList_lt.mp h)
  refine ⟨fun h => ?_, hmono⟩
  rcases lt_trichotomy a b with hlt | rfl | hgt
  · exact hlt
  · exact absurd h (List.lt_irrefl _)
  · exact absurd (hmono hgt) (List.lt_asymm h)

end Tablewright.Text
