import CodeSurvey.FileSystem.Utf8
import Mathlib.Data.List.Forall2

/-!
# Well-formed bytes

The bytes of the characters are those of a table of nine rows, each with a range for each of its
bytes. No row has a character in more bytes than it needs, a surrogate, or a number above the last
character. Bytes encode a text exactly if they are cut into rows of the table.

## Main definitions

* `Utf8.rows`: the table.
* `Utf8.WellFormed bytes`: the bytes are cut into rows of the table.
-/

namespace CodeSurvey
namespace Utf8

/-! ## The table -/

/-- The first and the last byte that can continue a character. -/
def tail : Nat × Nat := (0x80, 0xBF)

/-- The rows of the table: the first and the last value of each byte of a character. -/
def rows : List (List (Nat × Nat)) := [
  [(0x00, 0x7F)],
  [(0xC2, 0xDF), tail],
  [(0xE0, 0xE0), (0xA0, 0xBF), tail],
  [(0xE1, 0xEC), tail, tail],
  [(0xED, 0xED), (0x80, 0x9F), tail],
  [(0xEE, 0xEF), tail, tail],
  [(0xF0, 0xF0), (0x90, 0xBF), tail, tail],
  [(0xF1, 0xF3), tail, tail, tail],
  [(0xF4, 0xF4), (0x80, 0x8F), tail, tail]]

/-- Whether there is one byte for each range of a row, and in it. -/
def FitsRow (row : List (Nat × Nat)) (bytes : List UInt8) : Prop :=
  List.Forall₂ (fun range b => range.1 ≤ b.toNat ∧ b.toNat ≤ range.2) row bytes

instance (row : List (Nat × Nat)) (bytes : List UInt8) : Decidable (FitsRow row bytes) :=
  inferInstanceAs (Decidable (List.Forall₂ _ row bytes))

/-- Bytes that are cut into rows of the table. -/
inductive WellFormed : List UInt8 → Prop
  | nil : WellFormed []
  | append {row : List (Nat × Nat)} {bytes rest : List UInt8} (mem : row ∈ rows)
      (fits : FitsRow row bytes) (rest_wellFormed : WellFormed rest) : WellFormed (bytes ++ rest)

/-! ## From characters to rows -/

/-- The bytes of a character fit a row. -/
theorem exists_row_of_char (c : Char) : ∃ row ∈ rows, FitsRow row (String.utf8EncodeChar c) := by
  have hvalid : c.val.toNat < 0xD800 ∨ 0xDFFF < c.val.toNat ∧ c.val.toNat < 0x110000 := c.valid
  simp only [rows, List.mem_cons, List.not_mem_nil, or_false, exists_eq_or_imp, exists_eq_left]
  rw [String.utf8EncodeChar]
  generalize c.val.toNat = v at hvalid
  -- The cases are the numbers of bytes: one, two, three and four.
  split
  · left
    simp [FitsRow]
    omega
  split
  · right; left
    simp [FitsRow, tail]
    omega
  split
  · simp [FitsRow, tail]
    omega
  · simp [FitsRow, tail]
    omega

/-! ## From rows to characters -/

section Chars

variable {b₁ b₂ b₃ b₄ : UInt8}

/-- The character of a number that is one, outside the surrogates. -/
theorem exists_char_of_valid {v : Nat} (h : v < 0xD800 ∨ 0xDFFF < v ∧ v < 0x110000) :
    ∃ c : Char, c.val.toNat = v :=
  ⟨Char.ofNatAux v h, rfl⟩

theorem exists_char_of_one (h : b₁.toNat ≤ 0x7F) : ∃ c, String.utf8EncodeChar c = [b₁] := by
  obtain ⟨c, hc⟩ := exists_char_of_valid (v := b₁.toNat) (by omega)
  refine ⟨c, ?_⟩
  rw [String.utf8EncodeChar, hc, if_pos h, UInt8.ofNat_toNat]

theorem exists_char_of_two (h₁ : 0xC2 ≤ b₁.toNat ∧ b₁.toNat ≤ 0xDF)
    (h₂ : 0x80 ≤ b₂.toNat ∧ b₂.toNat ≤ 0xBF) : ∃ c, String.utf8EncodeChar c = [b₁, b₂] := by
  obtain ⟨c, hc⟩ :=
    exists_char_of_valid (v := (b₁.toNat - 0xC0) * 64 + (b₂.toNat - 0x80)) (by omega)
  refine ⟨c, ?_⟩
  rw [String.utf8EncodeChar, hc, if_neg (by omega), if_pos (by omega)]
  simp only [List.cons.injEq, and_true, ← UInt8.toNat_inj, UInt8.toNat_ofNat']
  omega

/-- Three bytes spell a character unless two were enough for it or it is a surrogate. -/
theorem exists_char_of_three (h₁ : 0xE0 ≤ b₁.toNat ∧ b₁.toNat ≤ 0xEF)
    (h₂ : 0x80 ≤ b₂.toNat ∧ b₂.toNat ≤ 0xBF) (h₃ : 0x80 ≤ b₃.toNat ∧ b₃.toNat ≤ 0xBF)
    (hshort : b₁.toNat = 0xE0 → 0xA0 ≤ b₂.toNat)
    (hsurrogate : b₁.toNat = 0xED → b₂.toNat ≤ 0x9F) :
    ∃ c, String.utf8EncodeChar c = [b₁, b₂, b₃] := by
  obtain ⟨c, hc⟩ := exists_char_of_valid
    (v := (b₁.toNat - 0xE0) * 4096 + (b₂.toNat - 0x80) * 64 + (b₃.toNat - 0x80)) (by omega)
  refine ⟨c, ?_⟩
  rw [String.utf8EncodeChar, hc, if_neg (by omega), if_neg (by omega), if_pos (by omega)]
  simp only [List.cons.injEq, and_true, ← UInt8.toNat_inj, UInt8.toNat_ofNat']
  omega

/-- Four bytes spell a character unless three were enough for it or there is no such character. -/
theorem exists_char_of_four (h₁ : 0xF0 ≤ b₁.toNat ∧ b₁.toNat ≤ 0xF4)
    (h₂ : 0x80 ≤ b₂.toNat ∧ b₂.toNat ≤ 0xBF) (h₃ : 0x80 ≤ b₃.toNat ∧ b₃.toNat ≤ 0xBF)
    (h₄ : 0x80 ≤ b₄.toNat ∧ b₄.toNat ≤ 0xBF) (hshort : b₁.toNat = 0xF0 → 0x90 ≤ b₂.toNat)
    (hlast : b₁.toNat = 0xF4 → b₂.toNat ≤ 0x8F) :
    ∃ c, String.utf8EncodeChar c = [b₁, b₂, b₃, b₄] := by
  obtain ⟨c, hc⟩ := exists_char_of_valid (v := (b₁.toNat - 0xF0) * 262144 +
    (b₂.toNat - 0x80) * 4096 + (b₃.toNat - 0x80) * 64 + (b₄.toNat - 0x80)) (by omega)
  refine ⟨c, ?_⟩
  rw [String.utf8EncodeChar, hc, if_neg (by omega), if_neg (by omega), if_neg (by omega)]
  simp only [List.cons.injEq, and_true, ← UInt8.toNat_inj, UInt8.toNat_ofNat']
  omega

end Chars

/-- Bytes that fit a row are those of a character. -/
theorem exists_char_of_row {row : List (Nat × Nat)} {bytes : List UInt8} (hrow : row ∈ rows)
    (h : FitsRow row bytes) : ∃ c, String.utf8EncodeChar c = bytes := by
  simp only [rows, tail, List.mem_cons, List.not_mem_nil, or_false] at hrow
  -- One byte, two bytes, four rows of three bytes and three rows of four.
  rcases hrow with rfl | rfl | rfl | rfl | rfl | rfl | rfl | rfl | rfl
  · rcases h with _ | ⟨h₁, _ | _⟩
    exact exists_char_of_one h₁.2
  · rcases h with _ | ⟨h₁, _ | ⟨h₂, _ | _⟩⟩
    exact exists_char_of_two h₁ h₂
  iterate 4
    · rcases h with _ | ⟨h₁, _ | ⟨h₂, _ | ⟨h₃, _ | _⟩⟩⟩
      dsimp only at h₁ h₂
      exact exists_char_of_three (by omega) (by omega) h₃ (by omega) (by omega)
  iterate 3
    · rcases h with _ | ⟨h₁, _ | ⟨h₂, _ | ⟨h₃, _ | ⟨h₄, _ | _⟩⟩⟩⟩
      dsimp only at h₁ h₂
      exact exists_char_of_four (by omega) (by omega) h₃ h₄ (by omega) (by omega)

/-! ## Texts -/

theorem toList_encode (t : Text) : (encode t).data.toList = t.flatMap String.utf8EncodeChar := by
  simp [encode, List.utf8Encode]

theorem wellFormed_flatMap (t : Text) : WellFormed (t.flatMap String.utf8EncodeChar) := by
  induction t with
  | nil => exact .nil
  | cons c t ih =>
      obtain ⟨row, hrow, hfits⟩ := exists_row_of_char c
      rw [List.flatMap_cons]
      exact .append hrow hfits ih

theorem exists_flatMap_of_wellFormed {bytes : List UInt8} (h : WellFormed bytes) :
    ∃ t : Text, t.flatMap String.utf8EncodeChar = bytes := by
  induction h with
  | nil => exact ⟨[], rfl⟩
  | append hrow hfits _ ih =>
      obtain ⟨c, rfl⟩ := exists_char_of_row hrow hfits
      obtain ⟨t, rfl⟩ := ih
      exact ⟨c :: t, List.flatMap_cons⟩

/-- Bytes encode a text exactly if they are well-formed. -/
theorem exists_encode_iff {content : ByteArray} :
    (∃ t, encode t = content) ↔ WellFormed content.data.toList := by
  constructor
  · rintro ⟨t, rfl⟩
    rw [toList_encode]
    exact wellFormed_flatMap t
  · intro h
    obtain ⟨t, ht⟩ := exists_flatMap_of_wellFormed h
    refine ⟨t, ByteArray.ext (Array.toList_inj.1 ?_)⟩
    rw [toList_encode, ht]

end Utf8
end CodeSurvey
