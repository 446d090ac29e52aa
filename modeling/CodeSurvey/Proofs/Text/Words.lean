import CodeSurvey.Proofs.Text.Pieces
import CodeSurvey.Text.Word

/-!
# Whole words

A run of word characters is whole if no word character stands next to it. The words of a text are
its whole runs, wherever they stand: cutting at the other characters finds each of them, and nothing
else.

## Main definitions

* `Text.Isolate before after`: what stands between two texts has no word character next to it.
* `Text.StandsIn w t`: the text `w` stands in `t` with no word character next to it.
-/

namespace CodeSurvey
namespace Text

/-- Neither of two texts puts a word character next to what stands between them. -/
structure Isolate (before after : Text) : Prop where
  before : ∀ c ∈ before.getLast?, isWord c = false
  after : ∀ c ∈ after.head?, isWord c = false

/-- A text stands in another one with no word character next to it. -/
def StandsIn (w t : Text) : Prop := ∃ before after, t = before ++ w ++ after ∧ Isolate before after

variable {p : Char → Bool} {piece t : Text}

/-! ## Letters and digits -/

section Ascii

variable {c : Char}

theorem isAlpha_iff : c.isAlpha = true ↔
    (0x41 ≤ c.toNat ∧ c.toNat ≤ 0x5A) ∨ (0x61 ≤ c.toNat ∧ c.toNat ≤ 0x7A) := by
  have hranges : c.isAlpha = (decide ('A'.val ≤ c.val ∧ c.val ≤ 'Z'.val) ||
      (decide ('a'.val ≤ c.val) && decide (c.val ≤ 'z'.val))) := rfl
  rw [hranges]
  simp only [Bool.or_eq_true, Bool.and_eq_true, decide_eq_true_eq, UInt32.le_iff_toNat_le]
  rfl

theorem isDigit_iff : c.isDigit = true ↔ 0x30 ≤ c.toNat ∧ c.toNat ≤ 0x39 := by
  simp only [Char.isDigit, Bool.and_eq_true, decide_eq_true_eq, UInt32.le_iff_toNat_le]
  rfl

theorem toNat_lt_of_isAlphanum (h : c.isAlphanum = true) : c.toNat < 0x80 := by
  simp only [Char.isAlphanum, Bool.or_eq_true, isAlpha_iff, isDigit_iff] at h
  omega

end Ascii

/-! ## Pieces -/

theorem splitWhere_of_forall_not {t : Text} (h : ∀ c ∈ t, p c = false) : splitWhere p t = [t] := by
  rw [splitWhere_eq_splitOnP, List.splitOnP_eq_singleton h]

theorem splitWhere_append_cons (x y : Text) {c : Char} (hc : p c = true) :
    splitWhere p (x ++ c :: y) = splitWhere p x ++ splitWhere p y := by
  simp only [splitWhere_eq_splitOnP, List.splitOnP_append_cons x y hc]

theorem splitOn_append_cons (separator : Char) (x y : Text) :
    splitOn separator (x ++ separator :: y) = splitOn separator x ++ splitOn separator y :=
  splitWhere_append_cons x y (beq_self_eq_true separator)

/-- A piece lies between separators, or between one of them and an end of the text. -/
theorem exists_of_mem_splitWhere (h : piece ∈ splitWhere p t) :
    (∀ c ∈ piece, p c = false) ∧ ∃ before after, t = before ++ piece ++ after ∧
      (∀ c ∈ before.getLast?, p c = true) ∧ ∀ c ∈ after.head?, p c = true := by
  -- the characters since the last separator are kept apart in `x`
  suffices hgeneral : ∀ x : Text, (∀ c ∈ x, p c = false) → piece ∈ splitWhere p (x ++ t) →
      (∀ c ∈ piece, p c = false) ∧ ∃ before after, x ++ t = before ++ piece ++ after ∧
        (∀ c ∈ before.getLast?, p c = true) ∧ ∀ c ∈ after.head?, p c = true from
    hgeneral [] nofun h
  clear h
  induction t with
  | nil =>
      intro x hx h
      rw [List.append_nil, splitWhere_of_forall_not hx, List.mem_singleton] at h
      subst h
      exact ⟨hx, [], [], by simp, nofun, nofun⟩
  | cons c t ih =>
      intro x hx h
      by_cases hc : p c = true
      · rw [splitWhere_append_cons x t hc, splitWhere_of_forall_not hx] at h
        rcases List.mem_cons.1 h with rfl | h
        · exact ⟨hx, [], c :: t, by simp, nofun, by simpa using hc⟩
        · obtain ⟨hpiece, before, after, ht, hbefore, hafter⟩ := ih [] nofun h
          rw [List.nil_append] at ht
          refine ⟨hpiece, x ++ c :: before, after, by simp [ht], ?_, hafter⟩
          cases hlast : before.getLast? with
          | none => simpa [List.getLast?_append, List.getLast?_cons, hlast] using hc
          | some d => simpa [List.getLast?_append, List.getLast?_cons, hlast] using hbefore d hlast
      · rw [List.append_cons] at h ⊢
        refine ih (x ++ [c]) (fun d hd => ?_) h
        rcases List.mem_append.1 hd with hd | hd
        · exact hx d hd
        · rw [List.mem_singleton.1 hd]
          simpa using hc

/-- Whatever lies so, and holds no separator, is a piece. -/
theorem mem_splitWhere_of_between {before after : Text} (hpiece : ∀ c ∈ piece, p c = false)
    (hbefore : ∀ c ∈ before.getLast?, p c = true) (hafter : ∀ c ∈ after.head?, p c = true) :
    piece ∈ splitWhere p (before ++ piece ++ after) := by
  have hrest : piece ∈ splitWhere p (piece ++ after) := by
    cases after with
    | nil => simp [splitWhere_of_forall_not hpiece]
    | cons c after =>
        rw [splitWhere_append_cons piece after (hafter c rfl), splitWhere_of_forall_not hpiece]
        simp
  rcases List.eq_nil_or_concat before with rfl | ⟨before, c, rfl⟩
  · exact hrest
  · rw [List.concat_eq_append, List.append_assoc, List.append_assoc, List.singleton_append,
      splitWhere_append_cons before _ (hbefore c (by simp))]
    exact List.mem_append_right _ hrest

/-! ## Words -/

/-- The words of a text are the runs of word characters that stand in it with no word character next
to them. -/
theorem mem_words_iff {w : Text} :
    w ∈ words t ↔ w ≠ [] ∧ (∀ c ∈ w, isWord c = true) ∧ StandsIn w t := by
  simp only [words, List.mem_filter, Bool.not_eq_true', List.isEmpty_eq_false_iff]
  constructor
  · rintro ⟨h, hne⟩
    obtain ⟨hw, before, after, rfl, hbefore, hafter⟩ := exists_of_mem_splitWhere h
    exact ⟨hne, by simpa using hw, before, after, rfl, by simpa using hbefore,
      by simpa using hafter⟩
  · rintro ⟨hne, hw, before, after, rfl, hisolate⟩
    refine ⟨mem_splitWhere_of_between ?_ ?_ ?_, hne⟩
    · simpa using hw
    · simpa using hisolate.before
    · simpa using hisolate.after

end Text
end CodeSurvey
