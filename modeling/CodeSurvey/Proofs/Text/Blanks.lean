import CodeSurvey.Text.Blank
import CodeSurvey.Text.Word
import Mathlib.Data.List.TakeWhile

/-!
# Blanks at the ends of a text

Trimming takes blanks away from both ends and nothing else. So blanks that are added at the end do
not show in it, and a text that keeps some characters of another one keeps no more of them once both
are trimmed. -/

namespace CodeSurvey
namespace Text

variable {c : Char} {s t w : Text}

/-- The code points of blanks. -/
def blankPoints : List Nat :=
  List.range' 9 5 ++ List.range' 28 5 ++ [0x85, 0xA0, 0x1680] ++ List.range' 0x2000 11 ++
    [0x2028, 0x2029, 0x202F, 0x205F, 0x3000]

theorem toNat_mem_blankPoints (hc : isBlank c = true) : c.toNat ∈ blankPoints := by
  simp only [isBlank] at hc
  simp only [blankPoints, List.mem_append, List.mem_range'_1, List.mem_cons, List.not_mem_nil,
    or_false]
  split at hc
  · simp only [Bool.or_eq_true, Bool.and_eq_true, decide_eq_true_eq] at hc
    omega
  · simp only [Bool.or_eq_true, Bool.and_eq_true, decide_eq_true_eq, beq_iff_eq] at hc
    omega

/-- A blank belongs to no word. -/
theorem isWord_of_isBlank (hc : isBlank c = true) : isWord c = false := by
  have hpoints : ∀ n ∈ blankPoints, isWord (Char.ofNat n) = false := by decide +kernel
  have hword := hpoints c.toNat (toNat_mem_blankPoints hc)
  rwa [Char.ofNat_toNat] at hword

theorem isBlank_of_isLineBoundary (hc : isLineBoundary c = true) : isBlank c = true := by
  simp only [isLineBoundary, Bool.or_eq_true, Bool.and_eq_true, decide_eq_true_eq,
    beq_iff_eq] at hc
  simp only [isBlank]
  split
  · simp only [Bool.or_eq_true, Bool.and_eq_true, decide_eq_true_eq]
    omega
  · simp only [Bool.or_eq_true, Bool.and_eq_true, decide_eq_true_eq, beq_iff_eq]
    omega

/-! ## Trimming -/

theorem trim_append_of_blanks (hw : ∀ c ∈ w, isBlank c = true) (t : Text) :
    trim (t ++ w) = trim t := by
  simp only [trim, trimStart, List.dropWhile_append]
  split
  · rename_i hempty
    rw [List.isEmpty_iff.1 hempty, dropWhile_isBlank_eq_nil_iff.2 (List.all_eq_true.2 hw)]
  · rw [trimEnd, List.reverse_append, List.dropWhile_append_of_pos (by simpa using hw), trimEnd]

/-- A text lies between the blanks that trimming takes away. -/
theorem exists_eq_append_trim (t : Text) :
    ∃ front back, (∀ c ∈ front, isBlank c = true) ∧ (∀ c ∈ back, isBlank c = true) ∧
      t = front ++ trim t ++ back := by
  have hstart := List.takeWhile_append_dropWhile (p := isBlank) (l := t)
  have hend := congrArg List.reverse
    (List.takeWhile_append_dropWhile (p := isBlank) (l := (trimStart t).reverse))
  rw [List.reverse_append, List.reverse_reverse] at hend
  refine ⟨t.takeWhile isBlank, ((trimStart t).reverse.takeWhile isBlank).reverse, fun c hc => ?_,
    fun c hc => ?_, ?_⟩
  · exact List.mem_takeWhile_imp hc
  · exact List.mem_takeWhile_imp (List.mem_reverse.1 hc)
  · rw [List.append_assoc]
    exact hstart.symm.trans (congrArg _ hend.symm)

theorem trim_cons_of_blank (hc : isBlank c = true) (t : Text) : trim (c :: t) = trim t := by
  rw [trim, trimStart, List.dropWhile_cons_of_pos hc, trim, trimStart]

/-- A text that begins with no blank loses blanks at its end alone. -/
theorem exists_trim_cons (hc : isBlank c = false) (t : Text) :
    ∃ s back, trim (c :: t) = c :: s ∧ t = s ++ back ∧ ∀ d ∈ back, isBlank d = true := by
  obtain ⟨front, back, hfront, hback, heq⟩ := exists_eq_append_trim (c :: t)
  cases front with
  | cons d front =>
      obtain ⟨rfl, -⟩ := List.cons.inj heq
      simp [hc] at hfront
  | nil =>
      rw [List.nil_append] at heq
      cases htrim : trim (c :: t) with
      | nil =>
          rw [htrim, List.nil_append] at heq
          simp [← heq, hc] at hback
      | cons d s =>
          rw [htrim, List.cons_append] at heq
          obtain ⟨rfl, rfl⟩ := List.cons.inj heq
          exact ⟨s, back, rfl, rfl, hback⟩

theorem trim_of_forall_not (ht : ∀ c ∈ t, isBlank c = false) : trim t = t := by
  cases t with
  | nil => rfl
  | cons c t =>
      obtain ⟨s, back, htrim, rfl, hback⟩ := exists_trim_cons (ht c List.mem_cons_self) t
      cases back with
      | nil => rw [htrim, List.append_nil]
      | cons d back =>
          have hd := ht d (by simp)
          rw [hback d List.mem_cons_self] at hd
          contradiction

/-! ## Texts with fewer characters -/

theorem dropWhile_sublist_dropWhile {p : Char → Bool} (h : s.Sublist t) :
    (s.dropWhile p).Sublist (t.dropWhile p) := by
  induction h with
  | slnil => exact .slnil
  | @cons s t c h ih =>
      cases hc : p c with
      | true => rwa [List.dropWhile_cons_of_pos hc]
      | false =>
          rw [List.dropWhile_cons_of_neg (by simp [hc])]
          exact (List.dropWhile_sublist p).trans (h.cons c)
  | @cons_cons s t c h ih =>
      cases hc : p c with
      | true => rwa [List.dropWhile_cons_of_pos hc, List.dropWhile_cons_of_pos hc]
      | false =>
          rw [List.dropWhile_cons_of_neg (by simp [hc]), List.dropWhile_cons_of_neg (by simp [hc])]
          exact h.cons_cons c

/-- Trimming takes no more away where there are more characters. -/
theorem trim_sublist (h : s.Sublist t) : (trim s).Sublist (trim t) := by
  have hstart : (trimStart s).Sublist (trimStart t) := dropWhile_sublist_dropWhile h
  exact (dropWhile_sublist_dropWhile hstart.reverse).reverse

end Text
end CodeSurvey
