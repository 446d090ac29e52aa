import CodeSurvey.Proofs.Source.Block
import CodeSurvey.Proofs.Source.Joining
import Mathlib.Data.List.Induction

/-!
# Lines around a place

A place in a text is told by what comes before it. Where that ends a line, the lines of the text are
those of both parts, so that blanks between two places are blank lines, and a place to which no
blanks can be added in front stands below a line that says something.

## Main definitions

* `Text.EndsLine before`: a line begins behind the text.
* `Text.TopsBlanks t n k`: line `n` of the text is the first of the blank lines right above
  line `k`.
-/

namespace CodeSurvey

theorem lineOfOffset_append (a b : Text) : lineOfOffset (a ++ b) a.length = a.count '\n' := by
  rw [lineOfOffset, List.take_left]

namespace Text

variable {a b t w : Text} {line : Text} {k n : Nat}

/-- Whether a line begins behind the text: it is empty, or its last character is a newline. -/
def EndsLine (before : Text) : Prop := before.getLast?.all (· == '\n') = true

theorem endsLine_nil : EndsLine [] := rfl

theorem endsLine_concat {c : Char} : EndsLine (a ++ [c]) ↔ c = '\n' := by
  simp [EndsLine]

theorem EndsLine.eq_nil_or_concat (h : EndsLine a) : a = [] ∨ ∃ b, a = b ++ ['\n'] := by
  cases a using List.reverseRecOn with
  | nil => exact .inl rfl
  | append_singleton a c => exact .inr ⟨a, by rw [endsLine_concat.1 h]⟩

/-- Behind the end of a line the lines go on with those of what comes after. -/
theorem getElem?_lines_append (h : EndsLine a) (b : Text) (k : Nat) :
    (lines (a ++ b))[a.count '\n' + k]? = (lines b)[k]? := by
  rcases h.eq_nil_or_concat with rfl | ⟨a, rfl⟩
  · simp
  · have hlength : (lines a).length = (a ++ ['\n']).count '\n' := by
      rw [lines, length_splitOn, List.count_append, List.count_singleton_self]
    rw [List.append_assoc, List.singleton_append, lines_append, ← hlength,
      List.getElem?_append_right (Nat.le_add_right _ _), Nat.add_sub_cancel_left]

/-- A text ends with a line, which the end of the line before it comes before. -/
theorem exists_last_line (a : Text) : ∃ b line, a = b ++ line ∧ EndsLine b ∧ '\n' ∉ line := by
  induction a using List.reverseRecOn with
  | nil => exact ⟨[], [], rfl, endsLine_nil, by simp⟩
  | append_singleton a c ih =>
      by_cases hc : c = '\n'
      · exact ⟨a ++ [c], [], by simp, endsLine_concat.2 hc, by simp⟩
      · obtain ⟨b, line, rfl, hb, hline⟩ := ih
        exact ⟨b, line ++ [c], by simp, hb, by simp [hline, Ne.symm hc]⟩

theorem lines_cons_newline (t : Text) : lines ('\n' :: t) = [] :: lines t := lines_append [] t

/-- A character belongs to the first line. -/
theorem lines_cons_of_ne {c : Char} (h : c ≠ '\n') {first : Text} {rest : List Text}
    (ht : lines t = first :: rest) : lines (c :: t) = (c :: first) :: rest := by
  rw [lines, splitOn] at ht ⊢
  rw [splitWhere_cons_of_neg (by simpa using h), ht]
  rfl

theorem lines_of_not_mem (h : '\n' ∉ line) : lines line = [line] := by
  have hlines : lines (unlines [line]) = [line] := lines_unlines (by simpa using h) (by simp)
  rwa [unlines_singleton] at hlines

/-! ## Blank lines -/

/-- Lines that end among blanks are blank. -/
theorem isBlankLine_of_getElem?_lines (hw : ∀ c ∈ w, isBlank c = true) (b : Text)
    (hk : k < w.count '\n') (hline : (lines (w ++ b))[k]? = some line) :
    isBlankLine line = true := by
  induction w generalizing k line with
  | nil => simp at hk
  | cons c w ih =>
      have hw' : ∀ d ∈ w, isBlank d = true := fun d hd => hw d (List.mem_cons_of_mem _ hd)
      by_cases hc : c = '\n'
      · subst hc
        rw [List.cons_append, lines_cons_newline] at hline
        cases k with
        | zero =>
            obtain rfl : [] = line := by simpa using hline
            rfl
        | succ k =>
            rw [List.count_cons_self] at hk
            exact ih hw' (by omega) hline
      · obtain ⟨first, rest, hfirst⟩ := List.exists_cons_of_ne_nil (lines_ne_nil (w ++ b))
        rw [List.count_cons_of_ne hc] at hk
        rw [List.cons_append, lines_cons_of_ne hc hfirst] at hline
        cases k with
        | zero =>
            obtain rfl : c :: first = line := by simpa using hline
            have hblank : isBlankLine first = true := ih hw' hk (by rw [hfirst]; rfl)
            rw [isBlankLine, List.all_cons, hw c List.mem_cons_self, Bool.true_and]
            exact hblank
        | succ k => exact ih hw' hk (by rw [hfirst]; exact hline)

/-- Line `n` of the text is the first of the blank lines right above line `k`, or this line itself
where there are none. -/
structure TopsBlanks (t : Text) (n k : Nat) : Prop where
  le : n ≤ k
  blank : ∀ j line, n ≤ j → j < k → (lines t)[j]? = some line → isBlankLine line = true
  above : ∀ line, 0 < n → (lines t)[n - 1]? = some line → isBlankLine line = false

/-- There are blank lines above a line exactly if the one right above it is blank. -/
theorem TopsBlanks.eq_iff (h : TopsBlanks t n k) (hk : k < (lines t).length) :
    n = k ↔ ∀ line, 0 < k → (lines t)[k - 1]? = some line → isBlankLine line = false := by
  constructor
  · rintro rfl
    exact h.above
  · intro habove
    by_contra hne
    have hlt : n < k := lt_of_le_of_ne h.le hne
    have hline : (lines t)[k - 1]? = some (lines t)[k - 1] :=
      List.getElem?_eq_getElem (by omega)
    have hblank := h.blank (k - 1) _ (by omega) (by omega) hline
    have hnot := habove _ (by omega) hline
    rw [hblank] at hnot
    contradiction

/-- Blanks between two places that begin at the end of a line and cannot begin any earlier one begin
with the first of the blank lines above the second place. -/
theorem topsBlanks_of_parts (ha : EndsLine a) (hw : ∀ c ∈ w, isBlank c = true)
    (hfirst : ∀ b u, a = b ++ u → EndsLine b → (∀ c ∈ u, isBlank c = true) → u = []) (b : Text) :
    TopsBlanks (a ++ (w ++ b)) (a.count '\n') ((a ++ w).count '\n') := by
  rw [List.count_append]
  refine ⟨Nat.le_add_right _ _, fun j line hle hlt hline => ?_, fun line hpos hline => ?_⟩
  · obtain ⟨k, rfl⟩ := Nat.exists_eq_add_of_le hle
    rw [getElem?_lines_append ha] at hline
    exact isBlankLine_of_getElem?_lines hw b (by omega) hline
  · rcases ha.eq_nil_or_concat with rfl | ⟨a, rfl⟩
    · simp at hpos
    · obtain ⟨before, last, rfl, hbefore, hlast⟩ := exists_last_line a
      have hindex : (before ++ last ++ ['\n']).count '\n' - 1 = before.count '\n' + 0 := by
        simp [List.count_eq_zero.2 hlast]
      have htext : before ++ last ++ ['\n'] ++ (w ++ b) = before ++ (last ++ '\n' :: (w ++ b)) := by
        simp
      rw [htext, hindex, getElem?_lines_append hbefore, lines_append,
        lines_of_not_mem hlast] at hline
      obtain rfl : last = line := by simpa using hline
      rw [← Bool.not_eq_true, isBlankLine, List.all_eq_true]
      intro hblank
      have hnil := hfirst before (last ++ ['\n']) (by simp) hbefore fun c hc => by
        rcases List.mem_append.1 hc with hc | hc
        · exact hblank c hc
        · rw [List.mem_singleton.1 hc]
          decide
      simp at hnil

end Text
end CodeSurvey
