import CodeSurvey.Proofs.Source.Decisions
import CodeSurvey.Proofs.Text.Blanks
import CodeSurvey.Source.Language

/-!
# Texts put one after the other

Two texts with a newline between them are the lines of both. No word and no operator goes over the
newline, so that what is counted is counted in each of them. The weight of nesting is different:
what the first text leaves open the second one starts with, and a deeper start never weighs less. -/

namespace CodeSurvey

variable {c : Char}

/-! ## What does not go over a separator -/

theorem Text.lines_append (a b : Text) : lines (a ++ '\n' :: b) = lines a ++ lines b :=
  splitOn_append_cons '\n' a b

theorem Text.words_append (hc : isWord c = false) (a b : Text) :
    words (a ++ c :: b) = words a ++ words b := by
  rw [words, splitWhere_append_cons a b (by simpa using hc), List.filter_append]
  rfl

theorem halfRuns_append {d : Char} (hc : c ≠ d) (a b : Text) :
    halfRuns d (a ++ c :: b) = halfRuns d a + halfRuns d b := by
  rw [halfRuns_eq, Text.splitWhere_append_cons a b (by simpa using hc), List.map_append,
    List.sum_append, ← halfRuns_eq, ← halfRuns_eq]

theorem operatorCount_append (hand : c ≠ '&') (hbar : c ≠ '|') (a b : Text) :
    operatorCount (a ++ c :: b) = operatorCount a + operatorCount b := by
  simp only [operatorCount_eq_halfRuns, halfRuns_append hand, halfRuns_append hbar]
  omega

theorem commentCount_append (style : CommentStyle) (a b : Text) :
    commentCount style (a ++ '\n' :: b) = commentCount style a + commentCount style b := by
  rw [commentCount, Text.lines_append, List.countP_append]
  rfl

/-- No decision goes over a blank. -/
theorem decisionCount_append (hc : Text.isBlank c = true) (a b : Text) :
    decisionCount (a ++ c :: b) = decisionCount a + decisionCount b := by
  have hand : c ≠ '&' := by
    rintro rfl
    exact absurd hc (by decide)
  have hbar : c ≠ '|' := by
    rintro rfl
    exact absurd hc (by decide)
  rw [decisionCount, Text.words_append (Text.isWord_of_isBlank hc), List.countP_append,
    operatorCount_append hand hbar, decisionCount, decisionCount]
  omega

/-! ## What adds up over lines -/

theorem Text.unlines_singleton (line : Text) : unlines [line] = line := by
  simp [unlines, joinWith]

theorem Text.unlines_cons_of_ne_nil {ls : List Text} (hls : ls ≠ []) (line : Text) :
    unlines (line :: ls) = line ++ '\n' :: unlines ls := by
  rw [unlines, joinWith, List.intercalate_cons_of_ne_nil hls]
  simp [unlines, joinWith]

/-- What adds up over two texts with a newline between them adds up over any lines. -/
theorem apply_unlines {f : Text → Nat} (hf : ∀ a b, f (a ++ '\n' :: b) = f a + f b)
    {ls : List Text} (hls : ls ≠ []) : f (Text.unlines ls) = (ls.map f).sum := by
  induction ls with
  | nil => exact absurd rfl hls
  | cons line ls ih =>
      by_cases hls : ls = []
      · subst hls
        rw [Text.unlines_singleton, List.map_singleton, List.sum_singleton]
      · rw [Text.unlines_cons_of_ne_nil hls, hf, ih hls, List.map_cons, List.sum_cons]

theorem decisionCount_unlines (ls : List Text) :
    decisionCount (Text.unlines ls) = (ls.map decisionCount).sum := by
  by_cases hls : ls = []
  · subst hls
    rfl
  · exact apply_unlines (decisionCount_append (by decide)) hls

/-- Lines that hold newlines are more than one line each. -/
theorem length_lines_unlines {ls : List Text} (hls : ls ≠ []) :
    (Text.lines (Text.unlines ls)).length = (ls.map fun line => (Text.lines line).length).sum := by
  refine apply_unlines (f := fun t => (Text.lines t).length) (fun a b => ?_) hls
  rw [Text.lines_append, List.length_append]

/-! ## Nesting that is left open -/

namespace Nesting

variable {n m : Nesting}

/-- On a line, a deeper nesting stays as deep at least and gathers no less. -/
theorem step_mono (h : n.depth ≤ m.depth) (line : Text) :
    (n.step line).depth ≤ (m.step line).depth ∧
      (n.step line).total + m.total ≤ (m.step line).total + n.total := by
  have hdepth : (n.step line).depth ≤ (m.step line).depth := by
    simp only [step]
    split <;> split <;> omega
  refine ⟨hdepth, ?_⟩
  rw [total_step n line, total_step m line]
  split <;> omega

/-- So it is over all lines. -/
theorem run_mono (h : n.depth ≤ m.depth) (ls : List Text) :
    (n.run ls).total + m.total ≤ (m.run ls).total + n.total := by
  induction ls generalizing n m with
  | nil => exact Nat.le_of_eq (Nat.add_comm _ _)
  | cons line ls ih =>
      obtain ⟨hdepth, htotal⟩ := step_mono h (Text.trim line)
      have hrest := ih hdepth
      rw [run_cons, run_cons]
      omega

end Nesting

theorem cognitive_append (a b : Text) :
    cognitive (a ++ '\n' :: b) = ((Nesting.run {} (Text.lines a)).run (Text.lines b)).total := by
  rw [cognitive, Text.lines_append, Nesting.run_append]

theorem cognitive_add_le (a b : Text) :
    cognitive a + cognitive b ≤ cognitive (a ++ '\n' :: b) := by
  rw [cognitive_append, Nat.add_comm]
  exact Nesting.run_mono (n := {}) (Nat.zero_le _) (Text.lines b)

/-- A text that leaves nothing open adds nothing to the weight of what comes after it. -/
theorem cognitive_append_of_depth_eq_zero {a : Text}
    (h : (Nesting.run {} (Text.lines a)).depth = 0) (b : Text) :
    cognitive (a ++ '\n' :: b) = cognitive a + cognitive b := by
  refine Nat.le_antisymm ?_ (cognitive_add_le a b)
  rw [cognitive_append, Nat.add_comm]
  exact Nesting.run_mono (m := {}) (Nat.le_of_eq h) (Text.lines b)

/-- Of two texts with a newline between them, comment lines and decisions are those of both. The
cognitive figure is at least the sum of theirs, and just that if the first text leaves no nesting
open. -/
theorem counts_of_joined (style : CommentStyle) (a b : Text) :
    commentCount style (a ++ '\n' :: b) = commentCount style a + commentCount style b ∧
      decisionCount (a ++ '\n' :: b) = decisionCount a + decisionCount b ∧
      cognitive a + cognitive b ≤ cognitive (a ++ '\n' :: b) ∧
      ((Nesting.run {} (Text.lines a)).depth = 0 →
        cognitive (a ++ '\n' :: b) = cognitive a + cognitive b) :=
  ⟨commentCount_append style a b, decisionCount_append (by decide) a b, cognitive_add_le a b,
    fun h => cognitive_append_of_depth_eq_zero h b⟩

/-- A block that is closed adds up with what follows; the second text would weigh more inside it. -/
theorem cognitive_of_closed_block :
    (Nesting.run {} (Text.lines "while (a && b) \x7b\n\x7d")).depth = 0 ∧
      cognitive "while (a && b) \x7b\n\x7d\nif (c)" =
        cognitive "while (a && b) \x7b\n\x7d" + cognitive "if (c)" := by
  have hclosed : (Nesting.run {} (Text.lines "while (a && b) \x7b\n\x7d")).depth = 0 := by decide
  exact ⟨hclosed, (counts_of_joined .slashes "while (a && b) \x7b\n\x7d" "if (c)").2.2.2 hclosed⟩

end CodeSurvey
