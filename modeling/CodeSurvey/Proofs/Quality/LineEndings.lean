import CodeSurvey.Proofs.Quality.Counts
import CodeSurvey.Proofs.Quality.Shape
import CodeSurvey.Proofs.Source.Joining
import Mathlib.Data.List.Forall2

/-!
# Line endings

A carriage return before a newline belongs to its line, so that with the other line endings a text
has the same lines with a blank more at their ends. Whatever is counted is told by trimmed lines, or
adds up over characters that are no blanks. A window only gets longer: one that is held against
others still is, and its key stays, while one that was too short may come to be held.

## Main definitions

* `Text.withReturns t`: the text with a carriage return before each newline.
* `Trails ls ls'`: the lines `ls'` are the lines `ls` with blanks added at their ends.
-/

namespace CodeSurvey

/-! ## Blanks at the ends of lines -/

theorem decisionCount_of_isBlanks {w : Text} (hw : IsBlanks w) : decisionCount w = 0 := by
  induction w with
  | nil => rfl
  | cons c w ih =>
      have hsplit := decisionCount_append (hw c List.mem_cons_self) [] w
      rw [List.nil_append, ih fun d hd => hw d (List.mem_cons_of_mem _ hd)] at hsplit
      exact hsplit

theorem decisionCount_append_of_isBlanks {w : Text} (hw : IsBlanks w) (t : Text) :
    decisionCount (t ++ w) = decisionCount t := by
  cases w with
  | nil => rw [List.append_nil]
  | cons c w =>
      have hrest : IsBlanks w := fun d hd => hw d (List.mem_cons_of_mem _ hd)
      rw [decisionCount_append (hw c List.mem_cons_self), decisionCount_of_isBlanks hrest,
        Nat.add_zero]

/-- Blanks at the ends of a block leave no trace in its shape. -/
theorem shape_trim (t : Text) : shape (Text.trim t) = shape t := by
  obtain ⟨front, back, hfront, hback, ht⟩ := Text.exists_eq_append_trim t
  calc shape (Text.trim t)
      = shape (front ++ Text.trim t ++ back) := by
        rw [Shape.shape_append_right hback, Shape.shape_append_left hfront]
    _ = shape t := by rw [← ht]

/-- The nesting after some lines is told by the lines without blanks at their ends. -/
theorem Nesting.run_eq_foldl (n : Nesting) (ls : List Text) :
    n.run ls = (ls.map Text.trim).foldl Nesting.step n := by rw [run, List.foldl_map]

/-- The second lines are the first ones with blanks added at their ends. -/
def Trails (ls ls' : List Text) : Prop :=
  List.Forall₂ (fun line line' => ∃ w, IsBlanks w ∧ line' = line ++ w) ls ls'

namespace Trails

variable {ls ls' : List Text} {style : CommentStyle}

theorem map_trim (h : Trails ls ls') : ls'.map Text.trim = ls.map Text.trim := by
  induction h with
  | nil => rfl
  | cons hline _ ih =>
      obtain ⟨w, hw, rfl⟩ := hline
      rw [List.map_cons, List.map_cons, ih, Text.trim_append_of_blanks hw]

theorem map_decisionCount (h : Trails ls ls') :
    ls'.map decisionCount = ls.map decisionCount := by
  induction h with
  | nil => rfl
  | cons hline _ ih =>
      obtain ⟨w, hw, rfl⟩ := hline
      rw [List.map_cons, List.map_cons, ih, decisionCount_append_of_isBlanks hw]

/-- As many lines have a property of trimmed lines. -/
theorem countP_eq (h : Trails ls ls') (p : Text → Bool) :
    (ls'.countP fun line => p (Text.trim line)) = ls.countP fun line => p (Text.trim line) := by
  have hcount (xs : List Text) :
      (xs.countP fun line => p (Text.trim line)) = (xs.map Text.trim).countP p :=
    List.countP_map.symm
  rw [hcount, hcount, h.map_trim]

theorem window (h : Trails ls ls') (i n : Nat) :
    Trails ((ls.drop i).take n) ((ls'.drop i).take n) :=
  List.forall₂_take n (List.forall₂_drop i h)

theorem eq_nil_iff (h : Trails ls ls') : ls = [] ↔ ls' = [] := by
  rw [← List.length_eq_zero_iff, ← List.length_eq_zero_iff, List.Forall₂.length_eq h]

/-! ## Windows -/

theorem unlines_sublist (h : Trails ls ls') : (Text.unlines ls).Sublist (Text.unlines ls') := by
  induction h with
  | nil => exact .slnil
  | @cons line line' ls ls' hline hrest ih =>
      obtain ⟨w, hw, rfl⟩ := hline
      by_cases hls : ls = []
      · obtain rfl := (eq_nil_iff hrest).1 hls
        subst hls
        rw [Text.unlines_singleton, Text.unlines_singleton]
        exact List.sublist_append_left line w
      · have hls' : ls' ≠ [] := mt (eq_nil_iff hrest).2 hls
        rw [Text.unlines_cons_of_ne_nil hls, Text.unlines_cons_of_ne_nil hls']
        exact (List.sublist_append_left line w).append (ih.cons_cons '\n')

/-- Behind a line that others follow, blanks are added to the newline. -/
theorem respelled (h : Trails ls ls') (before : Text) :
    Relation.ReflTransGen Respelled (before ++ Text.unlines ls) (before ++ Text.unlines ls') := by
  induction h generalizing before with
  | nil => exact .refl
  | @cons line line' ls ls' hline hrest ih =>
      obtain ⟨w, hw, rfl⟩ := hline
      by_cases hls : ls = []
      · obtain rfl := (eq_nil_iff hrest).1 hls
        subst hls
        have hstop : Respelled (before ++ line ++ []) (before ++ line ++ w) := .stop nofun hw
        simpa [Text.unlines_singleton] using Relation.ReflTransGen.single hstop
      · have hnewline : IsBlanks ['\n'] := List.forall_mem_singleton.2 (by decide)
        have hlonger : IsBlanks (w ++ ['\n']) := List.forall_mem_append.2 ⟨hw, hnewline⟩
        have hblanks : Respelled (before ++ line ++ ['\n'] ++ Text.unlines ls')
            (before ++ line ++ (w ++ ['\n']) ++ Text.unlines ls') :=
          .blanks hnewline (List.cons_ne_nil _ _) hlonger (by simp)
        have hls' : ls' ≠ [] := mt (eq_nil_iff hrest).2 hls
        rw [Text.unlines_cons_of_ne_nil hls, Text.unlines_cons_of_ne_nil hls']
        simpa using (ih (before ++ line ++ ['\n'])).tail hblanks

/-- A window keeps its key. -/
theorem shape_windowText (h : Trails ls ls') :
    shape (windowText ls') = shape (windowText ls) := by
  rw [windowText, windowText, shape_trim, shape_trim]
  exact (shape_eq_of_respelled (h.respelled [])).symm

/-- A window that is held against others still is: it gets no shorter, and its lines say what they
said. -/
theorem held (h : Trails ls ls') (hheld : Held style ls) : Held style ls' := by
  have hsays (line : Text) : Text.isBlankLine line = (Text.trim line).isEmpty := by
    rw [Bool.eq_iff_iff, ← Text.trim_eq_nil_iff, List.isEmpty_iff]
  have hcomments := h.countP_eq fun start => style.marks.any (·.isPrefixOf start) && !start.isEmpty
  have hcontent := h.countP_eq fun start => !start.isEmpty
  refine ⟨hheld.long.trans (Text.trim_sublist h.unlines_sublist).length_le, ?_⟩
  have hcode := hheld.code
  simp only [isComment, hsays] at hcode ⊢
  rwa [hcomments, hcontent]

end Trails

/-- The keys of some lines are those of the windows that are held, by the line they begin on. -/
theorem duplicateKeys_eq (style : CommentStyle) (ls : List Text) :
    duplicateKeys style ls =
      ((List.range (ls.length - 4)).filter fun i => Held style ((ls.drop i).take 5)).map
        fun i => shape (windowText ((ls.drop i).take 5)) := by
  rw [duplicateKeys, qualifyingWindows, windows_eq_map (by decide), List.filter_map, List.map_map,
    qualifies_eq_decide]
  rfl

/-- Windows that are held keep their keys, and others may come between them. -/
theorem Trails.duplicateKeys_sublist {ls ls' : List Text} (h : Trails ls ls')
    (style : CommentStyle) : (duplicateKeys style ls).Sublist (duplicateKeys style ls') := by
  have hkeys (i : Nat) : shape (windowText ((ls.drop i).take 5)) =
      shape (windowText ((ls'.drop i).take 5)) := (h.window i 5).shape_windowText.symm
  rw [duplicateKeys_eq, duplicateKeys_eq, List.Forall₂.length_eq h]
  simp only [hkeys]
  refine (List.monotone_filter_right _ fun i hi => ?_).map _
  exact decide_eq_true ((h.window i 5).held (of_decide_eq_true hi))

/-! ## Carriage returns -/

/-- The text with a carriage return before each newline. -/
def Text.withReturns (t : Text) : Text := t.flatMap fun c => if c = '\n' then ['\r', '\n'] else [c]

/-- All lines but the last end with a carriage return then. -/
theorem trails_lines_withReturns (t : Text) :
    Trails (Text.lines t) (Text.lines (Text.withReturns t)) := by
  induction t with
  | nil => exact .cons ⟨[], nofun, rfl⟩ .nil
  | cons c t ih =>
      by_cases hc : c = '\n'
      · subst hc
        have hreturn : IsBlanks ['\r'] := List.forall_mem_singleton.2 (by decide)
        have hlines : Text.lines (Text.withReturns ('\n' :: t)) =
            ['\r'] :: Text.lines (Text.withReturns t) := Text.lines_append ['\r'] _
        rw [hlines]
        exact .cons ⟨['\r'], hreturn, rfl⟩ ih
      · have hplain : (c == '\n') = false := by simpa using hc
        have hcons : Text.withReturns (c :: t) = c :: Text.withReturns t := by
          simp [Text.withReturns, hc]
        have hlines (t : Text) :
            Text.lines (c :: t) = (c :: (Text.lines t).headD []) :: (Text.lines t).tail :=
          Text.splitWhere_cons_of_neg (p := (· == '\n')) hplain t
        rw [hcons, hlines, hlines]
        -- the first line of both goes on with the character, the others stay
        generalize Text.lines t = ls at ih ⊢
        generalize Text.lines (Text.withReturns t) = ls' at ih ⊢
        cases ih with
        | nil => exact .cons ⟨[], nofun, rfl⟩ .nil
        | cons hline hrest =>
            obtain ⟨w, hw, rfl⟩ := hline
            exact .cons ⟨w, hw, rfl⟩ hrest

/-- With the other line endings a text has as many lines, comment lines and decisions, the same
cognitive figure and the same tier. All keys of its windows are found again in their order, as each
window has the same key and is held against others if it was. -/
theorem counts_withReturns (style : CommentStyle) (t : Text) :
    let ls := Text.lines t
    let ls' := Text.lines (Text.withReturns t)
    (commentCount style (Text.withReturns t) = commentCount style t ∧
      cyclomatic (Text.withReturns t) = cyclomatic t ∧
      cognitive (Text.withReturns t) = cognitive t ∧
      Tier.ofCode (Text.withReturns t) = Tier.ofCode t ∧ ls'.length = ls.length) ∧
    (duplicateKeys style ls).Sublist (duplicateKeys style ls') ∧
    ∀ i : Nat,
      let window := (ls.drop i).take windowLines
      let window' := (ls'.drop i).take windowLines
      shape (windowText window') = shape (windowText window) ∧
        (qualifies style window = true → qualifies style window' = true) := by
  intro ls ls'
  have h : Trails ls ls' := trails_lines_withReturns t
  have hlength : ls'.length = ls.length := (List.Forall₂.length_eq h).symm
  have hlines (t : Text) : decisionCount t = ((Text.lines t).map decisionCount).sum := by
    rw [← decisionCount_unlines, Text.unlines_lines]
  have hdecisions : decisionCount (Text.withReturns t) = decisionCount t := by
    rw [hlines (Text.withReturns t), hlines t, h.map_decisionCount]
  have hcyclomatic : cyclomatic (Text.withReturns t) = cyclomatic t := congrArg (· + 1) hdecisions
  refine ⟨⟨?_, hcyclomatic, ?_, ?_, hlength⟩, h.duplicateKeys_sublist style, fun i => ?_⟩
  · exact h.countP_eq fun start => style.marks.any (·.isPrefixOf start)
  · rw [cognitive, cognitive, Nesting.run_eq_foldl, Nesting.run_eq_foldl, h.map_trim]
  · rw [Tier.ofCode, Tier.ofCode, hcyclomatic, hlength]
  · have hwindow := h.window i windowLines
    simp only [qualifies_iff_held]
    exact ⟨hwindow.shape_windowText, hwindow.held⟩

/-- Forty-nine characters are too few for a window, but not with four carriage returns more. -/
example :
    let t : Text := "total = 1\ntotal = 2\ntotal = 3\ntotal = 4\ntotal = 5"
    (duplicateKeys .hashes (Text.lines t)).length = 0 ∧
      (duplicateKeys .hashes (Text.lines (Text.withReturns t))).length = 1 := by decide

end CodeSurvey
