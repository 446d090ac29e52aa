import CodeSurvey.Text.Basic

/-!
# Pieces of a text

Cutting a text at a separator and joining pieces undo each other, in both directions, so a text and
its pieces carry the same information. Neighbouring pieces, joined again, are a contiguous part of
the text that they were cut from, and what has no separator in it is found in a join exactly if it
is found in a piece. -/

namespace CodeSurvey
namespace Text

variable {separator : Char}

/-! ## Cutting -/

/-- The cut by a fold is the library's cut, whose lemmas apply to it. -/
theorem splitWhere_eq_splitOnP (p : Char → Bool) (t : Text) : splitWhere p t = t.splitOnP p := by
  induction t with
  | nil => rfl
  | cons c t ih =>
      rw [List.splitOnP_cons_eq_if_modifyHead, ← ih]
      by_cases hc : p c = true
      · rw [splitWhere_cons_of_pos hc, if_pos hc]
      · have hc' : p c = false := by simpa using hc
        rw [splitWhere_cons_of_neg hc', if_neg hc]
        obtain ⟨a, l, hal⟩ := List.exists_cons_of_ne_nil (splitWhere_ne_nil p t)
        simp [hal]

theorem splitOn_eq_list_splitOn (t : Text) : splitOn separator t = List.splitOn separator t :=
  splitWhere_eq_splitOnP _ t

/-- Pieces without the separator are what their join is cut into. -/
theorem splitOn_joinWith {pieces : List Text} (h : ∀ piece ∈ pieces, separator ∉ piece)
    (hne : pieces ≠ []) : splitOn separator (joinWith [separator] pieces) = pieces := by
  rw [splitOn_eq_list_splitOn]
  exact List.splitOn_intercalate separator h hne

theorem not_mem_of_mem_splitOn {t piece : Text} (h : piece ∈ splitOn separator t) :
    separator ∉ piece := by
  induction t generalizing piece with
  | nil => simp_all [splitOn]
  | cons c t ih =>
      obtain ⟨a, l, hal⟩ := List.exists_cons_of_ne_nil (splitOn_ne_nil separator t)
      by_cases hc : c = separator
      · rw [splitOn, splitWhere_cons_of_pos (by simpa using hc), ← splitOn] at h
        rcases List.mem_cons.1 h with rfl | h
        · simp
        · exact ih h
      · rw [splitOn, splitWhere_cons_of_neg (by simpa using hc), ← splitOn, hal] at h
        rw [hal] at ih
        rcases List.mem_cons.1 h with rfl | h
        · simpa [Ne.symm hc] using ih (List.mem_cons_self)
        · exact ih (List.mem_cons_of_mem _ h)

/-- A text has one piece more than separators. -/
theorem length_splitOn (t : Text) : (splitOn separator t).length = t.count separator + 1 := by
  induction t with
  | nil => rfl
  | cons c t ih =>
      obtain ⟨a, l, hal⟩ := List.exists_cons_of_ne_nil (splitOn_ne_nil separator t)
      by_cases hc : c = separator
      · subst hc
        rw [splitOn, splitWhere_cons_of_pos (by simp), ← splitOn, List.length_cons, ih,
          List.count_cons_self]
      · rw [splitOn, splitWhere_cons_of_neg (by simpa using hc), ← splitOn,
          List.count_cons_of_ne hc, ← ih, hal]
        rfl

/-- Where two cuts of a text differ, and nothing after the second is a separator, the second is the
later one. -/
theorem exists_of_append_separator_eq {p p' s s' : Text} (hs' : separator ∉ s') (hne : p ≠ p')
    (h : p ++ separator :: s = p' ++ separator :: s') :
    ∃ rest, p' = p ++ separator :: rest ∧ s = rest ++ separator :: s' := by
  rcases List.append_eq_append_iff.1 h with ⟨mid, rfl, hrest⟩ | ⟨mid, rfl, hrest⟩
  · cases mid with
    | nil => simp at hne
    | cons c mid =>
        obtain ⟨rfl, rfl⟩ := List.cons.inj hrest
        exact ⟨mid, rfl, rfl⟩
  · cases mid with
    | nil => simp at hne
    | cons c mid =>
        obtain ⟨-, rfl⟩ := List.cons.inj hrest
        simp at hs'

/-- What stands before the last separator can be read off a text. -/
theorem eq_of_append_separator_eq {p p' s s' : Text} (hs : separator ∉ s) (hs' : separator ∉ s')
    (h : p ++ separator :: s = p' ++ separator :: s') : p = p' := by
  by_cases heq : p = p'
  · exact heq
  · obtain ⟨rest, -, rfl⟩ := exists_of_append_separator_eq hs' heq h
    simp at hs

/-- What stands before the first separator can be read off a text, and what stands after it. -/
theorem eq_of_separator_append_eq {p p' s s' : Text} (hp : separator ∉ p) (hp' : separator ∉ p')
    (h : p ++ separator :: s = p' ++ separator :: s') : p = p' ∧ s = s' := by
  have hreverse : s.reverse ++ separator :: p.reverse = s'.reverse ++ separator :: p'.reverse := by
    simpa using congrArg List.reverse h
  have hs : s.reverse = s'.reverse :=
    eq_of_append_separator_eq (by simpa using hp) (by simpa using hp') hreverse
  obtain rfl := List.reverse_inj.1 hs
  exact ⟨List.append_cancel_right h, rfl⟩

/-! ## Joining -/

theorem joinWith_append (s : Text) {as bs : List Text} (ha : as ≠ []) (hb : bs ≠ []) :
    joinWith s (as ++ bs) = joinWith s as ++ s ++ joinWith s bs := by
  induction as with
  | nil => exact absurd rfl ha
  | cons a as ih =>
      by_cases has : as = []
      · subst has
        simp [joinWith, List.intercalate_cons_of_ne_nil hb]
      · have hab : as ++ bs ≠ [] := by simp [has]
        have ih := ih has
        simp only [joinWith, List.cons_append, List.intercalate_cons_of_ne_nil hab,
          List.intercalate_cons_of_ne_nil has] at ih ⊢
        rw [ih]
        simp

/-- Neighbouring pieces, joined, are a contiguous part of all pieces joined. -/
theorem joinWith_infix (s : Text) {part pieces : List Text} (h : part <:+: pieces)
    (hne : part ≠ []) : joinWith s part <:+: joinWith s pieces := by
  obtain ⟨before, after, rfl⟩ := h
  have hleft : joinWith s part <:+: joinWith s (before ++ part) := by
    by_cases hb : before = []
    · simp [hb]
    · rw [joinWith_append s hb hne]
      exact (List.suffix_append _ _).isInfix
  refine hleft.trans ?_
  by_cases ha : after = []
  · simp [ha]
  · rw [joinWith_append s (by simp [hne]) ha, List.append_assoc]
    exact (List.prefix_append _ _).isInfix

/-! ## Search -/

/-- What has no separator in it stands on one side of a separator. -/
theorem infix_append_separator_iff {needle s t : Text} (h : separator ∉ needle) :
    needle <:+: s ++ separator :: t ↔ needle <:+: s ∨ needle <:+: t := by
  constructor
  · rintro ⟨before, after, heq⟩
    rw [List.append_assoc] at heq
    rcases List.append_eq_append_iff.1 heq with ⟨mid, rfl, hrest⟩ | ⟨mid, rfl, hrest⟩
    · rcases List.append_eq_append_iff.1 hrest with ⟨last, rfl, -⟩ | ⟨last, rfl, hlast⟩
      · exact .inl ⟨before, last, by simp⟩
      · cases last with
        | nil => exact .inl ⟨before, [], by simp⟩
        | cons c last =>
            obtain ⟨rfl, -⟩ := List.cons.inj hlast
            simp at h
    · cases mid with
      | nil =>
          cases needle with
          | nil => exact .inl (List.nil_infix)
          | cons c needle =>
              obtain ⟨rfl, -⟩ := List.cons.inj hrest
              simp at h
      | cons c mid =>
          obtain ⟨-, hright⟩ := List.cons.inj hrest
          exact .inr ⟨mid, after, by simp [hright]⟩
  · rintro (hleft | hright)
    · exact hleft.trans (List.prefix_append s _).isInfix
    · exact hright.trans ((List.suffix_cons separator t).trans (List.suffix_append s _)).isInfix

/-- What has no separator in it is found in joined pieces if one of them has it. -/
theorem infix_joinWith_iff {needle : Text} {pieces : List Text} (h : separator ∉ needle)
    (hne : needle ≠ []) :
    needle <:+: joinWith [separator] pieces ↔ ∃ piece ∈ pieces, needle <:+: piece := by
  induction pieces with
  | nil => simp [joinWith, hne]
  | cons piece pieces ih =>
      cases pieces with
      | nil => simp [joinWith]
      | cons next pieces =>
          rw [joinWith, List.intercalate_cons_cons, ← joinWith, List.append_assoc,
            List.singleton_append, infix_append_separator_iff h, ih]
          simp

/-! ## Lines -/

/-- Lines without newlines are the lines of their join. -/
theorem lines_unlines {ls : List Text} (h : ∀ line ∈ ls, '\n' ∉ line) (hne : ls ≠ []) :
    lines (unlines ls) = ls := splitOn_joinWith h hne

/-- Neighbouring lines of a text, joined, are cut into the same lines again. -/
theorem lines_unlines_of_infix {t : Text} {ls : List Text} (h : ls <:+: lines t) (hne : ls ≠ []) :
    lines (unlines ls) = ls :=
  lines_unlines (fun _ hl => not_mem_of_mem_splitOn (h.mem hl)) hne

/-- Neighbouring lines of a text, joined, are a contiguous part of it. -/
theorem unlines_infix {t : Text} {ls : List Text} (h : ls <:+: lines t) (hne : ls ≠ []) :
    unlines ls <:+: t := by
  have := joinWith_infix ['\n'] h hne
  rwa [← unlines, ← unlines, unlines_lines] at this

end Text
end CodeSurvey
