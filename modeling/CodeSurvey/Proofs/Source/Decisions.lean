import CodeSurvey.Proofs.Regex.Words
import CodeSurvey.Proofs.Source.Nesting

/-!
# Decisions as runs

The number of decisions of a text can be told in two ways. One is that of a search: whole words and
doubled operators, from left to right, each match behind the one before. The other one looks at
maximal runs only, each for itself: a run of word characters counts if it is a decision word, and a
run of ampersands or of bars counts once for every two of its characters.

## Main definitions

* `operatorExpr`: one of the operators that join conditions.
* `halfRuns c t`: half the lengths of the maximal runs of `c`, rounded down and added up.
-/

namespace CodeSurvey

open Regex

/-! ## Searching for operators -/

/-- One of the operators that join conditions. -/
def operatorExpr : Regex := oneOf (logicalOperators.map String.ofList)

/-- The extent of an operator: the same character once more. -/
def operatorExtent : Extent := fun _ c t =>
  if (c = '&' ∨ c = '|') ∧ t.head? = some c then some 1 else none

theorem takes_operatorExpr : operatorExpr.Takes operatorExtent := by
  constructor
  · exact fun _ _ => rfl
  · intro offset previous c t
    rw [matchAt, operatorExpr, follow_oneOf]
    by_cases hc : t.head? = some c
    · obtain ⟨tail, rfl⟩ := List.head?_eq_some_iff.1 hc
      by_cases hands : c = '&'
      · simp [logicalOperators, operatorExtent, Spot.skip, hands]
      · by_cases hbars : c = '|'
        · simp [logicalOperators, operatorExtent, Spot.skip, hbars]
        · simp [logicalOperators, operatorExtent, hands, hbars, eq_comm]
    · cases t with
      | nil => simp [logicalOperators, operatorExtent]
      | cons d tail =>
          have hne : d ≠ c := by simpa using hc
          have hpair (o : Char) : ¬(o = c ∧ o = d) := by
            rintro ⟨hoc, hod⟩
            exact hne (hod.symm.trans hoc)
          simp [logicalOperators, operatorExtent, hne, hpair]

theorem tally_operatorExtent (before : Bool) (t : Text) :
    tally operatorExtent 0 before t = operatorCount t := by
  fun_induction operatorCount t generalizing before with
  | case1 rest ih => simp [tally, operatorExtent, ih]
  | case2 rest ih => simp [tally, operatorExtent, ih]
  | case3 c rest hands hbars ih =>
      have hnone : operatorExtent before c rest = none := by
        refine if_neg ?_
        rintro ⟨hc, hhead⟩
        obtain ⟨tail, htail⟩ := List.head?_eq_some_iff.1 hhead
        rcases hc with rfl | rfl
        · exact hands tail rfl htail
        · exact hbars tail rfl htail
      rw [tally, hnone]
      exact ih _
  | case4 => rfl

/-- A search for operators finds as many as are counted from left to right. -/
theorem length_findAll_operatorExpr (t : Text) :
    (operatorExpr.findAll t).length = operatorCount t := by
  rw [takes_operatorExpr.length_findAll, tally_operatorExtent]

/-! ## Runs of operators -/

/-- Half the lengths of the maximal runs of a character, rounded down and added up. -/
def halfRuns (c : Char) (t : Text) : Nat :=
  ∑ i ∈ Text.runStarts (· == c) t, (Text.runAt (· == c) t i).length / 2

section HalfRuns

variable {c d : Char}

theorem halfRuns_eq (c : Char) (t : Text) :
    halfRuns c t = ((Text.splitWhere (fun d => !(d == c)) t).map fun w => w.length / 2).sum :=
  Text.sum_runs (f := fun w : Text => w.length / 2) rfl t

/-- Two characters more make the run at the start one half longer. -/
theorem halfRuns_cons_cons (c : Char) (t : Text) :
    halfRuns c (c :: c :: t) = halfRuns c t + 1 := by
  obtain ⟨piece, pieces, h⟩ := List.exists_cons_of_ne_nil
    (Text.splitWhere_ne_nil (fun d => !(d == c)) t)
  have hc : (!(c == c)) = false := by simp
  have hhalf : (piece.length + 1 + 1) / 2 = piece.length / 2 + 1 := by omega
  rw [halfRuns_eq, halfRuns_eq, Text.splitWhere_cons_of_neg hc, Text.splitWhere_cons_of_neg hc, h]
  simp [hhalf, Nat.add_right_comm]

/-- A character that is not followed by itself does not make half a pair. -/
theorem halfRuns_cons {t : Text} (h : d = c → t.head? ≠ some c) :
    halfRuns c (d :: t) = halfRuns c t := by
  by_cases hd : d = c
  · subst hd
    obtain ⟨piece, pieces, hpieces⟩ := List.exists_cons_of_ne_nil
      (Text.splitWhere_ne_nil (fun c => !(c == d)) t)
    have hc : (!(d == d)) = false := by simp
    have hempty : piece = [] := by
      have hfirst := Text.headD_splitWhere (fun c => c == d) t
      rw [hpieces, List.headD_cons] at hfirst
      cases t with
      | nil => exact hfirst
      | cons c t => simpa [show c ≠ d by simpa using h] using hfirst
    rw [halfRuns_eq, halfRuns_eq, Text.splitWhere_cons_of_neg hc, hpieces, hempty]
    simp
  · rw [halfRuns_eq, halfRuns_eq, Text.splitWhere_cons_of_pos (by simpa using hd)]
    simp

end HalfRuns

/-- Of a run of operators every two characters are one. -/
theorem operatorCount_eq_halfRuns (t : Text) :
    operatorCount t = halfRuns '&' t + halfRuns '|' t := by
  have hsigns : '&' ≠ '|' := by decide
  fun_induction operatorCount t with
  | case1 rest ih =>
      have hbar : halfRuns '|' ('&' :: '&' :: rest) = halfRuns '|' rest := by
        rw [halfRuns_cons (absurd · hsigns), halfRuns_cons (absurd · hsigns)]
      rw [ih, halfRuns_cons_cons, hbar, Nat.add_right_comm]
  | case2 rest ih =>
      have hand : halfRuns '&' ('|' :: '|' :: rest) = halfRuns '&' rest := by
        rw [halfRuns_cons (absurd · hsigns.symm), halfRuns_cons (absurd · hsigns.symm)]
      rw [ih, halfRuns_cons_cons, hand, Nat.add_assoc]
  | case3 c rest hands hbars ih =>
      have hand (hc : c = '&') : rest.head? ≠ some '&' := by
        intro hhead
        obtain ⟨tail, htail⟩ := List.head?_eq_some_iff.1 hhead
        exact hands tail hc htail
      have hbar (hc : c = '|') : rest.head? ≠ some '|' := by
        intro hhead
        obtain ⟨tail, htail⟩ := List.head?_eq_some_iff.1 hhead
        exact hbars tail hc htail
      rw [ih, halfRuns_cons hand, halfRuns_cons hbar]
  | case4 => rfl

/-! ## Decisions -/

/-- The decisions of a text are its maximal runs of word characters that are decision words, and
half the characters of each maximal run of ampersands or bars, rounded down. A search for whole
decision words and one for operators find just as many. -/
theorem decisionCount_counts_runs (t : Text) :
    decisionCount t =
        ((Text.runStarts Text.isWord t).filter fun i =>
          Text.runAt Text.isWord t i ∈ decisionWords).card +
        halfRuns '&' t + halfRuns '|' t ∧
      decisionCount t =
        ((wholeWord decisionWords).findAll t).length + (operatorExpr.findAll t).length := by
  have hwords : AreWords decisionWords := by decide
  rw [Text.card_runs_mem hwords.nil_not_mem, length_findAll_wholeWord hwords,
    length_findAll_operatorExpr, Nat.add_assoc, ← operatorCount_eq_halfRuns]
  exact ⟨rfl, rfl⟩

/-- A word within a word is none, and five ampersands are two operators. -/
example : decisionCount "elif double &&&&& if_x || do" = 5 := by decide

end CodeSurvey
