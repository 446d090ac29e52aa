import CodeSurvey.Proofs.Text.Words
import Mathlib.Algebra.BigOperators.Intervals

/-!
# Maximal runs of a class

A maximal run of a class begins on a character of the class that none comes right before, and goes
on up to the first character that is not of the class. So the runs of a text are told by places
alone. Cutting the text at the other characters finds the same runs, each of them once, so that a
sum over runs is a sum over the pieces of that cut.

## Main definitions

* `Text.runStarts p t`: the offsets at which maximal runs of the class `p` begin.
* `Text.runAt p t i`: the characters of the class from the offset `i` on.
-/

namespace CodeSurvey
namespace Text

/-- The characters of the class from an offset on, up to the first that is not of the class. -/
def runAt (p : Char → Bool) (t : Text) (i : Nat) : Text := (t.drop i).takeWhile p

/-- A maximal run begins at an offset of a text. Whether a character of the class comes right before
the text is told by `after`. -/
def RunBegins (p : Char → Bool) (after : Bool) (t : Text) (i : Nat) : Prop :=
  t[i]?.any p = true ∧ (if i = 0 then after else t[i - 1]?.any p) = false

instance (p : Char → Bool) (after : Bool) (t : Text) : DecidablePred (RunBegins p after t) :=
  fun _ => inferInstanceAs (Decidable (_ ∧ _))

/-- The offsets at which the maximal runs of the class begin. -/
def runStarts (p : Char → Bool) (t : Text) : Finset Nat :=
  (Finset.range t.length).filter (RunBegins p false t)

section Pieces

variable {p : Char → Bool}

/-- The first piece is the run at the start of the text, which may be empty. -/
theorem headD_splitWhere (p : Char → Bool) (t : Text) :
    (splitWhere (fun c => !p c) t).headD [] = t.takeWhile p := by
  induction t with
  | nil => rfl
  | cons c t ih =>
      cases hc : p c with
      | true => rw [splitWhere_cons_of_neg (by simp [hc]), List.takeWhile_cons_of_pos hc, ← ih,
          List.headD_cons]
      | false => rw [splitWhere_cons_of_pos (by simp [hc]),
          List.takeWhile_cons_of_neg (by simp [hc]), List.headD_cons]

/-- Right after a character of the class, the first piece only goes on with a run. -/
theorem sum_runs_after {f : Text → Nat} (hf : f [] = 0) (after : Bool) (t : Text) :
    (∑ i ∈ Finset.range t.length, if RunBegins p after t i then f (runAt p t i) else 0) =
      ((if after then (splitWhere (fun c => !p c) t).tail else splitWhere (fun c => !p c) t).map
        f).sum := by
  induction t generalizing after with
  | nil => cases after <;> simp [hf]
  | cons c t ih =>
      have hnext (i : Nat) : RunBegins p after (c :: t) (i + 1) ↔ RunBegins p (p c) t i := by
        cases i <;> simp [RunBegins]
      have hrun (i : Nat) : runAt p (c :: t) (i + 1) = runAt p t i := rfl
      rw [List.length_cons, Finset.sum_range_succ']
      simp only [hnext, hrun, ih (p c)]
      cases hc : p c with
      | false => cases after <;> simp [splitWhere_cons_of_pos, RunBegins, hc, hf]
      | true =>
          have hpieces := splitWhere_cons_of_neg (p := fun c => !p c) (c := c) (by simp [hc]) t
          rw [headD_splitWhere] at hpieces
          cases after <;> simp [hpieces, RunBegins, runAt, hc, Nat.add_comm]

/-- A sum over the maximal runs of a text is a sum over its pieces, if the empty text adds
nothing. -/
theorem sum_runs {f : Text → Nat} (hf : f [] = 0) (t : Text) :
    ∑ i ∈ runStarts p t, f (runAt p t i) = ((splitWhere (fun c => !p c) t).map f).sum := by
  rw [runStarts, Finset.sum_filter]
  exact sum_runs_after hf false t

/-- As many words of a text are in a list as there are maximal runs of word characters in it. -/
theorem card_runs_mem {ws : List Text} (hws : [] ∉ ws) (t : Text) :
    ((runStarts isWord t).filter fun i => runAt isWord t i ∈ ws).card =
      (words t).countP ws.contains := by
  rw [Finset.card_filter, sum_runs (f := fun w => if w ∈ ws then 1 else 0) (if_neg hws), words,
    List.countP_filter]
  induction splitWhere (fun c => !isWord c) t with
  | nil => rfl
  | cons piece pieces ih =>
      rw [List.map_cons, List.sum_cons, ih, List.countP_cons, Nat.add_comm]
      cases piece with
      | nil => simp [hws]
      | cons c piece => simp

end Pieces

end Text
end CodeSurvey
