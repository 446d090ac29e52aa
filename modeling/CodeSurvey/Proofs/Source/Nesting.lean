import CodeSurvey.Proofs.Text.Words
import CodeSurvey.Source.Complexity
import Mathlib.Algebra.BigOperators.Fin
import Mathlib.Algebra.BigOperators.Intervals
import Mathlib.Algebra.Order.Group.Finset
import Mathlib.Algebra.Order.Ring.Int
import Mathlib.Order.Bounds.Basic

/-!
# Nesting as a height

Nesting is counted from line to line and stops at nothing. The count has a closed form: after some
lines it is the greatest surplus of opening over closing lines in any run of lines that ends there,
the empty run included. So the cognitive figure is a sum over lines, each weighed on its own by that
height.

## Main definitions

* `Nesting.Opens`, `Nesting.Closes`, `Nesting.Controls`: what a line does, told without the
  counting.
* `Nesting.height ls k`: the greatest surplus in a run of lines that ends after the `k`-th.
* `HoldsOperators n t`: `n` operators stand in `t`, none overlapping another.
-/

namespace CodeSurvey

/-! ## Words and operators of a line -/

/-- The given words stand in a text exactly if one of them does with no word character next to it.
-/
theorem hasWord_iff {ws : List Text} (hws : ∀ w ∈ ws, w ≠ [] ∧ w.all Text.isWord = true)
    (t : Text) : hasWord ws t = true ↔ ∃ w ∈ ws, Text.StandsIn w t := by
  simp only [hasWord, List.any_eq_true, List.contains_iff_mem]
  constructor
  · rintro ⟨w, hw, hmem⟩
    exact ⟨w, hmem, (Text.mem_words_iff.1 hw).2.2⟩
  · rintro ⟨w, hmem, hstands⟩
    obtain ⟨hne, hword⟩ := hws w hmem
    exact ⟨w, Text.mem_words_iff.2 ⟨hne, List.all_eq_true.1 hword, hstands⟩, hmem⟩

/-- The operators that join conditions. -/
def logicalOperators : List Text := ["&&", "||"]

/-- A number of operators stand in a text, none overlapping another. -/
inductive HoldsOperators : Nat → Text → Prop
  | nil : HoldsOperators 0 []
  | skip {n : Nat} {t : Text} (c : Char) (rest : HoldsOperators n t) : HoldsOperators n (c :: t)
  | operator {n : Nat} {o t : Text} (mem : o ∈ logicalOperators) (rest : HoldsOperators n t) :
      HoldsOperators (n + 1) (o ++ t)

/-- Two characters in front either are an operator, or the first of them stands for nothing. -/
theorem operatorCount_cons_cons (c d : Char) (t : Text) :
    operatorCount (c :: d :: t) =
      if [c, d] ∈ logicalOperators then operatorCount t + 1 else operatorCount (d :: t) := by
  simp only [logicalOperators, List.mem_pair]
  rw [operatorCount.eq_def]
  split
  · simp_all
  · simp_all
  · rename_i hands hbars heq
    obtain ⟨rfl, rfl⟩ := List.cons.inj heq
    rw [if_neg]
    rintro (h | h) <;> simp_all
  · simp_all

/-- One character more makes no operator less and at most one more. -/
theorem operatorCount_cons_bounds (c : Char) (t : Text) :
    operatorCount t ≤ operatorCount (c :: t) ∧ operatorCount (c :: t) ≤ operatorCount t + 1 := by
  induction t generalizing c with
  | nil => simp [operatorCount]
  | cons d t ih =>
      rw [operatorCount_cons_cons c d t]
      split
      · exact ⟨(ih d).2, Nat.succ_le_succ (ih d).1⟩
      · exact ⟨Nat.le_refl _, Nat.le_succ _⟩

/-- Counting operators from left to right misses none: no choice of operators that do not overlap
holds more of them. -/
theorem isGreatest_operatorCount (t : Text) :
    IsGreatest {n | HoldsOperators n t} (operatorCount t) := by
  constructor
  · show HoldsOperators (operatorCount t) t
    fun_induction operatorCount t with
    | case1 rest ih => exact .operator (o := ['&', '&']) (by decide) ih
    | case2 rest ih => exact .operator (o := ['|', '|']) (by decide) ih
    | case3 c rest _ _ ih => exact .skip c ih
    | case4 => exact .nil
  · rintro n (hn : HoldsOperators n t)
    induction hn with
    | nil => exact Nat.zero_le _
    | skip c _ ih => exact ih.trans (operatorCount_cons_bounds c _).1
    | operator hmem _ ih =>
        rcases List.mem_pair.1 hmem with rfl | rfl
        · exact Nat.succ_le_succ ih
        · exact Nat.succ_le_succ ih

namespace Nesting

/-! ## One line -/

/-- A line opens a level: an opening brace stands in it, or a nesting word on its own. -/
def Opens (line : Text) : Prop := '{' ∈ line ∨ ∃ w ∈ nestingWords, Text.StandsIn w line

/-- A line closes a level. -/
def Closes (line : Text) : Prop := '}' ∈ line

/-- A line holds a control word on its own. -/
def Controls (line : Text) : Prop := ∃ w ∈ controlWords, Text.StandsIn w line

theorem opens_iff (line : Text) :
    Opens line ↔ (line.contains '{' || hasWord nestingWords line) = true := by
  rw [Opens, ← hasWord_iff (by decide), Bool.or_eq_true, List.contains_iff_mem]

theorem controls_iff (line : Text) : Controls line ↔ hasWord controlWords line = true :=
  (hasWord_iff (by decide) line).symm

instance (line : Text) : Decidable (Opens line) := decidable_of_iff' _ (opens_iff line)
instance (line : Text) : Decidable (Closes line) := inferInstanceAs (Decidable (_ ∈ _))
instance (line : Text) : Decidable (Controls line) := decidable_of_iff' _ (controls_iff line)

/-- What a line opens, less what it closes. -/
def balance (line : Text) : Int :=
  (if Opens line then 1 else 0) - (if Closes line then 1 else 0)

/-- A line moves the nesting by its balance, but not below nothing. -/
theorem depth_step (n : Nesting) (line : Text) :
    ((n.step line).depth : Int) = max 0 (n.depth + balance line) := by
  simp only [step, balance, opens_iff, Closes, ← List.contains_iff_mem]
  split <;> split <;> omega

/-- A control word is weighed by the nesting after its line. -/
theorem total_step (n : Nesting) (line : Text) :
    (n.step line).total = n.total +
      ((if Controls line then 1 + (n.step line).depth else 0) + operatorCount line) := by
  simp only [step, controls_iff, Nat.add_assoc]

/-! ## Some lines -/

/-- The greatest surplus of opening over closing lines in a run of lines that ends after the `k`-th.
The empty run has none. -/
def height (ls : List Text) (k : Nat) : Int :=
  (Finset.range (k + 1)).sup' Finset.nonempty_range_add_one fun j =>
    ∑ i ∈ Finset.Ico j k, balance (ls.getD i [])

@[simp] theorem height_zero (ls : List Text) : height ls 0 = 0 := by simp [height]

/-- The runs that end one line later are those before with the line added, and the empty run. -/
theorem height_succ (ls : List Text) (k : Nat) :
    height ls (k + 1) = max 0 (height ls k + balance (ls.getD k [])) := by
  have hruns : ((Finset.range (k + 1)).sup' Finset.nonempty_range_add_one fun j =>
      ∑ i ∈ Finset.Ico j (k + 1), balance (ls.getD i [])) =
        height ls k + balance (ls.getD k []) := by
    rw [height, Finset.sup'_add]
    refine Finset.sup'_congr _ rfl fun j hj => ?_
    exact Finset.sum_Ico_succ_top (Nat.lt_succ_iff.1 (Finset.mem_range.1 hj)) _
  have hall := Finset.range_add_one (n := k + 1)
  rw [height, Finset.sup'_congr _ hall fun _ _ => rfl,
    Finset.sup'_insert Finset.nonempty_range_add_one, hruns]
  simp

/-- The nesting after the lines of a text up to the `k`-th. -/
theorem depth_run_take (lines : List Text) {k : Nat} (hk : k ≤ lines.length) :
    ((run {} (lines.take k)).depth : Int) = height (lines.map Text.trim) k := by
  induction k with
  | zero => simp
  | succ k ih =>
      rw [List.take_succ_eq_append_getElem hk, run_append, run_cons, run_nil, depth_step,
        ih (by omega), height_succ]
      simp [List.getElem?_eq_getElem (show k < lines.length from hk)]

/-- The sum gathered over the lines of a text up to the `k`-th. -/
theorem total_run_take (lines : List Text) {k : Nat} (hk : k ≤ lines.length) :
    ((run {} (lines.take k)).total : Int) = ∑ i ∈ Finset.range k,
      ((if Controls ((lines.map Text.trim).getD i []) then
          1 + height (lines.map Text.trim) (i + 1) else 0) +
        (operatorCount ((lines.map Text.trim).getD i []) : Int)) := by
  induction k with
  | zero => simp
  | succ k ih =>
      have hline : (lines.map Text.trim).getD k [] = Text.trim lines[k] := by
        simp [List.getElem?_eq_getElem (show k < lines.length from hk)]
      have hrun : run {} (lines.take (k + 1)) =
          (run {} (lines.take k)).step (Text.trim lines[k]) := by
        rw [List.take_succ_eq_append_getElem hk, run_append, run_cons, run_nil]
      rw [Finset.sum_range_succ, ← ih (by omega), ← depth_run_take lines hk, hline, hrun,
        total_step]
      push_cast
      rfl

end Nesting

/-- The nesting after each line is the greatest surplus of opening over closing lines in a run of
lines that ends there. The cognitive figure adds, for each line that holds a control word, one and
the nesting after it, and for every line as many operators as stand in it without overlapping. -/
theorem cognitive_weighs_by_height (t : Text) :
    let ls := (Text.lines t).map Text.trim
    (∀ k ≤ ls.length,
      ((Nesting.run {} ((Text.lines t).take k)).depth : Int) = Nesting.height ls k) ∧
    (cognitive t : Int) = ∑ i : Fin ls.length,
      ((if Nesting.Controls ls[i] then 1 + Nesting.height ls (i + 1) else 0) +
        (operatorCount ls[i] : Int)) ∧
    ∀ line ∈ ls, IsGreatest {n | HoldsOperators n line} (operatorCount line) := by
  intro ls
  have hlength : ls.length = (Text.lines t).length := List.length_map _
  refine ⟨fun k hk => Nesting.depth_run_take _ (hlength ▸ hk), ?_,
    fun line _ => isGreatest_operatorCount line⟩
  have htotal := Nesting.total_run_take (Text.lines t) (Nat.le_refl _)
  rw [List.take_length, ← hlength, Finset.sum_range] at htotal
  refine htotal.trans (Finset.sum_congr rfl fun i _ => ?_)
  have hline : ls.getD i [] = ls[i] := by simp
  rw [← hline]

end CodeSurvey
