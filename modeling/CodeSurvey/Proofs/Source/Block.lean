import CodeSurvey.Proofs.Text.Pieces
import CodeSurvey.Source.Block

/-!
# Bounds of lines and blocks

Every offset stands on a line of the text, and a block that begins on a line ends after that line
and not after the text, whichever way its end is found.
-/

namespace CodeSurvey

/-! ## Lines -/

/-- Any offset, even one past the end, counts as standing on a line of the text. -/
theorem lineOfOffset_lt (t : Text) (offset : Nat) :
    lineOfOffset t offset < (Text.lines t).length := by
  have hcount := (List.take_sublist offset t).count_le '\n'
  rw [Text.lines, Text.length_splitOn, lineOfOffset]
  omega

/-- The lines that a range picks. -/
theorem take_drop_of_range (ls : List Text) {first last : Nat} (h : 1 ≤ first) :
    (ls.take last).drop (first - 1) = (ls.drop (first - 1)).take (last + 1 - first) := by
  rw [List.drop_take, show last - (first - 1) = last + 1 - first by omega]

/-! ## Braces -/

theorem closingLine?_lt {depth : Int} {opened : Bool} {ls : List Text} {n : Nat}
    (h : closingLine? depth opened ls = some n) : n < ls.length := by
  induction ls generalizing depth opened n with
  | nil => simp [closingLine?] at h
  | cons line ls ih =>
      simp only [closingLine?] at h
      split at h
      · obtain rfl : 0 = n := by simpa using h
        simp
      · obtain ⟨k, hk, rfl⟩ := Option.map_eq_some_iff.1 h
        simpa using ih hk

theorem evenLine?_lt {depth : Int} {ls : List Text} {n : Nat} (h : evenLine? depth ls = some n) :
    n < ls.length := by
  induction ls generalizing depth n with
  | nil => simp [evenLine?] at h
  | cons line ls ih =>
      simp only [evenLine?] at h
      generalize depth + (if line.contains '{' then 1 else 0) -
        (if line.contains '}' then 1 else 0) = balance at h
      split at h
      · obtain rfl : 0 = n := by simpa using h
        simp
      · obtain ⟨k, hk, rfl⟩ := Option.map_eq_some_iff.1 h
        simpa using ih hk

theorem braceEnd_bounds {ls : List Text} {start : Nat} (h : start < ls.length) (limit : Nat) :
    start < braceEnd ls start limit ∧ braceEnd ls start limit ≤ ls.length := by
  unfold braceEnd
  generalize hw : (ls.drop start).take (max limit 1) = window
  have hwindow : 1 ≤ window.length ∧ start + window.length ≤ ls.length := by
    rw [← hw, List.length_take, List.length_drop]
    omega
  cases hc : closingLine? 0 false window with
  | none =>
      simp only [hc]
      omega
  | some n =>
      have hn := closingLine?_lt hc
      simp only [hc]
      omega

/-- A block is followed for no more lines than the limit. -/
theorem braceEnd_le_add (ls : List Text) (start : Nat) {limit : Nat} (h : 1 ≤ limit) :
    braceEnd ls start limit ≤ start + limit := by
  unfold braceEnd
  generalize hw : (ls.drop start).take (max limit 1) = window
  have hwindow : window.length ≤ limit := by
    rw [← hw, List.length_take]
    omega
  cases hc : closingLine? 0 false window with
  | none =>
      simp only [hc]
      omega
  | some n =>
      have hn := closingLine?_lt hc
      simp only [hc]
      omega

theorem braceLineEnd_bounds {ls : List Text} {start : Nat} (h : start < ls.length) :
    start < braceLineEnd ls start ∧ braceLineEnd ls start ≤ ls.length := by
  have hdrop : ls.drop start = ls[start] :: ls.drop (start + 1) := List.drop_eq_getElem_cons h
  unfold braceLineEnd
  rw [hdrop]
  simp only
  split
  · rename_i n hn
    have hn := evenLine?_lt hn
    rw [List.length_drop] at hn
    omega
  · omega

/-! ## Indentation -/

theorem length_indentedLines_le (indent : Nat) (following : List Text) :
    (indentedLines indent following).length ≤ following.length := by
  unfold indentedLines
  rw [List.length_reverse]
  refine Nat.le_trans (List.dropWhile_sublist _).length_le ?_
  rw [List.length_reverse]
  exact (List.takeWhile_sublist _).length_le

/-- Where there is a line there is an end of its block. -/
theorem indentEnd?_bounds {ls : List Text} {start : Nat} (h : start < ls.length) (limit : Nat) :
    ∃ stop, indentEnd? ls start limit = some stop ∧ start < stop ∧ stop ≤ ls.length := by
  have hdrop : ls.drop start = ls[start] :: ls.drop (start + 1) := List.drop_eq_getElem_cons h
  have hle := length_indentedLines_le (Text.indentation ls[start])
    ((ls.drop (start + 1)).take (limit - 1))
  rw [List.length_take, List.length_drop] at hle
  unfold indentEnd?
  rw [hdrop]
  exact ⟨_, rfl, by omega, by omega⟩

/-- An indented block is followed for no more lines than the limit, its heading among them. -/
theorem indentEnd?_le_add {ls : List Text} {start stop limit : Nat} (hlimit : 1 ≤ limit)
    (h : indentEnd? ls start limit = some stop) : stop ≤ start + limit := by
  cases hdrop : ls.drop start with
  | nil => simp [indentEnd?, hdrop] at h
  | cons heading following =>
      simp only [indentEnd?, hdrop, Option.some.injEq] at h
      have hle := length_indentedLines_le (Text.indentation heading) (following.take (limit - 1))
      rw [List.length_take] at hle
      omega

end CodeSurvey
