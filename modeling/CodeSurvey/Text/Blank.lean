import CodeSurvey.Text.Basic

/-!
# Blanks and line boundaries

Blanks are the characters that trimming removes. Line boundaries in the wide sense are those that
`splitLines` cuts at; the narrow sense of `Text.lines` knows the newline only.

## Main definitions

* `isBlank`, `trim`, `trimStart`, `trimEnd`, `indentation`.
* `splitLines t`: the lines of `t` in the wide sense, with no empty last line.
* `unifyNewlines t`: `t` with every carriage return, alone or before a newline, made a newline.
-/

namespace CodeSurvey
namespace Text

/-- White space, and the separators of file, group, record and unit. -/
def isBlank (c : Char) : Bool :=
  let n := c.toNat
  if n < 0x80 then (9 ≤ n && n ≤ 13) || (28 ≤ n && n ≤ 32)
  else n == 0x85 || n == 0xA0 || n == 0x1680 || (0x2000 ≤ n && n ≤ 0x200A) || n == 0x2028 ||
    n == 0x2029 || n == 0x202F || n == 0x205F || n == 0x3000

/-! ## Trimming -/

/-- The text without its leading blanks. -/
def trimStart (t : Text) : Text := t.dropWhile isBlank

/-- The text without its trailing blanks. -/
def trimEnd (t : Text) : Text := (t.reverse.dropWhile isBlank).reverse

/-- The text without blanks at either end. -/
def trim (t : Text) : Text := trimEnd (trimStart t)

/-- A line of blanks only says nothing. -/
def isBlankLine (t : Text) : Bool := t.all isBlank

/-- The number of blanks at the start of a line; each counts one, tabs included. -/
def indentation (t : Text) : Nat := (t.takeWhile isBlank).length

theorem indentation_eq (t : Text) : indentation t = t.length - (trimStart t).length := by
  have := congrArg List.length (List.takeWhile_append_dropWhile (p := isBlank) (l := t))
  simp only [List.length_append] at this
  simp only [indentation, trimStart]
  omega

theorem dropWhile_isBlank_eq_nil_iff {t : Text} :
    t.dropWhile isBlank = [] ↔ isBlankLine t = true := by
  induction t with
  | nil => simp [isBlankLine]
  | cons c t ih => cases h : isBlank c <;> simp_all [isBlankLine]

theorem isBlankLine_dropWhile {t : Text} :
    isBlankLine (t.dropWhile isBlank) = true ↔ isBlankLine t = true := by
  induction t with
  | nil => simp
  | cons c t ih => cases h : isBlank c <;> simp_all [isBlankLine]

theorem trim_eq_nil_iff {t : Text} : trim t = [] ↔ isBlankLine t = true := by
  rw [trim, trimEnd, List.reverse_eq_nil_iff, dropWhile_isBlank_eq_nil_iff, trimStart,
    ← isBlankLine_dropWhile (t := t)]
  simp [isBlankLine]

/-! ## Line boundaries -/

/-- The characters that end a line in the wide sense. -/
def isLineBoundary (c : Char) : Bool :=
  let n := c.toNat
  (10 ≤ n && n ≤ 13) || (28 ≤ n && n ≤ 30) || n == 0x85 || n == 0x2028 || n == 0x2029

/-- Drops every carriage return that a newline follows. The pair under the fold is the text so
far and whether its first character is a newline of the input. -/
def dropReturns (t : Text) : Text :=
  (t.foldr (fun c (acc : Text × Bool) =>
    if c == '\r' && acc.2 then (acc.1, false) else (c :: acc.1, c == '\n')) ([], false)).1

/-- Carriage returns, alone or before a newline, become newlines. -/
def unifyNewlines (t : Text) : Text := (dropReturns t).map fun c => if c == '\r' then '\n' else c

/-- The lines in the wide sense. A boundary at the end does not begin another line. -/
def splitLines (t : Text) : List Text :=
  let pieces := splitWhere isLineBoundary (dropReturns t)
  if pieces.getLast? = some [] then pieces.dropLast else pieces

end Text
end CodeSurvey
