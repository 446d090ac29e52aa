import CodeSurvey.Quantity
import CodeSurvey.Regex.Match
import CodeSurvey.Source.Language

/-!
# Duplicated code

Every five neighbouring lines form a window. A window qualifies if it is long enough and not made of
comments for the most part; its key is its text with names, numbers, strings and blanks made
alike, so that windows of one shape have one key.

## Main definitions

* `shape block`: the key of a block.
* `duplicateKeys style ls`: the keys of the qualifying windows of some lines.
* `duplicatePercentage keys lines`: the qualifying windows in a hundred lines.
-/

namespace CodeSurvey

/-! ## Shapes -/

namespace Shape

open Regex

/-- A name that stands alone. -/
def nameExpr : Regex := wordEdge ++ scriptName ++ wordEdge

/-- Decimal digits of any script. -/
def numberExpr : Regex := many1 Text.isDecimal

/-- Quotes of the three kinds. -/
def isQuote (c : Char) : Bool := c == '\'' || c == '"' || c == '\x60'

/-- A string: text without quotes between two quotes, of one kind or not. -/
def stringExpr : Regex := char isQuote ++ many (fun c => !isQuote c) ++ char isQuote

end Shape

open Shape in
/-- A block with its blanks, names, numbers and strings made alike, in that order. -/
def shape (block : Text) : Text :=
  let block := Regex.blanks1.replaceAll " " block
  let block := nameExpr.replaceAll "VAR" block
  let block := numberExpr.replaceAll "NUM" block
  let block := stringExpr.replaceAll "STR" block
  Text.trim block

/-! ## Windows -/

/-- The number of lines of a window. -/
def windowLines : Nat := 5

/-- The least number of characters of a window, blanks at its ends aside. -/
def windowCharacters : Nat := 50

/-- Neighbouring lines, `size` at a time. -/
def windows (size : Nat) : List Text → List (List Text)
  | [] => []
  | line :: rest =>
    let window := (line :: rest).take size
    if window.length = size then window :: windows size rest else []

/-- The text of a window, without blanks at its ends. -/
def windowText (window : List Text) : Text := Text.trim (Text.unlines window)

/-- Whether more than half of the lines that say something are comments, or none says anything. -/
def mostlyComments (style : CommentStyle) (window : List Text) : Bool :=
  let content := window.filter fun line => !Text.isBlankLine line
  content.isEmpty || content.length < 2 * content.countP (isComment style)

/-- Whether a window is held against others. -/
def qualifies (style : CommentStyle) (window : List Text) : Bool :=
  windowCharacters ≤ (windowText window).length && !mostlyComments style window

/-- The windows of some lines that are held against others. -/
def qualifyingWindows (style : CommentStyle) (ls : List Text) : List (List Text) :=
  (windows windowLines ls).filter (qualifies style)

/-- The keys of the windows that are held against others, in order. -/
def duplicateKeys (style : CommentStyle) (ls : List Text) : List Text :=
  (qualifyingWindows style ls).map fun window => shape (windowText window)

/-! ## The percentage -/

/-- Keys in groups of equal ones. -/
def keyGroups (keys : List Text) : List (List Text) := (Text.sort keys).splitBy (· == ·)

/-- The windows in a hundred lines, taken over all groups; a window that is alone in its group
counts too. -/
def duplicatePercentage {α : Type} [Quantity α] (keys : List Text) (lineCount : Nat) : α :=
  if lineCount = 0 then ((0 : Nat) : α)
  else
    let occurrences : Nat := ((keyGroups keys).map List.length).foldr (· + ·) 0
    Quantity.clamp ((0 : Nat) : α) ((100 : Nat) : α)
      (((100 : Nat) : α) * (occurrences : α) / (lineCount : α))

end CodeSurvey
