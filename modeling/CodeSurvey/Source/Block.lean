import CodeSurvey.Text.Blank

/-!
# Lines and blocks

Lines are numbered from zero where a block is sought and from one where a range is shown. The end
of a block is the number of the first line after it.

## Main definitions

* `lineOfOffset t n`: the line that holds the character at offset `n`.
* `lineRange ls s e`: the lines from the `s`-th to the `e`-th, counted from one, as a text;
  `lineSlice` takes numbers that count back from the end as well.
* `braceEnd`, `indentEnd?`, `braceLineEnd`: the end of the block that begins on a given line.
-/

namespace CodeSurvey

/-- The number of the line on which the character at an offset stands. -/
def lineOfOffset (t : Text) (offset : Nat) : Nat := (t.take offset).count '\n'

/-- The lines from `first` to `last`, both included and counted from one. -/
def lineRange (ls : List Text) (first last : Nat) : Text :=
  Text.unlines ((ls.take last).drop (first - 1))

/-- A place in a list of the given length; a number below zero counts back from the end. -/
def placeOf (length : Nat) (n : Int) : Nat := if n < 0 then (length + n).toNat else n.toNat

/-- The lines from `first` to `last`, either of which may count back from the end. -/
def lineSlice (ls : List Text) (first last : Int) : Text :=
  Text.unlines ((ls.take (placeOf ls.length last)).drop (placeOf ls.length (first - 1)))

theorem lineSlice_natCast (ls : List Text) (first last : Nat) (h : 0 < first) :
    lineSlice ls first last = lineRange ls first last := by
  have hfirst : placeOf ls.length ((first : Int) - 1) = first - 1 := by
    unfold placeOf; split <;> omega
  have hlast : placeOf ls.length (last : Int) = last := by
    unfold placeOf; split <;> omega
  rw [lineSlice, lineRange, hfirst, hlast]

/-- The number of lines that the block of a function is followed for. -/
def blockLimit : Nat := 30

/-! ## Braces -/

/-- Opening less closing braces of a line. -/
def braceBalance (line : Text) : Int := (line.count '{' : Int) - line.count '}'

/-- The number of lines before the one on which the braces first come out even, once one has been
opened. -/
def closingLine? (depth : Int) (opened : Bool) : List Text → Option Nat
  | [] => none
  | line :: rest =>
    let depth := depth + braceBalance line
    let opened := opened || line.contains '{'
    if opened && depth == 0 then some 0 else (closingLine? depth opened rest).map (· + 1)

/-- The end of the block of braces that begins on line `start`. A block that does not close ends
with the text or after `limit` lines; it holds at least the line it begins on. -/
def braceEnd (ls : List Text) (start : Nat) (limit : Nat) : Nat :=
  let window := (ls.drop start).take (max limit 1)
  match closingLine? 0 false window with
  | some before => start + before + 1
  | none => start + max window.length 1

/-- The number of lines before the one after the first on which as many lines have closed a brace
as have opened one. -/
def evenLine? (depth : Int) : List Text → Option Nat
  | [] => none
  | line :: rest =>
    let depth := depth + (if line.contains '{' then 1 else 0) - (if line.contains '}' then 1 else 0)
    if depth == 0 then some 0 else (evenLine? depth rest).map (· + 1)

/-- The end of the block that begins on line `start`, where every line opens and closes at most one
brace. A block that does not close ends with the text. -/
def braceLineEnd (ls : List Text) (start : Nat) : Nat :=
  match ls.drop start with
  | [] => ls.length
  | line :: rest =>
    let depth : Int := (if line.contains '{' then 1 else 0) - (if line.contains '}' then 1 else 0)
    match evenLine? depth rest with
    | some before => start + before + 2
    | none => ls.length

/-! ## Indentation -/

/-- The lines that belong to a block whose heading has the given indentation: those before the
first line that says something and is not indented more, without blank lines at the end. -/
def indentedLines (indent : Nat) (following : List Text) : List Text :=
  let block := following.takeWhile fun line =>
    Text.isBlankLine line || decide (indent < Text.indentation line)
  (block.reverse.dropWhile Text.isBlankLine).reverse

/-- The end of the indented block that line `start` heads, followed for fewer than `limit` lines.
There is none where there is no such line. -/
def indentEnd? (ls : List Text) (start : Nat) (limit : Nat) : Option Nat :=
  match ls.drop start with
  | [] => none
  | heading :: following =>
    some (start + 1 +
      (indentedLines (Text.indentation heading) (following.take (limit - 1))).length)

end CodeSurvey
