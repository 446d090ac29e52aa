import CodeSurvey.Yaml.Basic

/-!
# Places in a YAML text

A place knows its line and its column, since indentation carries meaning. Lines may end in a
newline, in a next-line character or in one of the two separators of Unicode; carriage returns
have been made newlines before. A byte order mark takes no column.

## Main definitions

* `Yaml.Cursor`: a place in a text, with what follows it.
* `Yaml.Cursor.next`, `Yaml.Cursor.skip`: going on over characters.
-/

namespace CodeSurvey
namespace Yaml

/-- The characters that end a line. -/
def isBreak (c : Char) : Bool := c == '\n' || c == '\x85' || c == '\u2028' || c == '\u2029'

/-- The characters that stand between tokens. -/
def isGap (c : Char) : Bool := c == ' ' || c == '\t' || isBreak c

/-- What the end of a line is read as. -/
def breakChar (c : Char) : Char := if c == '\x85' then '\n' else c

/-- Line ends inside a text that is folded: a single newline becomes a blank, and of several
newlines the first is dropped. -/
def folded (first : Char) (more : Text) : Text :=
  if breakChar first != '\n' then breakChar first :: more
  else if more.isEmpty then [' '] else more

/-- A place in a text. -/
structure Cursor where
  rest : Text
  offset : Nat
  line : Nat
  column : Nat
deriving Repr, DecidableEq

namespace Cursor

/-- The beginning of a text, before a byte order mark. -/
def start (t : Text) : Cursor := ⟨t, 0, 0, 0⟩

/-- The place after the next character. -/
def next (k : Cursor) : Cursor :=
  match k.rest with
  | [] => k
  | c :: rest =>
    if isBreak c then ⟨rest, k.offset + 1, k.line + 1, 0⟩
    else ⟨rest, k.offset + 1, k.line, if c == '\ufeff' then k.column else k.column + 1⟩

/-- The place after the next `n` characters. -/
def skip : Nat → Cursor → Cursor
  | 0, k => k
  | n + 1, k => skip n k.next

/-- The characters of a class that follow, and the place after them. -/
def takeWhile (accepts : Char → Bool) (k : Cursor) : Text × Cursor :=
  let run := k.rest.takeWhile accepts
  (run, k.skip run.length)

/-- The place after the characters of a class. -/
def skipWhile (accepts : Char → Bool) (k : Cursor) : Cursor := (k.takeWhile accepts).2

/-- The next character. -/
def head? (k : Cursor) : Option Char := k.rest.head?

/-- The character `n` places further. -/
def peek? (k : Cursor) (n : Nat) : Option Char := k.rest[n]?

/-- Whether the next character is the given one. -/
def isAt (k : Cursor) (c : Char) : Bool := k.head? == some c

/-- Whether a gap or the end of the text is `n` places further. -/
def gapAt (k : Cursor) (n : Nat) : Bool := (k.peek? n).all isGap

/-- Whether a line or the text ends here. -/
def atLineEnd (k : Cursor) : Bool := k.head?.all isBreak

/-- Whether a blank follows, or the line or the text ends here. -/
def atSpaceOrEnd (k : Cursor) : Bool := k.head?.all fun c => c == ' ' || isBreak c

/-- Whether three hyphens or three points stand here on their own. -/
def atDocumentMark (k : Cursor) : Bool :=
  let mark := k.rest.take 3
  (mark == "---".toList || mark == "...".toList) && k.gapAt 3

/-- The place after blanks. -/
def skipBlanks (k : Cursor) : Cursor := k.skipWhile (· == ' ')

/-- The place after a comment, if one begins here. -/
def skipComment (k : Cursor) : Cursor := if k.isAt '#' then k.skipWhile fun c => !isBreak c else k

/-- The place after blanks, a comment and the end of a line, if nothing else is on it. -/
def finishLine (k : Cursor) : Except Fault Cursor :=
  let k := k.skipBlanks.skipComment
  if k.atLineEnd then .ok k.next else .error .malformed

end Cursor
end Yaml
end CodeSurvey
