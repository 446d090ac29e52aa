import CodeSurvey.Text.Word
import CodeSurvey.Text.Blank

/-!
# Regular expressions

Expressions whose only repetition is that of a single character class, which is all that the
search for declarations, calls and path endings needs. So a run ends where the text does, and
matching recurses on the expression alone.

## Main definitions

* `Regex`: the expressions, with `++` for sequence and `<|>` for ordered choice.
* `Regex.literal`, `Regex.oneOf`, `Regex.many`, `Regex.many1`: the common ways to build them.
-/

namespace CodeSurvey

/-- A regular expression over the characters of a text. -/
inductive Regex where
  /-- The empty text. -/
  | empty
  /-- One character of a class. -/
  | char (accepts : Char → Bool)
  /-- A run of characters of a class, as long as possible when `greedy` and as short as possible
  otherwise; it may be empty. -/
  | run (greedy : Bool) (accepts : Char → Bool)
  /-- One expression after the other. -/
  | seq (first second : Regex)
  /-- The second expression is tried when the first leads to no match. -/
  | choice (first second : Regex)
  /-- What the expression matches is kept under a number. -/
  | group (number : Nat) (inner : Regex)
  /-- The beginning of the text. -/
  | textStart
  /-- The beginning of the text or of a line. -/
  | lineStart
  /-- The end of the text, or the newline that ends it. -/
  | textEnd
  /-- The place between a word character and another character or an end of the text. -/
  | wordEdge

namespace Regex

instance : Append Regex := ⟨seq⟩
instance : OrElse Regex := ⟨fun first second => choice first (second ())⟩

/-! ## Combinators -/

/-- The characters of a text, one after the other. -/
def literal (spelling : String) : Regex :=
  spelling.toList.foldr (fun c rest => char (· == c) ++ rest) empty

/-- The first of several spellings that leads to a match. -/
def oneOf : List String → Regex
  | [] => char fun _ => false
  | [spelling] => literal spelling
  | spelling :: rest => literal spelling <|> oneOf rest

/-- A run of the class that may be empty. -/
def many (accepts : Char → Bool) : Regex := run true accepts

/-- A run of the class of at least one character. -/
def many1 (accepts : Char → Bool) : Regex := char accepts ++ run true accepts

/-- The shortest run of the class that leads to a match. -/
def fewest (accepts : Char → Bool) : Regex := run false accepts

/-- The expression if it leads to a match, and the empty text otherwise. -/
def opt (inner : Regex) : Regex := choice inner empty

/-! ## Character classes -/

/-- Blanks that may be absent. -/
def blanks : Regex := many Text.isBlank

/-- At least one blank. -/
def blanks1 : Regex := many1 Text.isBlank

/-- Capitals of the ASCII block. -/
def isCapital (c : Char) : Bool := c.isUpper

/-- Letters of the ASCII block. -/
def isLetter (c : Char) : Bool := c.isAlpha

/-- A word and the blanks after it. -/
def word (spelling : String) : Regex := literal spelling ++ blanks1

/-- An opening parenthesis after blanks that may be absent. -/
def call : Regex := blanks ++ literal "("

/-- One of the suffixes at the end of a path. -/
def endingIn (suffixes : List String) : Regex := literal "." ++ oneOf suffixes ++ textEnd

/-- A capital and the letters after it. -/
def capitalized : Regex := char isCapital ++ many isLetter

/-- Characters other than the newline. -/
def isInline (c : Char) : Bool := c != '\n'

/-- A name in a script: a letter, underscore or dollar sign, then those and digits. -/
def scriptName : Regex :=
  char (fun c => isLetter c || c == '_' || c == '$') ++
    many fun c => c.isAlphanum || c == '_' || c == '$'

end Regex
end CodeSurvey
