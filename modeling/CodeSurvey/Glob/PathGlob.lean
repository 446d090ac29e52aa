import CodeSurvey.Text.Basic

/-!
# Path globs

Globs that select files by their path: `**` passes folders, `*` and `?` stay inside one, and
braces list spellings. A glob is read into pieces, and a path matches when it can be cut into
consecutive parts, one for each piece.

## Main definitions

* `PathGlob.read g`: the pieces of the glob `g`.
* `PathGlob.covers ps path`: whether the pieces can take the whole path.
* `PathGlob.matchesAny globs path`: whether one of several globs matches.
-/

namespace CodeSurvey

/-- A piece of a path glob. -/
inductive PathGlob.Piece where
  /-- `**/`: nothing, or folders with the slash after the last. -/
  | folders
  /-- `**`: any text. -/
  | anything
  /-- `*`: any text inside one folder. -/
  | inside
  /-- `?`: one character other than the slash. -/
  | one
  /-- `{a,b}`: one of the spellings. -/
  | choice (spellings : List Text)
  /-- Any other character stands for itself. -/
  | literal (c : Char)
deriving Repr, DecidableEq

namespace PathGlob

/-! ## Reading -/

/-- The pieces of a glob after its next `skip` characters, which belong to a piece already read.
A brace that is never closed stands for itself. -/
def readFrom : (skip : Nat) → Text → List Piece
  | _, [] => []
  | skip + 1, _ :: rest => readFrom skip rest
  | 0, '*' :: '*' :: '/' :: rest => .folders :: readFrom 0 rest
  | 0, '*' :: '*' :: rest => .anything :: readFrom 0 rest
  | 0, '*' :: rest => .inside :: readFrom 0 rest
  | 0, '?' :: rest => .one :: readFrom 0 rest
  | 0, '{' :: rest =>
    if rest.contains '}' then
      let inner := rest.takeWhile (· != '}')
      .choice (Text.splitOn ',' inner) :: readFrom (inner.length + 1) rest
    else .literal '{' :: readFrom 0 rest
  | 0, c :: rest => .literal c :: readFrom 0 rest

/-- The pieces of a glob, from left to right. -/
def read (glob : Text) : List Piece := readFrom 0 glob

/-! ## Matching -/

/-- What is left of a text after each of its beginnings that consist of accepted characters, the
empty beginning first. -/
def rests (accepts : Char → Bool) : Text → List Text
  | [] => [[]]
  | c :: rest => (c :: rest) :: if accepts c then rests accepts rest else []

/-- What is left of a text after each of its beginnings that end in a slash and stay in one
line. -/
def restsAfterSlash : Text → List Text
  | [] => []
  | c :: rest =>
    if c == '\n' then []
    else if c == '/' then rest :: restsAfterSlash rest
    else restsAfterSlash rest

/-- Whether the pieces take the whole path, or all but a newline at its end. -/
def covers : List Piece → Text → Bool
  | [], path => path.isEmpty || path == ['\n']
  | .folders :: pieces, path =>
    covers pieces path || (restsAfterSlash path).any (covers pieces)
  | .anything :: pieces, path => (rests (· != '\n') path).any (covers pieces)
  | .inside :: pieces, path => (rests (· != '/') path).any (covers pieces)
  | .one :: pieces, path =>
    match path with
    | [] => false
    | c :: rest => c != '/' && covers pieces rest
  | .choice spellings :: pieces, path =>
    spellings.any fun spelling =>
      spelling.isPrefixOf path && covers pieces (path.drop spelling.length)
  | .literal c :: pieces, path =>
    match path with
    | [] => false
    | d :: rest => c == d && covers pieces rest

/-- Whether one of the globs matches the path. -/
def matchesAny (globs : List (List Piece)) (path : Text) : Bool :=
  globs.any fun pieces => covers pieces path

end PathGlob
end CodeSurvey
