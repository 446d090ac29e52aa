import CodeSurvey.Text.Digits
import CodeSurvey.Yaml.Cursor

/-!
# Reading YAML scalars

A scalar is plain, quoted, or a block of indented lines. Plain and quoted scalars may go over
several lines, whose ends are folded.

## Main definitions

* `Yaml.plainOf`, `Yaml.quotedOf`, `Yaml.blockOf`: the three readers.
-/

namespace CodeSurvey
namespace Yaml

/-! ## Plain scalars -/

/-- Whether a plain scalar ends before a character, given the one after it. Inside brackets more
characters end it. -/
def endsPlain (flow : Bool) (c : Char) (after : Option Char) : Bool :=
  isGap c ||
    (c == ':' && after.all fun d => isGap d || (flow && [',', '[', ']', '{', '}'].contains d)) ||
    (flow && [',', '?', '[', ']', '{', '}'].contains c)

/-- The characters of a plain scalar up to the next gap. -/
def plainRun (flow : Bool) : Text → Text
  | [] => []
  | c :: rest => if endsPlain flow c rest.head? then [] else c :: plainRun flow rest

/-- Blanks and line ends after the first line end inside a plain scalar: the line ends and the place
after them all, or nothing before a document mark. Every character costs fuel. -/
def plainBreaks : (fuel : Nat) → (breaks : Text) → Cursor → Option Text × Cursor
  | 0, breaks, k => (some breaks.reverse, k)
  | fuel + 1, breaks, k =>
    match k.head? with
    | some c =>
      if c == ' ' then plainBreaks fuel breaks k.next
      else if isBreak c then
        let breaks := breakChar c :: breaks
        if k.next.atDocumentMark then (none, k.next) else plainBreaks fuel breaks k.next
      else (some breaks.reverse, k)
    | none => (some breaks.reverse, k)

/-- What stands between two runs of a plain scalar, and whether a line ends there. Nothing stands
there if the scalar is over. -/
def plainGap (k : Cursor) : Text × Bool × Cursor :=
  let (blanks, k) := k.takeWhile (· == ' ')
  match k.head? with
  | some c =>
    if !isBreak c then (blanks, false, k)
    else if k.next.atDocumentMark then ([], true, k.next)
    else match plainBreaks k.rest.length [] k.next with
      | (some breaks, k) => (folded c breaks, true, k)
      | (none, k) => ([], true, k)
  | none => (blanks, false, k)

/-- The rest of a plain scalar after some characters and a gap, and whether a line ends right before
the place where it stops. -/
def plainFrom (flow : Bool) (indent : Nat) :
    (fuel : Nat) → (done gap : Text) → (broken : Bool) → Cursor → Text × Bool × Cursor
  | 0, done, _, broken, k => (done, broken, k)
  | fuel + 1, done, gap, broken, k =>
    let run := if k.isAt '#' then [] else plainRun flow k.rest
    if run.isEmpty then (done, broken, k)
    else
      let done := done ++ gap ++ run
      let (gap, broken, k) := plainGap (k.skip run.length)
      if gap.isEmpty || k.isAt '#' || (!flow && k.column < indent) then (done, broken, k)
      else plainFrom flow indent fuel done gap broken k

/-- A plain scalar whose lines are indented by at least the given number of columns. -/
def plainOf (flow : Bool) (indent : Nat) (k : Cursor) : Text × Bool × Cursor :=
  plainFrom flow indent (k.rest.length + 1) [] [] false k

/-! ## Quoted scalars -/

/-- What a letter after a backslash stands for. -/
def escapes : List (Char × Char) := [
  ('0', '\x00'), ('a', '\x07'), ('b', '\x08'), ('t', '\t'), ('\t', '\t'), ('n', '\n'),
  ('v', '\x0b'), ('f', '\x0c'), ('r', '\r'), ('e', '\x1b'), (' ', ' '), ('"', '"'), ('\\', '\\'),
  ('/', '/'), ('N', '\x85'), ('_', '\xa0'), ('L', '\u2028'), ('P', '\u2029')]

/-- The number of hexadecimal digits after a letter that announces some. -/
def escapeWidths : List (Char × Nat) := [('x', 2), ('u', 4), ('U', 8)]

/-- The character of a code. Half of a surrogate pair is replaced. -/
def charOfCode (code : Nat) : Except Fault Char :=
  if 0x10FFFF < code then .error (.badCharacter code)
  else .ok (if 0xD800 ≤ code && code < 0xE000 then '\ufffd' else Char.ofNat code)

/-- A character given by hexadecimal digits. -/
def codeOf (width : Nat) (k : Cursor) : Except Fault (Char × Cursor) :=
  let digits := k.rest.take width
  if digits.length < width then .error .malformed
  else match digits.mapM Text.hexValue? with
    | none => .error .malformed
    | some values =>
      (charOfCode (values.foldl (fun n d => 16 * n + d) 0)).map fun c => (c, k.skip width)

/-- The empty lines after a line end inside quotes, and the place where text goes on. -/
def quotedBreaks : (fuel : Nat) → (breaks : Text) → Cursor → Except Fault (Text × Cursor)
  | 0, _, _ => .error .malformed
  | fuel + 1, breaks, k =>
    if k.atDocumentMark then .error .malformed
    else
      let k := k.skipWhile fun c => c == ' ' || c == '\t'
      match k.head? with
      | some c =>
        if isBreak c then quotedBreaks fuel (breakChar c :: breaks) k.next
        else .ok (breaks.reverse, k)
      | none => .ok (breaks.reverse, k)

/-- A gap inside quotes. -/
def quotedGap (k : Cursor) : Except Fault (Text × Cursor) :=
  let (blanks, k) := k.takeWhile fun c => c == ' ' || c == '\t'
  match k.head? with
  | none => .error .malformed
  | some c =>
    if isBreak c then
      (quotedBreaks (k.rest.length + 1) [] k.next).map fun (breaks, k) => (folded c breaks, k)
    else .ok (blanks, k)

/-- What a backslash and what follows it stand for. At the end of a line they join two lines. -/
def escapeOf (k : Cursor) : Except Fault (Text × Cursor) :=
  match k.head? with
  | none => .error .malformed
  | some c =>
    match escapes.lookup c, escapeWidths.lookup c with
    | some d, _ => .ok ([d], k.next)
    | none, some width => (codeOf width k.next).map fun (d, k) => ([d], k)
    | none, none =>
      if isBreak c then quotedBreaks (k.rest.length + 1) [] k.next else .error .malformed

/-- The rest of a quoted scalar; the characters so far are in `done`, the latest first. -/
def quotedFrom (double : Bool) :
    (fuel : Nat) → (done : Text) → Cursor → Except Fault (Text × Cursor)
  | 0, _, _ => .error .malformed
  | fuel + 1, done, k =>
    match k.head? with
    | none => .error .malformed
    | some c =>
      if isGap c then
        match quotedGap k with
        | .ok (gap, k) => quotedFrom double fuel (gap.reverse ++ done) k
        | .error e => .error e
      else if double && c == '\\' then
        match escapeOf k.next with
        | .ok (t, k) => quotedFrom double fuel (t.reverse ++ done) k
        | .error e => .error e
      else if c == (if double then '"' else '\'') then
        if !double && k.peek? 1 == some '\'' then quotedFrom double fuel ('\'' :: done) (k.skip 2)
        else .ok (done.reverse, k.next)
      else quotedFrom double fuel (c :: done) k.next

/-- A quoted scalar, after its opening quote. -/
def quotedOf (double : Bool) (k : Cursor) : Except Fault (Text × Cursor) :=
  quotedFrom double (k.rest.length + 1) [] k

/-! ## Block scalars -/

/-- What becomes of the line ends after a block. -/
inductive Chomping where
  /-- None is kept. -/
  | strip
  /-- One is kept. -/
  | clip
  /-- All are kept. -/
  | keep
deriving Repr, DecidableEq

/-- The chomping that a sign asks for. -/
def chompingOf (k : Cursor) : Option Chomping × Cursor :=
  match k.head? with
  | some '+' => (some .keep, k.next)
  | some '-' => (some .strip, k.next)
  | _ => (none, k)

/-- The indentation that a digit asks for. -/
def incrementOf (k : Cursor) : Except Fault (Option Nat × Cursor) :=
  match k.head? with
  | some c =>
    if c == '0' then .error .malformed
    else if c.isDigit then .ok (some (c.toNat - '0'.toNat), k.next)
    else .ok (none, k)
  | none => .ok (none, k)

/-- The signs at the head of a block, in either order, and the place after the line. -/
def blockHead (k : Cursor) : Except Fault (Chomping × Option Nat × Cursor) := do
  let (before, k) := chompingOf k
  let (increment, k) ← incrementOf k
  let (after, k) := if before.isNone && increment.isSome then chompingOf k else (none, k)
  if k.atSpaceOrEnd then
    let k ← k.finishLine
    return ((before.or after).getD .clip, increment, k)
  else .error .malformed

/-- The empty lines before a block of unknown indentation, the widest indentation among them and the
place after them. -/
def leadingLines : (fuel : Nat) → (breaks : Text) → (widest : Nat) → Cursor → Text × Nat × Cursor
  | 0, breaks, widest, k => (breaks.reverse, widest, k)
  | fuel + 1, breaks, widest, k =>
    match k.head? with
    | some c =>
      if c == ' ' then leadingLines fuel breaks (max widest k.next.column) k.next
      else if isBreak c then leadingLines fuel (breakChar c :: breaks) widest k.next
      else (breaks.reverse, widest, k)
    | none => (breaks.reverse, widest, k)

/-- The place after blanks up to a column. -/
def indentTo : (fuel column : Nat) → Cursor → Cursor
  | 0, _, k => k
  | fuel + 1, column, k =>
    if k.column < column && k.isAt ' ' then indentTo fuel column k.next else k

/-- The empty lines of a block of known indentation, and the place after the indentation of the next
line. -/
def blockBreaks : (fuel indent : Nat) → (breaks : Text) → Cursor → Text × Cursor
  | 0, _, breaks, k => (breaks.reverse, k)
  | fuel + 1, indent, breaks, k =>
    let k := indentTo indent indent k
    match k.head? with
    | some c =>
      if isBreak c then blockBreaks fuel indent (breakChar c :: breaks) k.next
      else (breaks.reverse, k)
    | none => (breaks.reverse, k)

/-- The lines of a block from the given place on: their text, the end of the last of them and the
empty lines after it. -/
def blockLines (fold : Bool) (indent : Nat) :
    (fuel : Nat) → (done ending breaks : Text) → Cursor → Text × Text × Text × Cursor
  | 0, done, ending, breaks, k => (done, ending, breaks, k)
  | fuel + 1, done, ending, breaks, k =>
    if k.column != indent || k.head?.isNone then (done, ending, breaks, k)
    else
      let isText (k : Cursor) : Bool := k.head?.all fun c => c != ' ' && c != '\t'
      let starts := isText k
      let (line, k) := k.takeWhile fun c => !isBreak c
      let done := done ++ breaks ++ line
      let ending := (k.rest.take 1).map breakChar
      let (breaks, k) := blockBreaks (k.rest.length + 1) indent [] k.next
      if k.column != indent || k.head?.isNone then (done, ending, breaks, k)
      else
        let joint :=
          if fold && ending == ['\n'] && starts && isText k then
            if breaks.isEmpty then [' '] else []
          else ending
        blockLines fold indent fuel (done ++ joint) ending breaks k

/-- A block scalar, after its sign, inside a collection with the given indentation. -/
def blockOf (fold : Bool) (indent : Int) (k : Cursor) : Except Fault (Text × Cursor) := do
  let (chomping, increment, k) ← blockHead k
  let least := (max (indent + 1) 1).toNat
  let (breaks, column, k) := match increment with
    | none =>
      let (breaks, widest, k) := leadingLines (k.rest.length + 1) [] 0 k
      (breaks, max least widest, k)
    | some n =>
      let column := least + n - 1
      let (breaks, k) := blockBreaks (k.rest.length + 1) column [] k
      (breaks, column, k)
  let (done, ending, breaks, k) := blockLines fold column (k.rest.length + 1) [] [] breaks k
  let kept := match chomping with
    | .strip => []
    | .clip => ending
    | .keep => ending ++ breaks
  return (done ++ kept, k)

end Yaml
end CodeSurvey
