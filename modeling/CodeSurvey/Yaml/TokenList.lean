import CodeSurvey.Yaml.Token

/-!
# The tokens of a YAML text

Reading keeps the indentation of the open blocks and, for each level of brackets, the place where
a key may have begun whose colon is still to come. A key and its colon stand on one line.

## Main definitions

* `Yaml.Reading`: what is kept while tokens are read.
* `Yaml.tokens t`: the tokens of `t`.
-/

namespace CodeSurvey
namespace Yaml

/-- A place where a key may have begun. -/
structure PossibleKey where
  /-- The number of tokens before the key. -/
  index : Nat
  /-- Whether nothing but a key can stand here. -/
  needed : Bool
  offset : Nat
  line : Nat
  column : Nat
deriving Repr, DecidableEq

/-- What is kept while tokens are read. -/
structure Reading where
  cursor : Cursor
  tokens : Array Token
  /-- The indentation of the innermost block, less than zero outside all blocks. -/
  indent : Int
  /-- The indentations of the blocks around it, the innermost first. -/
  around : List Int
  /-- Whether a key may begin here. -/
  keyAllowed : Bool
  /-- The possible key of the present level of brackets. -/
  possible : Option PossibleKey
  /-- The possible keys of the levels around, the innermost first. -/
  outer : List (Option PossibleKey)

namespace Reading

/-- The state before the first token. A byte order mark is passed over. -/
def start (t : Text) : Reading :=
  let k := Cursor.start t
  ⟨if k.isAt '\ufeff' then k.next else k, #[], -1, [], true, none, []⟩

/-- Whether the place is inside brackets. -/
def inFlow (r : Reading) : Bool := !r.outer.isEmpty

/-- One more token. -/
def push (r : Reading) (t : Token) : Reading := { r with tokens := r.tokens.push t }

/-- The state at another place. -/
def moveTo (r : Reading) (k : Cursor) : Reading := { r with cursor := k }

/-- A token before some that were read already. -/
def insert (r : Reading) (index : Nat) (t : Token) : Reading :=
  { r with tokens := r.tokens.insertIdxIfInBounds index t }

/-! ## Keys -/

/-- Gives up a possible key that has got out of reach. -/
def checkKey (k : Cursor) : Option PossibleKey → Except Fault (Option PossibleKey)
  | none => .ok none
  | some p =>
    if p.line != k.line || 1024 < k.offset - p.offset then
      if p.needed then .error .malformed else .ok none
    else .ok (some p)

/-- Gives up the possible keys that have got out of reach. -/
def checkKeys (r : Reading) : Except Fault Reading := do
  let possible ← checkKey r.cursor r.possible
  let outer ← r.outer.mapM (checkKey r.cursor)
  return { r with possible := possible, outer := outer }

/-- Gives up the possible key of the present level. -/
def dropKey (r : Reading) : Except Fault Reading :=
  if r.possible.any (·.needed) then .error .malformed else .ok { r with possible := none }

/-- Notes that a key may begin here. -/
def noteKey (r : Reading) : Except Fault Reading :=
  if r.keyAllowed then do
    let r ← r.dropKey
    let k := r.cursor
    let needed := !r.inFlow && r.indent == k.column
    let p : PossibleKey := ⟨r.tokens.size, needed, k.offset, k.line, k.column⟩
    return { r with possible := some p }
  else .ok r

/-! ## Indentation -/

/-- Ends the blocks that are indented more than a column. -/
def endBlocks (column : Int) : (around : List Int) → Reading → Reading
  | [], r => r
  | outer :: around, r =>
    if column < r.indent then
      endBlocks column around { r.push .blockEnd with indent := outer, around := around }
    else r

/-- Ends the blocks that are indented more than a column; inside brackets columns mean nothing. -/
def unindent (r : Reading) (column : Int) : Reading :=
  if r.inFlow then r else endBlocks column r.around r

/-- Whether a block begins at a column. -/
def beginsBlock (r : Reading) (column : Nat) : Bool := decide (r.indent < column)

/-- The state inside a block that begins at a column. -/
def enterBlock (r : Reading) (column : Nat) : Reading :=
  { r with indent := column, around := r.indent :: r.around }

/-! ## Tokens one by one -/

/-- Passes over blanks, comments and line ends. After a line end outside brackets a key may begin.
-/
def skipToToken : (fuel : Nat) → Reading → Reading
  | 0, r => r
  | fuel + 1, r =>
    let k := r.cursor.skipBlanks.skipComment
    if k.head?.any isBreak then
      skipToToken fuel { r with cursor := k.next, keyAllowed := r.keyAllowed || !r.inFlow }
    else r.moveTo k

/-- A directive. -/
def directive (r : Reading) : Except Fault Reading := do
  let r ← (r.unindent (-1)).dropKey
  let (t, k) ← directiveOf r.cursor.next
  return { (r.push t).moveTo k with keyAllowed := false }

/-- A mark between documents. -/
def documentMark (r : Reading) (t : Token) : Except Fault Reading := do
  let r ← (r.unindent (-1)).dropKey
  return { (r.push t).moveTo (r.cursor.skip 3) with keyAllowed := false }

/-- An opening bracket. -/
def flowStart (r : Reading) (t : Token) : Except Fault Reading := do
  let r ← r.noteKey
  return { (r.push t).moveTo r.cursor.next with
    keyAllowed := true, possible := none, outer := r.possible :: r.outer }

/-- A closing bracket, which closes some level. -/
def flowEnd (r : Reading) (t : Token) : Except Fault Reading := do
  let r ← r.dropKey
  match r.outer with
  | [] => throw .malformed
  | possible :: outer =>
    return { (r.push t).moveTo r.cursor.next with
      keyAllowed := false, possible := possible, outer := outer }

/-- A comma between brackets. -/
def flowEntry (r : Reading) : Except Fault Reading := do
  let r ← r.dropKey
  return { (r.push .flowEntry).moveTo r.cursor.next with keyAllowed := true }

/-- The state in the block that holds a mark at the present place; a mark begins one if it is
indented more than the present block. -/
def inBlock (r : Reading) (start : Token) : Except Fault Reading :=
  if r.inFlow then .ok r
  else if !r.keyAllowed then .error .malformed
  else
    let column := r.cursor.column
    .ok (if r.beginsBlock column then (r.push start).enterBlock column else r)

/-- A hyphen before an item. -/
def blockEntry (r : Reading) : Except Fault Reading := do
  let r ← (← r.inBlock .blockSequenceStart).dropKey
  return { (r.push .blockEntry).moveTo r.cursor.next with keyAllowed := true }

/-- A question mark before a key. -/
def keyMark (r : Reading) : Except Fault Reading := do
  let r ← (← r.inBlock .blockMappingStart).dropKey
  return { (r.push .key).moveTo r.cursor.next with keyAllowed := !r.inFlow }

/-- A colon. The key before it gets its mark now, and a block if it begins one. -/
def valueMark (r : Reading) : Except Fault Reading := do
  match r.possible with
  | some p =>
    let r : Reading := { r with possible := none, keyAllowed := false }
    let r := r.insert p.index .key
    let r :=
      if !r.inFlow && r.beginsBlock p.column then
        (r.insert p.index .blockMappingStart).enterBlock p.column
      else r
    return (r.push .value).moveTo r.cursor.next
  | none =>
    let r ← r.inBlock .blockMappingStart
    return { (r.push .value).moveTo r.cursor.next with keyAllowed := !r.inFlow }

/-- An anchor, an alias, a tag or a quoted scalar, any of which may begin a key. -/
def named (r : Reading) (read : Cursor → Except Fault (Token × Cursor)) : Except Fault Reading := do
  let r ← r.noteKey
  let (t, k) ← read r.cursor
  return { (r.push t).moveTo k with keyAllowed := false }

/-- A plain scalar. -/
def plain (r : Reading) : Except Fault Reading := do
  let r ← r.noteKey
  let (t, broken, k) := plainOf r.inFlow (r.indent + 1).toNat r.cursor
  return { (r.push (.scalar true t)).moveTo k with keyAllowed := broken }

/-- A block scalar. -/
def block (r : Reading) (fold : Bool) : Except Fault Reading := do
  let r ← r.dropKey
  let (t, k) ← blockOf fold r.indent r.cursor.next
  return { (r.push (.scalar false t)).moveTo k with keyAllowed := true }

/-- The characters that no plain scalar begins with. -/
def indicators : List Char := [
  '-', '?', ':', ',', '[', ']', '{', '}', '#', '&', '*', '!', '|', '>', '\'', '"', '%', '@', '\x60']

/-- Whether a plain scalar begins with a character. A hyphen, and outside brackets a question mark
or a colon, may begin one if no gap follows. -/
def beginsPlain (r : Reading) (c : Char) : Bool :=
  (!isGap c && !indicators.contains c) ||
    (!r.cursor.gapAt 1 && (c == '-' || (!r.inFlow && (c == '?' || c == ':'))))

/-- Whether a mark stands alone; inside brackets it need not. -/
def isMark (r : Reading) : Bool := r.inFlow || r.cursor.gapAt 1

/-- The next token, which begins with the given character. -/
def token (r : Reading) (c : Char) : Except Fault Reading :=
  let k := r.cursor
  let atMargin := k.column == 0
  if c == '%' && atMargin then r.directive
  else if c == '-' && atMargin && k.atDocumentMark then r.documentMark .documentStart
  else if c == '.' && atMargin && k.atDocumentMark then r.documentMark .documentEnd
  else if c == '[' then r.flowStart .flowSequenceStart
  else if c == '{' then r.flowStart .flowMappingStart
  else if c == ']' then r.flowEnd .flowSequenceEnd
  else if c == '}' then r.flowEnd .flowMappingEnd
  else if c == ',' then r.flowEntry
  else if c == '-' && k.gapAt 1 then r.blockEntry
  else if c == '?' && r.isMark then r.keyMark
  else if c == ':' && r.isMark then r.valueMark
  else if c == '*' then r.named fun k => (anchorOf k.next).map fun (n, k) => (.alias n, k)
  else if c == '&' then r.named fun k => (anchorOf k.next).map fun (n, k) => (.anchor n, k)
  else if c == '!' then r.named tagOf
  else if c == '|' && !r.inFlow then r.block false
  else if c == '>' && !r.inFlow then r.block true
  else if c == '\'' || c == '"' then
    r.named fun k => (quotedOf (c == '"') k.next).map fun (t, k) => (.scalar false t, k)
  else if r.beginsPlain c then r.plain
  else .error .malformed

/-- The state after all tokens. Every token costs fuel, and none is empty. -/
def run : (fuel : Nat) → Reading → Except Fault Reading
  | 0, _ => .error .malformed
  | fuel + 1, r => do
    let r ← (r.skipToToken (r.cursor.rest.length + 1)).checkKeys
    let r := r.unindent r.cursor.column
    match r.cursor.head? with
    | none => (r.unindent (-1)).dropKey
    | some c => run fuel (← r.token c)

end Reading

/-- The characters that a text may hold. -/
def isPrintable (c : Char) : Bool :=
  let n := c.toNat
  n == 9 || n == 10 || n == 13 || (0x20 ≤ n && n < 0x7F) || n == 0x85 || (0xA0 ≤ n && n < 0xD800) ||
    (0xE000 ≤ n && n < 0xFFFE) || 0x10000 ≤ n

/-- The tokens of a text. -/
def tokens (t : Text) : Except Fault (List Token) :=
  if !t.all isPrintable then .error .malformed
  else ((Reading.start t).run (t.length + 1)).map (·.tokens.toList)

end Yaml
end CodeSurvey
