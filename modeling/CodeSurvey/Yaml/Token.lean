import CodeSurvey.FileSystem.Utf8
import CodeSurvey.Yaml.Scalar

/-!
# YAML tokens

Tokens are the marks of structure, anchors, tags and scalars. Where blocks begin and end is told by
indentation and has tokens of its own.

## Main definitions

* `Yaml.Token`: the tokens.
* `Yaml.anchorOf`, `Yaml.tagOf`, `Yaml.directiveOf`: the readers of names.
-/

namespace CodeSurvey
namespace Yaml

/-- A directive at the head of a document. -/
inductive Directive where
  /-- The version, of which the major number counts. -/
  | version (major : Int)
  /-- A handle and what it stands for in tags. -/
  | handle (name meaning : Text)
  /-- Any other directive is ignored. -/
  | other
deriving Repr, DecidableEq

/-- A token. -/
inductive Token where
  | directive (d : Directive)
  | documentStart
  | documentEnd
  | blockSequenceStart
  | blockMappingStart
  | blockEnd
  | flowSequenceStart
  | flowSequenceEnd
  | flowMappingStart
  | flowMappingEnd
  | flowEntry
  | blockEntry
  | key
  | value
  | alias (name : Text)
  | anchor (name : Text)
  /-- A tag, with the handle that it begins with, if any. -/
  | tag (handle : Option Text) (rest : Text)
  | scalar (plain : Bool) (text : Text)
deriving Repr, DecidableEq

/-! ## Names -/

/-- The characters of anchors and handles. -/
def isNameChar (c : Char) : Bool := c.isAlphanum || c == '-' || c == '_'

/-- The name of an anchor or an alias. -/
def anchorOf (k : Cursor) : Except Fault (Text × Cursor) :=
  let (name, k) := k.takeWhile isNameChar
  let ends := k.head?.all fun c => isGap c || ['?', ':', ',', ']', '}', '%', '@', '\x60'].contains c
  if name.isEmpty || !ends then .error .malformed else .ok (name, k)

/-- A tag handle: an exclamation mark, or a name between two. -/
def handleOf (k : Cursor) : Except Fault (Text × Cursor) :=
  if !k.isAt '!' then .error .malformed
  else
    let (name, k) := k.next.takeWhile isNameChar
    if k.isAt '!' then .ok ('!' :: (name ++ ['!']), k.next)
    else if name.isEmpty && k.isAt ' ' then .ok (['!'], k)
    else .error .malformed

/-- The characters of tags, the escaped ones aside. -/
def isTagChar (c : Char) : Bool :=
  c.isAlphanum ||
    ['-', ';', '/', '?', ':', '@', '&', '=', '+', '$', ',', '_', '.', '!', '~', '*', '\'', '(', ')',
      '[', ']'].contains c

/-- Bytes that are escaped by percent signs and two hexadecimal digits. -/
def escapedBytes : (fuel : Nat) → List UInt8 → Cursor → Except Fault (List UInt8 × Cursor)
  | 0, bytes, k => .ok (bytes.reverse, k)
  | fuel + 1, bytes, k =>
    if !k.isAt '%' then .ok (bytes.reverse, k)
    else match ((k.rest.drop 1).take 2).mapM Text.hexValue? with
      | some [high, low] => escapedBytes fuel (UInt8.ofNat (16 * high + low) :: bytes) (k.skip 3)
      | _ => .error .malformed

/-- The rest of a tag after some of its characters. -/
def tagTextFrom : (fuel : Nat) → (done : Text) → Cursor → Except Fault (Text × Cursor)
  | 0, done, k => .ok (done, k)
  | fuel + 1, done, k =>
    let (run, k) := k.takeWhile isTagChar
    let done := done ++ run
    if k.isAt '%' then
      match escapedBytes k.rest.length [] k with
      | .error e => .error e
      | .ok (bytes, k) =>
        match Utf8.decode? ⟨bytes.toArray⟩ with
        | some t => tagTextFrom fuel (done ++ t) k
        | none => .error .malformed
    else .ok (done, k)

/-- The text of a tag, which is not empty. -/
def tagTextOf (k : Cursor) : Except Fault (Text × Cursor) :=
  match tagTextFrom (k.rest.length + 1) [] k with
  | .error e => .error e
  | .ok (t, k') => if k'.offset = k.offset then .error .malformed else .ok (t, k')

/-! ## Tags -/

/-- A tag: in angle brackets, after a handle, or a lone exclamation mark. -/
def tagOf (k : Cursor) : Except Fault (Token × Cursor) := do
  let (token, k) ←
    if k.peek? 1 == some '<' then do
      let (t, k) ← tagTextOf (k.skip 2)
      if k.isAt '>' then pure (Token.tag none t, k.next) else throw .malformed
    else if k.gapAt 1 then pure (Token.tag none ['!'], k.next)
    else if ((k.rest.drop 1).takeWhile fun c => c != ' ' && !isBreak c).contains '!' then do
      let (handle, k) ← handleOf k
      let (t, k) ← tagTextOf k
      pure (Token.tag (some handle) t, k)
    else do
      let (t, k) ← tagTextOf k.next
      pure (Token.tag (some ['!']) t, k)
  if k.atSpaceOrEnd then pure (token, k) else throw .malformed

/-! ## Directives -/

/-- A number of a version. -/
def versionNumberOf (k : Cursor) : Except Fault (Int × Cursor) :=
  let (digits, k) := k.takeWhile Char.isDigit
  if digits.isEmpty then .error .malformed
  else match Text.toInt? 10 digits with
    | some n => .ok (n, k)
    | none => .error .badNumber

/-- What follows the name of a version directive. -/
def versionOf (k : Cursor) : Except Fault (Directive × Cursor) := do
  let (major, k) ← versionNumberOf k.skipBlanks
  if !k.isAt '.' then throw .malformed
  let (_, k) ← versionNumberOf k.next
  if k.atSpaceOrEnd then pure (.version major, k) else throw .malformed

/-- What follows the name of a handle directive. -/
def handleDirectiveOf (k : Cursor) : Except Fault (Directive × Cursor) := do
  let (name, k) ← handleOf k.skipBlanks
  if !k.isAt ' ' then throw .malformed
  let (meaning, k) ← tagTextOf k.skipBlanks
  if k.atSpaceOrEnd then pure (.handle name meaning, k) else throw .malformed

/-- A directive with its line, after the percent sign. -/
def directiveOf (k : Cursor) : Except Fault (Token × Cursor) := do
  let (name, k) := k.takeWhile isNameChar
  if name.isEmpty || !k.atSpaceOrEnd then throw .malformed
  let (d, k) ←
    if name == "YAML".toList then versionOf k
    else if name == "TAG".toList then handleDirectiveOf k
    else pure (.other, k.skipWhile fun c => !isBreak c)
  let k ← k.finishLine
  pure (.directive d, k)

end Yaml
end CodeSurvey
