import CodeSurvey.Table
import CodeSurvey.Yaml.Plain
import CodeSurvey.Yaml.TokenList

/-!
# The tree of a YAML text

The tokens of a text form a tree of scalars, sequences and mappings, each with its kind. An alias
stands for the node that was anchored before it; inside that node itself it stands for a cycle.

## Main definitions

* `Yaml.Node`: the trees.
* `Yaml.nodeOf? room t`: the tree of the only document of `t`, if there is one. Its collections nest
  no deeper than there is room.
-/

namespace CodeSurvey
namespace Yaml

/-- A node with its kind. -/
inductive Node where
  | scalar (tag : Tag) (text : Text)
  | sequence (tag : Tag) (items : List Node)
  | mapping (tag : Tag) (entries : List (Node × Node))
  | cycle

/-- The kind of a node; a cycle has none that is known. -/
def Node.tag : Node → Tag
  | scalar tag _ => tag
  | sequence tag _ => tag
  | mapping tag _ => tag
  | cycle => .unknown

/-- The scalar that stands where nothing is written. -/
def Node.nothing : Node := .scalar .null []

/-! ## Building -/

/-- What is kept while a tree is built. -/
structure Build where
  tokens : List Token
  /-- What the handles of tags stand for. -/
  handles : Table Text
  /-- The anchors seen so far. -/
  seen : List Text
  /-- The anchored nodes that are complete. -/
  known : Table Node
  /-- The number of collections, one inside the other, that there is room for. -/
  room : Nat

/-- Work on the tokens that are left. -/
abbrev Builder := StateT Build (Except Fault)

namespace Builder

/-- The next token. -/
def peek : Builder (Option Token) := return (← get).tokens.head?

/-- Goes on to the token after the next. -/
def advance : Builder Unit := modify fun b => { b with tokens := b.tokens.drop 1 }

/-- Whether the next token is one of the given ones. -/
def isNext (ts : List Token) : Builder Bool := return (← peek).any ts.contains

/-- Passes the next token if it is the given one. -/
def pass (t : Token) : Builder Bool := do
  if ← isNext [t] then
    advance
    return true
  else return false

/-- Passes the next token, which must be the given one. -/
def demand (t : Token) : Builder Unit := do
  if ← pass t then return else throw .malformed

/-- The tag in front, written out. -/
def tag? : Builder (Option Text) := do
  match ← peek with
  | some (.tag handle rest) =>
    advance
    match handle with
    | none => return some rest
    | some handle =>
      match Table.get? (← get).handles handle with
      | some meaning => return some (meaning ++ rest)
      | none => throw .malformed
  | _ => return none

/-- The anchor in front. -/
def anchor? : Builder (Option Text) := do
  match ← peek with
  | some (.anchor name) =>
    advance
    return some name
  | _ => return none

/-- The anchor and the tag in front, in either order. -/
def properties : Builder (Option Text × Option Text) := do
  match ← anchor? with
  | some name => return (some name, ← tag?)
  | none =>
    let tag ← tag?
    if tag.isSome then return (← anchor?, tag) else return (none, none)

/-- Notes an anchor, which must be new. -/
def beginAnchor (name : Option Text) : Builder Unit := do
  match name with
  | none => return
  | some name =>
    if (← get).seen.contains name then throw .malformed
    else modify fun b => { b with seen := name :: b.seen }

/-- Notes the node of an anchor. -/
def endAnchor (name : Option Text) (node : Node) : Builder Unit :=
  match name with
  | none => pure ()
  | some name => modify fun b => { b with known := Table.put b.known name node }

/-- Builds what is inside of a collection. -/
def inside {α : Type} (content : Builder α) : Builder α := do
  match (← get).room with
  | 0 => throw .tooDeep
  | room + 1 =>
    modify fun b => { b with room := room }
    let made ← content
    modify fun b => { b with room := room + 1 }
    return made

/-- The node that an alias stands for. -/
def referent (name : Text) : Builder Node := do
  let b ← get
  match Table.get? b.known name with
  | some node => return node
  | none => if b.seen.contains name then return .cycle else throw .malformed

/-- The kind that a tag gives to a node that is of the given kind without one. A lone exclamation
mark gives none. -/
def kindOr (usual : Tag) (tag : Option Text) : Tag :=
  match tag with
  | none => usual
  | some t => if t == ['!'] then usual else .ofText t

/-- The kind of a scalar. A quoted one without a tag is a string. -/
def scalarKind (plain : Bool) (text : Text) (tag : Option Text) : Tag :=
  kindOr (if plain || tag.isSome then plainTag text else .string) tag

end Builder

open Builder

mutual

/-- A node. Blocks may stand only where `block` says so, and the items of a sequence without
indentation only where `indentless` does. -/
def node : (fuel : Nat) → (block indentless : Bool) → Builder Node
  | 0, _, _ => throw .malformed
  | fuel + 1, block, indentless => do
    match ← peek with
    | some (.alias name) =>
      advance
      referent name
    | _ =>
      let (anchor, tag) ← properties
      beginAnchor anchor
      let result ←
        match ← peek with
        | some (.scalar plain text) => do
          advance
          pure (Node.scalar (scalarKind plain text tag) text)
        | some .flowSequenceStart => do
          advance
          pure (Node.sequence (kindOr .sequence tag) (← inside (flowItems fuel true)))
        | some .flowMappingStart => do
          advance
          pure (Node.mapping (kindOr .mapping tag) (← inside (flowEntries fuel true)))
        | some .blockEntry =>
          if indentless then do
            pure (Node.sequence (kindOr .sequence tag) (← inside (indentlessItems fuel)))
          else emptyNode anchor tag
        | some .blockSequenceStart =>
          if block then do
            advance
            pure (Node.sequence (kindOr .sequence tag) (← inside (blockItems fuel)))
          else emptyNode anchor tag
        | some .blockMappingStart =>
          if block then do
            advance
            pure (Node.mapping (kindOr .mapping tag) (← inside (blockEntries fuel)))
          else emptyNode anchor tag
        | _ => emptyNode anchor tag
      endAnchor anchor result
      return result

/-- A node of which only the anchor or the tag is written. -/
def emptyNode (anchor tag : Option Text) : Builder Node :=
  if anchor.isNone && tag.isNone then throw .malformed
  else pure (Node.scalar (kindOr .null tag) [])

/-- A node, or nothing before one of the given tokens. -/
def nodeUnless : (fuel : Nat) → (ends : List Token) → (block indentless : Bool) → Builder Node
  | 0, _, _, _ => throw .malformed
  | fuel + 1, ends, block, indentless => do
    if ← isNext ends then return .nothing else node fuel block indentless

/-- The rest of the items of a block sequence. -/
def blockItems : (fuel : Nat) → Builder (List Node)
  | 0 => throw .malformed
  | fuel + 1 => do
    if ← pass .blockEntry then
      let item ← nodeUnless fuel [.blockEntry, .blockEnd] true false
      return item :: (← blockItems fuel)
    else
      demand .blockEnd
      return []

/-- The rest of the items of a sequence without indentation, which ends with its mapping. -/
def indentlessItems : (fuel : Nat) → Builder (List Node)
  | 0 => throw .malformed
  | fuel + 1 => do
    if ← pass .blockEntry then
      let item ← nodeUnless fuel [.blockEntry, .key, .value, .blockEnd] true false
      return item :: (← indentlessItems fuel)
    else return []

/-- The rest of the entries of a block mapping. -/
def blockEntries : (fuel : Nat) → Builder (List (Node × Node))
  | 0 => throw .malformed
  | fuel + 1 => do
    if ← pass .key then
      let key ← nodeUnless fuel [.key, .value, .blockEnd] true true
      let value ← if ← pass .value then nodeUnless fuel [.key, .value, .blockEnd] true true
        else pure .nothing
      return (key, value) :: (← blockEntries fuel)
    else
      demand .blockEnd
      return []

/-- A key after its mark and the value after its colon, up to one of the given tokens. -/
def flowPair : (fuel : Nat) → (ends : List Token) → Builder (Node × Node)
  | 0, _ => throw .malformed
  | fuel + 1, ends => do
    let key ← nodeUnless fuel (.value :: ends) false false
    let value ← if ← pass .value then nodeUnless fuel ends false false else pure .nothing
    return (key, value)

/-- The rest of the items of a sequence in brackets. An item with a colon is a mapping of one
entry. -/
def flowItems : (fuel : Nat) → (first : Bool) → Builder (List Node)
  | 0, _ => throw .malformed
  | fuel + 1, first => do
    if ← pass .flowSequenceEnd then return []
    unless first do demand .flowEntry
    if ← pass .key then
      let pair ← inside (flowPair fuel [.flowEntry, .flowSequenceEnd])
      return .mapping .mapping [pair] :: (← flowItems fuel false)
    else if ← pass .flowSequenceEnd then return []
    else
      let item ← node fuel false false
      return item :: (← flowItems fuel false)

/-- The rest of the entries of a mapping in braces. A key without a colon has no value. -/
def flowEntries : (fuel : Nat) → (first : Bool) → Builder (List (Node × Node))
  | 0, _ => throw .malformed
  | fuel + 1, first => do
    if ← pass .flowMappingEnd then return []
    unless first do demand .flowEntry
    if ← pass .key then
      let pair ← flowPair fuel [.flowEntry, .flowMappingEnd]
      return pair :: (← flowEntries fuel false)
    else if ← pass .flowMappingEnd then return []
    else
      let key ← node fuel false false
      return (key, .nothing) :: (← flowEntries fuel false)

end

/-! ## Documents -/

/-- The handles that need no directive. -/
def usualHandles : Table Text := [(['!'], ['!']), (['!', '!'], tagStem)]

/-- Passes the directives of a document. Whether a version was given already is in `versioned`, and
the handles given so far are in `handles`. -/
def directives (versioned : Bool) (handles : Table Text) :
    List Token → Except Fault (Table Text × List Token)
  | .directive (.version major) :: rest =>
    if versioned || major != 1 then .error .malformed else directives true handles rest
  | .directive (.handle name meaning) :: rest =>
    if Table.has handles name then .error .malformed
    else directives versioned (Table.put handles name meaning) rest
  | .directive .other :: rest => directives versioned handles rest
  | ts => .ok (handles, ts)

/-- The tokens without marks of ends of documents in front. -/
def skipEnds (ts : List Token) : List Token := ts.dropWhile (· == .documentEnd)

/-- The tree of the content of a document, after which no other document may follow. -/
def documentOf (room : Nat) (handles : Table Text) (ts : List Token) : Except Fault Node :=
  match (node (3 * ts.length + 3) true false).run ⟨ts, handles, [], [], room⟩ with
  | .error e => .error e
  | .ok (root, b) => if (skipEnds b.tokens).isEmpty then .ok root else .error .malformed

/-- Whether a document has no content. -/
def isEmptyDocument : List Token → Bool
  | [] => true
  | .directive _ :: _ => true
  | .documentStart :: _ => true
  | .documentEnd :: _ => true
  | _ => false

/-- The tree of a document that begins with a directive or a mark. -/
def markedDocument (room : Nat) (ts : List Token) : Except Fault Node :=
  match directives false [] ts with
  | .error e => .error e
  | .ok (handles, .documentStart :: rest) =>
    if isEmptyDocument rest then
      if (skipEnds rest).isEmpty then .ok .nothing else .error .malformed
    else
      let more := usualHandles.filter fun (h, _) => !Table.has handles h
      documentOf room (handles ++ more) rest
  | .ok _ => .error .malformed

/-- The tree of the only document of a text; a text without tokens has none. -/
def nodeOf? (room : Nat) (t : Text) : Except Fault (Option Node) :=
  match tokens t with
  | .error e => .error e
  | .ok [] => .ok none
  | .ok (.directive d :: rest) => (markedDocument room (.directive d :: rest)).map some
  | .ok (.documentStart :: rest) => (markedDocument room (.documentStart :: rest)).map some
  | .ok ts => (documentOf room usualHandles ts).map some

end Yaml
end CodeSurvey
