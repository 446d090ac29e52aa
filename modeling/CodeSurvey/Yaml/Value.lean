import CodeSurvey.Yaml.Node

/-!
# Reading YAML

A value is made of a tree by the kinds of its nodes. The mappings under a merge key come before the
entries of the mapping that merges them, so that these count.

## Main definitions

* `Yaml.ofNode n`: the value of a tree.
* `Yaml.parse room t`: the value of the only document of a text, nothing if there is none.
-/

namespace CodeSurvey
namespace Yaml

/-! ## Scalars -/

/-- The characters of base 64. -/
def isBase64 (c : Char) : Bool := c.isAlphanum || c == '+' || c == '/'

/-- Whether bytes in base 64 are complete: characters come in fours, of which one or two signs of
equality may end the last. What is no such character is passed over; `filled` counts the characters
of the last four, and `signs` the signs after them. -/
def isBase64Text (filled signs : Nat) : Text → Bool
  | [] => filled == 0
  | c :: rest =>
    if c == '=' then
      if 2 ≤ filled && 4 ≤ filled + signs + 1 then true else isBase64Text filled (signs + 1) rest
    else if isBase64 c then isBase64Text ((filled + 1) % 4) 0 rest
    else isBase64Text filled signs rest

/-- The value of a scalar of some kind. -/
def ofScalar (tag : Tag) (t : Text) : Except Fault Yaml :=
  match tag with
  | .null => .ok null
  | .bool => (boolOf t).map bool
  | .int => (intOf t).map int
  | .float => (checkFloat t).map fun _ => atom .float
  | .moment => (checkMoment t).map fun _ => atom .moment
  | .bytes =>
    if t.all (fun c => c.toNat < 128) && isBase64Text 0 0 t then .ok (atom .bytes)
    else .error .malformed
  | .string => .ok (string t)
  | _ => .error .malformed

mutual

/-- The text of a node that is read as a scalar. A mapping may have one under its value key. -/
def scalarText? : Node → Option Text
  | .scalar _ t => some t
  | .mapping _ entries => scalarTextIn? entries
  | _ => none

/-- The text of the first value under a value key. -/
def scalarTextIn? : List (Node × Node) → Option Text
  | [] => none
  | (k, v) :: rest => if k.tag == .value then scalarText? v else scalarTextIn? rest

end

/-! ## Collections -/

/-- Entries that merging brings, and those of a mapping itself. -/
structure Entries where
  merged : List (Yaml × Yaml) := []
  own : List (Yaml × Yaml) := []

/-- All entries, the merged ones first. -/
def Entries.all (e : Entries) : List (Yaml × Yaml) := e.merged ++ e.own

/-- One more entry in front. Its key must be one. -/
def Entries.addOwn (e : Entries) (key value : Yaml) : Except Fault Entries :=
  if key.isKey then .ok { e with own := (key, value) :: e.own } else .error .malformed

/-- More merged entries in front. -/
def Entries.addMerged (e : Entries) (more : List (Yaml × Yaml)) : Entries :=
  { e with merged := more ++ e.merged }

/-- The value of a node that has no items or entries of its own kind: its text, read by its kind. -/
def ofText? (tag : Tag) (t : Option Text) : Except Fault Yaml :=
  match t with
  | some t => ofScalar tag t
  | none => .error .malformed

mutual

/-- The value of a tree. -/
def ofNode : Node → Except Fault Yaml
  | .cycle => .ok cycle
  | .scalar tag t => ofScalar tag t
  | .sequence .sequence items => (ofNodes items).map list
  | .sequence .pairs items => (ofPairs items).map list
  | .sequence _ _ => .error .malformed
  | .mapping .mapping entries => (ofEntries entries).map fun e => mapping e.all
  | .mapping .set entries => (ofEntries entries).map fun e => set (e.all.map (·.1))
  | .mapping tag entries => ofText? tag (scalarTextIn? entries)

/-- The values of some trees. -/
def ofNodes : List Node → Except Fault (List Yaml)
  | [] => .ok []
  | n :: rest =>
    match ofNode n with
    | .error e => .error e
    | .ok v => (ofNodes rest).map (v :: ·)

/-- The values of mappings with one entry each. -/
def ofPairs : List Node → Except Fault (List Yaml)
  | [] => .ok []
  | .mapping _ [(k, v)] :: rest =>
    match ofNode k, ofNode v with
    | .ok k, .ok v => (ofPairs rest).map (mapping [(k, v)] :: ·)
    | .error e, _ => .error e
    | _, .error e => .error e
  | _ :: _ => .error .malformed

/-- The entries of a mapping. A key that is marked as the value key is the string it is spelled
with. -/
def ofEntries : List (Node × Node) → Except Fault Entries
  | [] => .ok {}
  | (k, v) :: rest =>
    match k with
    | .scalar .merge _ =>
      match ofMerged v with
      | .error e => .error e
      | .ok more => (ofEntries rest).map (·.addMerged more)
    | .scalar .value t =>
      match ofNode v with
      | .error e => .error e
      | .ok v => (ofEntries rest).bind (·.addOwn (string t) v)
    | k =>
      match ofNode k, ofNode v with
      | .ok k, .ok v => (ofEntries rest).bind (·.addOwn k v)
      | .error e, _ => .error e
      | _, .error e => .error e

/-- The entries that a merge key brings: those of one mapping, or of several, of which the first
counts most. -/
def ofMerged : Node → Except Fault (List (Yaml × Yaml))
  | .mapping _ entries => (ofEntries entries).map Entries.all
  | .sequence _ items => ofMergedItems items
  | .cycle => .ok []
  | .scalar _ _ => .error .malformed

/-- The entries of several merged mappings, those of the last in front. -/
def ofMergedItems : List Node → Except Fault (List (Yaml × Yaml))
  | [] => .ok []
  | .mapping _ entries :: rest =>
    match ofEntries entries with
    | .error e => .error e
    | .ok e => (ofMergedItems rest).map (· ++ e.all)
  | .cycle :: rest => ofMergedItems rest
  | _ :: _ => .error .malformed

end

/-! ## Documents -/

/-- The value of the only document of a text, whose collections nest no deeper than there is room.
-/
def parse (room : Nat) (t : Text) : Except Fault Yaml :=
  match nodeOf? room t with
  | .error e => .error e
  | .ok none => .ok null
  | .ok (some n) => ofNode n

end Yaml
end CodeSurvey
