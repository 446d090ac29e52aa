import CodeSurvey.Excerpt.Finders
import CodeSurvey.Log.Traced

/-!
# Searching a file step by step

A search goes through a file as the finders do, but takes nothing for granted: a declaration may
lack its name, a block the line it begins on, and a list its least number. Each of these ends the
search. The lines from which blocks are followed are noted, whether the blocks are found or not.

## Main definitions

* `SearchFault`: what can end a search.
* `Category.search c path t`: the excerpts of a category in one file, or the fault.
-/

namespace CodeSurvey

/-- What ends a search. -/
inductive SearchFault where
  /-- A match lacks the group that holds the name. -/
  | noName
  /-- A block begins on a line that is not there. -/
  | noLine
  /-- The least of no numbers. -/
  | noLeast
deriving Repr, DecidableEq

/-- A search notes the lines from which it follows blocks, counted from zero. -/
abbrev Search (α : Type) := Traced Nat SearchFault α

namespace Search

/-- Follow an indented block. -/
def indentEnd (ls : List Text) (start : Nat) : Search Nat := do
  Traced.note start
  match indentEnd? ls start blockLimit with
  | none => .fail .noLine
  | some stop => pure stop

/-- Follow a block of braces. -/
def braceEnd (ls : List Text) (start : Nat) : Search Nat := do
  Traced.note start
  pure (CodeSurvey.braceEnd ls start blockLimit)

/-- Follow the block of a function. -/
def functionEnd (python : Bool) (ls : List Text) (start : Nat) : Search Nat :=
  if python then indentEnd ls start else braceEnd ls start

/-- Follow a block whose lines open and close at most one brace. -/
def braceLineEnd (ls : List Text) (start : Nat) : Search Nat := do
  Traced.note start
  pure (CodeSurvey.braceLineEnd ls start)

/-- The declarations of functions as they are matched, each with its place; the name is missing
where the group did not take part, and its place then counts back from the end. -/
def declarations (python : Bool) (t : Text) : List (Option Text × Nat) :=
  if python then
    (Finder.pythonFunction.findAll t).map fun m =>
      match m.group? 1 with
      | some g => (some g.text, g.start)
      | none => (none, placeOf t.length (-1))
  else
    Finder.scriptFunctions.flatMap fun r =>
      (r.findAll t).map fun m => ((m.group? 1).map (·.text), m.start)

/-- The excerpts of the functions that are worth showing, with the latest in front. `used` are the
lines on which functions have been found. -/
def functions (path t : Text) (python : Bool) (found : List Excerpt) (used : List Nat) :
    List (Option Text × Nat) → Search (List Excerpt)
  | [] => pure found.reverse
  | (name?, offset) :: rest =>
    if functionLimit ≤ found.length then pure found.reverse
    else
      let line := lineOfOffset t offset
      if used.contains line then functions path t python found used rest
      else
        match name? with
        | none => .fail .noName
        | some name =>
          if isInteresting name t offset then do
            let ls := Text.lines t
            let stop ← functionEnd python ls line
            functions path t python (Category.functionExcerpt path ls line name stop :: found)
              (line :: used) rest
          else functions path t python found used rest

/-- The surroundings of the first route handler, if there is one. -/
def api (path t : Text) : Search (List Excerpt) :=
  let offsets := Category.apiOffsets t
  if offsets.isEmpty then pure []
  else
    match offsets.min? with
    | none => .fail .noLeast
    | some offset => pure [Category.apiExcerpt path (Text.lines t) (lineOfOffset t offset)]

/-- The first model of a schema. -/
def schemaModel (path t : Text) : Search (List Excerpt) :=
  match Finder.prismaModel.find? t with
  | none => pure []
  | some m => do
    let ls := Text.lines t
    let line := lineOfOffset t m.start
    let stop ← braceLineEnd ls line
    pure [Category.schemaModelExcerpt path ls line (m.groupText 1) stop]

end Search

/-- The search of one file for a category. Only functions and the models of schemas have blocks that
are followed. -/
def Category.search (c : Category) (path t : Text) : Search (List Excerpt) :=
  match c with
  | .function =>
    let python := Category.isPython path
    Search.functions path t python [] [] (Search.declarations python t)
  | .api => Search.api path t
  | .model =>
    if Language.ofPath path == "prisma".toList then Search.schemaModel path t
    else pure (Category.findModel path t)
  | c => pure (c.find path t)

end CodeSurvey
