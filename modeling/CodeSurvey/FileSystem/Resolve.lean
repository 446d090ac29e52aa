import CodeSurvey.FileSystem.Basic

/-!
# Resolving paths

Steps lead from a folder over names, to the parent by two points and nowhere by one point. A link
on the way is replaced by the steps of its target; after forty links the way counts as a loop. Paths
and steps that are too long are refused.

## Main definitions

* `FileSystem.locate fs l steps`: the location that steps lead to.
* `FileSystem.stat fs l path`: that location and what stands there, which is never a link.
* `FileSystem.isFile`, `FileSystem.isFolder`, `FileSystem.present`: tests that never fail.
-/

namespace CodeSurvey
namespace FileSystem

/-- The steps of a link's target. A slash at the end leaves an empty step, which asks for a
folder. -/
def linkSteps (target : Text) : List Text := Text.splitOn '/' target

/-- Takes steps one by one; `onLink` goes on from the folder of a link over the steps that replace
it. -/
def take (fs : FileSystem) (onLink : Location → List Text → Except OsError Location) :
    Location → List Text → Except OsError Location
  | here, [] => .ok here
  | here, step :: rest =>
    match fs.entryAt? here with
    | some (.folder entries) =>
      if step.isEmpty || step == ['.'] then take fs onLink here rest
      else if step == ['.', '.'] then take fs onLink here.dropLast rest
      else if 255 < (String.ofList step).utf8ByteSize then .error .nameTooLong
      else match Table.get? entries step with
        | none => .error .noEntry
        | some (.link target) =>
          onLink (if target.head? == some '/' then [] else here) (linkSteps target ++ rest)
        | some _ => take fs onLink (here ++ [step]) rest
    | some _ => .error .notFolder
    | none => .error .noEntry

/-- The number of links that one way may pass. -/
def linkLimit : Nat := 40

/-- Takes steps while at most the given number of links is passed. -/
def walkSteps (fs : FileSystem) : (links : Nat) → Location → List Text → Except OsError Location
  | 0 => take fs fun _ _ => .error .linkLoop
  | links + 1 => take fs (walkSteps fs links)

/-- The location that steps from a location lead to. -/
def locate (fs : FileSystem) (here : Location) (steps : List Text) : Except OsError Location :=
  walkSteps fs linkLimit here steps

/-- Where the steps of a path start: at the top if the path is absolute. -/
def start (here : Location) (path : Text) : Location :=
  if (Path.anchor path).isEmpty then here else []

/-- What a path leads to from a location, and where that stands. -/
def stat (fs : FileSystem) (here : Location) (path : Text) : Except OsError (Location × Entry) :=
  if !Path.fits path then .error .nameTooLong
  else match locate fs (start here path) (Path.parts path) with
    | .error e => .error e
    | .ok l =>
      match fs.entryAt? l with
      | some e => .ok (l, e)
      | none => .error .noEntry

/-- Whether a path leads to a file. -/
def isFile (fs : FileSystem) (here : Location) (path : Text) : Bool :=
  match stat fs here path with
  | .ok (_, .file _) => true
  | _ => false

/-- Whether a path leads to a folder. -/
def isFolder (fs : FileSystem) (here : Location) (path : Text) : Bool :=
  match stat fs here path with
  | .ok (_, .folder _) => true
  | _ => false

/-- Whether a path leads to anything. -/
def present (fs : FileSystem) (here : Location) (path : Text) : Bool :=
  (stat fs here path).isOk

/-- Whether a marker is present. A slash at the end of a marker asks for a folder. -/
def hasMarker (fs : FileSystem) (here : Location) (marker : Text) : Bool :=
  if marker.getLast? == some '/' then isFolder fs here (marker.reverse.dropWhile (· == '/')).reverse
  else present fs here marker

end FileSystem
end CodeSurvey
