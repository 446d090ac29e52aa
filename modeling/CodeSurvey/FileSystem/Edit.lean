import CodeSurvey.FileSystem.Resolve

/-!
# Writing files

A file is written in the place that its path leads to. The way goes through links, as opening a file
does, also where the last step is a link.

## Main definitions

* `FileSystem.put fs l e`: the file system with a new entry at a location.
* `FileSystem.placeOf fs here path`: the location that a file gets which is opened for writing.
* `FileSystem.writeFile fs here path content`: the file system with a file written.
-/

namespace CodeSurvey

/-- The tree with a new entry at a location. What stands on the way and is no folder is given up
for one. -/
def Entry.put (new : Entry) : Entry → Location → Entry
  | _, [] => new
  | .folder entries, name :: rest =>
    .folder (Table.put entries name (put new ((Table.get? entries name).getD (.folder [])) rest))
  | _, name :: rest => .folder [(name, put new (.folder []) rest)]

namespace FileSystem

/-- A file system whose top is the given tree; only a folder can be the top. -/
def ofEntry : Entry → FileSystem
  | .folder entries => ⟨entries⟩
  | _ => {}

/-- The file system with a new entry at a location. -/
def put (fs : FileSystem) (l : Location) (new : Entry) : FileSystem :=
  ofEntry (Entry.put new (Entry.folder fs.top) l)

/-- The location that a file opened for writing gets. A link as the last step is followed to where
it points, whether anything is there or not. -/
def place (fs : FileSystem) : (links : Nat) → Location → List Text → Except OsError Location
  | 0, _, _ => .error .linkLoop
  | links + 1, here, steps =>
    let named := (steps.reverse.dropWhile List.isEmpty).reverse
    match named.getLast? with
    | none => .error .isFolder
    | some last =>
      match locate fs here named.dropLast with
      | .error e => .error e
      | .ok l =>
        match fs.entryAt? l with
        | some (.folder entries) =>
          if named.length < steps.length || last == ['.'] || last == ['.', '.'] then
            .error .isFolder
          else if 255 < (String.ofList last).utf8ByteSize then .error .nameTooLong
          else match Table.get? entries last with
            | some (.link target) =>
              place fs links (if target.head? == some '/' then [] else l) (linkSteps target)
            | some (.folder _) => .error .isFolder
            | _ => .ok (l ++ [last])
        | some _ => .error .notFolder
        | none => .error .noEntry

/-- The location that a file gets which is opened for writing by a path. -/
def placeOf (fs : FileSystem) (here : Location) (path : Text) : Except OsError Location :=
  if !Path.fits path then .error .nameTooLong
  else place fs (linkLimit + 1) (start here path) (Path.parts path)

/-- Writes a file whose folder exists, in the place of what it held before. -/
def writeFile (fs : FileSystem) (here : Location) (path : Text) (content : ByteArray) :
    Except OsError FileSystem :=
  (placeOf fs here path).map fun l => fs.put l (.file content)

end FileSystem
end CodeSurvey
