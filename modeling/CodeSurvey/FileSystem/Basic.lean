import CodeSurvey.Path.Basic
import CodeSurvey.Table
import CodeSurvey.Text.Quoted

/-!
# File systems

A file system is a tree of folders that hold files, symbolic links and further folders. A location
is the list of names that lead from the top folder to an entry without passing a link, so every
entry has one location.

## Main definitions

* `Entry`, `FileSystem`, `Location`.
* `FileSystem.entryAt? fs l`: the entry at a location.
* `OsError`: the ways in which an access can fail, with the text of each.
-/

namespace CodeSurvey

/-- What a folder can hold. -/
inductive Entry where
  | file (content : ByteArray)
  | link (target : Text)
  | folder (entries : List (Text × Entry))

/-- The names from the top folder to an entry. -/
abbrev Location := List Text

/-- A file system, given by the entries of its top folder. -/
structure FileSystem where
  top : Table Entry := []

/-- The entry that the names lead to from the given one; links are not followed. -/
def Entry.at? : Entry → Location → Option Entry
  | e, [] => some e
  | .folder entries, name :: rest => (Table.get? entries name).bind (·.at? rest)
  | _, _ :: _ => none

/-- The entry at a location. -/
def FileSystem.entryAt? (fs : FileSystem) (l : Location) : Option Entry :=
  (Entry.folder fs.top).at? l

/-- A location written as an absolute path. -/
def Location.path (l : Location) : Text := '/' :: Text.joinWith ['/'] l

@[simp] theorem Entry.at?_nil (e : Entry) : e.at? [] = some e := by cases e <;> rfl

theorem Entry.at?_append (e : Entry) (l l' : Location) :
    e.at? (l ++ l') = (e.at? l).bind (·.at? l') := by
  induction l generalizing e with
  | nil => simp
  | cons name l ih =>
    cases e with
    | file _ => rfl
    | link _ => rfl
    | folder entries =>
      simp only [List.cons_append, Entry.at?]
      cases Table.get? entries name with
      | none => rfl
      | some e => exact ih e

/-! ## Failures -/

/-- Why an access to the file system failed. -/
inductive OsError where
  | noEntry
  | notFolder
  | isFolder
  | nameTooLong
  | linkLoop
deriving Repr, DecidableEq

namespace OsError

/-- The system's number of a failure. -/
def number : OsError → Nat
  | noEntry => 2
  | notFolder => 20
  | isFolder => 21
  | nameTooLong => 36
  | linkLoop => 40

/-- The system's description of a failure. -/
def description : OsError → Text
  | noEntry => "No such file or directory"
  | notFolder => "Not a directory"
  | isFolder => "Is a directory"
  | nameTooLong => "File name too long"
  | linkLoop => "Too many levels of symbolic links"

/-- The message of a failure on a path. -/
def message (e : OsError) (path : Text) : Text :=
  "[Errno ".toList ++ Text.ofNat e.number ++ "] ".toList ++ e.description ++ ": ".toList ++
    Text.quoted path

end OsError
end CodeSurvey
