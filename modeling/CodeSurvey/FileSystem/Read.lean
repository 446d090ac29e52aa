import CodeSurvey.FileSystem.Edit
import CodeSurvey.FileSystem.Utf8
import CodeSurvey.Text.Blank

/-!
# Reading files

A source is read only if it is a file of limited size that holds text: no byte zero and valid
UTF-8. The first of these conditions that fails is the reason why the file is left out.

## Main definitions

* `FileSystem.ask fs root path`: what a path under a root folder leads to by its whole length.
* `FileSystem.readSource fs root limit path`: the text of a source file, as it stands.
* `FileSystem.requestSource fs root limit path`: the same, with the requested path in the failure.
* `FileSystem.textOf content`: the text of a file, with line ends made newlines.
-/

namespace CodeSurvey

/-- Why a file has no source text. -/
inductive ReadFailure where
  | refused (error : OsError) (path : Text)
  | tooLarge
  | binary
  | notUtf8
deriving Repr, DecidableEq

/-- The reason in words. -/
def ReadFailure.reason : ReadFailure → Text
  | refused error path => error.message path
  | tooLarge => "file exceeds size limit"
  | binary => "binary content"
  | notUtf8 => "not valid UTF-8"

/-- Why a request for a source is not met. -/
inductive SourceFailure where
  /-- The requested path leads to no source text. -/
  | unreadable (path : Text) (reason : ReadFailure)
  /-- The path has a character zero, so the system is not even asked. -/
  | zeroInPath
deriving Repr, DecidableEq

namespace FileSystem

/-- The size at which a folder counts. -/
def folderSize : Nat := 4096

/-- The path of a file as seen from a root folder. -/
def pathUnder (root : Location) (path : Text) : Text :=
  if (Path.anchor path).isEmpty then Location.path (root ++ Path.parts path)
  else Path.normal path

/-- What a path under a root folder leads to if the system is asked for it from the top on. -/
def ask (fs : FileSystem) (root : Location) (path : Text) : Except OsError (Location × Entry) :=
  if Path.fits (pathUnder root path) then stat fs root path else .error .nameTooLong

/-- The size of an entry in bytes. -/
def entrySize : Entry → Nat
  | .file content => content.size
  | .link target => (String.ofList target).utf8ByteSize
  | .folder _ => folderSize

/-- The text in some bytes. -/
def sourceOf (content : ByteArray) : Except ReadFailure Text :=
  if content.data.contains 0 then .error .binary
  else match Utf8.decode? content with
    | some t => .ok t
    | none => .error .notUtf8

/-- The text of a source file under a root folder, if its size is within the limit. -/
def readSource (fs : FileSystem) (root : Location) (limit : Option Int) (path : Text) :
    Except ReadFailure Text :=
  match stat fs root path with
  | .error e => .error (.refused e (pathUnder root path))
  | .ok (_, e) =>
    if limit.any fun n => n < (entrySize e : Int) then .error .tooLarge
    else match e with
      | .file content => sourceOf content
      | _ => .error (.refused .isFolder (pathUnder root path))

/-- The text of a source file that is asked for by its path. -/
def requestSource (fs : FileSystem) (root : Location) (limit : Option Int) (path : Text) :
    Except SourceFailure Text :=
  if (pathUnder root path).contains '\x00' then .error .zeroInPath
  else (fs.readSource root limit path).mapError (.unreadable path)

/-- The text of a file as it is opened for reading lines: UTF-8 with line ends made newlines. -/
def textOf (content : ByteArray) : Except Utf8.Fault Text :=
  match Utf8.decode? content with
  | some t => .ok (Text.unifyNewlines t)
  | none => .error ((Utf8.fault? content).getD ⟨0, 0, []⟩)

end FileSystem
end CodeSurvey
