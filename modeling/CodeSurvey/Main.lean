import CodeSurvey.Calendar
import CodeSurvey.Command.Run
import CodeSurvey.Host.Standard
import Std.Time.DateTime

/-!
# The command line

The command is run on an image of the disk: the folder to be surveyed with all it holds, what links
lead to from there, and the places of the output and of the log file. What the run changes in the
image is then written to the disk, and its two streams are printed.
-/

namespace CodeSurvey
namespace Disk

/-! ## Reading -/

/-- The location of the last place of a path of the disk, links followed, if anything is there. -/
def real? (path : String) : IO (Option Location) := do
  try
    let p ← IO.FS.realPath path
    if ← p.pathExists then return some (Path.parts p.toString.toList) else return none
  catch _ => return none

/-- A target that nothing has. -/
def nowhere : Text := ['/', '\x00']

/-- An entry of the disk, with all below it where that can be read. -/
partial def entry? (e : IO.FS.DirEntry) : IO (Option Entry) := do
  try
    match (← e.path.symlinkMetadata).type with
    | .file => return some (.file (← IO.FS.readBinFile e.path))
    | .symlink =>
      match ← real? e.path.toString with
      | some l => return some (.link l.path)
      | none => return some (.link nowhere)
    | .dir =>
      let below ← (← e.path.readDir).toList.filterMapM fun d => do
        return (← entry? d).map fun found => (d.fileName.toList, found)
      return some (.folder below)
    | .other => return none
  catch _ => return none

/-- What stands at a location of the disk; of a folder only that it is one, unless all is wished
for. -/
def entryAt? (l : Location) (all : Bool) : IO (Option Entry) := do
  let e : IO.FS.DirEntry := ⟨⟨"/"⟩, String.ofList (Text.joinWith ['/'] l)⟩
  if all || !(← e.path.isDir) then entry? e else return some (.folder [])

/-- The image with what stands at a path of the disk, and with a link where the path goes over
links. -/
def attach (here : Location) (path : Text) (all : Bool) (fs : FileSystem) : IO FileSystem := do
  match ← real? (String.ofList path) with
  | none => return fs
  | some l =>
    if !all && (fs.entryAt? l).isSome then return fs
    match ← entryAt? l all with
    | none => return fs
    | some e =>
      let fs := fs.put l e
      let plain := plainLocation here path
      if (fs.entryAt? plain).isSome then return fs else return fs.put plain (.link l.path)

mutual

/-- The targets of the links at or below an entry. -/
def targets : Entry → List Text
  | .file _ => []
  | .link target => [target]
  | .folder entries => targetsOf entries

/-- The targets of the links at or below some entries. -/
def targetsOf : List (Text × Entry) → List Text
  | [] => []
  | (_, e) :: rest => targets e ++ targetsOf rest

end

/-- The image that a run starts from. -/
def image [Host] (here : Location) (i : Invocation) : IO FileSystem := do
  let fs := FileSystem.put {} here (.folder [])
  match i with
  | .survey o =>
    let fs ← attach here ((Path.expanded? o.path).getD o.path) true fs
    let fs ← (targets (.folder fs.top)).foldlM (fun fs t => attach here t false fs) fs
    (o.output.toList ++ o.logFile.toList).foldlM (fun fs file => do
      attach here file false (← attach here (Path.folder file) false fs)) fs
  | _ => return fs

/-! ## Homes -/

/-- The home folders of the users, as the system lists them. -/
def userHomes : IO (List (Text × Text)) := do
  let listed ← try IO.FS.readFile "/etc/passwd" catch _ => pure ""
  return (Text.splitLines listed.toList).filterMap fun line =>
    match Text.splitOn ':' line with
    | user :: _ :: _ :: _ :: _ :: home :: _ => some ('~' :: user, home)
    | _ => none

/-- The host that the command runs on. -/
def host : IO Host := do
  let own ← IO.getEnv "HOME"
  let homes := (own.toList.map fun home => (['~'], home.toList)) ++ (← userHomes)
  return { Host.standard with home? := Table.get? homes }

/-! ## Writing -/

/-- Writes a file of the image to the disk if it differs there. -/
def save (here : Location) (before after : FileSystem) (path : Text) : IO Unit := do
  match after.stat here path with
  | .ok (_, .file content) =>
    let same := match before.stat here path with
      | .ok (_, .file old) => old == content
      | _ => false
    unless same do IO.FS.writeBinFile (String.ofList path) content
  | _ => return

/-- The files that a request may write. -/
def writtenBy : Invocation → List Text
  | .survey o => o.logFile.toList ++ o.output.toList
  | _ => []

/-- The present time as a run tells it. -/
def clock : IO Clock := do
  let now ← Std.Time.Timestamp.now
  let t := Std.Time.PlainDateTime.ofWallTime (.ofNanoseconds now.toNanosecondsSinceUnixEpoch)
  let micros := (t.nanosecond.val / 1000).toNat
  let day : Date := ⟨t.year.toNat, t.month.val.toNat, t.day.val.toNat⟩
  let time : TimeOfDay :=
    ⟨t.hour.val.toNat, t.minute.val.toNat, t.time.second.val.toNat, micros⟩
  let whole := TimeOfDay.text { time with micros := 0 }
  return {
    surveyTime := day.text ++ 'T' :: (time.text ++ ['Z'])
    stamp := fun _ =>
      day.text ++ ' ' :: (whole ++ ',' :: (Text.padded 3 (micros / 1000) ++ [' '])) }

/-- The exit status of a run; one that fails gives its reason. -/
def status : Ending → IO UInt32
  | .exit n => return UInt32.ofNat n
  | .failed e => do
    IO.eprintln (String.ofList e.message)
    return 1

end Disk
end CodeSurvey

open CodeSurvey

/-- Runs the command with the arguments of the process. -/
def main (arguments : List String) : IO UInt32 := do
  let arguments := arguments.map String.toList
  let invocation := Invocation.read arguments
  let here := Path.parts (← IO.currentDir).toString.toList
  let _host ← Disk.host
  let before ← Disk.image here invocation
  let (result, after) := runCommand (← Disk.clock) here arguments ⟨before, none⟩
  (Disk.writtenBy invocation).forM (Disk.save here before after.files)
  IO.print (String.ofList result.standardOutput)
  IO.eprint (String.ofList result.standardError)
  Disk.status result.ending
