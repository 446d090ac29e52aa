import CodeSurvey.FileSystem.Read
import CodeSurvey.Log.Record

/-!
# Skipped files

A file that cannot be read is left out by every stage that would use it, and never stops one. The
stage notes the file and the reason.

## Main definitions

* `skipNotes source stage read files`: the notes on the files that `read` refuses.
-/

namespace CodeSurvey

/-- The note on a file that is left out. -/
def skipNote (source stage path : Text) (e : ReadFailure) : LogRecord :=
  .debug source ("Skipping ".toList ++ path ++ " for ".toList ++ stage ++ ": ".toList ++ e.reason)

/-- The notes on the files that a stage has to leave out, in order. -/
def skipNotes (source stage : Text) (read : Text → Except ReadFailure Text) (files : List Text) :
    List LogRecord :=
  files.filterMap fun p =>
    match read p with
    | .ok _ => none
    | .error e => some (skipNote source stage p e)

end CodeSurvey
