import CodeSurvey.FileSystem.Read
import CodeSurvey.Limit
import CodeSurvey.Log.Record

/-!
# Manifests

Manifests are files at the root that name dependencies. One that is no UTF-8 reads as an empty text,
and one that cannot be understood is noted and ignored. A limit that the interpreter sets ends the
reading.

## Main definitions

* `Manifest.text?`: the text of a manifest, if there is one.
* `ManifestFailure`: what even a tolerant reader does not get over.
-/

namespace CodeSurvey

/-- Why reading a manifest fails. -/
inductive ManifestFailure where
  /-- A limit is met where a manifest is read or a part of it is written out. -/
  | beyond (limit : Limit)
  /-- Something that should list dependencies is given and lists nothing. -/
  | notAList
  /-- The system refuses to look for a manifest. -/
  | refused (error : OsError)
deriving Repr, DecidableEq

namespace Manifest

/-- A note about the manifests. -/
def note (message : Text) : LogRecord := .debug "analyzers.manifests" message

/-- The note on a manifest that is no UTF-8. -/
def unreadableNote (name : Text) (content : ByteArray) (f : Utf8.Fault) : LogRecord :=
  note ("Unable to read ".toList ++ name ++ ": ".toList ++ f.message content)

/-- The note on a manifest that is not understood. -/
def malformedNote (name reason : Text) : LogRecord :=
  note ("Ignoring malformed manifest: ".toList ++ name ++ ": ".toList ++ reason)

/-- Goes on without a manifest that is not understood. -/
def ignore {α : Type} (name reason : Text) (instead : α) : Logged ManifestFailure α :=
  ⟨.ok instead, [malformedNote name reason]⟩

/-- The text of a manifest, if there is one. A way that leads nowhere is no failure, but a name on
it that is too long is one. -/
def text? (fs : FileSystem) (root : Location) (name : Text) :
    Logged ManifestFailure (Option Text) :=
  match fs.ask root name with
  | .ok (_, .file content) =>
    match FileSystem.textOf content with
    | .ok t => pure (some t)
    | .error f => ⟨.ok (some []), [unreadableNote name content f]⟩
  | .error .nameTooLong => .fail (.refused .nameTooLong)
  | _ => pure none

/-- Goes on without a manifest that is malformed, but not where a limit is met. -/
def unread {α : Type} (name language : Text) (fault : ParseFault) (instead : α) :
    Logged ManifestFailure α :=
  match fault with
  | .malformed => ignore name ("not a ".toList ++ language ++ " document".toList) instead
  | .beyond limit => .fail (.beyond limit)

end Manifest
end CodeSurvey
