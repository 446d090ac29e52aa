import CodeSurvey.Quantity
import CodeSurvey.Table

/-!
# Technologies

A technology is detected with a confidence, the evidence for it and perhaps a version. Detections of
one technology are merged: the highest confidence counts, and all evidence is kept.

## Main definitions

* `Technology`, `Technology.merge`, `mergeAll`, `rank`.
-/

namespace CodeSurvey

/-- A detected technology. -/
structure Technology (α : Type) where
  name : Text
  confidence : α
  evidence : List Text
  version : Option Text
deriving Repr, DecidableEq

namespace Technology

variable {α : Type} [Quantity α]

/-- The version, if it says something. -/
def knownVersion (t : Technology α) : Option Text := t.version.filter fun v => !v.isEmpty

/-- Two detections of one technology as one. The later one's confidence counts only if it is higher;
its evidence is added where it is new. -/
def merge (current candidate : Technology α) : Technology α :=
  let better := Quantity.below current.confidence candidate.confidence
  let best := if better then candidate else current
  { name := current.name
    confidence := best.confidence
    evidence := current.evidence ++ candidate.evidence.filter fun e => !current.evidence.contains e
    version := (best.knownVersion.or current.knownVersion).or candidate.version }

/-- Order by falling confidence, then by name. -/
def le (a b : Technology α) : Bool :=
  if Quantity.below b.confidence a.confidence then true
  else if Quantity.below a.confidence b.confidence then false
  else Text.le a.name b.name

end Technology

variable {α : Type} [Quantity α]

/-- A table of technologies with one more detection. -/
def addDetection (t : Table (Technology α)) (candidate : Technology α) : Table (Technology α) :=
  match Table.get? t candidate.name with
  | none => Table.put t candidate.name candidate
  | some current => Table.put t candidate.name (current.merge candidate)

/-- Detections merged by name, in the order of first detection. -/
def mergeAll (candidates : List (Technology α)) : List (Technology α) :=
  (candidates.foldl addDetection []).map (·.2)

/-- Detections merged and put in order. -/
def rank (candidates : List (Technology α)) : List (Technology α) :=
  (mergeAll candidates).mergeSort Technology.le

end CodeSurvey
