import CodeSurvey.Text.Basic

/-!
# Wildcards

Wildcards over a whole text: `*` takes any text, `?` any character and `[...]` one character of a
set. A set may hold ranges and may be turned around by a `!` in front; a bracket that is never
closed stands for itself. There is no escape.

## Main definitions

* `Wildcard.read pattern`: the items of a pattern.
* `Wildcard.covers items t`: whether the items take the whole of `t`.
-/

namespace CodeSurvey
namespace Wildcard

/-- A set of characters between brackets. -/
structure CharSet where
  negated : Bool
  single : List Char
  ranges : List (Char × Char)
deriving Repr, DecidableEq

/-- Membership: a character listed or in a range, turned around by negation. -/
def CharSet.holds (s : CharSet) (c : Char) : Bool :=
  (s.single.contains c || s.ranges.any fun (low, high) => low ≤ c && c ≤ high) != s.negated

/-- An item of a pattern. -/
inductive Item where
  | star
  | any
  | oneOf (set : CharSet)
  | literal (c : Char)
deriving Repr, DecidableEq

/-! ## Sets -/

/-- What stands between an opening bracket and the bracket that closes it. A closing bracket in
the first place, or after a `!` in the first place, belongs to the set. -/
def setBody? (rest : Text) : Option Text :=
  let lead := if rest.head? == some '!' then 1 else 0
  let lead := if (rest.drop lead).head? == some ']' then lead + 1 else lead
  let tail := rest.drop lead
  if tail.contains ']' then some (rest.take lead ++ tail.takeWhile (· != ']')) else none

/-- Cuts a set at the hyphens that join two characters into a range. The next `lead` characters
are never such a hyphen: a set begins with a character, and a range is followed by one. -/
def cutAtHyphens (lead : Nat) (current : Text) : Text → List Text
  | [] => [current.reverse]
  | c :: rest =>
    if lead == 0 && c == '-' then current.reverse :: cutAtHyphens 2 [] rest
    else cutAtHyphens (lead - 1) (c :: current) rest

/-- A hyphen at the end of a set stands for itself. -/
def keepLastHyphen : List Text → List Text
  | [] => []
  | [chunk, []] => [chunk ++ ['-']]
  | chunk :: rest => chunk :: keepLastHyphen rest

/-- Takes out the ranges whose ends are in the wrong order, together with their ends. -/
def dropReversed (chunks : List Text) : List Text :=
  chunks.foldr (fun chunk done =>
    match done with
    | [] => [chunk]
    | next :: rest =>
      if next.headD '\x00' < chunk.getLastD '\x00' then (chunk.dropLast ++ next.drop 1) :: rest
      else chunk :: next :: rest) []

/-- The ranges between neighbouring chunks. -/
def rangesOf : List Text → List (Char × Char)
  | chunk :: next :: rest =>
    (chunk.getLastD '\x00', next.headD '\x00') :: rangesOf (next :: rest)
  | _ => []

/-- The set of the given chunks. Without characters a set holds nothing, and turned around it
holds everything. A hyphen right after the `!` stands for itself. -/
def ofChunks (negated : Bool) : List Text → CharSet
  | [] :: next :: rest =>
    let chunks := ('-' :: next) :: rest
    ⟨negated, chunks.flatten, rangesOf chunks⟩
  | chunks => ⟨negated, chunks.flatten, rangesOf chunks⟩

/-- The set that a body between brackets describes. -/
def CharSet.ofBody (body : Text) : CharSet :=
  let lead := if body.head? == some '!' then 2 else 1
  match dropReversed (keepLastHyphen (cutAtHyphens lead [] body)) with
  | ('!' :: chunk) :: rest => ofChunks true (chunk :: rest)
  | chunks => ofChunks false chunks

/-! ## Patterns -/

/-- The items of a pattern after its next `skip` characters, which belong to a set already
read. -/
def readFrom : (skip : Nat) → Text → List Item
  | _, [] => []
  | skip + 1, _ :: rest => readFrom skip rest
  | 0, '*' :: rest => .star :: readFrom 0 rest
  | 0, '?' :: rest => .any :: readFrom 0 rest
  | 0, '[' :: rest =>
    match setBody? rest with
    | some body => .oneOf (.ofBody body) :: readFrom (body.length + 1) rest
    | none => .literal '[' :: readFrom 0 rest
  | 0, c :: rest => .literal c :: readFrom 0 rest

/-- The items of a pattern, from left to right. -/
def read (pattern : Text) : List Item := readFrom 0 pattern

/-- A text and what is left of it after each of its beginnings. -/
def tails : Text → List Text
  | [] => [[]]
  | c :: rest => (c :: rest) :: tails rest

/-- Whether the items take the whole text. -/
def covers : List Item → Text → Bool
  | [], t => t.isEmpty
  | .star :: items, t => (tails t).any (covers items)
  | .any :: items, t =>
    match t with
    | [] => false
    | _ :: rest => covers items rest
  | .oneOf set :: items, t =>
    match t with
    | [] => false
    | c :: rest => set.holds c && covers items rest
  | .literal c :: items, t =>
    match t with
    | [] => false
    | d :: rest => c == d && covers items rest

end Wildcard
end CodeSurvey
