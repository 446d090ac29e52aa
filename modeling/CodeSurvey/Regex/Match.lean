import CodeSurvey.Regex.Basic

/-!
# Matching

A match is found by trying the ways an expression can go in order of preference and keeping the
first after which the rest of the expression succeeds. A search tries the places of the text from
left to right, so it finds the leftmost match and, there, the preferred one.

## Main definitions

* `Regex.find? r t`: the first match of `r` in `t`.
* `Regex.findAll r t`: the matches of `r` in `t` from left to right, none overlapping another.
* `Regex.occursIn r t`: whether there is a match at all.
* `Regex.replaceAll r new t`: `t` with `new` in the place of every match.
-/

namespace CodeSurvey
namespace Regex

/-- What a numbered group holds: where it starts and its text. -/
structure Capture where
  number : Nat
  start : Nat
  text : Text
deriving Repr, DecidableEq

/-- A place in a text: its offset, the character before it and the text after it, and what the
groups passed so far hold. -/
structure Spot where
  offset : Nat
  previous : Option Char
  rest : Text
  captures : List Capture

/-- A match: the offsets it starts and stops at, its text and its groups, the latest first. -/
structure Match where
  start : Nat
  stop : Nat
  text : Text
  captures : List Capture
deriving Repr, DecidableEq

/-- The group of the given number, if it took part in the match. -/
def Match.group? (m : Match) (number : Nat) : Option Capture :=
  m.captures.find? (·.number == number)

/-- The text of a group; a group that took no part in the match holds no text. -/
def Match.groupText (m : Match) (number : Nat) : Text :=
  ((m.group? number).map (·.text)).getD []

/-! ## One place -/

/-- The places that a run of a class can end at, the farthest first. The places already passed
are in `nearer`. -/
def Spot.stops (accepts : Char → Bool) (captures : List Capture) :
    (nearer : List Spot) → (offset : Nat) → (previous : Option Char) → Text → List Spot
  | nearer, offset, previous, [] => ⟨offset, previous, [], captures⟩ :: nearer
  | nearer, offset, previous, c :: rest =>
    if accepts c then
      stops accepts captures (⟨offset, previous, c :: rest, captures⟩ :: nearer)
        (offset + 1) (some c) rest
    else ⟨offset, previous, c :: rest, captures⟩ :: nearer

/-- Whether a word ends or begins at the place. -/
def Spot.atWordEdge (s : Spot) : Bool :=
  s.previous.any Text.isWord != s.rest.head?.any Text.isWord

/-- The group's text is what lies between the place `s` where it began and the place `e`. -/
def Spot.capture (number : Nat) (s e : Spot) : Spot :=
  { e with captures := ⟨number, s.offset, s.rest.take (e.offset - s.offset)⟩ :: e.captures }

/-- The first success of `next` among the places that the expression can lead to from `s`, in
order of preference. -/
def follow {α : Type} : Regex → Spot → (Spot → Option α) → Option α
  | .empty, s, next => next s
  | .char accepts, s, next =>
    match s.rest with
    | [] => none
    | c :: rest => if accepts c then next ⟨s.offset + 1, some c, rest, s.captures⟩ else none
  | .run greedy accepts, s, next =>
    let stops := Spot.stops accepts s.captures [] s.offset s.previous s.rest
    (if greedy then stops else stops.reverse).findSome? next
  | .seq first second, s, next => follow first s fun s' => follow second s' next
  | .choice first second, s, next =>
    match follow first s next with
    | some result => some result
    | none => follow second s next
  | .group number inner, s, next => follow inner s fun e => next (s.capture number e)
  | .textStart, s, next => if s.previous.isNone then next s else none
  | .lineStart, s, next => if s.previous.all (· == '\n') then next s else none
  | .textEnd, s, next => if s.rest.isEmpty || s.rest == ['\n'] then next s else none
  | .wordEdge, s, next => if s.atWordEdge then next s else none

/-- The match that starts at the given place. -/
def matchAt (r : Regex) (offset : Nat) (previous : Option Char) (rest : Text) : Option Match :=
  follow r ⟨offset, previous, rest, []⟩ fun e =>
    some ⟨offset, e.offset, rest.take (e.offset - offset), e.captures⟩

/-! ## A whole text -/

/-- The first match that starts at the given place or after it. -/
def findFrom (r : Regex) (offset : Nat) (previous : Option Char) : Text → Option Match
  | [] => matchAt r offset previous []
  | c :: rest =>
    match matchAt r offset previous (c :: rest) with
    | some m => some m
    | none => findFrom r (offset + 1) (some c) rest

/-- The matches that start at the given place or after it, except for the next `skip` places,
which a match before them covers. A match of no characters covers none. -/
def findAllFrom (r : Regex) (skip offset : Nat) (previous : Option Char) : Text → List Match
  | [] => if skip = 0 then (matchAt r offset previous []).toList else []
  | c :: rest =>
    match skip with
    | skip + 1 => findAllFrom r skip (offset + 1) (some c) rest
    | 0 =>
      match matchAt r offset previous (c :: rest) with
      | some m => m :: findAllFrom r (m.stop - offset - 1) (offset + 1) (some c) rest
      | none => findAllFrom r 0 (offset + 1) (some c) rest

/-- The text from the given place on with `new` in the place of the matches that start there or
later; the next `skip` characters belong to a match before them and are left out. -/
def replaceFrom (r : Regex) (new : Text) (skip offset : Nat) (previous : Option Char) : Text → Text
  | [] => if skip = 0 && (matchAt r offset previous []).isSome then new else []
  | c :: rest =>
    match skip with
    | skip + 1 => replaceFrom r new skip (offset + 1) (some c) rest
    | 0 =>
      match matchAt r offset previous (c :: rest) with
      | some m =>
        new ++ (if m.stop = offset then [c] else []) ++
          replaceFrom r new (m.stop - offset - 1) (offset + 1) (some c) rest
      | none => c :: replaceFrom r new 0 (offset + 1) (some c) rest

/-- The leftmost match. -/
def find? (r : Regex) (t : Text) : Option Match := findFrom r 0 none t

/-- The matches from left to right; each begins no earlier than the one before it ends. -/
def findAll (r : Regex) (t : Text) : List Match := findAllFrom r 0 0 none t

/-- Whether the expression matches some part of the text. -/
def occursIn (r : Regex) (t : Text) : Bool := (find? r t).isSome

/-- The text with `new` in the place of every match. -/
def replaceAll (r : Regex) (new t : Text) : Text := replaceFrom r new 0 0 none t

end Regex
end CodeSurvey
