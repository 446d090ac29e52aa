import CodeSurvey.Host
import CodeSurvey.Text.Blank
import CodeSurvey.Toml.Scalar

/-!
# Reading TOML documents

A document is read statement by statement into one table. Headers name the table that the statements
after them fill. A table may be named by one header only, and neither arrays nor tables written as
values may be added to later. Arrays and tables written as values nest as deep as there is room.

## Main definitions

* `Toml.valueOf`: a value in front of a text.
* `Toml.Draft`: the table so far and the names that are closed to further statements.
* `Toml.parse t`: the table that `t` spells.
-/

namespace CodeSurvey
namespace Toml

/-! ## Comments and keys -/

/-- What is left after a comment, if there is one in front: the newline that ends it, or nothing. -/
def skipComment (t : Text) : Except ParseFault Text :=
  match t with
  | '#' :: rest =>
    let (comment, after) := (rest.takeWhile (· != '\n'), rest.dropWhile (· != '\n'))
    if comment.any isControl then .error .malformed else .ok after
  | t => .ok t

/-- What is left after blanks, newlines and comments; `comment` says whether the text begins inside
a comment. -/
def skipWideFrom : (comment : Bool) → Text → Except ParseFault Text
  | _, [] => .ok []
  | false, c :: rest =>
    if isWideSpace c then skipWideFrom false rest
    else if c == '#' then skipWideFrom true rest
    else .ok (c :: rest)
  | true, c :: rest =>
    if c == '\n' then skipWideFrom false rest
    else if isControl c then .error .malformed
    else skipWideFrom true rest

/-- What is left after blanks, newlines and comments. -/
def skipWide (t : Text) : Except ParseFault Text := skipWideFrom false t

/-- Characters of names without quotes. -/
def isBare (c : Char) : Bool := c.isAlphanum || c == '-' || c == '_'

/-- A part of a key in front. -/
def keyPartOf (t : Text) : Except ParseFault (Text × Text) :=
  let bare := t.takeWhile isBare
  if bare.isEmpty then shortStringOf t else .ok (bare, t.drop bare.length)

/-- A key in front: parts with points between them. Every part costs fuel; the parts so far are in
`done`, the latest first. -/
def keyFrom : (fuel : Nat) → List Text → Text → Except ParseFault (List Text × Text)
  | 0, _, _ => .error .malformed
  | fuel + 1, done, t =>
    match keyPartOf t with
    | .error e => .error e
    | .ok (part, rest) =>
      match skip rest with
      | '.' :: rest => keyFrom fuel (part :: done) (skip rest)
      | rest => .ok ((part :: done).reverse, rest)

/-- A key in front. -/
def keyOf (t : Text) : Except ParseFault (List Text × Text) := keyFrom (t.length + 1) [] t

/-! ## Nested tables -/

/-- Changes the table behind some names, making tables on the way where there are none. With
`lists`, an array on the way stands for its last item. -/
def within (lists : Bool) (change : Table Toml → Option (Table Toml)) :
    List Text → Table Toml → Option (Table Toml)
  | [], t => change t
  | name :: names, t =>
    match Table.get? t name with
    | none => (within lists change names []).map fun inner => Table.put t name (table inner)
    | some (table inner) =>
      (within lists change names inner).map fun inner => Table.put t name (table inner)
    | some (array items) =>
      if lists then
        match items.getLast? with
        | some (table inner) =>
          (within lists change names inner).map fun inner =>
            Table.put t name (array (items.dropLast ++ [table inner]))
        | _ => none
      else none
    | some _ => none

/-- Adds a name that is not there yet. -/
def addNew (name : Text) (v : Toml) (t : Table Toml) : Option (Table Toml) :=
  if Table.has t name then none else some (Table.put t name v)

/-- Adds an empty table to the array of a name, which is made if there is none. -/
def addItem (name : Text) (t : Table Toml) : Option (Table Toml) :=
  match Table.get? t name with
  | none => some (Table.put t name (array [table []]))
  | some (array items) => some (Table.put t name (array (items ++ [table []])))
  | some _ => none

/-- Whether a value is an array or a table. -/
def isNest : Toml → Bool
  | array _ => true
  | table _ => true
  | _ => false

/-- Whether one of the closed keys is a beginning of the key. -/
def isUnder (closed : List (List Text)) (key : List Text) : Bool := closed.any (·.isPrefixOf key)

/-! ## Values -/

mutual

/-- A value in front. Every call costs fuel, and no more than two calls go by without taking a
character. -/
def valueOf : (room fuel : Nat) → Text → Except ParseFault (Toml × Text)
  | _, 0, _ => .error .malformed
  | room, fuel + 1, t =>
    match t with
    | '"' :: _ => (stringOf t).map fun (s, rest) => (string s, rest)
    | '\'' :: _ => (stringOf t).map fun (s, rest) => (string s, rest)
    | 't' :: 'r' :: 'u' :: 'e' :: rest => .ok (bool true, rest)
    | 'f' :: 'a' :: 'l' :: 's' :: 'e' :: rest => .ok (bool false, rest)
    | '[' :: rest =>
      match room with
      | 0 => .error (.beyond .nesting)
      | room + 1 =>
        match skipWide rest with
        | .error e => .error e
        | .ok (']' :: rest) => .ok (array [], rest)
        | .ok rest => itemsFrom room fuel [] rest
    | '{' :: rest =>
      match room with
      | 0 => .error (.beyond .nesting)
      | room + 1 =>
        match skip rest with
        | '}' :: rest => .ok (table [], rest)
        | rest => membersFrom room fuel [] [] rest
    | t =>
      match momentOf t with
      | .error e => .error e
      | .ok (some (m, rest)) => .ok (moment m, rest)
      | .ok none => numberOf t

/-- The rest of an array before an item; the items so far are in `done`, the latest first. A comma
may stand after the last item. -/
def itemsFrom : (room fuel : Nat) → List Toml → Text → Except ParseFault (Toml × Text)
  | _, 0, _, _ => .error .malformed
  | room, fuel + 1, done, t =>
    match valueOf room fuel t with
    | .error e => .error e
    | .ok (v, rest) =>
      match skipWide rest with
      | .error e => .error e
      | .ok (']' :: rest) => .ok (array (v :: done).reverse, rest)
      | .ok (',' :: rest) =>
        match skipWide rest with
        | .error e => .error e
        | .ok (']' :: rest) => .ok (array (v :: done).reverse, rest)
        | .ok rest => itemsFrom room fuel (v :: done) rest
      | .ok _ => .error .malformed

/-- The rest of a table written as a value, before a member. The keys in `closed` hold values that
may not be added to. -/
def membersFrom :
    (room fuel : Nat) → List (List Text) → Table Toml → Text → Except ParseFault (Toml × Text)
  | _, 0, _, _, _ => .error .malformed
  | room, fuel + 1, closed, done, t =>
    match keyOf t with
    | .error e => .error e
    | .ok (key, '=' :: rest) =>
      match valueOf room fuel (skip rest) with
      | .error e => .error e
      | .ok (v, rest) =>
        if isUnder closed key then .error .malformed
        else match within false (addNew (key.getLastD []) v) key.dropLast done with
          | none => .error .malformed
          | some done =>
            match skip rest with
            | '}' :: rest => .ok (table done, rest)
            | ',' :: rest =>
              membersFrom room fuel (if isNest v then key :: closed else closed) done (skip rest)
            | _ => .error .malformed
    | .ok _ => .error .malformed

end

/-! ## Statements -/

/-- A document in the making. -/
structure Draft where
  /-- The table so far. -/
  content : Table Toml := []
  /-- The key of the latest header. -/
  header : List Text := []
  /-- The keys of arrays and tables written as values; they and all under them are closed. -/
  closed : List (List Text) := []
  /-- The keys that no header may name again and no dotted key may pass. -/
  named : List (List Text) := []
  /-- The keys that join `named` with the next header. -/
  passed : List (List Text) := []

/-- A header for one table. -/
def Draft.openTable (d : Draft) (key : List Text) : Except ParseFault Draft :=
  let named := d.passed ++ d.named
  if named.contains key || isUnder d.closed key then .error .malformed
  else match within true some key d.content with
    | none => .error .malformed
    | some content =>
      .ok { d with content := content, header := key, named := key :: named, passed := [] }

/-- A header for one more table of an array. What was said of the tables before it is forgotten. -/
def Draft.openItem (d : Draft) (key : List Text) : Except ParseFault Draft :=
  if isUnder d.closed key then .error .malformed
  else
    let keep (other : List Text) : Bool := !key.isPrefixOf other
    match within true (addItem (key.getLastD [])) key.dropLast d.content with
    | none => .error .malformed
    | some content =>
      .ok { content := content, header := key, closed := d.closed.filter keep,
            named := key :: (d.passed ++ d.named).filter keep, passed := [] }

/-- The keys that a dotted key passes, under a header. -/
def passedBy (header key : List Text) : List (List Text) :=
  (List.range (key.length - 1)).map fun n => header ++ key.take (n + 1)

/-- A value for a key under the latest header. -/
def Draft.assign (d : Draft) (key : List Text) (v : Toml) : Except ParseFault Draft :=
  let passing := passedBy d.header key
  let parent := d.header ++ key.dropLast
  if passing.any d.named.contains || isUnder d.closed parent then .error .malformed
  else match within true (addNew (key.getLastD []) v) parent d.content with
    | none => .error .malformed
    | some content =>
      let closed := if isNest v then (d.header ++ key) :: d.closed else d.closed
      .ok { d with content := content, closed := closed, passed := passing ++ d.passed }

/-- One statement that begins with the given text, and what is left after it. -/
def Draft.statement (room : Nat) (d : Draft) (t : Text) : Except ParseFault (Draft × Text) :=
  match t with
  | '[' :: '[' :: rest =>
    match keyOf (skip rest) with
    | .ok (key, ']' :: ']' :: rest) => (d.openItem key).map fun d => (d, rest)
    | .ok _ => .error .malformed
    | .error e => .error e
  | '[' :: rest =>
    match keyOf (skip rest) with
    | .ok (key, ']' :: rest) => (d.openTable key).map fun d => (d, rest)
    | .ok _ => .error .malformed
    | .error e => .error e
  | '#' :: _ => .ok (d, t)
  | t =>
    match keyOf t with
    | .ok (key, '=' :: rest) =>
      match valueOf room (2 * rest.length + 2) (skip rest) with
      | .error e => .error e
      | .ok (v, rest) => (d.assign key v).map fun d => (d, rest)
    | .ok _ => .error .malformed
    | .error e => .error e

/-- The statements of a text, one line each. Every line costs fuel. -/
def Draft.read (room : Nat) : (fuel : Nat) → Draft → Text → Except ParseFault Draft
  | 0, d, _ => .ok d
  | fuel + 1, d, t =>
    match skip t with
    | [] => .ok d
    | '\n' :: rest => read room fuel d rest
    | t =>
      match d.statement room t with
      | .error e => .error e
      | .ok (d, rest) =>
        match skipComment (skip rest) with
        | .error e => .error e
        | .ok [] => .ok d
        | .ok ('\n' :: rest) => read room fuel d rest
        | .ok _ => .error .malformed

/-- The table that a text spells. Line ends are newlines or carriage returns before newlines. -/
def parse [Host] (t : Text) : Except ParseFault Toml :=
  let body := Text.dropReturns t
  (Draft.read (Host.tomlRoom t) (body.length + 1) {} body).map fun d => table d.content

end Toml
end CodeSurvey
