import CodeSurvey.Text.Word
import CodeSurvey.Text.Blank

/-!
# Complexity

Estimates from keywords alone: words are whole runs of word characters, so `iffy` is no `if`, and
keywords in strings and comments count like any other. The cyclomatic figure counts decisions; the
cognitive one weighs a control keyword by the nesting of its line.

## Main definitions

* `decisionCount t`, `cyclomatic t`: decision keywords and logical operators.
* `Nesting.step`, `cognitive t`: nesting from line to line, and the sum it weighs.
* `Tier.ofCounts lines decisions`, `Tier.ofCode t`: simple, moderate or complex.
-/

namespace CodeSurvey

/-! ## Decisions -/

/-- Words that branch, loop or guard. -/
def decisionWords : List Text :=
  ["if", "else", "elif", "for", "while", "switch", "case", "catch", "except", "do", "try",
    "finally"]

/-- Words that open a nested block. -/
def nestingWords : List Text := ["if", "for", "while", "try"]

/-- Words that are weighed by nesting. -/
def controlWords : List Text :=
  ["if", "else", "elif", "for", "while", "switch", "case", "catch", "except"]

/-- Whether one of the given words stands in the text as a whole word. -/
def hasWord (ws : List Text) (t : Text) : Bool := (Text.words t).any ws.contains

/-- The number of doubled ampersands and bars, read from left to right without overlap. -/
def operatorCount : Text → Nat
  | '&' :: '&' :: rest => operatorCount rest + 1
  | '|' :: '|' :: rest => operatorCount rest + 1
  | _ :: rest => operatorCount rest
  | [] => 0

/-- Decision words and logical operators. -/
def decisionCount (t : Text) : Nat := (Text.words t).countP decisionWords.contains + operatorCount t

/-- One path through the text, and one more for each decision. -/
def cyclomatic (t : Text) : Nat := decisionCount t + 1

/-! ## Nesting -/

/-- The nesting after some lines and the sum gathered over them. -/
structure Nesting where
  depth : Nat := 0
  total : Nat := 0
deriving Repr, DecidableEq

/-- A line first opens a level, then closes one, and is weighed by the nesting that results. A
level is closed only where one is open. -/
def Nesting.step (n : Nesting) (line : Text) : Nesting :=
  let opens := line.contains '{' || hasWord nestingWords line
  let depth := if opens then n.depth + 1 else n.depth
  let depth := if line.contains '}' then depth - 1 else depth
  let weight := if hasWord controlWords line then 1 + depth else 0
  ⟨depth, n.total + weight + operatorCount line⟩

/-- The nesting after the given lines, blanks at their ends aside. -/
def Nesting.run (n : Nesting) (ls : List Text) : Nesting :=
  ls.foldl (fun n line => n.step (Text.trim line)) n

@[simp] theorem Nesting.run_nil (n : Nesting) : n.run [] = n := rfl

@[simp] theorem Nesting.run_cons (n : Nesting) (line : Text) (ls : List Text) :
    n.run (line :: ls) = (n.step (Text.trim line)).run ls := rfl

theorem Nesting.run_append (n : Nesting) (as bs : List Text) :
    n.run (as ++ bs) = (n.run as).run bs := by simp [Nesting.run]

/-- The sum over all lines of a text. -/
def cognitive (t : Text) : Nat := (Nesting.run {} (Text.lines t)).total

/-! ## Tiers -/

/-- How demanding a fragment is. -/
inductive Tier where
  | simple
  | moderate
  | complex
deriving Repr, DecidableEq

namespace Tier

/-- The three tiers, the least demanding first. -/
def all : List Tier := [simple, moderate, complex]

/-- The name of a tier. -/
def name : Tier → Text
  | simple => "simple"
  | moderate => "moderate"
  | complex => "complex"

/-- The tier of a name. -/
def ofName? (n : Text) : Option Tier := all.find? (·.name == n)

/-- The place of a tier among the three, counted from one. -/
def rank : Tier → Nat
  | simple => 1
  | moderate => 2
  | complex => 3

theorem ofName?_name (t : Tier) : ofName? t.name = some t := by cases t <;> decide

/-- The tier of a fragment with the given numbers of lines and of decisions. -/
def ofCounts (lineCount decisions : Int) : Tier :=
  if lineCount > 40 || decisions > 8 then complex
  else if lineCount > 15 || decisions > 4 then moderate
  else simple

/-- The tier of a text. -/
def ofCode (t : Text) : Tier := ofCounts (Text.lines t).length (cyclomatic t)

end Tier
end CodeSurvey
