import CodeSurvey.Glob.Wildcard
import CodeSurvey.Text.Blank

/-!
# Ignored paths

A rule with an asterisk or a question mark is a wildcard for the whole path or one of its
components. Other rules are literal: with a slash they may stand anywhere in the path, without one
they name a component.

## Main definitions

* `IgnoreRule.covers`, `rulesOf patterns`, `ignored rules path`.
-/

namespace CodeSurvey

/-- A rule for paths that are left out. -/
structure IgnoreRule where
  pattern : Text
deriving Repr, DecidableEq

namespace IgnoreRule

/-- Whether the rule is a wildcard. -/
def isGlob (r : IgnoreRule) : Bool := r.pattern.contains '*' || r.pattern.contains '?'

/-- The pattern without slashes at its end. -/
def body (r : IgnoreRule) : Text := (r.pattern.reverse.dropWhile (· == '/')).reverse

/-- Whether the rule covers a path. A rule of slashes alone covers nothing. -/
def covers (r : IgnoreRule) (path : Text) : Bool :=
  if r.body.isEmpty then false
  else if r.isGlob then
    let items := Wildcard.read r.body
    Wildcard.covers items path || (Text.splitOn '/' path).any (Wildcard.covers items)
  else if r.body.contains '/' then Text.occursIn r.body path
  else (Text.splitOn '/' path).contains r.body

end IgnoreRule

/-- The rules of some patterns, blanks at their ends aside. -/
def rulesOf (patterns : List Text) : List IgnoreRule :=
  patterns.filterMap fun p => if (Text.trim p).isEmpty then none else some ⟨Text.trim p⟩

/-- Whether some rule covers the path. -/
def ignored (rules : List IgnoreRule) (path : Text) : Bool := rules.any (·.covers path)

end CodeSurvey
