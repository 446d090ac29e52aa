import CodeSurvey.Idiom.Detect
import CodeSurvey.Layout.Infer
import CodeSurvey.Quality.Figures
import CodeSurvey.Technology.Detect

/-!
# Insights

Rules turn what a survey found into remarks. Remarks are sorted into four buckets, each of which
takes a limited number, in the order of the rules.

## Main definitions

* `Findings`: what the rules of a survey are held against.
* `InsightRule`, `Insights`, `Insights.ofRules`: rules and the remarks that they give.
-/

namespace CodeSurvey

/-- What a remark is about. -/
inductive Bucket where
  | strengths
  | improvements
  | opportunities
  | risks
deriving Repr, DecidableEq

/-- What the rules of a survey are held against. -/
structure Findings (α : Type) where
  technologies : TechnologyProfile α
  testFrameworks : List Text
  idioms : List Text
  quality : QualityFigures α

namespace Findings

variable {α : Type} [Quantity α]

/-- Whether one of the tools is used. -/
def hasTool (f : Findings α) (names : List Text) : Bool :=
  f.technologies.tools.any fun t => names.contains t.name

/-- Whether an idiom is used whose name holds the given text. -/
def hasIdiom (f : Findings α) (fragment : Text) : Bool := f.idioms.any (Text.occursIn fragment)

/-- Whether a language, a framework or a tool of the name is used. -/
def uses (f : Findings α) (name : Text) : Bool :=
  (f.technologies.languages ++ f.technologies.frameworks ++ f.technologies.tools).any
    (·.name == name)

/-- The number of frameworks, databases and libraries. -/
def technologyCount (f : Findings α) : Nat :=
  f.technologies.frameworks.length + f.technologies.databases.length +
    f.technologies.libraries.length

end Findings

/-- A remark and when it applies to what rules are held against. -/
structure InsightRule (γ : Type) where
  bucket : Bucket
  message : Text
  applies : γ → Bool

/-- The remarks of each bucket. -/
structure Insights where
  strengths : List Text := []
  improvements : List Text := []
  opportunities : List Text := []
  risks : List Text := []
deriving Repr, DecidableEq

namespace Insights

/-- The remarks of one bucket. -/
def get (i : Insights) : Bucket → List Text
  | .strengths => i.strengths
  | .improvements => i.improvements
  | .opportunities => i.opportunities
  | .risks => i.risks

/-- One more remark at the end of a bucket. -/
def add (i : Insights) (b : Bucket) (message : Text) : Insights :=
  match b with
  | .strengths => { i with strengths := i.strengths ++ [message] }
  | .improvements => { i with improvements := i.improvements ++ [message] }
  | .opportunities => { i with opportunities := i.opportunities ++ [message] }
  | .risks => { i with risks := i.risks ++ [message] }

theorem get_add (i : Insights) (b b' : Bucket) (message : Text) :
    (i.add b message).get b' = i.get b' ++ if b' = b then [message] else [] := by
  cases b <;> cases b' <;> simp [add, get]

variable {γ : Type}

/-- The remarks after one more rule. A bucket that is full takes no more. -/
def step (limit : Nat) (x : γ) (i : Insights) (r : InsightRule γ) : Insights :=
  if (i.get r.bucket).length < limit && r.applies x then i.add r.bucket r.message else i

/-- The remarks that some rules give. -/
def ofRules (rules : List (InsightRule γ)) (limit : Nat) (x : γ) : Insights :=
  rules.foldl (step limit x) {}

end Insights
end CodeSurvey
