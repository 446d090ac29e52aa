import CodeSurvey.Excerpt.Select
import CodeSurvey.Insight.Rules
import CodeSurvey.Tree.Walk

/-!
# Surveys

A survey gathers what all stages found out about one repository.

## Main definitions

* `Survey`: the result of all stages.
-/

namespace CodeSurvey

/-- What all stages found out about a repository. -/
structure Survey (α : Type) where
  /-- The name of the repository's folder. -/
  name : Text
  /-- The absolute path of that folder. -/
  path : Text
  technologies : TechnologyProfile α
  layout : Layout
  tree : TreeNode
  excerpts : ExcerptSet
  idioms : List IdiomUse
  quality : QualityFigures α
  insights : Insights

end CodeSurvey
