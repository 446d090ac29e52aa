import CodeSurvey.Insight.Basic

/-!
# The rules of insight

Thresholds are strict: a figure that only reaches its threshold gives no remark.

## Main definitions

* `insightRules`: the rules, bucket by bucket.
* `Insights.ofFindings`: the remarks on some findings.
-/

namespace CodeSurvey

variable {α : Type} [Quantity α]

/-! ## Kinds of tools -/

/-- Tools that look for faults. -/
def linters : List Text := ["ESLint", "Ruff", "Flake8", "Pylint"]

/-- Tools that lay out code. -/
def formatters : List Text := ["Prettier", "Black", "Ruff"]

/-- Tools that build and test every change. -/
def integrationTools : List Text :=
  ["GitHub Actions", "GitLab CI", "Jenkins", "CircleCI", "Travis CI"]

/-! ## Rules -/

/-- Whether a figure is more than a number of hundredths. -/
def moreThan (hundredths : Nat) (x : α) : Bool := Quantity.below (Quantity.ratio hundredths 100) x

/-- Whether a figure is less than a number of hundredths. -/
def lessThan (hundredths : Nat) (x : α) : Bool := Quantity.below x (Quantity.ratio hundredths 100)

/-- What speaks for the code. -/
def strengthRules : List (InsightRule (Findings α)) := [
  ⟨.strengths, "Good code documentation with adequate comments",
    fun f => moreThan 15 f.quality.commentRatio⟩,
  ⟨.strengths, "High maintainability index indicates well-structured code",
    fun f => moreThan 7500 f.quality.maintainability⟩,
  ⟨.strengths, "TypeScript usage provides type safety and better tooling",
    fun f => f.uses "TypeScript"⟩,
  ⟨.strengths, "Comprehensive testing patterns indicate good software practices",
    fun f => f.hasIdiom "Test"⟩]

/-- What the code lacks. -/
def improvementRules : List (InsightRule (Findings α)) := [
  ⟨.improvements, "Add more code comments to improve maintainability",
    fun f => lessThan 10 f.quality.commentRatio⟩,
  ⟨.improvements, "Reduce cyclomatic complexity by breaking down large functions",
    fun f => moreThan 1000 f.quality.cyclomatic⟩,
  ⟨.improvements, "Reduce code duplication by extracting common functionality",
    fun f => moreThan 1500 f.quality.duplicatePercentage⟩,
  ⟨.improvements, "Implement consistent error handling patterns",
    fun f => !f.hasIdiom "Error"⟩]

/-- What could be added around the code. -/
def opportunityRules : List (InsightRule (Findings α)) := [
  ⟨.opportunities, "Add a linter for code quality and consistency",
    fun f => !f.hasTool linters⟩,
  ⟨.opportunities, "Add an automatic formatter for consistent code formatting",
    fun f => !f.hasTool formatters⟩,
  ⟨.opportunities, "Consider using custom hooks for reusable stateful logic",
    fun f => f.uses "React" && !f.hasIdiom "Hook"⟩,
  ⟨.opportunities, "Implement CI/CD pipeline for automated testing and deployment",
    fun f => !f.hasTool integrationTools⟩]

/-- What may go wrong. -/
def riskRules : List (InsightRule (Findings α)) := [
  ⟨.risks, "Low maintainability index may lead to technical debt",
    fun f => lessThan 5000 f.quality.maintainability⟩,
  ⟨.risks, "High cognitive complexity makes code difficult to understand",
    fun f => moreThan 1500 f.quality.cognitive⟩,
  ⟨.risks, "Lack of testing framework increases risk of bugs",
    fun f => f.testFrameworks.isEmpty⟩,
  ⟨.risks, "Large number of technologies may indicate over-engineering",
    fun f => 10 < f.technologyCount⟩]

/-- All rules. -/
def insightRules : List (InsightRule (Findings α)) :=
  strengthRules ++ improvementRules ++ opportunityRules ++ riskRules

/-- The most remarks of a bucket. -/
def insightLimit : Nat := 5

/-- The remarks on some findings. -/
def Insights.ofFindings (f : Findings α) : Insights := ofRules insightRules insightLimit f

end CodeSurvey
