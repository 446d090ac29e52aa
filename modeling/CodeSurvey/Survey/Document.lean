import CodeSurvey.Json.Printer
import CodeSurvey.Survey.Basic

/-!
# Surveys as JSON

Every part of a survey is an object whose members come in a fixed order. Figures are written as the
shortest decimal numbers that read back as them.

## Main definitions

* `Document.survey s time`: the JSON document of a survey made at the given time.
-/

namespace CodeSurvey
namespace Document

/-! ## Parts -/

/-- The words for numbers that JSON has no digits for. -/
def figureStyle : Shortest.Style := ⟨"Infinity", "NaN"⟩

/-- A figure. -/
def figure (x : Float) : Json := .decimal (Shortest.text figureStyle x)

/-- A count. -/
def count (n : Nat) : Json := .int n

/-- Some texts. -/
def texts (ts : List Text) : Json := .array (ts.map .string)

/-- An object, given by its members. -/
def object (members : List (String × Json)) : Json :=
  .object (members.map fun (name, v) => (name.toList, v))

/-- A technology. -/
def technology (t : Technology Float) : Json := object [
  ("name", .string t.name), ("confidence", figure t.confidence), ("evidence", texts t.evidence),
  ("version", (t.version.map Json.string).getD .null)]

/-- Some technologies. -/
def technologyList (ts : List (Technology Float)) : Json := .array (ts.map technology)

/-- All technologies. -/
def technologies (p : TechnologyProfile Float) : Json := object [
  ("languages", technologyList p.languages), ("frameworks", technologyList p.frameworks),
  ("databases", technologyList p.databases), ("tools", technologyList p.tools),
  ("libraries", technologyList p.libraries)]

/-- The layout. -/
def layout (l : Layout) : Json := object [
  ("project_type", .string l.projectType.name), ("architecture", .string l.architecture.name),
  ("build_system", texts l.buildSystems), ("package_manager", .string l.packageManager),
  ("test_frameworks", texts l.testFrameworks), ("documentation", .string l.documentation.name),
  ("important_files", texts l.importantFiles)]

mutual

/-- A node of the tree with all nodes below it. -/
def tree : TreeNode → Json
  | .file name path importance size => object [
      ("type", .string "file"), ("name", .string name), ("path", .string path),
      ("importance", .string importance.name), ("size", count size), ("children", .null)]
  | .folder name path importance children => object [
      ("type", .string "directory"), ("name", .string name), ("path", .string path),
      ("importance", .string importance.name), ("size", .null),
      ("children", .array (trees children))]

/-- Some nodes with all nodes below them. -/
def trees : List TreeNode → List Json
  | [] => []
  | node :: rest => tree node :: trees rest

end

/-- An excerpt. -/
def excerpt (e : Excerpt) : Json := object [
  ("id", .string e.id), ("title", .string e.title), ("description", .string e.description),
  ("file_path", .string e.path), ("start_line", count e.startLine), ("end_line", count e.endLine),
  ("code", .string e.code), ("language", .string e.language), ("category", .string e.category.name),
  ("complexity", .string e.complexity.name), ("patterns", texts e.tags)]

/-- Some excerpts. -/
def excerptList (es : List Excerpt) : Json := .array (es.map excerpt)

/-- The excerpts of all categories. -/
def excerpts (s : ExcerptSet) : Json := object [
  ("components", excerptList s.components), ("functions", excerptList s.functions),
  ("tests", excerptList s.tests), ("configs", excerptList s.configs), ("apis", excerptList s.apis),
  ("models", excerptList s.models), ("utils", excerptList s.utils)]

/-- An idiom that is used. -/
def idiom (i : IdiomUse) : Json := object [
  ("name", .string i.name), ("description", .string i.description),
  ("frequency", count i.frequency), ("recommendation", .string i.advice),
  ("examples", excerptList i.examples)]

/-- Some idioms. -/
def idioms (is : List IdiomUse) : Json := .array (is.map idiom)

/-- The quality figures. -/
def quality (q : QualityFigures Float) : Json := object [
  ("average_file_size", figure q.averageFileSize), ("total_lines", count q.totalLines),
  ("comment_ratio", figure q.commentRatio),
  ("complexity", object [("cyclomatic", figure q.cyclomatic), ("cognitive", figure q.cognitive)]),
  ("maintainability_index", figure q.maintainability),
  ("duplicate_code_percentage", figure q.duplicatePercentage),
  ("files_analyzed", count q.fileCount)]

/-- The insights. -/
def insights (i : Insights) : Json := object [
  ("strengths", texts i.strengths), ("improvements", texts i.improvements),
  ("opportunities", texts i.opportunities), ("risks", texts i.risks)]

/-- A survey made at the given time. -/
def survey (s : Survey Float) (time : Text) : Json := object [
  ("repo_name", .string s.name), ("repo_path", .string s.path), ("analyzed_at", .string time),
  ("technologies", technologies s.technologies), ("structure", layout s.layout),
  ("file_structure", tree s.tree), ("examples", excerpts s.excerpts),
  ("patterns", idioms s.idioms), ("quality", quality s.quality),
  ("insights", insights s.insights)]

end Document
end CodeSurvey
