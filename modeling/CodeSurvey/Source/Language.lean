import CodeSurvey.Path.Basic
import CodeSurvey.Text.Blank

/-!
# Languages

The language of a file is told by its suffix, whatever the case of its letters. Comments are told
line by line, by what a line begins with.

## Main definitions

* `Language.ofPath p`: the language of a file, `text` if its suffix is unknown.
* `isCode p`: whether a file counts as source code in samples and metrics.
* `isComment style line`, `commentCount style t`: comment lines.
-/

namespace CodeSurvey

/-- Languages by suffix. -/
def languageOfSuffix : List (Text × Text) := [
  (".js", "javascript"), (".jsx", "javascript"), (".mjs", "javascript"), (".cjs", "javascript"),
  (".ts", "typescript"), (".tsx", "typescript"), (".vue", "vue"), (".py", "python"),
  (".java", "java"), (".kt", "kotlin"), (".cs", "csharp"), (".go", "go"), (".rs", "rust"),
  (".php", "php"), (".rb", "ruby"), (".swift", "swift"), (".c", "c"), (".h", "c"),
  (".cpp", "cpp"), (".hpp", "cpp"), (".sh", "shell"), (".prisma", "prisma"), (".json", "json"),
  (".toml", "toml"), (".yml", "yaml"), (".yaml", "yaml"), (".cfg", "ini"), (".ini", "ini")]

/-- The suffixes of source code. -/
def codeSuffixes : List Text :=
  [".js", ".ts", ".jsx", ".tsx", ".vue", ".py", ".java", ".cs", ".go", ".rs", ".php", ".rb"]

/-- The language of a file. -/
def Language.ofPath (p : Text) : Text := (languageOfSuffix.lookup (Path.lowerSuffix p)).getD "text"

/-- Whether a file counts as source code. -/
def isCode (p : Text) : Bool := codeSuffixes.contains (Path.lowerSuffix p)

/-! ## Comments -/

/-- How a language marks the lines that are comments. -/
inductive CommentStyle where
  /-- Two slashes, or a block whose inner lines begin with an asterisk. -/
  | slashes
  /-- A number sign. -/
  | hashes
  /-- Any of the usual marks, for languages that are not known. -/
  | unknown
deriving Repr, DecidableEq

namespace CommentStyle

/-- Languages whose comments begin with slashes. -/
def slashLanguages : List Text :=
  ["javascript", "typescript", "java", "kotlin", "csharp", "go", "rust", "php", "swift", "c", "cpp"]

/-- Languages whose comments begin with a number sign. -/
def hashLanguages : List Text := ["python", "ruby", "shell", "yaml", "toml"]

/-- The comment style of a language. -/
def ofLanguage (language : Text) : CommentStyle :=
  if slashLanguages.contains language then slashes
  else if hashLanguages.contains language then hashes
  else unknown

/-- What a comment line begins with. -/
def marks : CommentStyle → List Text
  | slashes => ["//", "/*", "*"]
  | hashes => ["#"]
  | unknown => ["//", "#", "/*"]

end CommentStyle

/-- Whether a line is a comment, whatever its indentation. -/
def isComment (style : CommentStyle) (line : Text) : Bool :=
  let start := Text.trim line
  style.marks.any (·.isPrefixOf start)

/-- The number of comment lines of a text. -/
def commentCount (style : CommentStyle) (t : Text) : Nat := (Text.lines t).countP (isComment style)

end CodeSurvey
