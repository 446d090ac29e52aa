import CodeSurvey.Host
import CodeSurvey.Yaml.Value

/-!
# A usual host

The stack of the interpreter has a thousand frames unless it is asked for more. A pair of brackets
in a JSON text takes one of them, one in a TOML text two or three, a collection in a YAML text two,
and a folder two on the walk and four in the document. A few are in use before anything nests.

## Main definitions

* `Host.standard`: a host with such a stack, without homes.
-/

namespace CodeSurvey

/-- A host with a stack of the usual size, on which nobody has a home folder. -/
@[reducible] def Host.standard : Host where
  home? _ := none
  readYaml := Yaml.parse 480
  jsonRoom _ := 970
  tomlRoom _ := 320
  writingRoom _ := 970
  treeRoom _ := 480
  documentRoom _ := 240

end CodeSurvey
