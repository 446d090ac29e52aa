import CodeSurvey.Limit
import CodeSurvey.Path.Basic
import CodeSurvey.Toml.Basic
import CodeSurvey.Tree.Walk
import CodeSurvey.Yaml.Basic

/-!
# What a run takes from outside

Some of what a run comes to is decided neither by the program nor by its input: which folders are
homes, what the library for YAML reads in a text, and how deep a recursion goes before the stack of
the interpreter comes to an end. Nothing is assumed of any of these.

## Main definitions

* `Host`: what a run takes from outside.
* `Path.expanded? p`: the path `p` with a home folder in the place of a tilde in front.
-/

namespace CodeSurvey

/-- What a run takes from outside. All that goes back to it infers it, so that what is said of the
program is said of every host. -/
class Host where
  /-- The path of the home folder that a tilde, or a tilde and the name of a user, stands for. -/
  home? : Text → Option Text
  /-- What the library for YAML reads in a text. Texts that it calls no YAML are malformed; all
  other faults are failures of another kind. -/
  readYaml : Text → Except Yaml.Fault Yaml
  /-- The depth to which the values in a JSON text may nest. What else is read at the deepest place
  takes its share of the stack, so that the room is not the same for all texts. -/
  jsonRoom : Text → Nat
  /-- The depth to which the values in a TOML text may nest. -/
  tomlRoom : Text → Nat
  /-- The depth to which a value may nest that is written out. -/
  writingRoom : Toml → Nat
  /-- The number of folders, one inside the other, that the walk may be in which makes a tree. -/
  treeRoom : TreeNode → Nat
  /-- The number of folders, one inside the other, that a tree may hold which is given out. -/
  documentRoom : TreeNode → Nat

/-- The path with a home folder in the place of its first component if that begins with a tilde.
There is none if nobody has that home. -/
def Path.expanded? [Host] (p : Text) : Option Text :=
  match Path.parts p with
  | first :: rest =>
    if (Path.anchor p).isEmpty && first.head? == some '~' then
      (Host.home? first).map fun home => Path.written (Path.anchor home) (Path.parts home ++ rest)
    else some p
  | [] => some p

end CodeSurvey
