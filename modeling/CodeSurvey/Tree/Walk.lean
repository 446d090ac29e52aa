import CodeSurvey.FileSystem.Resolve
import CodeSurvey.Tree.Ignore
import CodeSurvey.Tree.Importance
import CodeSurvey.Settings.Basic

/-!
# Walking a tree

A walk goes into the folders below a root, down to a limit, and leaves out what the rules ignore.
Folders are entered only where they stand, never through a link; a link counts as a file if it
leads to one. The tree that results does not depend on the order in which a folder lists its
entries.

## Main definitions

* `TreeNode`: a file or a folder of the walked tree.
* `walkTree`, `Snapshot.take`: the tree below a root, and with it the sorted paths of its files.
-/

namespace CodeSurvey

/-- A file or a folder of the walked tree, with its name, its path below the root and its
importance. -/
inductive TreeNode where
  | file (name path : Text) (importance : Importance) (size : Nat)
  | folder (name path : Text) (importance : Importance) (children : List TreeNode)

namespace TreeNode

/-- The name of a node. -/
def name : TreeNode → Text
  | file name .. => name
  | folder name .. => name

/-- The path of a node; that of the root is a single point. -/
def path : TreeNode → Text
  | file _ path .. => path
  | folder _ path .. => path

/-- The importance of a node. -/
def importance : TreeNode → Importance
  | file _ _ importance _ => importance
  | folder _ _ importance _ => importance

/-- Whether a node is a folder. -/
def isFolder : TreeNode → Bool
  | file .. => false
  | folder .. => true

/-- Folders before files, then the important before the others, then by name. -/
def le (a b : TreeNode) : Bool :=
  if a.isFolder != b.isFolder then a.isFolder
  else if a.importance ≠ b.importance then decide (b.importance.rank < a.importance.rank)
  else Text.le a.name b.name

mutual

/-- The paths of the files at or below a node, in the order of the tree. -/
def files : TreeNode → List Text
  | file _ path .. => [path]
  | folder _ _ _ children => filesOf children

/-- The paths of the files at or below some nodes. -/
def filesOf : List TreeNode → List Text
  | [] => []
  | node :: rest => files node ++ filesOf rest

end

mutual

/-- The number of folders, one inside the other, down to the deepest one at or below a node. -/
def depth : TreeNode → Nat
  | file .. => 0
  | folder _ _ _ children => depthOf children + 1

/-- The number of folders, one inside the other, down to the deepest one among some nodes. -/
def depthOf : List TreeNode → Nat
  | [] => 0
  | node :: rest => max (depth node) (depthOf rest)

end

end TreeNode

/-! ## The walk -/

/-- What a walk goes by: the rules, how entries are judged, and what a path below the root leads to
when links are followed. -/
structure Walk where
  rules : List IgnoreRule
  scorer : Scorer
  look : Text → Except OsError Entry

namespace Walk

/-- The node of a folder with the given children, in their order. -/
def folderNode (w : Walk) (name path : Text) (children : List TreeNode) : TreeNode :=
  let children := children.mergeSort TreeNode.le
  .folder name (if path.isEmpty then ['.'] else path)
    (w.scorer.folder name (children.map TreeNode.importance)) children

/-- The node of a file. -/
def fileNode (w : Walk) (name path : Text) (size : Nat) : TreeNode :=
  .file name path (w.scorer.file name path) size

mutual

/-- The node of an entry, below which the given number of levels may still be entered. A link that
leads to no file has none. -/
def node? (w : Walk) (levels : Nat) (name path : Text) : Entry → Option TreeNode
  | .file content => some (w.fileNode name path content.size)
  | .link _ =>
    match w.look path with
    | .ok (.file content) => some (w.fileNode name path content.size)
    | _ => none
  | .folder entries =>
    match levels with
    | 0 => some (w.folderNode name path [])
    | levels + 1 => some (w.folderNode name path (nodes w levels path entries))

/-- The nodes of the entries of a folder, as the folder lists them. -/
def nodes (w : Walk) (levels : Nat) (folder : Text) : List (Text × Entry) → List TreeNode
  | [] => []
  | (name, e) :: rest =>
    let path := Path.child folder name
    if ignored w.rules path then nodes w levels folder rest
    else (node? w levels name path e).toList ++ nodes w levels folder rest

end

mutual

/-- The links at or below an entry that cannot be followed, though something is there, with the
reason. -/
def blocked (w : Walk) (levels : Nat) (path : Text) : Entry → List (Text × OsError)
  | .file _ => []
  | .link _ =>
    match w.look path with
    | .error .noEntry => []
    | .error e => [(path, e)]
    | .ok _ => []
  | .folder entries =>
    match levels with
    | 0 => []
    | levels + 1 =>
      ((blockedIn w levels path entries).mergeSort fun a b => Text.le a.1 b.1).flatMap (·.2)

/-- The blocked links of the entries of a folder, by the entry's name. -/
def blockedIn (w : Walk) (levels : Nat) (folder : Text) :
    List (Text × Entry) → List (Text × List (Text × OsError))
  | [] => []
  | (name, e) :: rest =>
    let path := Path.child folder name
    if ignored w.rules path then blockedIn w levels folder rest
    else (name, blocked w levels path e) :: blockedIn w levels folder rest

end

/-- The walk of a root under some settings. -/
def ofSettings (fs : FileSystem) (root : Location) (s : Settings) (scorer : Scorer) : Walk where
  rules := rulesOf s.ignorePatterns
  scorer := scorer
  look path := (fs.stat root path).map (·.2)

/-- The entries of the root; one that is no folder has none. -/
def rootEntries (fs : FileSystem) (root : Location) : List (Text × Entry) :=
  match fs.entryAt? root with
  | some (.folder entries) => entries
  | _ => []

/-- The name of the root: that of its last component, or a slash for the top. -/
def rootName (root : Location) : Text := root.getLastD ['/']

end Walk

open Walk in
/-- The tree below a root. -/
def walkTree (fs : FileSystem) (root : Location) (s : Settings) (scorer : Scorer) : TreeNode :=
  let w := ofSettings fs root s scorer
  let children := match s.maxDepth.toNat with
    | 0 => []
    | levels + 1 => nodes w levels [] (rootEntries fs root)
  w.folderNode (rootName root) [] children

/-! ## Snapshots -/

/-- The tree below a root and the paths of its files in the order of code points. -/
structure Snapshot where
  root : Location
  tree : TreeNode
  files : List Text

/-- The snapshot of a root under some settings. -/
def Snapshot.take (fs : FileSystem) (root : Location) (s : Settings) : Snapshot :=
  let tree := walkTree fs root s .byPath
  ⟨root, tree, Text.sort tree.files⟩

end CodeSurvey
