import CodeSurvey.Proofs.FileSystem.Sound
import CodeSurvey.Proofs.Ranking
import CodeSurvey.Tree.Walk

/-!
# The nodes of a walk

A walk keeps an entry if the rules ignore neither its path nor that of a folder above it. The nodes
of a folder come from the entries that are kept there, and the walk of a root is that of the folder
which holds the entries of the root.

## Main definitions

* `Kept rules d l`: the rules ignore nothing on the way that the names `l` lead below the names `d`.
* `TreeNode.children node`: the nodes in a folder.
* `TreeNode.key`: what the nodes in a folder are ranked by.
-/

namespace CodeSurvey

/-- Whether the rules ignore nothing on the way from one location to another below it. -/
def Kept (rules : List IgnoreRule) (d l : Location) : Prop :=
  ∀ k, k <+: l → k ≠ [] → ignored rules (Path.ofNames (d ++ k)) = false

section Kept

variable {rules : List IgnoreRule} {d l : Location}

@[simp] theorem kept_nil : Kept rules d [] := by
  intro k hk hne
  exact absurd (List.prefix_nil.1 hk) hne

theorem kept_cons {n : Text} :
    Kept rules d (n :: l) ↔
      ignored rules (Path.ofNames (d ++ [n])) = false ∧ Kept rules (d ++ [n]) l := by
  constructor
  · intro h
    refine ⟨h [n] (by simp) (by simp), ?_⟩
    intro k hk _
    simpa using h (n :: k) (List.cons_prefix_cons.2 ⟨rfl, hk⟩) (by simp)
  · rintro ⟨hn, hl⟩ k hk hne
    obtain ⟨m, k, rfl⟩ := List.exists_cons_of_ne_nil hne
    obtain ⟨rfl, hk'⟩ := List.cons_prefix_cons.1 hk
    by_cases hnil : k = []
    · subst hnil
      exact hn
    · simpa using hl k hk' hnil

theorem kept_concat {n : Text} :
    Kept rules d (l ++ [n]) ↔
      Kept rules d l ∧ ignored rules (Path.ofNames (d ++ (l ++ [n]))) = false := by
  constructor
  · intro h
    exact ⟨fun k hk hne => h k (hk.trans (List.prefix_append _ _)) hne,
      h _ List.prefix_rfl (by simp)⟩
  · rintro ⟨hl, hn⟩ k hk hne
    rcases List.prefix_concat_iff.1 hk with rfl | hk
    · exact hn
    · exact hl k hk hne

end Kept

theorem Importance.rank_inj {a b : Importance} (h : a.rank = b.rank) : a = b := by
  cases a <;> cases b <;> simp_all [rank]

namespace TreeNode

/-- What the nodes in a folder are ranked by: folders first, then falling importance, then the
name. -/
def key (node : TreeNode) : Lex (Nat × Lex (Int × Text)) :=
  toLex (if node.isFolder then 0 else 1, toLex (-(node.importance.rank : Int), node.name))

theorem ranksBy_key : RanksBy le key := by
  intro a b
  rw [le, key, key, Prod.Lex.toLex_le_toLex, toLex_neg_le_toLex_neg_iff, ← Text.le_eq_true_iff]
  cases ha : a.isFolder <;> cases hb : b.isFolder
  case false.true | true.false => simp
  case false.false | true.true =>
    by_cases himportance : a.importance = b.importance
    · simp [himportance]
    · have hrank : a.importance.rank ≠ b.importance.rank := fun heq =>
        himportance (Importance.rank_inj heq)
      simp [himportance, hrank]

theorem nodup_keys {nodes : List TreeNode} (h : (nodes.map name).Nodup) :
    (nodes.map key).Nodup :=
  nodup_keys_of_part (fun k => (ofLex (ofLex k).2).2) (fun _ => rfl) h

/-- The nodes in a folder; a file has none. -/
def children : TreeNode → List TreeNode
  | file .. => []
  | folder _ _ _ children => children

theorem filesOf_eq_flatMap (nodes : List TreeNode) : filesOf nodes = nodes.flatMap files := by
  induction nodes with
  | nil => rfl
  | cons node nodes ih => rw [filesOf, ih, List.flatMap_cons]

end TreeNode

namespace Walk

open TreeNode (files filesOf filesOf_eq_flatMap)

variable {w : Walk} {levels : Nat} {name folder : Text} {entries : List (Text × Entry)}

theorem nodes_eq_flatMap (w : Walk) (levels : Nat) (folder : Text) (entries : List (Text × Entry)) :
    nodes w levels folder entries = entries.flatMap fun p =>
      if ignored w.rules (Path.child folder p.1) then []
      else (node? w levels p.1 (Path.child folder p.1) p.2).toList := by
  induction entries with
  | nil => rw [nodes, List.flatMap_nil]
  | cons p entries ih =>
      rw [nodes, ih, List.flatMap_cons]
      split <;> simp

theorem mem_nodes {d : Location} (distinct : (Table.names entries).Nodup)
    (hd : ∀ n ∈ d, ProperName n) {node : TreeNode} :
    node ∈ nodes w levels (Path.ofNames d) entries ↔
      ∃ n e, Table.get? entries n = some e ∧ ignored w.rules (Path.ofNames (d ++ [n])) = false ∧
        node? w levels n (Path.ofNames (d ++ [n])) e = some node := by
  have hitem : ∀ c : Text × Entry,
      (node ∈ if ignored w.rules (Path.child (Path.ofNames d) c.1) then []
        else (node? w levels c.1 (Path.child (Path.ofNames d) c.1) c.2).toList) ↔
      ignored w.rules (Path.ofNames (d ++ [c.1])) = false ∧
        node? w levels c.1 (Path.ofNames (d ++ [c.1])) c.2 = some node := by
    intro c
    rw [Path.child_ofNames hd]
    split <;> simp_all
  simp only [nodes_eq_flatMap, List.mem_flatMap, hitem, Prod.exists,
    Table.get?_eq_some_iff_mem distinct]

/-- A node of an entry keeps the name. -/
theorem name_of_node? {path : Text} {e : Entry} {node : TreeNode}
    (h : node? w levels name path e = some node) : node.name = name := by
  cases e with
  | file content =>
      rw [node?] at h
      obtain rfl := Option.some.inj h
      rfl
  | link target =>
      rw [node?] at h
      split at h
      · obtain rfl := Option.some.inj h
        rfl
      · simp at h
  | folder entries =>
      cases levels with
      | zero | succ =>
          rw [node?] at h
          obtain rfl := Option.some.inj h
          rfl

/-- The nodes of a folder come under the names of its entries, in their order. -/
theorem names_nodes_sublist (w : Walk) (levels : Nat) (folder : Text)
    (entries : List (Text × Entry)) :
    ((nodes w levels folder entries).map TreeNode.name).Sublist (Table.names entries) := by
  induction entries with
  | nil => simp [nodes]
  | cons c entries ih =>
      rw [nodes, Table.names, List.map_cons]
      split
      · exact ih.cons _
      · cases hnode : node? w levels c.1 (Path.child folder c.1) c.2 with
        | none => exact ih.cons _
        | some node =>
            rw [Option.toList_some, List.singleton_append, List.map_cons, name_of_node? hnode]
            exact ih.cons_cons _

/-- A folder lists the files of its children, in some order. -/
theorem files_folderNode (w : Walk) (name path : Text) (children : List TreeNode) :
    (files (w.folderNode name path children)).Perm (children.flatMap files) := by
  rw [folderNode, files, filesOf_eq_flatMap]
  exact (List.mergeSort_perm children _).flatMap_right files

end Walk

/-! ## The root -/

namespace Walk

variable {fs : FileSystem} {root : Location}

/-- Below the root the entries of the root lead where the file system does. -/
theorem at?_rootEntries (fs : FileSystem) (root : Location) {l : Location} (hl : l ≠ []) :
    (Entry.folder (rootEntries fs root)).at? l = fs.entryAt? (root ++ l) := by
  obtain ⟨n, l, rfl⟩ := List.exists_cons_of_ne_nil hl
  have hsplit : fs.entryAt? (root ++ n :: l) = (fs.entryAt? root).bind (·.at? (n :: l)) :=
    Entry.at?_append _ root (n :: l)
  rw [hsplit, rootEntries]
  cases fs.entryAt? root with
  | none => rfl
  | some e => cases e <;> rfl

theorem sound_rootEntries (h : fs.Sound) (root : Location) :
    (Entry.folder (rootEntries fs root)).Sound := by
  have hempty : (Entry.folder []).Sound := .folder (by simp [Table.names]) (by simp) (by simp)
  rw [rootEntries]
  split
  · rename_i entries hroot
    exact (h.entryAt? hroot).1
  · exact hempty

theorem node?_root (fs : FileSystem) (root : Location) (s : Settings) (scorer : Scorer) :
    node? (ofSettings fs root s scorer) s.maxDepth.toNat (rootName root) []
      (.folder (rootEntries fs root)) = some (walkTree fs root s scorer) := by
  rw [walkTree]
  cases s.maxDepth.toNat with
  | zero => rw [node?]
  | succ levels => rw [node?]

/-- What stands in the root does not depend on the name of the root. -/
theorem children_node?_root (fs : FileSystem) (root : Location) (s : Settings) (scorer : Scorer)
    (name : Text) :
    (node? (ofSettings fs root s scorer) s.maxDepth.toNat name []
      (.folder (rootEntries fs root))).map TreeNode.children =
        some (walkTree fs root s scorer).children := by
  rw [walkTree]
  cases s.maxDepth.toNat with
  | zero =>
      rw [node?]
      rfl
  | succ levels =>
      rw [node?]
      rfl

end Walk
end CodeSurvey
