import CodeSurvey.Proofs.Tree.Agreement
import CodeSurvey.Proofs.Tree.Listing
import CodeSurvey.Survey.Document

/-!
# The shape of a tree

Every node that a walk makes stands at the location that its path spells, is judged by its name and
by the nodes in it, and holds these in a strict order. One induction over the entries says so of the
tree as a whole; what is true of all nodes, of their paths and of the list of files follows.

## Main definitions

* `TreeNode.all node`: the nodes at or below a node.
* `TreeNode.Placed scorer d node`: the node is such as a walk makes of an entry at `d`.
* `TreeNode.Arranged node`: what holds of every node of a snapshot.
-/

namespace CodeSurvey

/-! ## Paths as they are shown -/

namespace Path

variable {d d' : Location}

theorem written_nil_of_ne_nil (h : d ≠ []) : written [] d = ofNames d := by
  simp [written, ofNames, h]

/-- The point stands for the root alone. -/
theorem written_nil_eq_point_iff (h : ∀ n ∈ d, ProperName n) : written [] d = ['.'] ↔ d = [] := by
  constructor
  · intro hpoint
    by_contra hne
    have hsplit := splitOn_ofNames h hne
    rw [← written_nil_of_ne_nil hne, hpoint] at hsplit
    have hmem : ['.'] ∈ d := by
      rw [← hsplit]
      exact List.mem_singleton_self _
    exact (h _ hmem).ne_point rfl
  · rintro rfl
    rfl

theorem written_nil_inj (h : ∀ n ∈ d, ProperName n) (h' : ∀ n ∈ d', ProperName n)
    (heq : written [] d = written [] d') : d = d' := by
  by_cases hne : d = []
  · subst hne
    exact ((written_nil_eq_point_iff h').1 heq.symm).symm
  · have hne' : d' ≠ [] := by
      rintro rfl
      exact hne ((written_nil_eq_point_iff h).1 heq)
    rw [written_nil_of_ne_nil hne, written_nil_of_ne_nil hne'] at heq
    exact (ofNames_inj h h').1 heq

end Path

/-! ## Nodes -/

namespace TreeNode

mutual

/-- The nodes at or below a node, each before those below it. -/
def all : TreeNode → List TreeNode
  | file name path importance size => [file name path importance size]
  | folder name path importance children =>
    folder name path importance children :: allOf children

/-- The nodes at or below some nodes. -/
def allOf : List TreeNode → List TreeNode
  | [] => []
  | node :: rest => all node ++ allOf rest

end

theorem allOf_eq_flatMap (nodes : List TreeNode) : allOf nodes = nodes.flatMap all := by
  induction nodes with
  | nil => rfl
  | cons node nodes ih => rw [allOf, ih, List.flatMap_cons]

theorem all_eq_cons (node : TreeNode) : node.all = node :: node.children.flatMap all := by
  cases node with
  | file => rfl
  | folder => rw [all, allOf_eq_flatMap, children]

mutual

/-- The files are the nodes that are no folders. -/
theorem files_eq_map_filter :
    ∀ node : TreeNode, node.files = (node.all.filter (!·.isFolder)).map path
  | file .. => rfl
  | folder _ _ _ nodes => by
    rw [files, all, List.filter_cons_of_neg (by simp [isFolder]), filesOf_eq_map_filter nodes]

theorem filesOf_eq_map_filter :
    ∀ nodes : List TreeNode, filesOf nodes = ((allOf nodes).filter (!·.isFolder)).map path
  | [] => rfl
  | node :: nodes => by
    rw [filesOf, allOf, List.filter_append, List.map_append, files_eq_map_filter node,
      filesOf_eq_map_filter nodes]

end

/-- What the judgement says of a node: of a file by its name and path, of a folder by its name and
the importance of the nodes in it. -/
def judged (scorer : Scorer) : TreeNode → Importance
  | file name path .. => scorer.file name path
  | folder name _ _ children => scorer.folder name (children.map importance)

/-- Whether a node is such as a walk makes of an entry at a location below the root. -/
inductive Placed (scorer : Scorer) : Location → TreeNode → Prop
  | mk {d : Location} {node : TreeNode} (proper : ∀ n ∈ d, ProperName n)
      (path : node.path = Path.written [] d) (judged : node.importance = node.judged scorer)
      (ordered : (node.children.map key).Pairwise (· < ·))
      (distinct : (node.children.map name).Nodup)
      (below : ∀ c ∈ node.children, Placed scorer (d ++ [c.name]) c) : Placed scorer d node

namespace Placed

variable {scorer : Scorer} {d : Location} {node x : TreeNode}

theorem proper (h : node.Placed scorer d) : ∀ n ∈ d, ProperName n := by
  cases h
  assumption

theorem path_eq (h : node.Placed scorer d) : node.path = Path.written [] d := by
  cases h
  assumption

/-- Every node below is placed at some names below. -/
theorem exists_of_mem_all (h : node.Placed scorer d) (hx : x ∈ node.all) :
    ∃ l, x.Placed scorer (d ++ l) := by
  induction h with
  | @mk d node proper path judged ordered distinct below ih =>
      rw [all_eq_cons, List.mem_cons, List.mem_flatMap] at hx
      rcases hx with rfl | ⟨c, hc, hx⟩
      · exact ⟨[], by simpa using .mk proper path judged ordered distinct below⟩
      · obtain ⟨l, hl⟩ := ih c hc hx
        exact ⟨c.name :: l, by simpa using hl⟩

/-- No two nodes at or below a node have one path, as their locations can be read off the paths. -/
theorem nodup_paths (h : node.Placed scorer d) : (node.all.map TreeNode.path).Nodup := by
  induction h with
  | @mk d node proper path judged ordered distinct below ih =>
      rw [all_eq_cons, List.map_cons, List.map_flatMap, List.nodup_cons, List.nodup_flatMap]
      refine ⟨?_, ih, ?_⟩
      · intro hmem
        obtain ⟨c, hc, hmem⟩ := List.mem_flatMap.1 hmem
        obtain ⟨x, hx, heq⟩ := List.mem_map.1 hmem
        obtain ⟨l, hl⟩ := (below c hc).exists_of_mem_all hx
        rw [hl.path_eq, path] at heq
        simpa using Path.written_nil_inj hl.proper proper heq
      · refine (List.pairwise_map.1 distinct).imp_of_mem ?_
        intro a b ha hb hne p hpa hpb
        obtain ⟨x, hx, rfl⟩ := List.mem_map.1 hpa
        obtain ⟨y, hy, heq⟩ := List.mem_map.1 hpb
        obtain ⟨l, hl⟩ := (below a ha).exists_of_mem_all hx
        obtain ⟨l', hl'⟩ := (below b hb).exists_of_mem_all hy
        rw [hl.path_eq, hl'.path_eq] at heq
        have hnames := Path.written_nil_inj hl'.proper hl.proper heq
        simp only [List.append_assoc, List.append_cancel_left_eq, List.cons_append,
          List.nil_append, List.cons.injEq] at hnames
        exact hne hnames.1.symm

/-- The path of a node in a folder is that of the folder and the name. -/
theorem path_of_mem_children (h : node.Placed scorer d) {c : TreeNode} (hc : c ∈ node.children) :
    c.path = if node.path = ['.'] then c.name else node.path ++ '/' :: c.name := by
  cases h with
  | mk proper path judged ordered distinct below =>
      rw [(below c hc).path_eq, path, Path.written_nil_of_ne_nil (by simp),
        ← Path.child_ofNames proper]
      by_cases hd : d = []
      · subst hd
        rfl
      · have hpath : Path.ofNames d ≠ [] := mt (Path.ofNames_eq_nil_iff proper).1 hd
        rw [if_neg (mt (Path.written_nil_eq_point_iff proper).1 hd),
          Path.written_nil_of_ne_nil hd, Path.child, if_neg (by simpa using hpath)]

end Placed
end TreeNode

/-! ## The walk -/

namespace Walk

variable {w : Walk} {levels : Nat} {name : Text} {d : Location} {e : Entry} {node : TreeNode}

theorem placed_fileNode (hd : ∀ n ∈ d, ProperName n) (hne : d ≠ []) (size : Nat) :
    (w.fileNode name (Path.ofNames d) size).Placed w.scorer d :=
  .mk hd (Path.written_nil_of_ne_nil hne).symm rfl .nil .nil (by simp [fileNode, TreeNode.children])

/-- A folder is placed if the nodes in it have different names and are placed below. -/
theorem placed_folderNode {children : List TreeNode} (hd : ∀ n ∈ d, ProperName n)
    (hnames : (children.map TreeNode.name).Nodup)
    (hbelow : ∀ c ∈ children, c.Placed w.scorer (d ++ [c.name])) :
    (w.folderNode name (Path.ofNames d) children).Placed w.scorer d := by
  have hpath : (if (Path.ofNames d).isEmpty then ['.'] else Path.ofNames d) =
      Path.written [] d := by
    by_cases hne : d = []
    · subst hne
      rfl
    · rw [Path.written_nil_of_ne_nil hne, if_neg]
      simpa using mt (Path.ofNames_eq_nil_iff hd).1 hne
  refine .mk hd hpath rfl ?_ ?_ ?_
  · exact TreeNode.ranksBy_key.pairwise_mergeSort_lt (TreeNode.nodup_keys hnames)
  · exact ((List.mergeSort_perm children TreeNode.le).map TreeNode.name).nodup_iff.2 hnames
  · exact fun c hc => hbelow c (List.mem_mergeSort.1 hc)

/-- The walk places what it makes of an entry, which is a folder at the root. -/
theorem placed_of_node? (he : e.Sound) (hd : ∀ n ∈ d, ProperName n)
    (hroot : d = [] → ∃ entries, e = .folder entries)
    (h : node? w levels name (Path.ofNames d) e = some node) : node.Placed w.scorer d := by
  induction he generalizing levels name d node with
  | file content =>
      rw [node?] at h
      obtain rfl := Option.some.inj h
      exact placed_fileNode hd (fun hnil => by simpa using hroot hnil) _
  | link target =>
      rw [node?] at h
      split at h
      · obtain rfl := Option.some.inj h
        exact placed_fileNode hd (fun hnil => by simpa using hroot hnil) _
      · simp at h
  | @folder entries distinct proper below ih =>
      cases levels with
      | zero =>
          rw [node?] at h
          obtain rfl := Option.some.inj h
          exact placed_folderNode hd .nil (by simp)
      | succ levels =>
          rw [node?] at h
          obtain rfl := Option.some.inj h
          refine placed_folderNode hd ?_ ?_
          · exact distinct.sublist (names_nodes_sublist w levels _ entries)
          · intro c hc
            obtain ⟨n, e, hget, -, hnode⟩ := (mem_nodes distinct hd).1 hc
            have hmem := Table.mem_of_get? hget
            rw [name_of_node? hnode]
            exact ih _ hmem (properNames_concat hd (proper _ hmem)) (by simp) hnode

theorem placed_walkTree {fs : FileSystem} (hfs : fs.Sound) (root : Location) (s : Settings)
    (scorer : Scorer) : (walkTree fs root s scorer).Placed scorer [] :=
  placed_of_node? (d := []) (sound_rootEntries hfs root) (by simp) (fun _ => ⟨_, rfl⟩)
    (node?_root fs root s scorer)

end Walk

/-! ## Importance and documents -/

/-- A folder that holds something of high importance is not of low importance. -/
theorem folderImportance_ne_low {name : Text} {children : List Importance}
    (h : .high ∈ children) : folderImportance name children ≠ .low := by
  rw [folderImportance]
  split
  · simp
  · simp [h]

theorem Document.trees_eq_map (nodes : List TreeNode) : trees nodes = nodes.map tree := by
  induction nodes with
  | nil => rfl
  | cons node nodes ih => rw [trees, ih, List.map_cons]

/-! ## Snapshots -/

/-- What holds of every node of a snapshot: how the nodes in it are ordered, which paths these have,
how it is judged, and what its document says of its size and of the nodes in it. -/
structure TreeNode.Arranged (x : TreeNode) : Prop where
  ordered : (x.children.map key).Pairwise (· < ·)
  joined : ∀ c ∈ x.children,
    c.path = if x.path = ['.'] then c.name else x.path ++ '/' :: c.name
  judged : x.importance = x.judged .byPath
  raised : ∀ c ∈ x.children, c.importance = .high → x.importance ≠ .low
  file : x.isFolder = false → ∃ size : Nat,
    (Document.tree x).member? "size" = some (Document.count size) ∧
      (Document.tree x).member? "children" = some .null
  folder : x.isFolder = true →
    (Document.tree x).member? "size" = some .null ∧
      (Document.tree x).member? "children" = some (.array (x.children.map Document.tree))

theorem TreeNode.Placed.arranged {d : Location} {x : TreeNode} (h : x.Placed .byPath d) :
    x.Arranged := by
  have hjoined := fun c hc => h.path_of_mem_children (c := c) hc
  cases h with
  | mk proper path judged ordered distinct below =>
      refine ⟨ordered, hjoined, judged, ?_, ?_, ?_⟩
      · intro c hc hhigh
        rw [judged]
        cases x with
        | file => simp [children] at hc
        | folder name path importance nodes =>
            exact folderImportance_ne_low (hhigh ▸ List.mem_map_of_mem hc)
      · intro hfile
        cases x with
        | file name path importance size => exact ⟨size, rfl, rfl⟩
        | folder => simp [isFolder] at hfile
      · intro hfolder
        cases x with
        | file => simp [isFolder] at hfolder
        | folder name path importance nodes =>
            refine ⟨rfl, ?_⟩
            rw [children, ← Document.trees_eq_map]
            rfl

namespace Snapshot

/-- Every node of a snapshot is arranged and has a path of its own. The files are the paths of the
nodes that are no folders, in strict order. None of this depends on the order in which folders give
their entries. -/
theorem take_arranged (fs : FileSystem) (root : Location) (s : Settings) (hfs : fs.Sound) :
    let snap := take fs root s
    (∀ x ∈ snap.tree.all, x.Arranged) ∧
      snap.tree.path = ['.'] ∧ (snap.tree.all.map TreeNode.path).Nodup ∧
      snap.files.Pairwise (· < ·) ∧
      (∀ p, p ∈ snap.files ↔ ∃ x ∈ snap.tree.all, x.isFolder = false ∧ x.path = p) ∧
      ∀ fs', fs.Reordered fs' → take fs' root s = snap := by
  intro snap
  have hplaced : snap.tree.Placed .byPath [] := Walk.placed_walkTree hfs root s .byPath
  refine ⟨fun x hx => ?_, hplaced.path_eq, hplaced.nodup_paths, ?_, fun p => ?_, ?_⟩
  · obtain ⟨l, hl⟩ := hplaced.exists_of_mem_all hx
    exact hl.arranged
  · refine Text.pairwise_sort_lt ?_
    rw [TreeNode.files_eq_map_filter]
    exact hplaced.nodup_paths.sublist (List.filter_sublist.map _)
  · have hmem : p ∈ snap.files ↔ p ∈ snap.tree.files := List.mem_mergeSort
    rw [hmem, TreeNode.files_eq_map_filter]
    simp [and_assoc]
  · exact fun fs' h => take_eq_of_reordered hfs h root s

/-- The folder with links, listed from its end. -/
def relinked : FileSystem where
  top := [("src", .folder [("dist", .folder [("old.py", .file ⟨#[121]⟩)]),
    ("lost.py", .link "gone.py"), ("main.py", .link "app.py"), ("app.py", .file ⟨#[120]⟩)])]

/-- Listing a folder from its end leaves its tree as it is. -/
theorem take_of_relinked : linked.Sound ∧ linked.Reordered relinked ∧
    (∀ x ∈ (take linked [] Settings.standard).tree.all, x.Arranged) ∧
    take relinked [] Settings.standard = take linked [] Settings.standard := by
  have hsound : linked.Sound := by
    simp [FileSystem.Sound, linked, Table.names, properName_iff]
  have hreordered : linked.Reordered relinked := by
    refine .folder .rfl fun n e e' he he' => ?_
    obtain ⟨rfl, rfl⟩ := Prod.mk.inj (List.mem_singleton.1 he)
    obtain ⟨-, rfl⟩ := Prod.mk.inj (List.mem_singleton.1 he')
    have hsrc := (Entry.sound_folder.1 hsound).2 _ (List.mem_singleton_self _)
    exact hsrc.2.reordered_of_perm (List.reverse_perm _).symm
  have h := take_arranged linked [] Settings.standard hsound
  exact ⟨hsound, hreordered, h.1, h.2.2.2.2.2 _ hreordered⟩

end Snapshot
end CodeSurvey
