import CodeSurvey.Proofs.FileSystem.Reordering
import CodeSurvey.Proofs.Tree.Nodes

/-!
# Agreement outside the ignored paths

Two entries agree if the same stands at or below both wherever nothing is ignored. The walk makes
the same node of both if links lead to the same, whatever else there is and in whatever order the
folders list it: the children of a folder have distinct names, so sorting leaves one order.

## Main definitions

* `Agree rules d e e'`: the same stands below both where nothing is ignored.
* `Walk.SameLooks w w' d e`: links below the entry lead two walks to the same.
-/

namespace CodeSurvey

/-! ## Agreement -/

/-- Whether the same stands at or below two entries wherever nothing is ignored. -/
def Agree (rules : List IgnoreRule) (d : Location) (e e' : Entry) : Prop :=
  ∀ l, Kept rules d l → (e.at? l).map Entry.face = (e'.at? l).map Entry.face

namespace Agree

variable {rules : List IgnoreRule} {d : Location} {e e' : Entry} {n : Text}
  {entries entries' : List (Text × Entry)}

theorem symm (h : Agree rules d e e') : Agree rules d e' e := fun l hl => (h l hl).symm

theorem face_eq (h : Agree rules d e e') : e.face = e'.face := by
  simpa using h [] kept_nil

/-- Below two folders that agree, what is not ignored has its counterpart. -/
theorem exists_of_get? (h : Agree rules d (.folder entries) (.folder entries'))
    (hn : ignored rules (Path.ofNames (d ++ [n])) = false) (hget : Table.get? entries n = some e) :
    ∃ e', Table.get? entries' n = some e' ∧ Agree rules (d ++ [n]) e e' := by
  have hat : ∀ l, Kept rules (d ++ [n]) l → (e.at? l).map Entry.face =
      ((Table.get? entries' n).bind (·.at? l)).map Entry.face := by
    intro l hl
    have hl := h (n :: l) (kept_cons.2 ⟨hn, hl⟩)
    rwa [Entry.at?, Entry.at?, hget] at hl
  cases hget' : Table.get? entries' n with
  | none => simpa [hget'] using hat [] kept_nil
  | some e' => exact ⟨e', rfl, fun l hl => by simpa [hget'] using hat l hl⟩

end Agree

/-- Roots agree if the file systems hold the same below them wherever nothing is ignored. -/
theorem agree_rootEntries {rules : List IgnoreRule} {fs fs' : FileSystem} {root root' : Location}
    (h : ∀ l, Kept rules [] l →
      (fs.entryAt? (root ++ l)).map Entry.face = (fs'.entryAt? (root' ++ l)).map Entry.face) :
    Agree rules [] (.folder (Walk.rootEntries fs root)) (.folder (Walk.rootEntries fs' root')) := by
  intro l hl
  by_cases hne : l = []
  · subst hne
    simp [Entry.face]
  · rw [Walk.at?_rootEntries fs root hne, Walk.at?_rootEntries fs' root' hne]
    exact h l hl

namespace Walk

variable {w w' : Walk} {levels : Nat} {name : Text} {d : Location} {e e' : Entry}

/-- Whether the links at or below an entry that are not ignored lead two walks to the same. -/
def SameLooks (w w' : Walk) (d : Location) (e : Entry) : Prop :=
  ∀ l target, Kept w.rules d l → e.at? l = some (.link target) →
    (w.look (Path.ofNames (d ++ l))).map Entry.face =
      (w'.look (Path.ofNames (d ++ l))).map Entry.face

theorem SameLooks.of_get? {n : Text} {entries : List (Text × Entry)}
    (h : SameLooks w w' d (.folder entries))
    (hn : ignored w.rules (Path.ofNames (d ++ [n])) = false)
    (hget : Table.get? entries n = some e) : SameLooks w w' (d ++ [n]) e := by
  intro l target hl hat
  have hcons := h (n :: l) target (kept_cons.2 ⟨hn, hl⟩) (by rwa [Entry.at?, hget])
  simpa using hcons

/-- A link has one node in walks that it leads to the same. -/
theorem node?_link_eq {path target : Text} (hscorer : w'.scorer = w.scorer)
    (h : (w.look path).map Entry.face = (w'.look path).map Entry.face) :
    node? w levels name path (.link target) = node? w' levels name path (.link target) := by
  rw [node?, node?]
  cases hlook : w.look path with
  | error => cases hlook' : w'.look path with
    | error => rfl
    | ok => simp [hlook, hlook', Except.map] at h
  | ok leaf => cases hlook' : w'.look path with
    | error => simp [hlook, hlook', Except.map] at h
    | ok leaf' =>
        have hface : leaf.face = leaf'.face := by simpa [hlook, hlook', Except.map] using h
        cases leaf <;> cases leaf' <;> simp_all [Entry.face, fileNode]

/-- A folder has one node, in whatever order its children come. -/
theorem folderNode_eq_of_perm {path : Text} {l l' : List TreeNode} (hscorer : w'.scorer = w.scorer)
    (h : l.Perm l') (hnodup : (l.map TreeNode.name).Nodup) :
    w.folderNode name path l = w'.folderNode name path l' := by
  have hsort := TreeNode.ranksBy_key.mergeSort_eq_of_perm (TreeNode.nodup_keys hnodup) h
  rw [folderNode, folderNode, hsort, hscorer]

/-- The nodes of two folders are the same if those of agreeing entries are. -/
theorem nodes_perm_of_agree {entries entries' : List (Text × Entry)} (hrules : w'.rules = w.rules)
    (hd : ∀ n ∈ d, ProperName n) (distinct : (Table.names entries).Nodup)
    (distinct' : (Table.names entries').Nodup)
    (h : Agree w.rules d (.folder entries) (.folder entries'))
    (hchild : ∀ n e e', Table.get? entries n = some e → Table.get? entries' n = some e' →
      ignored w.rules (Path.ofNames (d ++ [n])) = false → Agree w.rules (d ++ [n]) e e' →
      node? w levels n (Path.ofNames (d ++ [n])) e =
        node? w' levels n (Path.ofNames (d ++ [n])) e') :
    (nodes w levels (Path.ofNames d) entries).Perm (nodes w' levels (Path.ofNames d) entries') := by
  have hnodup : ∀ (w : Walk) {entries : List (Text × Entry)}, (Table.names entries).Nodup →
      (nodes w levels (Path.ofNames d) entries).Nodup := fun w entries hdistinct =>
    (hdistinct.sublist (names_nodes_sublist w levels _ entries)).of_map _
  refine (List.perm_ext_iff_of_nodup (hnodup w distinct) (hnodup w' distinct')).2 fun node => ?_
  rw [mem_nodes distinct hd, mem_nodes distinct' hd, hrules]
  constructor
  · rintro ⟨n, e, hget, hn, hnode⟩
    obtain ⟨e', hget', hagree⟩ := h.exists_of_get? hn hget
    exact ⟨n, e', hget', hn, (hchild n e e' hget hget' hn hagree) ▸ hnode⟩
  · rintro ⟨n, e', hget', hn, hnode⟩
    obtain ⟨e, hget, hagree⟩ := h.symm.exists_of_get? hn hget'
    exact ⟨n, e, hget, hn, (hchild n e e' hget hget' hn hagree.symm).trans hnode⟩

/-- Walks with the same rules and the same judgement make the same node of entries that agree, if
links lead them to the same. -/
theorem node?_eq_of_agree (hrules : w'.rules = w.rules) (hscorer : w'.scorer = w.scorer)
    (he : e.Sound) (he' : e'.Sound) (hd : ∀ n ∈ d, ProperName n) (hlink : SameLooks w w' d e)
    (h : Agree w.rules d e e') :
    node? w levels name (Path.ofNames d) e = node? w' levels name (Path.ofNames d) e' := by
  have hface := h.face_eq
  induction he generalizing levels name d e' with
  | file content =>
      cases e' with
      | link | folder => simp [Entry.face] at hface
      | file content' =>
          obtain rfl := Entry.file.inj hface
          rw [node?, node?, fileNode, fileNode, hscorer]
  | link target =>
      cases e' with
      | file | folder => simp [Entry.face] at hface
      | link target' =>
          obtain rfl := Entry.link.inj hface
          exact node?_link_eq hscorer (by simpa using hlink [] target kept_nil)
  | @folder entries distinct proper below ih =>
      cases e' with
      | file | link => simp [Entry.face] at hface
      | folder entries' =>
          obtain ⟨distinct', hentries'⟩ := Entry.sound_folder.1 he'
          cases levels with
          | zero => rw [node?, node?, folderNode, folderNode, hscorer]
          | succ levels =>
              have hperm : (nodes w levels (Path.ofNames d) entries).Perm
                  (nodes w' levels (Path.ofNames d) entries') := by
                refine nodes_perm_of_agree hrules hd distinct distinct' h ?_
                intro n c c' hget hget' hn hagree
                have hc := Table.mem_of_get? hget
                have hc' := Table.mem_of_get? hget'
                exact ih _ hc (hentries' _ hc').2 (properNames_concat hd (proper _ hc))
                  (hlink.of_get? hn hget) hagree hagree.face_eq
              rw [node?, node?, folderNode_eq_of_perm hscorer hperm]
              exact distinct.sublist (names_nodes_sublist w levels _ entries)

/-- Walks of roots that hold the same wherever nothing is ignored make one node of them, if links
lead both walks to the same. -/
theorem node?_rootEntries_eq {fs fs' : FileSystem} {root root' : Location} {s : Settings}
    {scorer : Scorer} (hfs : fs.Sound) (hfs' : fs'.Sound)
    (hlook : SameLooks (ofSettings fs root s scorer) (ofSettings fs' root' s scorer) []
      (.folder (rootEntries fs root)))
    (h : ∀ l, Kept (rulesOf s.ignorePatterns) [] l →
      (fs.entryAt? (root ++ l)).map Entry.face = (fs'.entryAt? (root' ++ l)).map Entry.face)
    (name : Text) :
    node? (ofSettings fs root s scorer) s.maxDepth.toNat name []
        (.folder (rootEntries fs root)) =
      node? (ofSettings fs' root' s scorer) s.maxDepth.toNat name []
        (.folder (rootEntries fs' root')) :=
  node?_eq_of_agree (d := []) rfl rfl (sound_rootEntries hfs root) (sound_rootEntries hfs' root')
    (by simp) hlook (agree_rootEntries h)

end Walk

/-! ## The order of listing -/

section Reordered

variable {fs fs' : FileSystem}

open Walk in
theorem walkTree_eq_of_reordered (hfs : fs.Sound) (h : fs.Reordered fs') (root : Location)
    (s : Settings) (scorer : Scorer) : walkTree fs' root s scorer = walkTree fs root s scorer := by
  have hlook : SameLooks (ofSettings fs root s scorer) (ofSettings fs' root s scorer) []
      (.folder (rootEntries fs root)) := fun l _ _ _ => h.face_stat root (Path.ofNames ([] ++ l))
  have hnode := node?_rootEntries_eq hfs (h.sound hfs) hlook
    (fun l _ => h.face_entryAt? (root ++ l)) (rootName root)
  rw [node?_root, node?_root] at hnode
  exact (Option.some.inj hnode).symm

/-- A snapshot does not depend on the order in which folders give their entries. -/
theorem Snapshot.take_eq_of_reordered (hfs : fs.Sound) (h : fs.Reordered fs') (root : Location)
    (s : Settings) : take fs' root s = take fs root s := by
  rw [take, take, walkTree_eq_of_reordered hfs h]

end Reordered
end CodeSurvey
