import CodeSurvey.Proofs.Excerpt.Selection
import CodeSurvey.Proofs.Idiom.Uses
import CodeSurvey.Proofs.Tree.Agreement
import CodeSurvey.Proofs.Tree.Listing
import CodeSurvey.Quality.Figures
import CodeSurvey.Technology.Detect

/-!
# Ignored paths do not matter

Two repositories that hold the same entries wherever nothing is ignored have the same tree and the
same files, and the analysis of their sources gives the same results. What is ignored may differ in
any way.

## Main definitions

* `SameOutsideIgnored s fs root fs' root'`: the repositories differ in ignored paths alone.
* `NoLinks s fs root`: the repository has no link outside the ignored paths.
-/

namespace CodeSurvey

/-- Whether two repositories hold the same entries wherever nothing is ignored. -/
def SameOutsideIgnored (s : Settings) (fs : FileSystem) (root : Location) (fs' : FileSystem)
    (root' : Location) : Prop :=
  ∀ l, Kept (rulesOf s.ignorePatterns) [] l →
    (fs.entryAt? (root ++ l)).map Entry.face = (fs'.entryAt? (root' ++ l)).map Entry.face

/-- Whether a repository has no link where nothing is ignored. -/
def NoLinks (s : Settings) (fs : FileSystem) (root : Location) : Prop :=
  ∀ l target, Kept (rulesOf s.ignorePatterns) [] l → fs.entryAt? (root ++ l) ≠ some (.link target)

open Walk

variable {s : Settings} {fs fs' : FileSystem} {root root' : Location}

/-! ## The walk -/

theorem NoLinks.sameLooks (h : NoLinks s fs root) (scorer : Scorer) (w : Walk) :
    SameLooks (ofSettings fs root s scorer) w [] (.folder (rootEntries fs root)) := by
  intro l target hl hat
  by_cases hne : l = []
  · subst hne
    simp at hat
  · rw [at?_rootEntries fs root hne] at hat
    exact absurd hat (h l target hl)

/-- The walks of repositories that differ in ignored paths alone make one node of the roots. -/
theorem SameOutsideIgnored.node?_eq (h : SameOutsideIgnored s fs root fs' root') (hfs : fs.Sound)
    (hfs' : fs'.Sound) (hlink : NoLinks s fs root) (name : Text) :
    node? (ofSettings fs root s .byPath) s.maxDepth.toNat name []
        (.folder (rootEntries fs root)) =
      node? (ofSettings fs' root' s .byPath) s.maxDepth.toNat name []
        (.folder (rootEntries fs' root')) :=
  node?_rootEntries_eq hfs hfs' (hlink.sameLooks .byPath _) h name

theorem SameOutsideIgnored.tree_eq (h : SameOutsideIgnored s fs root fs' root') (hfs : fs.Sound)
    (hfs' : fs'.Sound) (hlink : NoLinks s fs root) (hname : rootName root = rootName root') :
    (Snapshot.take fs root s).tree = (Snapshot.take fs' root' s).tree := by
  have hnode := h.node?_eq hfs hfs' hlink (rootName root)
  rw [node?_root, hname, node?_root] at hnode
  exact Option.some.inj hnode

/-- The name of the root has no part in what stands in it. -/
theorem SameOutsideIgnored.children_eq (h : SameOutsideIgnored s fs root fs' root') (hfs : fs.Sound)
    (hfs' : fs'.Sound) (hlink : NoLinks s fs root) :
    (Snapshot.take fs root s).tree.children = (Snapshot.take fs' root' s).tree.children := by
  have hnode := congrArg (Option.map TreeNode.children) (h.node?_eq hfs hfs' hlink (rootName root))
  rw [children_node?_root, children_node?_root] at hnode
  exact Option.some.inj hnode

theorem SameOutsideIgnored.files_eq (h : SameOutsideIgnored s fs root fs' root') (hfs : fs.Sound)
    (hfs' : fs'.Sound) (hlink : NoLinks s fs root) :
    (Snapshot.take fs root s).files = (Snapshot.take fs' root' s).files :=
  congrArg (fun children => Text.sort (TreeNode.filesOf children)) (h.children_eq hfs hfs' hlink)

/-! ## Reading -/

/-- The files of the snapshots read alike. -/
theorem SameOutsideIgnored.read_eq (h : SameOutsideIgnored s fs root fs' root') (hfs : fs.Sound)
    (hlink : NoLinks s fs root) (limit : Option Int) {p : Text}
    (hp : p ∈ (Snapshot.take fs root s).files) :
    (fs.readSource root limit p).toOption = (fs'.readSource root' limit p).toOption := by
  obtain ⟨names, rfl, hlisted⟩ := (Snapshot.mem_files hfs).1 hp
  rcases hlisted.file with ⟨content, hat⟩ | ⟨⟨target, hat⟩, -⟩
  · have hproper : ∀ n ∈ names, ProperName n := fun n hn =>
      (hfs.entryAt? hat).2 n (List.mem_append_right _ hn)
    have hat' : fs'.entryAt? (root' ++ names) = some (.file content) := by
      have hface := h names hlisted.kept
      rw [hat] at hface
      obtain ⟨leaf, hleaf, hfile⟩ := Option.map_eq_some_iff.1 hface.symm
      cases leaf with
      | link | folder => simp [Entry.face] at hfile
      | file content' =>
          obtain rfl := Entry.file.inj hfile
          exact hleaf
    rw [FileSystem.toOption_readSource_ofNames limit hat hproper,
      FileSystem.toOption_readSource_ofNames limit hat' hproper]
  · exact absurd hat (hlink names target hlisted.kept)

variable {α : Type} [Quantity α]

/-- Files that give the same texts give the same figures. -/
theorem measureQuality_congr {read read' : Text → Except ReadFailure Text} {files : List Text}
    (h : ∀ p ∈ files, (read p).toOption = (read' p).toOption) :
    (measureQuality s read files : QualityFigures α) = measureQuality s read' files := by
  unfold measureQuality qualitySources
  congr 2
  refine List.filterMap_congr fun p hp => ?_
  rw [h p (List.mem_filter.1 ((Text.upTo_sublist _ _).mem hp)).1]

/-! ## The analysis -/

/-- Repositories that differ in ignored paths alone have the same files and the same nodes in the
root, which makes one tree of folders with one name. The languages, the examples, the idioms and the
quality figures are the same. -/
theorem ignored_paths_never_matter (hfs : fs.Sound) (hfs' : fs'.Sound) (hlink : NoLinks s fs root)
    (h : SameOutsideIgnored s fs root fs' root') :
    let snap := Snapshot.take fs root s
    let snap' := Snapshot.take fs' root' s
    let read := fs.readSource root (some s.maxFileSize)
    let read' := fs'.readSource root' (some s.maxFileSize)
    snap.tree.children = snap'.tree.children ∧
      (rootName root = rootName root' → snap.tree = snap'.tree) ∧
      snap.files = snap'.files ∧
      (detectLanguages snap.files : List (Technology α)) = detectLanguages snap'.files ∧
      ExcerptSet.select s read snap.files = ExcerptSet.select s read' snap'.files ∧
      surveyIdioms read snap.files = surveyIdioms read' snap'.files ∧
      (measureQuality s read snap.files : QualityFigures α) =
        measureQuality s read' snap'.files := by
  intro snap snap' read read'
  have hfiles : snap.files = snap'.files := h.files_eq hfs hfs' hlink
  have hread : ∀ p ∈ snap.files, (read p).toOption = (read' p).toOption := fun p hp =>
    h.read_eq hfs hlink (some s.maxFileSize) hp
  refine ⟨h.children_eq hfs hfs' hlink, h.tree_eq hfs hfs' hlink, hfiles, ?_, ?_, ?_, ?_⟩
  · rw [hfiles]
  · rw [← hfiles, ExcerptSet.select_congr hread]
  · rw [← hfiles, surveyIdioms_congr hread]
  · rw [← hfiles, measureQuality_congr hread]

/-- A module beside an ignored entry. -/
def beside (dist : Entry) : FileSystem where
  top := [("app.py", .file ⟨#[120]⟩), ("dist", dist)]

theorem entryAt?_beside (dist : Entry) {l : Location}
    (hl : Kept (rulesOf Settings.standard.ignorePatterns) [] l) (hne : l ≠ []) :
    (beside dist).entryAt? l = if l = ["app.py"] then some (.file ⟨#[120]⟩) else none := by
  obtain ⟨n, l, rfl⟩ := List.exists_cons_of_ne_nil hne
  have hn : n ≠ "dist" := by
    rintro rfl
    exact absurd (kept_cons.1 hl).1 (by decide +kernel)
  by_cases happ : n = "app.py"
  · subst happ
    cases l with
    | nil => rfl
    | cons m l => simp [FileSystem.entryAt?, beside, Entry.at?, Table.get?_cons]
  · simp_all [FileSystem.entryAt?, beside, Entry.at?, Table.get?_cons]

/-- A file in the place of an ignored folder changes nothing. -/
theorem file_for_ignored_folder :
    SameOutsideIgnored .standard (beside (.folder [("old.js", .link "gone.js")])) []
        (beside (.file ⟨#[0]⟩)) [] ∧
      (Snapshot.take (beside (.folder [("old.js", .link "gone.js")])) [] .standard).tree =
        (Snapshot.take (beside (.file ⟨#[0]⟩)) [] .standard).tree := by
  have hfolder : (beside (.folder [("old.js", .link "gone.js")])).Sound := by
    simp [FileSystem.Sound, beside, Table.names, properName_iff]
  have hfile : (beside (.file ⟨#[0]⟩)).Sound := by
    simp [FileSystem.Sound, beside, Table.names, properName_iff]
  have hlink : NoLinks .standard (beside (.folder [("old.js", .link "gone.js")])) [] := by
    intro l target hl
    by_cases hne : l = []
    · subst hne
      simp [FileSystem.entryAt?]
    · rw [List.nil_append, entryAt?_beside _ hl hne]
      split <;> simp
  have hsame : SameOutsideIgnored .standard (beside (.folder [("old.js", .link "gone.js")])) []
      (beside (.file ⟨#[0]⟩)) [] := by
    intro l hl
    by_cases hne : l = []
    · subst hne
      rfl
    · simp only [List.nil_append, entryAt?_beside _ hl hne]
  have h := ignored_paths_never_matter (α := Float) hfolder hfile hlink hsame
  exact ⟨hsame, h.2.1 rfl⟩

end CodeSurvey
