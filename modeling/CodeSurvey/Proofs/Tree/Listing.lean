import CodeSurvey.Proofs.Tree.Nodes
import Mathlib.Data.List.Nodup

/-!
# What a snapshot lists

The files of a snapshot are, each once, the paths of at most the allowed depth that lead over
folders to a file, or to a link to one, and on which nothing is ignored.

## Main definitions

* `Walk.IsLeaf path e`: an entry that the walk takes for a file.
* `Walk.Lists levels d e l`: the names `l` lead to such an entry below an entry at `d`.
* `Snapshot.Listed fs root s names`: the paths that a snapshot is to list.
-/

namespace CodeSurvey
namespace Walk

open TreeNode (files)

variable {w : Walk} {levels : Nat} {name : Text} {d l : Location} {e : Entry}

/-- Whether the walk takes what stands at a path for a file. -/
def IsLeaf (w : Walk) (path : Text) : Entry → Prop
  | .file _ => True
  | .link _ => ∃ content, w.look path = .ok (.file content)
  | .folder _ => False

/-- Whether the walk lists what some names lead to below an entry. -/
structure Lists (w : Walk) (levels : Nat) (d : Location) (e : Entry) (l : Location) : Prop where
  depth : l.length ≤ levels
  kept : Kept w.rules d l
  leaf : ∃ leaf, e.at? l = some leaf ∧ w.IsLeaf (Path.ofNames (d ++ l)) leaf

theorem lists_nil : w.Lists levels d e [] ↔ w.IsLeaf (Path.ofNames d) e := by
  constructor
  · rintro ⟨-, -, leaf, hleaf, h⟩
    obtain rfl : e = leaf := by simpa using hleaf
    simpa using h
  · intro h
    exact ⟨by simp, kept_nil, e, by simp, by simpa using h⟩

/-- Longer names are listed only below a folder with levels left to enter. -/
theorem lists_cons {n : Text} :
    w.Lists levels d e (n :: l) ↔
      ∃ levels' entries e', levels = levels' + 1 ∧ e = .folder entries ∧
        Table.get? entries n = some e' ∧ ignored w.rules (Path.ofNames (d ++ [n])) = false ∧
        w.Lists levels' (d ++ [n]) e' l := by
  constructor
  · rintro ⟨hdepth, hkept, leaf, hat, hleaf⟩
    obtain ⟨entries, rfl⟩ := Entry.exists_folder_of_at?_cons hat
    obtain ⟨e', hget, hat'⟩ := Option.bind_eq_some_iff.1 hat
    obtain ⟨hn, hkept⟩ := kept_cons.1 hkept
    rw [List.length_cons] at hdepth
    refine ⟨levels - 1, entries, e', by omega, rfl, hget, hn, by omega, hkept, leaf, hat', ?_⟩
    simpa using hleaf
  · rintro ⟨levels', entries, e', rfl, rfl, hget, hn, hdepth, hkept, leaf, hat, hleaf⟩
    refine ⟨by simpa using hdepth, kept_cons.2 ⟨hn, hkept⟩, leaf, ?_, by simpa using hleaf⟩
    rw [Entry.at?, hget]
    exact hat

theorem Lists.proper (h : w.Lists levels d e l) (he : e.Sound) (hd : ∀ n ∈ d, ProperName n) :
    ∀ n ∈ d ++ l, ProperName n := by
  obtain ⟨leaf, hat, -⟩ := h.leaf
  intro n hn
  rcases List.mem_append.1 hn with hn | hn
  · exact hd n hn
  · exact (he.at? hat).2 n hn

/-! ## The files that a walk finds -/

/-- The paths of the files that the walk finds at or below an entry. -/
def filesAt (w : Walk) (levels : Nat) (name path : Text) (e : Entry) : List Text :=
  (node? w levels name path e).toList.flatMap files

variable {path p : Text} {entries : List (Text × Entry)}

/-- Anything but a folder is a file of its own path or none. -/
theorem filesAt_of_ne_folder (w : Walk) (levels : Nat) (name path : Text)
    (he : ∀ entries, e ≠ .folder entries) :
    (w.IsLeaf path e ∧ w.filesAt levels name path e = [path]) ∨
      (¬w.IsLeaf path e ∧ w.filesAt levels name path e = []) := by
  rw [filesAt]
  cases e with
  | folder entries => exact absurd rfl (he entries)
  | file content =>
      rw [node?]
      exact .inl ⟨trivial, rfl⟩
  | link target =>
      rw [node?]
      split
      · rename_i content hlook
        exact .inl ⟨⟨content, hlook⟩, rfl⟩
      · rename_i hlook
        refine .inr ⟨?_, rfl⟩
        rintro ⟨content, h⟩
        exact hlook content h

theorem filesAt_folder_zero : w.filesAt 0 name path (.folder entries) = [] := by
  rw [filesAt, node?, folderNode]
  simp [files, TreeNode.filesOf]

/-- The files at or below an entry of a folder, none if the entry is ignored. -/
def filesIn (w : Walk) (levels : Nat) (folder : Text) (c : Text × Entry) : List Text :=
  if ignored w.rules (Path.child folder c.1) then []
  else w.filesAt levels c.1 (Path.child folder c.1) c.2

theorem mem_filesIn {folder : Text} {c : Text × Entry} :
    p ∈ w.filesIn levels folder c ↔ ignored w.rules (Path.child folder c.1) = false ∧
      p ∈ w.filesAt levels c.1 (Path.child folder c.1) c.2 := by
  rw [filesIn]
  split <;> simp_all

theorem filesAt_folder_succ : (w.filesAt (levels + 1) name path (.folder entries)).Perm
    (entries.flatMap (w.filesIn levels path)) := by
  have hnodes : (nodes w levels path entries).flatMap files =
      entries.flatMap (w.filesIn levels path) := by
    rw [nodes_eq_flatMap, List.flatMap_assoc]
    refine List.flatMap_congr fun c _ => ?_
    rw [filesIn]
    split
    · rfl
    · rfl
  rw [← hnodes, filesAt, node?]
  simpa using files_folderNode w name path (nodes w levels path entries)

theorem mem_filesAt_of_ne_folder (he : ∀ entries, e ≠ .folder entries) :
    p ∈ w.filesAt levels name (Path.ofNames d) e ↔
      ∃ l, p = Path.ofNames (d ++ l) ∧ w.Lists levels d e l := by
  have hlists : ∀ l, w.Lists levels d e l ↔ l = [] ∧ w.IsLeaf (Path.ofNames d) e := by
    intro l
    cases l with
    | nil => simp [lists_nil]
    | cons n l =>
        refine iff_of_false (fun h => ?_) (by simp)
        obtain ⟨_, entries, _, _, hfolder, -⟩ := lists_cons.1 h
        exact he entries hfolder
  simp only [hlists]
  have hcases := filesAt_of_ne_folder w levels name (Path.ofNames d) he
  rcases hcases with ⟨hleaf, hfiles⟩ | ⟨hleaf, hfiles⟩
  · simp [hleaf, hfiles]
  · simp [hleaf, hfiles]

/-- The walk finds what it lists. -/
theorem mem_filesAt (he : e.Sound) (hd : ∀ n ∈ d, ProperName n) :
    p ∈ w.filesAt levels name (Path.ofNames d) e ↔
      ∃ l, p = Path.ofNames (d ++ l) ∧ w.Lists levels d e l := by
  induction he generalizing levels name d with
  | file content => exact mem_filesAt_of_ne_folder (by simp)
  | link target => exact mem_filesAt_of_ne_folder (by simp)
  | @folder entries distinct proper below ih =>
      have hnil : ¬w.Lists levels d (.folder entries) [] := fun h => lists_nil.1 h
      cases levels with
      | zero =>
          rw [filesAt_folder_zero]
          refine iff_of_false (by simp) ?_
          rintro ⟨l, -, h⟩
          cases l with
          | nil => exact hnil h
          | cons n l => exact absurd h.depth (by simp)
      | succ levels =>
          have hchild : ∀ c ∈ entries,
              (p ∈ w.filesIn levels (Path.ofNames d) c ↔
                ignored w.rules (Path.ofNames (d ++ [c.1])) = false ∧
                  ∃ l, p = Path.ofNames (d ++ c.1 :: l) ∧ w.Lists levels (d ++ [c.1]) c.2 l) := by
            intro c hc
            rw [mem_filesIn, Path.child_ofNames hd, ih c hc (properNames_concat hd (proper c hc))]
            simp
          rw [filesAt_folder_succ.mem_iff, List.mem_flatMap]
          constructor
          · rintro ⟨c, hc, hp⟩
            obtain ⟨hig, l, rfl, hl⟩ := (hchild c hc).1 hp
            refine ⟨c.1 :: l, rfl, lists_cons.2 ⟨levels, entries, c.2, rfl, rfl, ?_, hig, hl⟩⟩
            exact (Table.get?_eq_some_iff_mem distinct).2 hc
          · rintro ⟨l, rfl, h⟩
            cases l with
            | nil => exact absurd h hnil
            | cons n l =>
                obtain ⟨_, _, e, hlevels, hfolder, hget, hig, h⟩ := lists_cons.1 h
                obtain rfl := Nat.succ.inj hlevels
                obtain rfl := Entry.folder.inj hfolder
                have hc := Table.mem_of_get? hget
                exact ⟨(n, e), hc, (hchild _ hc).2 ⟨hig, l, rfl, h⟩⟩

theorem nodup_filesAt_of_ne_folder (he : ∀ entries, e ≠ .folder entries) :
    (w.filesAt levels name path e).Nodup := by
  rcases filesAt_of_ne_folder w levels name path he with ⟨-, h⟩ | ⟨-, h⟩
  · simp [h]
  · simp [h]

/-- The walk finds no file twice, as the names that lead to a file can be read off its path. -/
theorem nodup_filesAt (he : e.Sound) (hd : ∀ n ∈ d, ProperName n) :
    (w.filesAt levels name (Path.ofNames d) e).Nodup := by
  induction he generalizing levels name d with
  | file content => exact nodup_filesAt_of_ne_folder (by simp)
  | link target => exact nodup_filesAt_of_ne_folder (by simp)
  | @folder entries distinct proper below ih =>
      cases levels with
      | zero => simp [filesAt_folder_zero]
      | succ levels =>
          rw [filesAt_folder_succ.nodup_iff, List.nodup_flatMap]
          constructor
          · intro c hc
            rw [filesIn, Path.child_ofNames hd]
            split
            · exact List.nodup_nil
            · exact ih c hc (properNames_concat hd (proper c hc))
          · refine (List.pairwise_map.1 distinct).imp_of_mem ?_
            intro a b ha hb hne p hpa hpb
            have hda := properNames_concat hd (proper a ha)
            have hdb := properNames_concat hd (proper b hb)
            rw [mem_filesIn, Path.child_ofNames hd] at hpa hpb
            obtain ⟨la, rfl, hla⟩ := (mem_filesAt (below a ha) hda).1 hpa.2
            obtain ⟨lb, heq, hlb⟩ := (mem_filesAt (below b hb) hdb).1 hpb.2
            have hnames := (Path.ofNames_inj (hla.proper (below a ha) hda)
              (hlb.proper (below b hb) hdb)).1 heq
            simp only [List.append_assoc, List.append_cancel_left_eq, List.cons_append,
              List.nil_append, List.cons.injEq] at hnames
            exact hne hnames.1

end Walk

/-! ## Snapshots -/

namespace Snapshot

/-- The names that lead from a root to a file of its snapshot: they are not more than the allowed
depth, pass real folders alone, end at a file or a link to one, and pass nothing that is ignored. -/
structure Listed (fs : FileSystem) (root : Location) (s : Settings) (names : Location) : Prop where
  below : names ≠ []
  depth : (names.length : Int) ≤ s.maxDepth
  folders : ∀ k, k <+: names → k ≠ names →
    ∃ entries, fs.entryAt? (root ++ k) = some (.folder entries)
  file : (∃ content, fs.entryAt? (root ++ names) = some (.file content)) ∨
    (∃ target, fs.entryAt? (root ++ names) = some (.link target)) ∧
      fs.isFile root (Path.ofNames names) = true
  kept : ∀ k, k <+: names → k ≠ [] → ignored (rulesOf s.ignorePatterns) (Path.ofNames k) = false

open Walk

variable {fs : FileSystem} {root : Location} {s : Settings} {scorer : Scorer} {names : Location}

/-- A path leads the walk to a file if it does so in the file system. -/
theorem exists_look_iff {path : Text} :
    (∃ content, (ofSettings fs root s scorer).look path = .ok (.file content)) ↔
      fs.isFile root path = true := by
  rw [ofSettings, FileSystem.isFile]
  simp only
  cases fs.stat root path with
  | error e => simp [Except.map]
  | ok at? =>
      obtain ⟨l, leaf⟩ := at?
      cases leaf <;> simp [Except.map]

/-- The walk of a root lists what its snapshot is to list. -/
theorem lists_root_iff :
    (ofSettings fs root s scorer).Lists s.maxDepth.toNat [] (.folder (rootEntries fs root)) names ↔
      Listed fs root s names := by
  constructor
  · intro h
    have hne : names ≠ [] := by
      rintro rfl
      exact lists_nil.1 h
    obtain ⟨leaf, hat, hleaf⟩ := h.leaf
    rw [at?_rootEntries fs root hne] at hat
    have hlen := List.length_pos_iff.2 hne
    have hdepth := h.depth
    have hfolders := fun k hk hkne => FileSystem.exists_folder_of_prefix (k := k) hat hk hkne
    refine ⟨hne, by omega, hfolders, ?_, h.kept⟩
    cases leaf with
    | file content => exact .inl ⟨content, hat⟩
    | link target => exact .inr ⟨⟨target, hat⟩, exists_look_iff.1 hleaf⟩
    | folder entries => exact absurd hleaf id
  · intro h
    have hdepth := h.depth
    refine ⟨by omega, h.kept, ?_⟩
    rw [at?_rootEntries fs root h.below]
    rcases h.file with ⟨content, hat⟩ | ⟨⟨target, hat⟩, hfile⟩
    · exact ⟨_, hat, trivial⟩
    · exact ⟨_, hat, exists_look_iff.2 hfile⟩

theorem files_perm_filesAt (fs : FileSystem) (root : Location) (s : Settings) :
    (take fs root s).files.Perm ((ofSettings fs root s .byPath).filesAt s.maxDepth.toNat
      (rootName root) (Path.ofNames []) (.folder (rootEntries fs root))) := by
  rw [filesAt, Path.ofNames_nil, node?_root]
  simpa [take, Text.sort] using List.mergeSort_perm (walkTree fs root s .byPath).files Text.le

theorem nodup_files (hfs : fs.Sound) : (take fs root s).files.Nodup := by
  rw [(files_perm_filesAt fs root s).nodup_iff]
  exact nodup_filesAt (sound_rootEntries hfs root) (by simp)

theorem mem_files (hfs : fs.Sound) {p : Text} :
    p ∈ (take fs root s).files ↔ ∃ names, p = Path.ofNames names ∧ Listed fs root s names := by
  rw [(files_perm_filesAt fs root s).mem_iff, mem_filesAt (sound_rootEntries hfs root) (by simp)]
  simp only [List.nil_append, lists_root_iff]

/-- The files of a snapshot are, each once, the paths that it is to list. -/
theorem files_exact (fs : FileSystem) (root : Location) (s : Settings) (hfs : fs.Sound) :
    (take fs root s).files.Nodup ∧
      ∀ p, p ∈ (take fs root s).files ↔ ∃ names, p = Path.ofNames names ∧ Listed fs root s names :=
  ⟨nodup_files hfs, fun _ => mem_files hfs⟩

/-- A folder with a module, a link to it, a link to nothing and an ignored folder. -/
def linked : FileSystem where
  top := [("src", .folder [("app.py", .file ⟨#[120]⟩), ("main.py", .link "app.py"),
    ("lost.py", .link "gone.py"), ("dist", .folder [("old.py", .file ⟨#[121]⟩)])])]

/-- The link to the module is listed, once. -/
theorem files_of_linked : linked.Sound ∧
    ((take linked [] Settings.standard).files.Nodup ∧
      ("src/main.py" : Text) ∈ (take linked [] Settings.standard).files) := by
  have hsound : linked.Sound := by
    simp [FileSystem.Sound, linked, Table.names, properName_iff]
  have hkept : Kept (rulesOf Settings.standard.ignorePatterns) [] ["src", "main.py"] := by
    rw [kept_cons, kept_cons]
    exact ⟨by decide +kernel, by decide +kernel, kept_nil⟩
  have hlisted : Listed linked [] Settings.standard ["src", "main.py"] := by
    refine ⟨by simp, by decide, ?_, .inr ⟨⟨_, rfl⟩, by decide +kernel⟩, hkept⟩
    intro k hk hne
    rcases List.prefix_cons_iff.1 hk with rfl | ⟨k, rfl, hk'⟩
    · exact ⟨_, rfl⟩
    rcases List.prefix_cons_iff.1 hk' with rfl | ⟨k, rfl, hk''⟩
    · exact ⟨_, rfl⟩
    · exact absurd (by rw [List.prefix_nil.1 hk'']) hne
  have h := files_exact linked [] Settings.standard hsound
  exact ⟨hsound, h.1, (h.2 _).2 ⟨_, rfl, hlisted⟩⟩

end Snapshot
end CodeSurvey
