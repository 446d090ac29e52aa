import CodeSurvey.Host.Standard
import CodeSurvey.Proofs.FileSystem.Growth
import CodeSurvey.Proofs.Manifest.Outcome
import CodeSurvey.Proofs.Quantity
import CodeSurvey.Proofs.Technology.Merge
import CodeSurvey.Proofs.Tree.Listing
import Mathlib.Data.List.Perm.Subperm

/-!
# Technologies of a growing repository

More files, markers and packages are more evidence, and more evidence never makes a technology less
likely: whatever is detected in a repository is detected with at least the same confidence once the
repository has grown. Confidences are read as exact numbers.

## Main definitions

* `Evidence.Within rules e e'`: all that `e` has to say on the rules `e'` says too.
-/

namespace CodeSurvey

/-! ## Languages -/

section Languages

variable {files files' suffixes suffixes' : List Text} {t : Technology Rat}

theorem suffixesOf_subperm (hnodup : files.Nodup) (h : files ⊆ files') :
    (suffixesOf files).Subperm (suffixesOf files') := by
  obtain ⟨l, hperm, hsub⟩ := List.subperm_of_subset hnodup h
  exact ⟨suffixesOf l, (hperm.filter _).map _, (hsub.filter _).map _⟩

theorem LanguageRule.count_mono (r : LanguageRule) (h : suffixes.Subperm suffixes') :
    r.count suffixes ≤ r.count suffixes' := by
  unfold LanguageRule.count
  induction r.suffixes with
  | nil => simp
  | cons s rest ih =>
      simp only [List.map_cons, List.foldr_cons]
      exact Nat.add_le_add (h.count_le s) ih

/-- More files of a language do not make it less likely. -/
theorem LanguageRule.exists_detect? {r : LanguageRule} (h : suffixes.Subperm suffixes')
    (ht : r.detect? suffixes = some t) :
    ∃ t', r.detect? suffixes' = some t' ∧ t'.name = t.name ∧ t.confidence ≤ t'.confidence := by
  rw [LanguageRule.detect?] at ht ⊢
  simp only [List.isEmpty_iff, List.filter_eq_nil_iff] at ht ⊢
  split at ht
  · contradiction
  · rename_i hfound
    have hfound' : ¬∀ s ∈ r.suffixes, ¬suffixes'.contains s = true := by
      intro hnone
      refine hfound fun s hs hmem => hnone s hs ?_
      rw [List.contains_iff_mem] at hmem ⊢
      exact h.subset hmem
    obtain rfl := Option.some.inj ht
    rw [if_neg hfound']
    refine ⟨_, rfl, rfl, ?_⟩
    simp only [Quantity.least_rat]
    exact min_le_min_left _ (Quantity.ratio_le_ratio (r.count_mono h) 10)

theorem detectLanguages_borneOut (hnodup : files.Nodup) (h : files ⊆ files') :
    BorneOut (detectLanguages files) (detectLanguages files') := by
  intro t ht
  obtain ⟨r, hr, ht⟩ := List.mem_filterMap.1 ht
  obtain ⟨t', ht', hle⟩ := LanguageRule.exists_detect? (suffixesOf_subperm hnodup h) ht
  exact ⟨t', List.mem_filterMap.2 ⟨r, hr, ht'⟩, hle⟩

end Languages

/-! ## Packages and markers -/

/-- Whether some evidence names all packages that other evidence names, and has all markers of the
rules that the other has. -/
structure Evidence.Within (rules : List TechRule) (e e' : Evidence) : Prop where
  packages : ∀ n, Table.has e.package.dependencies n = true →
    Table.has e'.package.dependencies n = true
  pythonPackages : e.python.dependencies ⊆ e'.python.dependencies
  markers : ∀ r ∈ rules, ∀ m ∈ r.markers, e.hasMarker m = true → e'.hasMarker m = true

namespace TechRule

variable {r : TechRule} {e e' : Evidence} {t : Technology Rat}

theorem markerWeight_mono (r : TechRule) {found found' : List Text}
    (h : found.length ≤ found'.length) : (r.markerWeight found : Rat) ≤ r.markerWeight found' := by
  unfold markerWeight
  simp only
  split
  · exact mul_le_mul_of_nonneg_left (Quantity.ratio_le_ratio h _) (Quantity.tenths_nonneg _)
  · exact le_rfl

/-- What a rule detects: one technology for each kind of evidence that there is, with the weight of
that kind. -/
theorem exists_mem_detections_iff {n : Text} {q : Rat} :
    (∃ t ∈ r.detections e, t.name = n ∧ t.confidence = q) ↔ r.name = n ∧
      ((r.foundPackages e ≠ [] ∨ r.foundPythonPackages e ≠ []) ∧ Quantity.tenths r.confidence = q ∨
        r.foundMarkers e ≠ [] ∧ r.markerWeight (r.foundMarkers e) = q) := by
  have hitem : ∀ (found : List Text) (t x : Technology Rat),
      (t ∈ if found.isEmpty then [] else [x]) ↔ found ≠ [] ∧ t = x := by
    intro found t x
    cases found <;> simp
  unfold detections
  simp only [List.mem_append, hitem]
  constructor
  · rintro ⟨t, (⟨hfound, rfl⟩ | ⟨hfound, rfl⟩) | ⟨hfound, rfl⟩, hname, hconf⟩
    · exact ⟨hname, .inl ⟨.inl hfound, hconf⟩⟩
    · exact ⟨hname, .inl ⟨.inr hfound, hconf⟩⟩
    · exact ⟨hname, .inr ⟨hfound, hconf⟩⟩
  · rintro ⟨hname, ⟨hfound | hfound, hconf⟩ | ⟨hfound, hconf⟩⟩
    · exact ⟨_, .inl (.inl ⟨hfound, rfl⟩), hname, hconf⟩
    · exact ⟨_, .inl (.inr ⟨hfound, rfl⟩), hname, hconf⟩
    · exact ⟨_, .inr ⟨hfound, rfl⟩, hname, hconf⟩

/-- More evidence does not weaken what a rule detects. -/
theorem detections_borneOut {rules : List TechRule} (h : e.Within rules e') (hr : r ∈ rules) :
    BorneOut (r.detections e) (r.detections e') := by
  have hpackages : r.foundPackages e ≠ [] → r.foundPackages e' ≠ [] := by
    simp only [foundPackages, ne_eq, List.filter_eq_nil_iff, not_forall, not_not]
    rintro ⟨p, hp, hhas⟩
    exact ⟨p, hp, h.packages p hhas⟩
  have hpython : r.foundPythonPackages e ≠ [] → r.foundPythonPackages e' ≠ [] := by
    simp only [foundPythonPackages, ne_eq, List.filter_eq_nil_iff, not_forall, not_not,
      List.contains_iff_mem]
    rintro ⟨p, hp, hmem⟩
    exact ⟨p, hp, h.pythonPackages hmem⟩
  have hmarkers : (r.foundMarkers e).length ≤ (r.foundMarkers e').length := by
    rw [foundMarkers, foundMarkers, ← List.countP_eq_length_filter, ← List.countP_eq_length_filter]
    exact List.countP_mono_left fun m hm => h.markers r hr m hm
  intro t ht
  obtain ⟨hname, hkind⟩ := exists_mem_detections_iff.1 ⟨t, ht, rfl, rfl⟩
  rcases hkind with ⟨hfound, hconf⟩ | ⟨hfound, hconf⟩
  · obtain ⟨t', ht', hname', hconf'⟩ := exists_mem_detections_iff.2
      ⟨hname, .inl ⟨hfound.imp hpackages hpython, hconf⟩⟩
    exact ⟨t', ht', hname', hconf'.ge⟩
  · have hfound' : r.foundMarkers e' ≠ [] := by
      rw [← List.length_pos_iff] at hfound ⊢
      omega
    obtain ⟨t', ht', hname', hconf'⟩ := exists_mem_detections_iff.2
      ⟨hname, .inr ⟨hfound', rfl⟩⟩
    exact ⟨t', ht', hname', hconf ▸ hconf' ▸ r.markerWeight_mono hmarkers⟩

end TechRule

section Profile

variable {files files' : List Text} {e e' : Evidence} {rules : List TechRule}

theorem detectByRules_borneOut (h : e.Within rules e') {table : List TechRule}
    (htable : table ⊆ rules) : BorneOut (detectByRules table e) (detectByRules table e') := by
  refine BorneOut.mergeAll fun t ht => ?_
  obtain ⟨r, hr, ht⟩ := List.mem_flatMap.1 ht
  obtain ⟨t', ht', hle⟩ := TechRule.detections_borneOut h (htable hr) t ht
  exact ⟨t', List.mem_flatMap.2 ⟨r, hr, ht'⟩, hle⟩

theorem schemaDatabase_borneOut (h : files ⊆ files') :
    BorneOut (schemaDatabase files) (schemaDatabase files') := by
  have hfound : (schemaFiles files).length ≠ 0 → (schemaFiles files').length ≠ 0 := by
    simp only [ne_eq, List.length_eq_zero_iff, schemaFiles, List.filter_eq_nil_iff, not_forall,
      not_not]
    rintro ⟨p, hp, hschema⟩
    exact ⟨p, h hp, hschema⟩
  intro t ht
  simp only [schemaDatabase] at ht ⊢
  split at ht
  · simp at ht
  · rename_i hsome
    obtain rfl := List.mem_singleton.1 ht
    rw [if_neg (hfound hsome)]
    exact ⟨_, List.mem_singleton_self _, rfl, le_rfl⟩

/-- All rules on packages and markers. -/
def techRules : List TechRule := frameworkRules ++ databaseRules ++ toolRules ++ libraryRules

/-- More files and more evidence do not weaken any part of a profile. -/
theorem TechnologyProfile.ofEvidence_borneOut (hnodup : files.Nodup) (hfiles : files ⊆ files')
    (h : e.Within techRules e') :
    let p : TechnologyProfile Rat := .ofEvidence files e
    let p' : TechnologyProfile Rat := .ofEvidence files' e'
    BorneOut p.languages p'.languages ∧ BorneOut p.frameworks p'.frameworks ∧
      BorneOut p.databases p'.databases ∧ BorneOut p.tools p'.tools ∧
      BorneOut p.libraries p'.libraries := by
  have hrules : ∀ table, table ⊆ techRules →
      BorneOut (detectByRules table e) (detectByRules table e') := fun table htable =>
    detectByRules_borneOut h htable
  refine ⟨?_, ?_, ?_, ?_, ?_⟩
  · exact (detectLanguages_borneOut hnodup hfiles).rank
  · exact (hrules frameworkRules fun r hr => by simp [techRules, hr]).rank
  · exact ((hrules databaseRules fun r hr => by simp [techRules, hr]).append
      (schemaDatabase_borneOut hfiles)).rank
  · exact (hrules toolRules fun r hr => by simp [techRules, hr]).rank
  · exact (hrules libraryRules fun r hr => by simp [techRules, hr]).rank

end Profile

/-! ## Repositories -/

section Repositories

open FileSystem

variable {fs fs' : FileSystem} {root root' : Location} {s : Settings}

/-- The snapshot of a repository that has grown lists all files that it listed before. -/
theorem Snapshot.files_subset_of_grown (hfs : fs.Sound) (hfs' : fs'.Sound)
    (hlinks : LinkFree fs root) (hgrown : Grown fs root fs' root') :
    (take fs root s).files ⊆ (take fs' root' s).files := by
  intro p hp
  obtain ⟨names, rfl, hlisted⟩ := (mem_files hfs).1 hp
  refine (mem_files hfs').2 ⟨names, rfl, ?_⟩
  obtain ⟨hbelow, hdepth, hfolders, hfile, hkept⟩ := hlisted
  refine ⟨hbelow, hdepth, fun k hk hne => ?_, .inl ?_, hkept⟩
  · obtain ⟨entries, hentries⟩ := hfolders k hk hne
    exact hgrown.folder k entries hentries
  · rcases hfile with ⟨content, hcontent⟩ | ⟨⟨target, htarget⟩, -⟩
    · exact hgrown.file names content hcontent
    · exact absurd htarget (hlinks names target)

theorem properName_of_mem_marker : ∀ r ∈ techRules, ∀ m ∈ r.markers, ∀ n ∈ Text.splitOn '/' m,
    ProperName n := by
  decide +kernel

/-- The markers of a repository that has grown are all that it had before. -/
theorem present_marker_of_grown (hlinks : LinkFree fs root) (hgrown : Grown fs root fs' root')
    {r : TechRule} (hr : r ∈ techRules) {m : Text} (hm : m ∈ r.markers)
    (h : fs.present root m = true) : fs'.present root' m = true := by
  have hnames : Path.ofNames (Text.splitOn '/' m) = m := Text.joinWith_splitOn '/' m
  rw [← hnames] at h ⊢
  exact hgrown.present hlinks (properName_of_mem_marker r hr m hm) h

theorem result_detect_of_read [Host] {package : PackageManifest} {python : PythonManifest}
    (hpackage : (PackageManifest.read fs root).result = .ok package)
    (hpython : (PythonManifest.read fs root).result = .ok python) (files : List Text) :
    (TechnologyProfile.detect fs root files).result =
      .ok (.ofEvidence files ⟨package, python, fs.present root⟩ : TechnologyProfile Rat) := by
  rw [TechnologyProfile.result_detect, bothManifests, hpackage, hpython]
  rfl

/-- If a repository without links grows and its manifests, both of which are read, name no fewer
packages, then every technology found in it is found again, with at least the same confidence. -/
theorem technologies_grow [Host] (hfs : fs.Sound) (hfs' : fs'.Sound) (hlinks : LinkFree fs root)
    (hgrown : Grown fs root fs' root') {package package' : PackageManifest}
    {python python' : PythonManifest}
    (hpackage : (PackageManifest.read fs root).result = .ok package)
    (hpackage' : (PackageManifest.read fs' root').result = .ok package')
    (hpython : (PythonManifest.read fs root).result = .ok python)
    (hpython' : (PythonManifest.read fs' root').result = .ok python')
    (hpackages : Table.names package.dependencies ⊆ Table.names package'.dependencies)
    (hpythonPackages : python.dependencies ⊆ python'.dependencies) (s : Settings) :
    ∃ p p' : TechnologyProfile Rat,
      (TechnologyProfile.detect fs root (Snapshot.take fs root s).files).result = .ok p ∧
      (TechnologyProfile.detect fs' root' (Snapshot.take fs' root' s).files).result = .ok p' ∧
      BorneOut p.languages p'.languages ∧ BorneOut p.frameworks p'.frameworks ∧
      BorneOut p.databases p'.databases ∧ BorneOut p.tools p'.tools ∧
      BorneOut p.libraries p'.libraries := by
  have hwithin : Evidence.Within techRules ⟨package, python, fs.present root⟩
      ⟨package', python', fs'.present root'⟩ := by
    refine ⟨fun n hn => ?_, hpythonPackages, fun r hr m hm h => ?_⟩
    · rw [Table.has_iff_mem_names] at hn ⊢
      exact hpackages hn
    · exact present_marker_of_grown hlinks hgrown hr hm h
  refine ⟨_, _, result_detect_of_read hpackage hpython _,
    result_detect_of_read hpackage' hpython' _, ?_⟩
  exact TechnologyProfile.ofEvidence_borneOut (Snapshot.nodup_files hfs)
    (Snapshot.files_subset_of_grown hfs hfs' hlinks hgrown) hwithin

attribute [local instance] Host.standard

/-- A repository with the entry point of a framework. -/
def started : FileSystem where
  top := [("manage.py", .file ⟨#[120]⟩)]

/-- The same, changed, with one more module and a list of requirements. -/
def advanced : FileSystem where
  top := [("app.py", .file ⟨#[120]⟩), ("manage.py", .file ⟨#[121]⟩),
    ("requirements.txt", .file ⟨#[102, 108, 97, 115, 107]⟩)]

theorem entryAt?_started {l : Location} {leaf : Entry} (h : started.entryAt? l = some leaf) :
    l = [] ∧ leaf = .folder started.top ∨ l = ["manage.py"] ∧ leaf = .file ⟨#[120]⟩ := by
  cases l with
  | nil => exact .inl ⟨rfl, by simpa [entryAt?] using h.symm⟩
  | cons n l =>
      simp only [entryAt?, started, Entry.at?, Table.get?_cons] at h
      split at h
      · rename_i hn
        cases l with
        | nil => exact .inr ⟨by simpa using hn, by simpa using h.symm⟩
        | cons m l => simp [Entry.at?] at h
      · simp at h

/-- What the entry point shows is still shown, and with no less confidence. -/
theorem technologies_of_advanced :
    (started.Sound ∧ advanced.Sound ∧ LinkFree started [] ∧ Grown started [] advanced []) ∧
    ∃ p p' : TechnologyProfile Rat,
      (TechnologyProfile.detect started [] (Snapshot.take started [] .standard).files).result =
        .ok p ∧
      (TechnologyProfile.detect advanced [] (Snapshot.take advanced [] .standard).files).result =
        .ok p' ∧
      BorneOut p.frameworks p'.frameworks := by
  have hstarted : started.Sound := by
    simp [FileSystem.Sound, started, Table.names, properName_iff]
  have hadvanced : advanced.Sound := by
    simp [FileSystem.Sound, advanced, Table.names, properName_iff]
  have hlinks : LinkFree started [] := by
    intro l target h
    rcases entryAt?_started h with ⟨-, h⟩ | ⟨-, h⟩
    · simp at h
    · simp at h
  have hgrown : Grown started [] advanced [] := by
    constructor
    · intro l content h
      rcases entryAt?_started h with ⟨-, h⟩ | ⟨hl, -⟩
      · simp at h
      · obtain rfl : l = ["manage.py"] := hl
        exact ⟨_, rfl⟩
    · intro l entries h
      rcases entryAt?_started h with ⟨hl, -⟩ | ⟨-, h⟩
      · obtain rfl : l = [] := hl
        exact ⟨_, rfl⟩
      · simp at h
  have hpackage : (PackageManifest.read started []).result = .ok {} := by decide +kernel
  have hpackage' : (PackageManifest.read advanced []).result = .ok {} := by decide +kernel
  have hpython : (PythonManifest.read started []).result = .ok {} := by decide +kernel
  have hpython' : (PythonManifest.read advanced []).result =
      .ok { dependencies := ["flask"], sources := ["requirements.txt"] } := by
    decide +kernel
  obtain ⟨p, p', hp, hp', -, hframeworks, -⟩ := technologies_grow hstarted hadvanced hlinks hgrown
    hpackage hpackage' hpython hpython' (by simp [Table.names]) (by simp) .standard
  exact ⟨⟨hstarted, hadvanced, hlinks, hgrown⟩, p, p', hp, hp', hframeworks⟩

end Repositories
end CodeSurvey
