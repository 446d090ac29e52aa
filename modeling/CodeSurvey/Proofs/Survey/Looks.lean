import CodeSurvey.Proofs.FileSystem.Visits
import CodeSurvey.Proofs.Layout.Markers
import CodeSurvey.Proofs.Survey.Isolation
import CodeSurvey.Proofs.Tree.Depth
import CodeSurvey.Survey.Run

/-!
# What a survey looks at

A survey looks at the folder that it is asked for and at the settings in it, at what its walk sees,
at what some names in the folder lead to and at the files that the walk finds. Where none of these
locations is among the files by which two file systems differ, the whole survey is the same in both
of them, its events included.

## Main definitions

* `surveyedNames`: the paths in a folder that are asked for by name.
* `Survey.LooksBelow fs root s l`: the stages of a survey look at a location.
* `Survey.LooksAt fs here path s o l`: a survey looks at a location.
-/

namespace CodeSurvey

/-- The paths in a folder that are asked for by name: manifests and markers. -/
def surveyedNames : List Text :=
  ["package.json".toList, "requirements.txt".toList, "Pipfile".toList, "pyproject.toml".toList] ++
    techMarkers ++ layoutMarkers.map markerPath

namespace Survey

/-- The locations that the stages of a survey look at. -/
inductive LooksBelow (fs : FileSystem) (root : Location) (s : Settings) : Location → Prop
  /-- What the walk sees, or would see if it were there. -/
  | entry {names : Location} (sees : s.Sees names) : LooksBelow fs root s (root ++ names)
  /-- What a link that the walk sees leads over. -/
  | link {names l : Location} {target : Text} (sees : s.Sees names)
      (at_ : fs.entryAt? (root ++ names) = some (.link target))
      (visited : l ∈ fs.visits root (Path.ofNames names)) : LooksBelow fs root s l
  /-- Manifests and markers. -/
  | name {path : Text} {l : Location} (surveyed : path ∈ surveyedNames)
      (visited : l ∈ fs.visits root path) : LooksBelow fs root s l
  /-- The files that are found. -/
  | file {path : Text} {l : Location} (found : path ∈ (Snapshot.take fs root s).files)
      (visited : l ∈ fs.visits root path) : LooksBelow fs root s l

/-- The locations that a survey of a path looks at which starts from some settings and regards those
of the repository. -/
inductive LooksAt [Host] (fs : FileSystem) (here : Location) (path : Text) (s : Settings)
    (o : Overrides) : Location → Prop
  /-- The way to the folder, from a home folder on if the path asks for one. -/
  | path {p : Text} {l : Location} (expanded : Path.expanded? path = some p)
      (visited : l ∈ fs.visits here p) : LooksAt fs here path s o l
  /-- The way back to the folder by its own path. -/
  | root {root l : Location} (leads : rootOf fs here path = .ok root)
      (visited : l ∈ fs.visits root root.path) : LooksAt fs here path s o l
  /-- The settings in the folder. -/
  | settings {root l : Location} (leads : rootOf fs here path = .ok root)
      (visited : l ∈ fs.visits root (Path.child root.path settingsFileName)) :
      LooksAt fs here path s o l
  /-- What the stages look at. -/
  | stage {root l : Location} {loaded : Settings} (leads : rootOf fs here path = .ok root)
      (settled : settingsOf fs root s true o = .ok loaded)
      (below : LooksBelow fs root loaded l) : LooksAt fs here path s o l

end Survey

/-! ## Single paths -/

namespace FileSystem.AlikeOff

variable {W : Set Location} {fs fs' : FileSystem} {here root : Location} {path : Text}

section Path

variable (h : AlikeOff W fs fs') (hvisits : ∀ l ∈ fs.visits here path, l ∉ W)
include h hvisits

theorem isFolder_eq : fs.isFolder here path = fs'.isFolder here path := by
  rw [isFolder, isFolder]
  obtain ⟨e, hstat, hstat'⟩ | ⟨l, c, c', hstat, hstat', hface⟩ := h.stat_alike hvisits
  · rw [hstat, hstat']
  · rw [hstat, hstat']
    cases c <;> cases c' <;> simp_all [Entry.face]

theorem present_eq : fs.present here path = fs'.present here path := by
  rw [present, present]
  obtain ⟨e, hstat, hstat'⟩ | ⟨l, c, c', hstat, hstat', -⟩ := h.stat_alike hvisits
  · rw [hstat, hstat']
  · rw [hstat, hstat']
    rfl

theorem look_eq : ((fs.stat here path).map (·.2)).map Entry.face =
    ((fs'.stat here path).map (·.2)).map Entry.face := by
  obtain ⟨e, hstat, hstat'⟩ | ⟨l, c, c', hstat, hstat', hface⟩ := h.stat_alike hvisits
  · rw [hstat, hstat']
  · rw [hstat, hstat']
    exact congrArg Except.ok hface

theorem readSource_eq (limit : Option Int) :
    fs.readSource here limit path = fs'.readSource here limit path := by
  rw [readSource, readSource]
  obtain ⟨e, hstat, hstat'⟩ | ⟨l, c, c', hstat, hstat', hface⟩ := h.stat_alike hvisits
  · rw [hstat, hstat']
  · rw [hstat, hstat']
    cases c <;> cases c' <;> simp only [Entry.face, reduceCtorEq] at hface
    case folder => rfl
    case file | link => rw [hface]

/-- Asking for a path from the top on makes no difference. -/
theorem ask_alike :
    (∃ e, fs.ask here path = .error e ∧ fs'.ask here path = .error e) ∨
      ∃ l c c', fs.ask here path = .ok (l, c) ∧ fs'.ask here path = .ok (l, c') ∧
        c.face = c'.face := by
  rw [ask, ask]
  split
  · exact h.stat_alike hvisits
  · exact .inl ⟨_, rfl, rfl⟩

theorem text?_eq : Manifest.text? fs here path = Manifest.text? fs' here path := by
  rw [Manifest.text?, Manifest.text?]
  obtain ⟨e, hask, hask'⟩ | ⟨l, c, c', hask, hask', hface⟩ := h.ask_alike hvisits
  · rw [hask, hask']
  · rw [hask, hask']
    cases c <;> cases c' <;> simp only [Entry.face, reduceCtorEq] at hface
    case folder => rfl
    case file | link => rw [hface]

end Path

theorem rootOf_eq [Host] (h : AlikeOff W fs fs')
    (hvisits : ∀ p, Path.expanded? path = some p → ∀ l ∈ fs.visits here p, l ∉ W) :
    Survey.rootOf fs here path = Survey.rootOf fs' here path := by
  unfold Survey.rootOf
  cases hexpanded : Path.expanded? path with
  | none => rfl
  | some p =>
      simp only
      split
      · rfl
      · obtain ⟨e, hstat, hstat'⟩ | ⟨l, c, c', hstat, hstat', hface⟩ :=
          h.stat_alike (hvisits p hexpanded)
        · rw [hstat, hstat']
        · rw [hstat, hstat']
          cases c <;> cases c' <;> simp only [Entry.face, reduceCtorEq] at hface
          all_goals rfl

theorem hasMarker_eq (h : AlikeOff W fs fs')
    (hvisits : ∀ l ∈ fs.visits here (markerPath path), l ∉ W) :
    fs.hasMarker here path = fs'.hasMarker here path := by
  rw [hasMarker, hasMarker]
  rw [markerPath] at hvisits
  split
  · rename_i hslash
    rw [if_pos hslash] at hvisits
    exact h.isFolder_eq hvisits
  · rename_i hslash
    rw [if_neg hslash] at hvisits
    exact h.present_eq hvisits

theorem settingsOf_eq [Host] {s : Settings} {o : Overrides} (h : AlikeOff W fs fs')
    (hroot : ∀ l ∈ fs.visits root root.path, l ∉ W)
    (hfile : ∀ l ∈ fs.visits root (Path.child root.path settingsFileName), l ∉ W) :
    Survey.settingsOf fs root s true o = Survey.settingsOf fs' root s true o := by
  have hload : Settings.load fs root root.path s = Settings.load fs' root root.path s := by
    have hvisits : ∀ l ∈ fs.visits root (if fs.isFolder root root.path then
        Path.child root.path settingsFileName else root.path), l ∉ W := by
      split
      · exact hfile
      · exact hroot
    unfold Settings.load
    rw [← h.isFolder_eq hroot]
    obtain ⟨e, hstat, hstat'⟩ | ⟨l, c, c', hstat, hstat', hface⟩ := h.stat_alike hvisits
    · simp only [hstat, hstat']
    · simp only [hstat, hstat']
      cases c <;> cases c' <;> simp only [Entry.face, reduceCtorEq] at hface
      case file content content' =>
        obtain rfl := Entry.file.inj hface
        rfl
      all_goals rfl
  rw [Survey.settingsOf, Survey.settingsOf, hload]

end FileSystem.AlikeOff

/-! ## Stages -/

section Stages

variable {read read' : Text → Except ReadFailure Text} {files : List Text} {s : Settings}
  {α : Type} [Quantity α]

theorem skipNotes_congr (source stage : Text) (h : ∀ p ∈ files, read p = read' p) :
    skipNotes source stage read files = skipNotes source stage read' files :=
  List.filterMap_congr fun p hp => by rw [h p hp]

variable (h : ∀ p ∈ files, read p = read' p)
include h

theorem toOption_eq_of_eq : ∀ p ∈ files, (read p).toOption = (read' p).toOption :=
  fun p hp => congrArg Except.toOption (h p hp)

theorem ExcerptSet.notes_congr : notes s read files = notes s read' files := by
  have hlooked : ∀ p ∈ (if s.maxExamples ≤ 0 then []
      else (Category.all.flatMap fun c => sampledCandidates s c files).eraseDups),
      read p = read' p := by
    intro p hp
    split at hp
    · simp at hp
    · obtain ⟨c, -, hp⟩ := List.mem_flatMap.1 (List.mem_eraseDups.1 hp)
      exact h p (sampledCandidates_subset s c files hp)
  rw [notes, notes, select_congr (toOption_eq_of_eq h)]
  simp only [skipNotes_congr _ _ hlooked]

theorem idiomNotes_congr : idiomNotes read files = idiomNotes read' files := by
  have hcode : ∀ p ∈ files.filter isCode, read p = read' p := fun p hp =>
    h p (List.mem_filter.1 hp).1
  have hsources : codeSources read files = codeSources read' files :=
    List.filterMap_congr fun p hp => by rw [hcode p hp]
  rw [idiomNotes, idiomNotes, surveyIdioms_congr (toOption_eq_of_eq h), hsources]
  simp only [skipNotes_congr _ _ hcode]

theorem qualitySkips_congr : qualitySkips s read files = qualitySkips s read' files := by
  refine skipNotes_congr _ _ fun p hp => ?_
  exact h p (List.mem_filter.1 ((Text.upTo_sublist _ _).mem hp)).1

theorem documentationSample_congr (limit : Int) (source stage : Text) :
    skipNotes source stage read (documentationSample limit files) =
        skipNotes source stage read' (documentationSample limit files) ∧
      (sampledCommentRatio read limit files : Option α) =
        sampledCommentRatio read' limit files := by
  have hsample : ∀ p ∈ documentationSample limit files, read p = read' p := by
    intro p hp
    obtain ⟨suffix, -, hp⟩ := List.mem_flatMap.1 ((Text.upTo_sublist _ _).mem hp)
    exact h p (List.mem_filter.1 (List.mem_of_mem_take hp)).1
  refine ⟨skipNotes_congr _ _ hsample, ?_⟩
  have hratios : ((documentationSample limit files).filterMap fun p =>
        (read p).toOption.map (commentRatio p) : List α) =
      (documentationSample limit files).filterMap fun p =>
        (read' p).toOption.map (commentRatio p) :=
    List.filterMap_congr fun p hp => by rw [hsample p hp]
  simp only [sampledCommentRatio, hratios]

end Stages

namespace FileSystem.AlikeOff

variable {W : Set Location} {fs fs' : FileSystem} {here root : Location} {path : Text}
  {s : Settings} {o : Overrides} {α : Type} [Quantity α]

section Names

variable (h : AlikeOff W fs fs') (hnames : ∀ p ∈ surveyedNames, ∀ l ∈ fs.visits root p, l ∉ W)
include h hnames

theorem package_eq [Host] : PackageManifest.read fs root = PackageManifest.read fs' root := by
  have htext := h.text?_eq (hnames "package.json".toList (by simp [surveyedNames]))
  rw [PackageManifest.read, PackageManifest.read, htext]

theorem python_eq [Host] : PythonManifest.read fs root = PythonManifest.read fs' root := by
  have hrequirements := h.text?_eq (hnames "requirements.txt".toList (by simp [surveyedNames]))
  have hpipfile := h.text?_eq (hnames "Pipfile".toList (by simp [surveyedNames]))
  have hproject := h.text?_eq (hnames "pyproject.toml".toList (by simp [surveyedNames]))
  simp only [PythonManifest.read, PythonManifest.part, hrequirements, hpipfile, hproject]

theorem detect_eq [Host] (files : List Text) :
    (TechnologyProfile.detect fs root files : Logged ManifestFailure (TechnologyProfile α)) =
      TechnologyProfile.detect fs' root files := by
  have hpresent : ∀ m ∈ techMarkers, fs.present root m = fs'.present root m := fun m hm =>
    h.present_eq (hnames m (by simp [surveyedNames, hm]))
  simp only [TechnologyProfile.detect, h.package_eq hnames, h.python_eq hnames,
    TechnologyProfile.ofEvidence_congr files hpresent]

theorem infer_eq [Host] {read read' : Text → Except ReadFailure Text} {files : List Text}
    (hread : ∀ p ∈ files, read p = read' p) :
    Layout.infer α fs root s read files = Layout.infer α fs' root s read' files := by
  have hmarker : ∀ m ∈ layoutMarkers, fs.hasMarker root m = fs'.hasMarker root m := fun m hm =>
    h.hasMarker_eq (hnames (markerPath m) (by
      simp only [surveyedNames, List.mem_append]
      exact .inr (List.mem_map_of_mem hm)))
  obtain ⟨hskips, hratio⟩ := documentationSample_congr (α := α) hread s.documentationSampleLimit
    "analyzers.structure" "documentation sampling"
  simp only [Layout.infer, h.package_eq hnames, h.python_eq hnames, hskips, hratio,
    Layout.ofSurroundings_congr hmarker]

end Names

/-! ## The survey -/

theorem seenAlike (h : AlikeOff W fs fs') (hlooks : ∀ l, Survey.LooksBelow fs root s l → l ∉ W) :
    SeenAlike s fs fs' root where
  face _ hl := h.face _ (hlooks _ (.entry hl))
  look _ _ hl hat := h.look_eq fun x hx => hlooks x (.link hl hat hx)

/-- The stages come to the same where they look at no changed file. -/
theorem ofRoot_eq [Host] (h : AlikeOff W fs fs') (hfs : fs.Sound) (hfs' : fs'.Sound)
    (hlooks : ∀ l, Survey.LooksBelow fs root s l → l ∉ W) :
    Survey.ofRoot fs root s = Survey.ofRoot fs' root s := by
  have hnames : ∀ p ∈ surveyedNames, ∀ l ∈ fs.visits root p, l ∉ W := fun p hp l hl =>
    hlooks l (.name hp hl)
  have hread : ∀ p ∈ (Snapshot.take fs root s).files,
      fs.readSource root (some s.maxFileSize) p = fs'.readSource root (some s.maxFileSize) p :=
    fun p hp => h.readSource_eq (fun l hl => hlooks l (.file hp hl)) _
  have hseen := h.seenAlike hlooks
  have hnotes : Survey.walkNotes fs s (Snapshot.take fs root s) =
      Survey.walkNotes fs' s (Snapshot.take fs root s) := hseen.walkNotes_eq hfs hfs' rfl
  simp only [Survey.ofRoot, Survey.walk_bind, ← hseen.take_eq hfs hfs', hnotes,
    h.detect_eq hnames, h.infer_eq hnames hread, ExcerptSet.notes_congr hread,
    idiomNotes_congr hread, qualitySkips_congr hread,
    ExcerptSet.select_congr (toOption_eq_of_eq hread), surveyIdioms_congr (toOption_eq_of_eq hread),
    measureQuality_congr (toOption_eq_of_eq hread)]

/-- A survey that looks at no changed file is the same, and so is what happens during it. -/
theorem run_eq [Host] (h : AlikeOff W fs fs') (hfs : fs.Sound) (hfs' : fs'.Sound)
    (hlooks : ∀ l, Survey.LooksAt fs here path s o l → l ∉ W) :
    Survey.run fs here path s true o = Survey.run fs' here path s true o := by
  have hrootOf := h.rootOf_eq fun p hp l hl => hlooks l (.path hp hl)
  rw [Survey.run, Survey.run, ← hrootOf]
  cases hroot : Survey.rootOf fs here path with
  | error e => rw [Traced.ofExcept_error_bind, Traced.ofExcept_error_bind]
  | ok root =>
      -- Only now is it known which settings the walk of the stages goes by.
      have hsettingsOf := h.settingsOf_eq (s := s) (o := o) (fun l hl => hlooks l (.root hroot hl))
        fun l hl => hlooks l (.settings hroot hl)
      rw [Traced.ofExcept_ok_bind, Traced.ofExcept_ok_bind, ← hsettingsOf]
      cases hsettings : Survey.settingsOf fs root s true o with
      | error e => rw [Traced.ofExcept_error_bind, Traced.ofExcept_error_bind]
      | ok loaded =>
          rw [Traced.ofExcept_ok_bind, Traced.ofExcept_ok_bind]
          exact h.ofRoot_eq hfs hfs' fun l hl => hlooks l (.stage hroot hsettings hl)

end FileSystem.AlikeOff
end CodeSurvey
