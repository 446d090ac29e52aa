import CodeSurvey.Layout.Infer
import CodeSurvey.Proofs.Technology.Growth
import Mathlib.Data.List.Basic
import Mathlib.Data.List.Find

/-!
# Which markers are asked for

Technologies and layouts are told by the markers in the tables and by no others: where the same of
them are present, the same is told.

## Main definitions

* `techMarkers`, `layoutMarkers`: the markers in the tables.
* `markerPath marker`: the path by which a marker is looked up.
-/

namespace CodeSurvey

/-- The markers that technologies are told by. -/
def techMarkers : List Text := techRules.flatMap (·.markers)

/-- The markers that a layout is told by. -/
def layoutMarkers : List Text :=
  ProjectKind.all.flatMap ProjectKind.markers ++ architectureRules.flatMap (·.markers) ++
    buildSystemFiles.flatMap (·.2) ++ lockFiles.map (·.2) ++ ["package.json".toList] ++
    packageManagerFiles.flatMap (·.2) ++ testFiles.flatMap (·.2) ++ readmeFiles ++ auxiliaryDocs ++
    importantFiles

/-- The path by which a marker is looked up. -/
def markerPath (marker : Text) : Text :=
  if marker.getLast? == some '/' then (marker.reverse.dropWhile (· == '/')).reverse else marker

section

variable {package : PackageManifest} {python : PythonManifest} {f g : Text → Bool}

theorem any_eq_of_forall_mem {ms : List Text} (h : ∀ m ∈ ms, f m = g m) : ms.any f = ms.any g := by
  rw [Bool.eq_iff_iff, List.any_eq_true, List.any_eq_true]
  refine exists_congr fun m => and_congr_right fun hm => ?_
  rw [h m hm]

theorem countP_eq_of_forall_mem {ms : List Text} (h : ∀ m ∈ ms, f m = g m) :
    ms.countP f = ms.countP g :=
  List.countP_congr fun m hm => by rw [h m hm]

/-! ## Technologies -/

variable {α : Type} [Quantity α]

theorem detectByRules_congr {rules : List TechRule} (h : ∀ r ∈ rules, ∀ m ∈ r.markers, f m = g m) :
    (detectByRules rules ⟨package, python, f⟩ : List (Technology α)) =
      detectByRules rules ⟨package, python, g⟩ := by
  rw [detectByRules, detectByRules]
  congr 1
  refine List.flatMap_congr fun r hr => ?_
  have hfound : r.foundMarkers ⟨package, python, f⟩ = r.foundMarkers ⟨package, python, g⟩ :=
    List.filter_congr fun m hm => h r hr m hm
  rw [TechRule.detections, TechRule.detections, hfound]
  rfl

/-- The technologies depend on the markers in the tables alone. -/
theorem TechnologyProfile.ofEvidence_congr (files : List Text)
    (h : ∀ m ∈ techMarkers, f m = g m) :
    (ofEvidence files ⟨package, python, f⟩ : TechnologyProfile α) =
      ofEvidence files ⟨package, python, g⟩ := by
  have hrules : ∀ rules, rules ⊆ techRules →
      (detectByRules rules ⟨package, python, f⟩ : List (Technology α)) =
        detectByRules rules ⟨package, python, g⟩ := fun rules hsub =>
    detectByRules_congr fun r hr m hm => h m (List.mem_flatMap.2 ⟨r, hsub hr, hm⟩)
  rw [ofEvidence, ofEvidence, hrules frameworkRules fun r hr => by simp [techRules, hr],
    hrules databaseRules fun r hr => by simp [techRules, hr],
    hrules toolRules fun r hr => by simp [techRules, hr],
    hrules libraryRules fun r hr => by simp [techRules, hr]]

/-! ## Layouts -/

/-- Whether the same markers of each table that a layout is told by are present. -/
structure SameMarkers (f g : Text → Bool) : Prop where
  kinds : ∀ kind : ProjectKind, ∀ m ∈ kind.markers, f m = g m
  architectures : ∀ r ∈ architectureRules, ∀ m ∈ r.markers, f m = g m
  buildSystems : ∀ p ∈ buildSystemFiles, ∀ m ∈ p.2, f m = g m
  locks : ∀ p ∈ lockFiles, f p.2 = g p.2
  package : f "package.json".toList = g "package.json".toList
  packageManagers : ∀ p ∈ packageManagerFiles, ∀ m ∈ p.2, f m = g m
  tests : ∀ p ∈ testFiles, ∀ m ∈ p.2, f m = g m
  readmes : ∀ m ∈ readmeFiles, f m = g m
  docs : ∀ m ∈ auxiliaryDocs, f m = g m
  important : ∀ m ∈ importantFiles, f m = g m

theorem sameMarkers_of_layoutMarkers (h : ∀ m ∈ layoutMarkers, f m = g m) : SameMarkers f g := by
  simp only [layoutMarkers, List.mem_append, or_imp, forall_and, List.mem_flatMap, List.mem_map,
    List.mem_singleton, forall_exists_index, and_imp, forall_eq] at h
  obtain ⟨⟨⟨⟨⟨⟨⟨⟨⟨hkinds, harchitectures⟩, hbuild⟩, hlock⟩, hpackage⟩, hmanagers⟩, htests⟩,
    hreadmes⟩, hdocs⟩, himportant⟩ := h
  have hall : ∀ kind, kind ∈ ProjectKind.all := fun kind => by cases kind <;> decide
  exact ⟨fun kind m hm => hkinds m kind (hall kind) hm, fun r hr m hm => harchitectures m r hr hm,
    fun p hp m hm => hbuild m p hp hm, fun p hp => hlock _ p hp rfl, hpackage,
    fun p hp m hm => hmanagers m p hp hm, fun p hp m hm => htests m p hp hm, hreadmes, hdocs,
    himportant⟩

theorem addWhere_congr {β : Type} (listed : List Text) {table : List (Text × β)} {f g : β → Bool}
    (h : ∀ p ∈ table, f p.2 = g p.2) :
    Surroundings.addWhere listed table f = Surroundings.addWhere listed table g := by
  refine List.foldl_ext _ _ _ fun names p hp => ?_
  simp only [h p hp]

namespace SameMarkers

theorem projectType_eq (h : SameMarkers f g) :
    (Surroundings.mk package python f).projectType =
      (Surroundings.mk package python g).projectType := by
  have hscore : (Surroundings.mk package python f).kindScore =
      (Surroundings.mk package python g).kindScore := by
    funext kind
    rw [Surroundings.kindScore, Surroundings.kindScore]
    simp only [countP_eq_of_forall_mem (h.kinds kind)]
    rfl
  simp only [Surroundings.projectType, hscore]

theorem architecture_eq (h : SameMarkers f g) :
    (Surroundings.mk package python f).architecture =
      (Surroundings.mk package python g).architecture := by
  have hscore : ∀ r ∈ architectureRules, (Surroundings.mk package python f).architectureScore r =
      (Surroundings.mk package python g).architectureScore r := by
    intro r hr
    rw [Surroundings.architectureScore, Surroundings.architectureScore]
    simp only [countP_eq_of_forall_mem (h.architectures r hr)]
    rfl
  have hfind : (architectureRules.find? fun r =>
        2 ≤ (Surroundings.mk package python f).architectureScore r) =
      architectureRules.find? fun r =>
        2 ≤ (Surroundings.mk package python g).architectureScore r :=
    List.find?_congr fun r hr => by rw [hscore r hr]
  rw [Surroundings.architecture, Surroundings.architecture, hfind]
  rfl

theorem buildSystems_eq (h : SameMarkers f g) :
    (Surroundings.mk package python f).buildSystems =
      (Surroundings.mk package python g).buildSystems := by
  have hfiles : (buildSystemFiles.filter fun p => p.2.any f) =
      buildSystemFiles.filter fun p => p.2.any g :=
    List.filter_congr fun p hp => any_eq_of_forall_mem (h.buildSystems p hp)
  rw [Surroundings.buildSystems, Surroundings.buildSystems]
  simp only [hfiles]

theorem packageManager_eq (h : SameMarkers f g) :
    (Surroundings.mk package python f).packageManager =
      (Surroundings.mk package python g).packageManager := by
  have hlock : (lockFiles.find? fun p => f p.2) = lockFiles.find? fun p => g p.2 :=
    List.find?_congr h.locks
  have hfiles : (packageManagerFiles.find? fun p => p.2.any f) =
      packageManagerFiles.find? fun p => p.2.any g :=
    List.find?_congr fun p hp => any_eq_of_forall_mem (h.packageManagers p hp)
  rw [Surroundings.packageManager, Surroundings.packageManager]
  simp only [hlock, h.package, hfiles]

theorem testFrameworks_eq (h : SameMarkers f g) :
    (Surroundings.mk package python f).testFrameworks =
      (Surroundings.mk package python g).testFrameworks := by
  rw [Surroundings.testFrameworks, Surroundings.testFrameworks]
  exact addWhere_congr _ fun p hp => any_eq_of_forall_mem (h.tests p hp)

theorem documentationScore_eq (h : SameMarkers f g) (ratio : Option α) :
    documentationScore ⟨package, python, f⟩ ratio =
      documentationScore ⟨package, python, g⟩ ratio := by
  rw [documentationScore, documentationScore]
  simp only [any_eq_of_forall_mem h.readmes, countP_eq_of_forall_mem h.docs]

end SameMarkers

/-- The layout depends on the markers in the tables alone. -/
theorem Layout.ofSurroundings_congr (h : ∀ m ∈ layoutMarkers, f m = g m) (ratio : Option α) :
    ofSurroundings ⟨package, python, f⟩ ratio = ofSurroundings ⟨package, python, g⟩ ratio := by
  have hsame := sameMarkers_of_layoutMarkers h
  have himportant : CodeSurvey.importantFiles.filter f = CodeSurvey.importantFiles.filter g :=
    List.filter_congr hsame.important
  simp only [ofSurroundings, hsame.projectType_eq, hsame.architecture_eq, hsame.buildSystems_eq,
    hsame.packageManager_eq, hsame.testFrameworks_eq, hsame.documentationScore_eq, himportant]

end
end CodeSurvey
