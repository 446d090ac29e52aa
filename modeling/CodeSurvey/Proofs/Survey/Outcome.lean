import CodeSurvey.Host.Standard
import CodeSurvey.Proofs.Manifest.Outcome
import CodeSurvey.Survey.Run
import Mathlib.Control.Monad.Basic

/-!
# When there is a survey

A survey of a path that is looked up comes to one of four ends. There is none because the path leads
nowhere or to something else than a folder; there is none because the folders nest too deep for the
walk, or because a manifest of the folder cannot be got over; or there is one. The settings decide
only how deep the walk goes, and the sources play no part in this. A path that begins with the home
of nobody, or that is too long for the system, is not looked up at all.

## Main definitions

* `SurveyFailure.isOfPath e`: whether a failure says that the path leads to no folder.
* `Survey.LooksUp fs here path`: whether a path is looked up.
* `Survey.LeadsTo fs here path root`: whether it leads to a folder.
* `Survey.Shallow fs root s`: whether the walk through a folder has room.
-/

namespace CodeSurvey

/-- Whether a failure says that the path leads to no folder. -/
def SurveyFailure.isOfPath : SurveyFailure → Bool
  | missing _ | notFolder _ => true
  | _ => false

namespace Survey

@[simp] theorem result_inform (message : Text) : (inform message).result = .ok () := rfl

@[simp] theorem result_announce (stage : Stage) : (announce stage).result = .ok () := rfl

@[simp] theorem result_details (rs : List LogRecord) : (details rs).result = .ok () := rfl

@[simp] theorem result_withManifests {α : Type} (x : Logged ManifestFailure α) :
    (withManifests x).result = x.result.mapError .manifest := rfl

section Runs

variable [Host] {fs : FileSystem} {here root : Location} {path : Text} {s : Settings}

/-! ## The folder -/

/-- Whether a path is looked up: there is the home folder that it asks for, and the system does not
find it too long. A path with a character zero does not get as far as that. -/
def LooksUp (fs : FileSystem) (here : Location) (path : Text) : Prop :=
  ∃ p, Path.expanded? path = some p ∧ ('\x00' ∈ p ∨ fs.stat here p ≠ .error .nameTooLong)

/-- Whether a path leads to a folder, with a home folder in the place of a tilde. -/
def LeadsTo (fs : FileSystem) (here : Location) (path : Text) (root : Location) : Prop :=
  ∃ p entries, Path.expanded? path = some p ∧ '\x00' ∉ p ∧
    fs.stat here p = .ok (root, .folder entries)

theorem rootOf_eq_ok_iff : rootOf fs here path = .ok root ↔ LeadsTo fs here path root := by
  rw [LeadsTo, rootOf]
  cases Path.expanded? path with
  | none => simp
  | some p =>
      by_cases hzero : '\x00' ∈ p
      · simp [hzero]
      · rcases hstat : fs.stat here p with e | ⟨l, e⟩
        · cases e <;> simp [hzero, hstat]
        · cases e <;> simp [hzero, hstat]

/-- The path is said to lead to no folder exactly if it is looked up and leads to none. -/
theorem exists_rootOf_eq_error_iff :
    (∃ e, rootOf fs here path = .error e ∧ e.isOfPath = true) ↔
      LooksUp fs here path ∧ ¬∃ root, LeadsTo fs here path root := by
  simp only [LooksUp, LeadsTo, rootOf]
  cases Path.expanded? path with
  | none => simp [SurveyFailure.isOfPath]
  | some p =>
      by_cases hzero : '\x00' ∈ p
      · simp [hzero, SurveyFailure.isOfPath]
      · rcases hstat : fs.stat here p with e | ⟨l, e⟩
        · cases e <;> simp [hzero, hstat, SurveyFailure.isOfPath]
        · cases e <;> simp [hzero, hstat, SurveyFailure.isOfPath]

/-- Looking for the folder has nothing to do with what the folder holds. -/
theorem not_isOfFolder_of_rootOf {e : SurveyFailure} (h : rootOf fs here path = .error e) :
    e ≠ .tooDeep ∧ ∀ f, e ≠ .manifest f := by
  rw [rootOf] at h
  cases hpath : Path.expanded? path with
  | none =>
      obtain rfl := Except.error.inj (by simpa only [hpath] using h)
      simp
  | some p =>
      simp only [hpath] at h
      split at h
      · obtain rfl := Except.error.inj h
        simp
      · split at h
        · cases h
        all_goals
          obtain rfl := Except.error.inj h
          simp

/-! ## The stages -/

/-- Whether the folders of a tree nest no deeper than a walk may go. -/
def Shallow (fs : FileSystem) (root : Location) (s : Settings) : Prop :=
  (Snapshot.take fs root s).tree.depth ≤ Host.treeRoom (Snapshot.take fs root s).tree

theorem walk_of_shallow (h : Shallow fs root s) : walk fs root s = pure (Snapshot.take fs root s) :=
  if_pos h

/-- Folders that nest too deep end the survey before a manifest is read. -/
theorem ofRoot_of_not_shallow (h : ¬Shallow fs root s) :
    (ofRoot fs root s).result = .error .tooDeep := by
  have hwalk : walk fs root s = .fail .tooDeep := if_neg h
  simp only [ofRoot, hwalk, Traced.result_bind, result_inform, result_announce]
  rfl

/-- The stages come to a survey if there is room for the walk and the manifests are got over. -/
theorem isOk_ofRoot (h : Shallow fs root s) :
    (ofRoot fs root s).result.isOk = (bothManifests fs root).isOk := by
  simp only [ofRoot, walk_of_shallow h, Traced.result_bind, result_inform, result_announce,
    result_details, Traced.result_pure, result_withManifests, TechnologyProfile.result_detect,
    Layout.result_infer]
  cases bothManifests fs root <;> rfl

/-- Otherwise they fail as the manifests do. -/
theorem ofRoot_of_error {f : ManifestFailure} (hwalk : Shallow fs root s)
    (h : bothManifests fs root = .error f) :
    (ofRoot fs root s).result = .error (.manifest f) := by
  simp only [ofRoot, walk_of_shallow hwalk, Traced.result_bind, result_inform, result_announce,
    result_details, Traced.result_pure, result_withManifests, TechnologyProfile.result_detect, h]
  rfl

/-- The three ends that the stages come to. -/
theorem ofRoot_ends (fs : FileSystem) (root : Location) (s : Settings) :
    (∃ survey, (ofRoot fs root s).result = .ok survey) ∧
        Shallow fs root s ∧ ManifestsTolerable fs root ∨
      (∃ f, (ofRoot fs root s).result = .error (.manifest f)) ∧
        Shallow fs root s ∧ ¬ManifestsTolerable fs root ∨
      (ofRoot fs root s).result = .error .tooDeep ∧ ¬Shallow fs root s := by
  by_cases hwalk : Shallow fs root s
  · rw [← isOk_bothManifests_iff]
    cases h : bothManifests fs root with
    | error f => exact .inr (.inl ⟨⟨f, ofRoot_of_error hwalk h⟩, hwalk, by simp⟩)
    | ok m =>
        refine .inl ⟨isOk_iff_exists.1 ?_, hwalk, rfl⟩
        rw [isOk_ofRoot hwalk, h, isOk_ok]
  · exact .inr (.inr ⟨ofRoot_of_not_shallow hwalk, hwalk⟩)

/-! ## The run -/

/-- Without the settings of the repository, a survey depends on the folder alone. -/
theorem result_run :
    (run fs here path s false .none).result =
      (rootOf fs here path).bind fun root => (ofRoot fs root s).result := by
  rw [run, Traced.result_bind]
  rfl

/-- The ends of a survey. It fails because of the path exactly if the path is looked up and leads to
no folder; there is a survey exactly if the path leads to a folder with room for the walk and with
manifests that are got over; it fails because of the walk exactly if the path leads to a folder
without that room, and because of a manifest exactly if it leads to any other folder. -/
theorem outcome_of_path (fs : FileSystem) (here : Location) (path : Text) (s : Settings) :
    let outcome := (run fs here path s false .none).result
    ((∃ e, outcome = .error e ∧ e.isOfPath = true) ↔
        LooksUp fs here path ∧ ¬∃ root, LeadsTo fs here path root) ∧
      ((∃ survey, outcome = .ok survey) ↔ ∃ root, LeadsTo fs here path root ∧
        Shallow fs root s ∧ ManifestsTolerable fs root) ∧
      (outcome = .error .tooDeep ↔ ∃ root, LeadsTo fs here path root ∧ ¬Shallow fs root s) ∧
      ((∃ f, outcome = .error (.manifest f)) ↔ ∃ root, LeadsTo fs here path root ∧
        Shallow fs root s ∧ ¬ManifestsTolerable fs root) := by
  intro outcome
  have houtcome : outcome = _ := result_run
  rw [houtcome, ← exists_rootOf_eq_error_iff]
  simp only [← rootOf_eq_ok_iff]
  cases hroot : rootOf fs here path with
  | error e =>
      obtain ⟨hwalk, hmanifest⟩ := not_isOfFolder_of_rootOf hroot
      simp [Except.bind, hwalk, hmanifest]
  | ok root =>
      simp only [Except.bind, reduceCtorEq, false_and, exists_false, iff_false, Except.ok.injEq,
        exists_eq_left']
      rcases ofRoot_ends fs root s with ⟨⟨survey, h⟩, hwalk, hread⟩ | ⟨⟨f, h⟩, hwalk, hread⟩ |
        ⟨h, hwalk⟩
      · simp [h, hwalk, hread]
      · simp [h, hwalk, hread, SurveyFailure.isOfPath]
      · simp [h, hwalk, SurveyFailure.isOfPath]

end Runs

attribute [local instance] Host.standard

/-- A repository whose project file gives a number where its dependencies should be listed. -/
def miscounted : FileSystem where
  top := [("repo", .folder [("pyproject.toml",
    .file (Utf8.encode "[project]\ndependencies = 1\n".toList))])]

/-- The path leads to a folder, and there is room for the walk, yet there is no survey. -/
theorem no_survey_of_miscounted :
    LeadsTo miscounted ["repo"] "." ["repo"] ∧ Shallow miscounted ["repo"] .standard ∧
      (run miscounted ["repo"] "." .standard false .none).result =
        .error (.manifest .notAList) := by
  have hroot : rootOf miscounted ["repo"] "." = .ok ["repo"] := rfl
  have hwalk : Shallow miscounted ["repo"] .standard := by
    unfold Shallow
    decide +kernel
  have hpackage : (PackageManifest.read miscounted ["repo"]).result = .ok {} := rfl
  have hpython : (PythonManifest.read miscounted ["repo"]).result = .error .notAList := by
    decide +kernel
  refine ⟨rootOf_eq_ok_iff.1 hroot, hwalk, ?_⟩
  rw [result_run, hroot]
  exact ofRoot_of_error hwalk (by rw [bothManifests, hpackage, hpython]; rfl)

end Survey
end CodeSurvey
