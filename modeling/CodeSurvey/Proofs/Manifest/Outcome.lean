import CodeSurvey.Layout.Infer
import CodeSurvey.Technology.Detect
import Mathlib.Tactic.MkIffOfInductiveProp

/-!
# Which manifests are got over

A manifest that is absent, that is no UTF-8 or that is malformed reads as one that says nothing.
What is left of the failures are the limits of the interpreter, values in a project file that are
given where dependencies should be listed and that list nothing, and names that the system refuses.
Manifests without any of these are read, and no others are.

## Main definitions

* `Manifest.held fs root name`: the text that a manifest is read as, if there is one.
* `Manifest.HeldWith fs root name good`: a manifest is absent, or is read as a text that is good.
* `Toml.Lists v`: whether `v` can stand where something is listed.
* `ProjectTolerable t`: whether the text of a project file is got over.
* `ManifestsTolerable fs root`: whether the manifests of a folder are got over.
* `bothManifests fs root`: what is read of them.
-/

namespace CodeSurvey

@[simp] theorem isOk_ok {ε α : Type} (a : α) : (.ok a : Except ε α).isOk = true := rfl

@[simp] theorem isOk_error {ε α : Type} (e : ε) : (.error e : Except ε α).isOk = false := rfl

theorem isOk_iff_exists {ε α : Type} {x : Except ε α} : x.isOk = true ↔ ∃ a, x = .ok a := by
  cases x <;> simp

theorem not_isOk_iff {ε α : Type} {x : Except ε α} : ¬x.isOk = true ↔ ∃ e, x = .error e := by
  cases x <;> simp

section Steps

variable {ε α β : Type} {x : Except ε α} {e : ε} {b : β}

theorem bind_eq_ok_iff {f : α → Except ε β} : x.bind f = .ok b ↔ ∃ a, x = .ok a ∧ f a = .ok b := by
  cases x <;> simp [Except.bind]

/-- A step fails, or the one after it does. -/
theorem bind_eq_error_iff {f : α → Except ε β} :
    x.bind f = .error e ↔ x = .error e ∨ ∃ a, x = .ok a ∧ f a = .error e := by
  cases x <;> simp [Except.bind]

theorem isOk_bind_iff {f : α → Except ε β} :
    (x.bind f).isOk = true ↔ ∃ a, x = .ok a ∧ (f a).isOk = true := by
  cases x <;> simp [Except.bind]

@[simp] theorem isOk_map {f : α → β} : (x.map f).isOk = x.isOk := by cases x <;> rfl

theorem bind_ok_eq_map {f : α → β} : (x.bind fun a => .ok (f a)) = x.map f := by cases x <;> rfl

theorem map_eq_ok_iff {f : α → β} : x.map f = .ok b ↔ ∃ a, x = .ok a ∧ f a = b := by
  cases x <;> simp [Except.map]

theorem map_eq_error_iff {f : α → β} : x.map f = .error e ↔ x = .error e := by
  cases x <;> simp [Except.map]

end Steps

/-! ## Texts -/

namespace Manifest

variable {fs : FileSystem} {root : Location} {name : Text} {good : Text → Prop}

/-- How looking for a manifest ends: with the text that it is read as, which is empty if the
manifest is no UTF-8, with none if it is absent, or with a refusal of the system. -/
def held (fs : FileSystem) (root : Location) (name : Text) :
    Except ManifestFailure (Option Text) :=
  match fs.ask root name with
  | .ok (_, .file content) => .ok (some ((FileSystem.textOf content).toOption.getD []))
  | .error .nameTooLong => .error (.refused .nameTooLong)
  | _ => .ok none

/-- Whether looking for a manifest is not refused, and the manifest is absent or is read as a text
of some kind. -/
def HeldWith (fs : FileSystem) (root : Location) (name : Text) (good : Text → Prop) : Prop :=
  ∃ t?, held fs root name = .ok t? ∧ ∀ t ∈ t?, good t

theorem result_text? (fs : FileSystem) (root : Location) (name : Text) :
    (text? fs root name).result = held fs root name := by
  unfold text? held
  rcases fs.ask root name with e | ⟨_, content | _ | _⟩
  case ok.file => cases h : FileSystem.textOf content <;> simp [h, Except.toOption]
  case error => cases e <;> rfl
  all_goals rfl

/-- Looking for a manifest fails in one way only. -/
theorem held_ne_error {e : ManifestFailure} (h : e ≠ .refused .nameTooLong) :
    held fs root name ≠ .error e := by
  unfold held
  split
  · exact nofun
  · exact fun he => h (Except.error.inj he).symm
  · exact nofun

/-- What is made of a manifest succeeds exactly if it does so for the text that is held. -/
theorem isOk_bind_held_iff {α : Type} {f : Option Text → Except ManifestFailure α}
    (hnone : (f none).isOk = true) : ((held fs root name).bind f).isOk = true ↔
      HeldWith fs root name fun t => (f (some t)).isOk = true := by
  unfold HeldWith
  rcases held fs root name with e | _ | t <;> simp [Except.bind, hnone]

theorem HeldWith.congr {good' : Text → Prop} (h : ∀ t, good t ↔ good' t) :
    HeldWith fs root name good ↔ HeldWith fs root name good' := by
  simp only [HeldWith, h]

theorem unread_eq_ok_iff {α : Type} {language : Text} {fault : ParseFault} {a : α} :
    (unread name language fault a).result.isOk = true ↔ ∀ limit, fault ≠ .beyond limit := by
  cases fault <;> simp [unread, ignore, Traced.fail]

end Manifest

/-- A package manifest is read whatever its text is, unless it meets a limit. -/
theorem PackageManifest.isOk_ofText_iff [Host] {t : Text} :
    (ofText t).result.isOk = true ↔ ∀ limit, Json.parse t ≠ .error (.beyond limit) := by
  unfold ofText
  split
  · rename_i h
    simp [h]
  · rename_i h
    simp [h, Manifest.ignore]
  · rename_i fault h
    simp [h, Manifest.unread_eq_ok_iff]

theorem PackageManifest.isOk_read_iff [Host] {fs : FileSystem} {root : Location} :
    (read fs root).result.isOk = true ↔ Manifest.HeldWith fs root "package.json" fun t =>
      ∀ limit, Json.parse t ≠ .error (.beyond limit) := by
  rw [read, Traced.result_bind, Manifest.result_text?, Manifest.isOk_bind_held_iff rfl]
  exact Manifest.HeldWith.congr fun _ => isOk_ofText_iff

/-! ## Lists in a project file -/

/-- Whether a value can stand where something is listed: it lists something or counts as not
given. -/
def Toml.Lists : Toml → Prop
  | .array _ | .string _ | .table _ => True
  | .bool value => value = false
  | .int value => value = 0
  | .decimal spelling => (Double.ofSpelling spelling == 0) = true
  | .moment _ => False

theorem isOk_listed_iff {v : Option Toml} : (listed v).isOk = true ↔ ∀ w ∈ v, w.Lists := by
  cases v with
  | none => simp [listed]
  | some w =>
      simp only [listed, Option.mem_def, Option.some.injEq, forall_eq']
      cases w with
      | bool value => cases value <;> simp [Toml.Lists, Toml.isTrue, Toml.entries?]
      | int value => by_cases h : value = 0 <;> simp [Toml.Lists, Toml.isTrue, Toml.entries?, h]
      | decimal spelling =>
          cases h : Double.ofSpelling spelling == 0 <;>
            simp [Toml.Lists, Toml.isTrue, Toml.entries?, bne, h]
      | moment value => simp [Toml.Lists, Toml.isTrue, Toml.entries?]
      | string value | array items | table members =>
          simp only [Toml.Lists, Toml.entries?, Option.elim_some, iff_true]
          split <;> rfl

theorem isOk_listedAll_iff {vs : List Toml} :
    (listedAll vs).isOk = true ↔ ∀ v ∈ vs, v.Lists := by
  induction vs with
  | nil => simp [listedAll]
  | cons v rest ih =>
      have hv : (listed (some v)).isOk = true ↔ v.Lists := by simp [isOk_listed_iff]
      rw [List.forall_mem_cons, ← hv, ← ih, listedAll]
      cases listed (some v) with
      | error e => simp
      | ok items => cases listedAll rest <;> simp

/-- Whether the dependencies of a project, required and optional ones, are lists. -/
@[mk_iff projectLists_iff]
structure ProjectLists (project : List (Text × Toml)) : Prop where
  required : ∀ v ∈ Table.get? project "dependencies", v.Lists
  optional : ∀ groups, Table.get? project "optional-dependencies" = some (.table groups) →
    ∀ entry ∈ groups, entry.2.Lists

/-- The values of a table in a project. -/
theorem forall_mem_values_iff {project : List (Text × Toml)} {key : Text} :
    (∀ v ∈ (((Table.get? project key).bind Toml.members?).getD []).map (·.2), v.Lists) ↔
      ∀ groups, Table.get? project key = some (.table groups) →
        ∀ entry ∈ groups, entry.2.Lists := by
  cases Table.get? project key with
  | none => simp
  | some w =>
      cases w with
      | table groups =>
          simp only [Option.bind_some, Toml.members?, Option.getD_some, List.forall_mem_map,
            Option.some.injEq, Toml.table.injEq, forall_eq']
      | _ => simp [Toml.members?]

theorem isOk_projectNames_iff {v : Toml} :
    (projectNames v).isOk = true ↔
      ∀ project, v.member? "project" = some (.table project) → ProjectLists project := by
  rw [projectNames, isOk_map, projectEntries]
  split
  · rename_i project hproject
    simp only [hproject, Option.some.injEq, Toml.table.injEq, forall_eq']
    rw [projectLists_iff, ← isOk_listed_iff, ← forall_mem_values_iff, ← isOk_listedAll_iff]
    cases listed (Table.get? project "dependencies") with
    | error e => simp only [isOk_error, Bool.false_eq_true, false_and]
    | ok required =>
        simp only [isOk_ok, true_and]
        cases listedAll _ <;> rfl
  · rename_i hnone
    simp only [isOk_ok, true_iff]
    exact fun project h => (hnone project h).elim

/-! ## Manifests -/

/-- Whether the text of a project file is got over: if it is a document, then it meets no limit, its
dependencies are lists and its keywords can be written out. -/
@[mk_iff projectTolerable_iff]
structure ProjectTolerable [Host] (t : Text) : Prop where
  read : ∀ limit, Toml.parse t ≠ .error (.beyond limit)
  lists : ∀ v, Toml.parse t = .ok v → ∀ project, v.member? "project" = some (.table project) →
    ProjectLists project
  keywords : ∀ v, Toml.parse t = .ok v → ∀ project, v.member? "project" = some (.table project) →
    ∀ items, Table.get? project "keywords" = some (.array items) →
      PythonManifest.firstLimitMet? items = none

namespace PythonManifest

theorem isOk_part_iff {fs : FileSystem} {root : Location} {name : Text}
    {read : Text → Logged ManifestFailure PythonManifest} :
    (part fs root name read).result.isOk = true ↔
      Manifest.HeldWith fs root name fun t => (read t).result.isOk = true := by
  rw [part, Traced.result_bind, Manifest.result_text?, Manifest.isOk_bind_held_iff rfl]

variable [Host]

@[simp] theorem firstLimitMet?_nil : firstLimitMet? [] = none := rfl

/-- The limit that is met where the items of a list in a section are written out. -/
theorem firstLimitMet?_items_iff {v : Toml} {place key : Text} {limit : Limit} :
    firstLimitMet? ((((v.member? place).bind (·.member? key)).bind Toml.items?).getD []) =
        some limit ↔
      ∃ project items, v.member? place = some (.table project) ∧
        Table.get? project key = some (.array items) ∧ firstLimitMet? items = some limit := by
  cases v.member? place with
  | none => simp
  | some w =>
      cases w with
      | table project =>
          simp only [Option.bind_some, Toml.member?, Option.some.injEq, Toml.table.injEq,
            exists_and_left, exists_eq_left']
          cases Table.get? project key with
          | none => simp
          | some keywords => cases keywords <;> simp [Toml.items?]
      | _ => simp [Toml.member?]

theorem isOk_ofPipfile_iff {t : Text} :
    (ofPipfile t).result.isOk = true ↔ ∀ limit, Toml.parse t ≠ .error (.beyond limit) := by
  unfold ofPipfile
  split
  · rename_i h
    simp [h]
  · rename_i fault h
    simp [h, Manifest.unread_eq_ok_iff]

theorem isOk_ofProject_iff {t : Text} :
    (ofProject t).result.isOk = true ↔ ProjectTolerable t := by
  rw [projectTolerable_iff, ofProject]
  cases h : Toml.parse t with
  | error fault => simp [Manifest.unread_eq_ok_iff]
  | ok v =>
      have hkeywords : firstLimitMet? ((((v.member? "project").bind (·.member? "keywords")).bind
          Toml.items?).getD []) = none ↔
          ∀ project, v.member? "project" = some (.table project) →
            ∀ items, Table.get? project "keywords" = some (.array items) →
              firstLimitMet? items = none := by
        simp only [Option.eq_none_iff_forall_ne_some, ne_eq, firstLimitMet?_items_iff, not_exists,
          not_and]
        exact ⟨fun h project hproject items hitems limit => h limit project items hproject hitems,
          fun h limit project items hproject hitems => h project hproject items hitems limit⟩
      simp only [Except.ok.injEq, forall_eq', ← isOk_projectNames_iff, ← hkeywords]
      generalize firstLimitMet? _ = met
      cases projectNames v with
      | error e => simp [Traced.fail]
      | ok names =>
          cases met <;> simp only [Traced.fail, Traced.result_pure, Except.isOk, Except.toBool,
            reduceCtorEq, ne_eq, not_false_eq_true, implies_true, and_self, and_false]

theorem isOk_read_iff {fs : FileSystem} {root : Location} :
    (read fs root).result.isOk = true ↔
      (Manifest.held fs root "requirements.txt").isOk = true ∧
      Manifest.HeldWith fs root "Pipfile" (fun t => ∀ limit,
        Toml.parse t ≠ .error (.beyond limit)) ∧
      Manifest.HeldWith fs root "pyproject.toml" ProjectTolerable := by
  have hrequirements : (Manifest.held fs root "requirements.txt").isOk =
      (part fs root "requirements.txt" fun t => pure (ofRequirements t)).result.isOk := by
    rw [part, Traced.result_bind, Manifest.result_text?]
    rcases Manifest.held fs root "requirements.txt" with e | _ | t <;> rfl
  rw [hrequirements, ← Manifest.HeldWith.congr fun _ => isOk_ofPipfile_iff,
    ← Manifest.HeldWith.congr fun _ => isOk_ofProject_iff, ← isOk_part_iff, ← isOk_part_iff, read,
    Traced.result_bind]
  simp only [isOk_bind_iff, Traced.result_bind, Traced.result_pure, isOk_ok, and_true,
    ← isOk_iff_exists, exists_and_right]

end PythonManifest

/-- Whether the manifests of a folder are got over. -/
structure ManifestsTolerable [Host] (fs : FileSystem) (root : Location) : Prop where
  package : Manifest.HeldWith fs root "package.json" fun t =>
    ∀ limit, Json.parse t ≠ .error (.beyond limit)
  requirements : (Manifest.held fs root "requirements.txt").isOk = true
  pipfile : Manifest.HeldWith fs root "Pipfile" fun t =>
    ∀ limit, Toml.parse t ≠ .error (.beyond limit)
  project : Manifest.HeldWith fs root "pyproject.toml" ProjectTolerable

/-- The manifests of a folder, as all stages read them. -/
def bothManifests [Host] (fs : FileSystem) (root : Location) :
    Except ManifestFailure (PackageManifest × PythonManifest) :=
  (PackageManifest.read fs root).result.bind fun package =>
    (PythonManifest.read fs root).result.map fun python => (package, python)

theorem isOk_bothManifests_iff [Host] {fs : FileSystem} {root : Location} :
    (bothManifests fs root).isOk = true ↔ ManifestsTolerable fs root := by
  simp only [bothManifests, isOk_bind_iff, isOk_map, ← isOk_iff_exists, exists_and_right]
  rw [PackageManifest.isOk_read_iff, PythonManifest.isOk_read_iff]
  exact ⟨fun ⟨hpackage, hrequirements, hpipfile, hproject⟩ =>
      ⟨hpackage, hrequirements, hpipfile, hproject⟩,
    fun h => ⟨h.package, h.requirements, h.pipfile, h.project⟩⟩

/-! ## Stages that read manifests -/

/-- The detection of technologies fails as its manifests do, and otherwise cannot fail. -/
theorem TechnologyProfile.result_detect [Host] {α : Type} [Quantity α] (fs : FileSystem)
    (root : Location) (files : List Text) :
    (detect fs root files : Logged ManifestFailure (TechnologyProfile α)).result =
      (bothManifests fs root).map fun m => ofEvidence files ⟨m.1, m.2, fs.present root⟩ := by
  rw [detect, bothManifests]
  simp only [Traced.result_bind, Traced.result_noteAll, Traced.result_note, Traced.result_pure]
  cases (PackageManifest.read fs root).result with
  | error e => rfl
  | ok package => cases (PythonManifest.read fs root).result <;> rfl

/-- The layout fails to be inferred as its manifests fail to be read, and otherwise cannot fail. -/
theorem Layout.result_infer [Host] (α : Type) [Quantity α] (fs : FileSystem)
    (root : Location) (s : Settings) (read : Text → Except ReadFailure Text) (files : List Text) :
    (infer α fs root s read files).result = (bothManifests fs root).map fun m =>
      ofSurroundings ⟨m.1, m.2, fs.hasMarker root⟩
        (sampledCommentRatio read s.documentationSampleLimit files : Option α) := by
  rw [infer, bothManifests]
  simp only [Traced.result_bind, Traced.result_noteAll, Traced.result_note, Traced.result_pure]
  cases (PackageManifest.read fs root).result with
  | error e => rfl
  | ok package => cases (PythonManifest.read fs root).result <;> rfl

end CodeSurvey
