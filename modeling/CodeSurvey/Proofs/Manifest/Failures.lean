import CodeSurvey.Host.Standard
import CodeSurvey.Proofs.Manifest.Outcome
import CodeSurvey.Proofs.Text.Lower
import Mathlib.Control.Monad.Basic
import Mathlib.Logic.Basic

/-!
# How reading the Python manifests ends

The Python manifests of a folder are read, or reading them fails in one of three ways: something
that should list dependencies lists nothing, a limit of the interpreter is met, or the system
refuses to look for one of them. Which of these happens is told by the texts of the two manifests
that are TOML documents, the Pipfile being read first. The names that are read are never that of the
interpreter, and one is empty only if a table of the Pipfile has an empty key.

## Main definitions

* `Toml.Unlistable v`: whether `v` is given and lists nothing.
* `ProjectUnlistable t`: whether a project file gives such a value where dependencies are listed.
* `ProjectBeyond limit t`: whether a project file meets a limit.
* `PythonManifest.ReachesProject fs root`: whether reading gets as far as the project file.
* `PythonManifest.EmptyKey t`: whether a table of a Pipfile has an empty key.
-/

namespace CodeSurvey

/-! ## Values that list nothing -/

/-- Whether a value counts as given and yet lists nothing: it is a number other than zero, the truth
value that holds, or a moment. -/
inductive Toml.Unlistable : Toml → Prop
  | bool : Unlistable (.bool true)
  | int {n : Int} (h : n ≠ 0) : Unlistable (.int n)
  | decimal {spelling : Text} (h : (Double.ofSpelling spelling == 0) = false) :
      Unlistable (.decimal spelling)
  | moment (m : Toml.Moment) : Unlistable (.moment m)

theorem Toml.unlistable_iff {v : Toml} : v.Unlistable ↔ ¬v.Lists := by
  constructor
  · rintro (_ | h | h | _) hlists
    · simp [Lists] at hlists
    · exact h hlists
    · simp [Lists, h] at hlists
    · exact hlists
  · intro h
    cases v with
    | bool value =>
        cases value with
        | false => simp [Lists] at h
        | true => exact .bool
    | int n => exact .int h
    | decimal spelling => exact .decimal (Bool.eq_false_iff.2 h)
    | moment m => exact .moment m
    | string | array | table => simp [Lists] at h

/-- Whether a project file is a document that gives its project, as dependencies or in a group of
optional ones, a value that lists nothing. -/
def ProjectUnlistable [Host] (t : Text) : Prop :=
  ∃ v project, Toml.parse t = .ok v ∧ v.member? "project" = some (.table project) ∧
    ((∃ w, Table.get? project "dependencies" = some w ∧ w.Unlistable) ∨
      ∃ groups, Table.get? project "optional-dependencies" = some (.table groups) ∧
        ∃ entry ∈ groups, entry.2.Unlistable)

/-- Whether a project file meets a limit where it is read, or where the keywords of its project are
written out. -/
def ProjectBeyond [Host] (limit : Limit) (t : Text) : Prop :=
  Toml.parse t = .error (.beyond limit) ∨
    ∃ v project items, Toml.parse t = .ok v ∧ v.member? "project" = some (.table project) ∧
      Table.get? project "keywords" = some (.array items) ∧
      PythonManifest.firstLimitMet? items = some limit

theorem not_projectLists_iff {project : List (Text × Toml)} : ¬ProjectLists project ↔
    (∃ w, Table.get? project "dependencies" = some w ∧ w.Unlistable) ∨
      ∃ groups, Table.get? project "optional-dependencies" = some (.table groups) ∧
        ∃ entry ∈ groups, entry.2.Unlistable := by
  rw [projectLists_iff, not_and_or]
  simp only [Toml.unlistable_iff, not_forall, exists_prop, Option.mem_def]

/-! ## Failures of a project file -/

section Project

variable {e : ManifestFailure}

theorem eq_notAList_of_listed {v : Option Toml} (h : listed v = .error e) : e = .notAList := by
  cases v with
  | none => cases h
  | some v =>
      simp only [listed] at h
      split at h
      · cases hentries : v.entries? with
        | none =>
            rw [hentries] at h
            exact (Except.error.inj h).symm
        | some items =>
            rw [hentries] at h
            cases h
      · cases h

theorem eq_notAList_of_listedAll {vs : List Toml} (h : listedAll vs = .error e) :
    e = .notAList := by
  induction vs with
  | nil => cases h
  | cons v vs ih =>
      rw [listedAll] at h
      cases hv : listed (some v) with
      | error e' =>
          rw [hv] at h
          obtain rfl := Except.error.inj h
          exact eq_notAList_of_listed hv
      | ok items =>
          cases hvs : listedAll vs with
          | error e' =>
              simp only [hv, hvs] at h
              exact ih (hvs.trans h)
          | ok more =>
              simp only [hv, hvs] at h
              cases h

/-- The names of a project fail to be read only as lists. -/
theorem eq_notAList_of_projectNames {v : Toml} (h : projectNames v = .error e) :
    e = .notAList := by
  rw [projectNames, map_eq_error_iff, projectEntries] at h
  split at h
  · rename_i project hproject
    cases hrequired : listed (Table.get? project "dependencies") with
    | error e' =>
        rw [hrequired] at h
        obtain rfl := Except.error.inj h
        exact eq_notAList_of_listed hrequired
    | ok required =>
        rw [hrequired] at h
        simp only at h
        split at h
        · rename_i e' hoptional
          obtain rfl := Except.error.inj h
          exact eq_notAList_of_listedAll hoptional
        · cases h
  · cases h

end Project

/-! ## Names -/

theorem nil_not_mem_namesOf (entries : List Text) : [] ∉ namesOf entries := by
  simp [namesOf, Text.lower_eq_nil_iff]

theorem nil_not_mem_projectNames {v : Toml} {names : List Text} (h : projectNames v = .ok names) :
    [] ∉ names := by
  rw [projectNames, map_eq_ok_iff] at h
  obtain ⟨entries, -, rfl⟩ := h
  exact nil_not_mem_namesOf _

theorem nil_mem_pipfileNames_iff {v : Toml} : [] ∈ pipfileNames v ↔
    [] ∈ tableNames (v.member? "packages") ∨ [] ∈ tableNames (v.member? "dev-packages") := by
  simp only [pipfileNames, List.mem_map, List.mem_append, Text.lower_eq_nil_iff, exists_eq_right]

/-! ## Single manifests -/

theorem Manifest.unread_eq_error_iff {α : Type} {name language : Text} {fault : ParseFault} {a : α}
    {e : ManifestFailure} : (unread name language fault a).result = .error e ↔
      ∃ limit, e = .beyond limit ∧ fault = .beyond limit := by
  cases fault with
  | malformed => simp [unread, ignore]
  | beyond limit => simp [unread, Traced.fail, eq_comm]

namespace PythonManifest

section Texts

variable [Host] {t : Text} {e : ManifestFailure}

/-- A Pipfile that is not got over meets a limit. -/
theorem ofPipfile_eq_error_iff : (ofPipfile t).result = .error e ↔
    ∃ limit, e = .beyond limit ∧ Toml.parse t = .error (.beyond limit) := by
  rw [ofPipfile]
  cases Toml.parse t with
  | error fault => simp [Manifest.unread_eq_error_iff]
  | ok v => simp

theorem projectUnlistable_iff {v : Toml} (h : Toml.parse t = .ok v) :
    ProjectUnlistable t ↔ projectNames v = .error .notAList := by
  have hfails : projectNames v = .error .notAList ↔ (projectNames v).isOk = false := by
    cases hnames : projectNames v with
    | error e => simp [eq_notAList_of_projectNames hnames]
    | ok names => simp
  rw [hfails, ← Bool.not_eq_true, isOk_projectNames_iff, ProjectUnlistable]
  simp only [← not_projectLists_iff, h, Except.ok.injEq, not_forall, exists_prop,
    exists_and_left, exists_eq_left']

theorem projectBeyond_iff {v : Toml} (h : Toml.parse t = .ok v) {limit : Limit} :
    ProjectBeyond limit t ↔
      firstLimitMet? ((((v.member? "project").bind (·.member? "keywords")).bind
        Toml.items?).getD []) = some limit := by
  rw [firstLimitMet?_items_iff, ProjectBeyond]
  simp only [h, Except.ok.injEq, reduceCtorEq, false_or, exists_and_left, exists_eq_left']

/-- A project file that is not got over gives a value that lists nothing, or meets a limit. -/
theorem ofProject_eq_error_iff : (ofProject t).result = .error e ↔
    e = .notAList ∧ ProjectUnlistable t ∨
      ∃ limit, e = .beyond limit ∧ ¬ProjectUnlistable t ∧ ProjectBeyond limit t := by
  rw [ofProject]
  cases hparse : Toml.parse t with
  | error fault =>
      have hlistable : ¬ProjectUnlistable t := by simp [ProjectUnlistable, hparse]
      simp [Manifest.unread_eq_error_iff, hlistable, ProjectBeyond, hparse]
  | ok v =>
      simp only [projectUnlistable_iff hparse, projectBeyond_iff hparse]
      generalize firstLimitMet? _ = met
      cases hnames : projectNames v with
      | error e =>
          obtain rfl := eq_notAList_of_projectNames hnames
          simp [Traced.fail, eq_comm]
      | ok names =>
          cases met with
          | none => simp only [Traced.result_pure, reduceCtorEq, and_false, exists_false, or_self]
          | some limit => simp [Traced.fail, eq_comm]

theorem nil_not_mem_of_ofProject {m : PythonManifest} (h : (ofProject t).result = .ok m) :
    [] ∉ m.dependencies := by
  rw [ofProject] at h
  split at h
  · rename_i v hparse
    cases hnames : projectNames v with
    | error e => simp [hnames, Traced.fail] at h
    | ok names =>
        simp only [hnames] at h
        split at h
        · simp [Traced.fail] at h
        · obtain rfl := Except.ok.inj h
          exact nil_not_mem_projectNames hnames
  · rename_i fault _
    cases fault with
    | malformed =>
        obtain rfl := Except.ok.inj h
        exact List.not_mem_nil
    | beyond limit => simp [Manifest.unread, Traced.fail] at h

/-- Whether a Pipfile has an empty key where it names packages. -/
def EmptyKey (t : Text) : Prop :=
  ∃ v, Toml.parse t = .ok v ∧
    ([] ∈ tableNames (v.member? "packages") ∨ [] ∈ tableNames (v.member? "dev-packages"))

theorem nil_mem_of_ofPipfile_iff {m : PythonManifest} (h : (ofPipfile t).result = .ok m) :
    [] ∈ m.dependencies ↔ EmptyKey t := by
  rw [ofPipfile] at h
  rw [EmptyKey]
  split at h
  · rename_i v hparse
    obtain rfl := Except.ok.inj h
    simp only [hparse, Except.ok.injEq, exists_eq_left', nil_mem_pipfileNames_iff]
  · rename_i fault hparse
    cases fault with
    | malformed =>
        obtain rfl := Except.ok.inj h
        simp [hparse]
    | beyond limit => simp [Manifest.unread, Traced.fail] at h

end Texts

/-! ## Manifests of a folder -/

/-- How reading a manifest ends that is held in some way; one that is absent says nothing. -/
def partOf (read : Text → Logged ManifestFailure PythonManifest)
    (held : Except ManifestFailure (Option Text)) : Except ManifestFailure PythonManifest :=
  held.bind fun t => t.elim (.ok {}) fun t => (read t).result

section Parts

variable {read : Text → Logged ManifestFailure PythonManifest}
  {held : Except ManifestFailure (Option Text)} {e : ManifestFailure}

@[simp] theorem partOf_none : partOf read (.ok none) = .ok {} := rfl

theorem result_part {fs : FileSystem} {root : Location} {name : Text} :
    (part fs root name read).result = partOf read (Manifest.held fs root name) := by
  rw [part, Traced.result_bind, Manifest.result_text?]
  rcases Manifest.held fs root name with e | _ | t <;> rfl

/-- A part fails where the manifest is not looked for, or where its text is not got over. -/
theorem partOf_eq_error_iff : partOf read held = .error e ↔
    held = .error e ∨ ∃ t, held = .ok (some t) ∧ (read t).result = .error e := by
  rcases held with e | _ | t <;> simp [partOf, Except.bind]

theorem partOf_eq_ok_iff {m : PythonManifest} : partOf read held = .ok m ↔
    held = .ok none ∧ m = {} ∨ ∃ t, held = .ok (some t) ∧ (read t).result = .ok m := by
  rcases held with e | _ | t <;> simp [partOf, Except.bind, eq_comm]

theorem isOk_partOf_iff {fs : FileSystem} {root : Location} {name : Text} :
    (partOf read (Manifest.held fs root name)).isOk = true ↔
      Manifest.HeldWith fs root name fun t => (read t).result.isOk = true := by
  rw [← result_part, isOk_part_iff]

end Parts

/-- A list of requirements is always got over. -/
theorem partOf_ofRequirements_eq_error_iff {held : Except ManifestFailure (Option Text)}
    {e : ManifestFailure} :
    partOf (fun t => pure (ofRequirements t)) held = .error e ↔ held = .error e := by
  simp [partOf_eq_error_iff]

/-- Three parts put together, without repetitions and without the interpreter. -/
def joined (requirements pipfile project : PythonManifest) : PythonManifest :=
  let all := (requirements.append pipfile).append project
  { all with
    dependencies := Text.sort (all.dependencies.filter (· != "python".toList)).eraseDups }

theorem mem_dependencies_joined {a b c : PythonManifest} {n : Text} :
    n ∈ (joined a b c).dependencies ↔
      (n ∈ a.dependencies ∨ n ∈ b.dependencies ∨ n ∈ c.dependencies) ∧ n ≠ "python".toList := by
  simp only [joined, Text.sort, List.mem_mergeSort, List.mem_eraseDups, List.mem_filter, append,
    List.mem_append, bne_iff_ne, or_assoc]

section Folders

variable [Host] {fs : FileSystem} {root : Location} {m : PythonManifest} {e : ManifestFailure}

/-- Reading gives the three parts put together, or fails as the first of them that fails. -/
theorem result_read (fs : FileSystem) (root : Location) : (read fs root).result =
    (partOf (fun t => pure (ofRequirements t)) (Manifest.held fs root "requirements.txt")).bind
      fun requirements => (partOf ofPipfile (Manifest.held fs root "Pipfile")).bind fun pipfile =>
        (partOf ofProject (Manifest.held fs root "pyproject.toml")).map fun project =>
          joined requirements pipfile project := by
  simp only [read, Traced.result_bind, result_part, Traced.result_pure, bind_ok_eq_map]
  rfl

theorem read_eq_ok_iff : (read fs root).result = .ok m ↔ ∃ requirements pipfile project,
    partOf (fun t => pure (ofRequirements t)) (Manifest.held fs root "requirements.txt") =
        .ok requirements ∧
      partOf ofPipfile (Manifest.held fs root "Pipfile") = .ok pipfile ∧
      partOf ofProject (Manifest.held fs root "pyproject.toml") = .ok project ∧
      joined requirements pipfile project = m := by
  simp only [result_read, bind_eq_ok_iff, map_eq_ok_iff, exists_and_left]

/-- Whether reading gets as far as the project file: the system looks for the requirements, and the
Pipfile is got over. -/
structure ReachesProject (fs : FileSystem) (root : Location) : Prop where
  requirements : (Manifest.held fs root "requirements.txt").isOk = true
  pipfile : Manifest.HeldWith fs root "Pipfile" fun t =>
    ∀ limit, Toml.parse t ≠ .error (.beyond limit)

/-- The parts fail one after the other. -/
theorem read_eq_error_iff : (read fs root).result = .error e ↔
    Manifest.held fs root "requirements.txt" = .error e ∨
      (Manifest.held fs root "requirements.txt").isOk = true ∧
        partOf ofPipfile (Manifest.held fs root "Pipfile") = .error e ∨
      ReachesProject fs root ∧
        partOf ofProject (Manifest.held fs root "pyproject.toml") = .error e := by
  have hreaches : ReachesProject fs root ↔
      (Manifest.held fs root "requirements.txt").isOk = true ∧
        (partOf ofPipfile (Manifest.held fs root "Pipfile")).isOk = true := by
    rw [isOk_partOf_iff, Manifest.HeldWith.congr fun _ => isOk_ofPipfile_iff]
    exact ⟨fun h => ⟨h.requirements, h.pipfile⟩, fun h => ⟨h.1, h.2⟩⟩
  have hrequirements :
      (partOf (fun t => pure (ofRequirements t)) (Manifest.held fs root "requirements.txt")).isOk =
        (Manifest.held fs root "requirements.txt").isOk := by
    rcases Manifest.held fs root "requirements.txt" with e | _ | t <;> rfl
  rw [hreaches, ← hrequirements, ← partOf_ofRequirements_eq_error_iff]
  simp only [result_read, bind_eq_error_iff, map_eq_error_iff, exists_and_right, ← isOk_iff_exists]
  rw [and_or_left, and_assoc]

theorem read_eq_notAList_iff : (read fs root).result = .error .notAList ↔
    ReachesProject fs root ∧
      ∃ t, Manifest.held fs root "pyproject.toml" = .ok (some t) ∧ ProjectUnlistable t := by
  simp [read_eq_error_iff, partOf_eq_error_iff, ofPipfile_eq_error_iff, ofProject_eq_error_iff,
    Manifest.held_ne_error]

theorem read_eq_beyond_iff {limit : Limit} : (read fs root).result = .error (.beyond limit) ↔
    (Manifest.held fs root "requirements.txt").isOk = true ∧
        (∃ t, Manifest.held fs root "Pipfile" = .ok (some t) ∧
          Toml.parse t = .error (.beyond limit)) ∨
      ReachesProject fs root ∧ ∃ t, Manifest.held fs root "pyproject.toml" = .ok (some t) ∧
        ¬ProjectUnlistable t ∧ ProjectBeyond limit t := by
  simp [read_eq_error_iff, partOf_eq_error_iff, ofPipfile_eq_error_iff, ofProject_eq_error_iff,
    Manifest.held_ne_error]

theorem read_eq_refused_iff {refusal : OsError} :
    (read fs root).result = .error (.refused refusal) ↔
      Manifest.held fs root "requirements.txt" = .error (.refused refusal) ∨
      (Manifest.held fs root "requirements.txt").isOk = true ∧
        Manifest.held fs root "Pipfile" = .error (.refused refusal) ∨
      ReachesProject fs root ∧
        Manifest.held fs root "pyproject.toml" = .error (.refused refusal) := by
  simp [read_eq_error_iff, partOf_eq_error_iff, ofPipfile_eq_error_iff, ofProject_eq_error_iff]

/-- There is a manifest if nothing that is read before the project file fails, and that lists what
it should list and meets no limit. -/
theorem exists_read_eq_ok_iff : (∃ m, (read fs root).result = .ok m) ↔
    ReachesProject fs root ∧ Manifest.HeldWith fs root "pyproject.toml" fun t =>
      ¬ProjectUnlistable t ∧ ∀ limit, ¬ProjectBeyond limit t := by
  have hproject : ∀ t, ¬ProjectUnlistable t ∧ (∀ limit, ¬ProjectBeyond limit t) ↔
      (ofProject t).result.isOk = true := by
    intro t
    rw [← not_iff_not, not_isOk_iff]
    simp only [ofProject_eq_error_iff, not_and_or, not_not, not_forall]
    constructor
    · rintro (h | ⟨limit, h⟩)
      · exact ⟨_, .inl ⟨rfl, h⟩⟩
      · by_cases hlist : ProjectUnlistable t
        · exact ⟨_, .inl ⟨rfl, hlist⟩⟩
        · exact ⟨_, .inr ⟨limit, rfl, hlist, h⟩⟩
    · rintro ⟨_, ⟨-, h⟩ | ⟨limit, -, -, h⟩⟩
      · exact .inl h
      · exact .inr ⟨limit, h⟩
  rw [← isOk_iff_exists, isOk_read_iff, Manifest.HeldWith.congr hproject,
    Manifest.HeldWith.congr fun _ => isOk_ofProject_iff]
  exact ⟨fun ⟨h, hpipfile, hproject⟩ => ⟨⟨h, hpipfile⟩, hproject⟩,
    fun ⟨h, hproject⟩ => ⟨h.requirements, h.pipfile, hproject⟩⟩

/-- The names that are read are never that of the interpreter, and an empty one comes from an empty
key. -/
theorem names_of_read_eq_ok (h : (read fs root).result = .ok m) : "python".toList ∉ m.dependencies ∧
    ([] ∈ m.dependencies ↔
      ∃ t, Manifest.held fs root "Pipfile" = .ok (some t) ∧ EmptyKey t) := by
  obtain ⟨requirements, pipfile, project, hrequirements, hpipfile, hproject, rfl⟩ :=
    read_eq_ok_iff.1 h
  have hnone : [] ∉ requirements.dependencies := by
    obtain ⟨-, rfl⟩ | ⟨t, -, ht⟩ := partOf_eq_ok_iff.1 hrequirements
    · exact List.not_mem_nil
    · obtain rfl := Except.ok.inj ht
      exact nil_not_mem_namesOf _
  have hproject : [] ∉ project.dependencies := by
    obtain ⟨-, rfl⟩ | ⟨t, -, ht⟩ := partOf_eq_ok_iff.1 hproject
    · exact List.not_mem_nil
    · exact nil_not_mem_of_ofProject ht
  have hempty : [] ∈ pipfile.dependencies ↔
      ∃ t, Manifest.held fs root "Pipfile" = .ok (some t) ∧ EmptyKey t := by
    obtain ⟨hheld, rfl⟩ | ⟨t, hheld, ht⟩ := partOf_eq_ok_iff.1 hpipfile
    · rw [hheld]
      simp
    · rw [hheld]
      simp [nil_mem_of_ofPipfile_iff ht]
  rw [mem_dependencies_joined, mem_dependencies_joined, ← hempty]
  simp [hnone, hproject]

/-- Reading the Python manifests of a folder fails for want of a list exactly if it gets as far as
the project file and that gives a value that lists nothing where dependencies are listed. It fails
because of a limit exactly if the Pipfile meets the limit, or a project file does that it gets to
and that has no such value; and it fails because of the system exactly if that refuses to look for a
manifest that it gets to. Otherwise there is a manifest; it never names the interpreter, and has an
empty name only if the Pipfile has an empty key. -/
theorem read_outcome (fs : FileSystem) (root : Location) :
    let outcome := (read fs root).result
    let requirements := Manifest.held fs root "requirements.txt"
    let pipfile := Manifest.held fs root "Pipfile"
    let project := Manifest.held fs root "pyproject.toml"
    (outcome = .error .notAList ↔
        ReachesProject fs root ∧ ∃ t, project = .ok (some t) ∧ ProjectUnlistable t) ∧
      (∀ limit, outcome = .error (.beyond limit) ↔
        requirements.isOk = true ∧
            (∃ t, pipfile = .ok (some t) ∧ Toml.parse t = .error (.beyond limit)) ∨
          ReachesProject fs root ∧
            ∃ t, project = .ok (some t) ∧ ¬ProjectUnlistable t ∧ ProjectBeyond limit t) ∧
      (∀ e, outcome = .error (.refused e) ↔
        requirements = .error (.refused e) ∨
          requirements.isOk = true ∧ pipfile = .error (.refused e) ∨
          ReachesProject fs root ∧ project = .error (.refused e)) ∧
      ((∃ m, outcome = .ok m) ↔
        ReachesProject fs root ∧ Manifest.HeldWith fs root "pyproject.toml" fun t =>
          ¬ProjectUnlistable t ∧ ∀ limit, ¬ProjectBeyond limit t) ∧
      ∀ m, outcome = .ok m → "python".toList ∉ m.dependencies ∧
        ([] ∈ m.dependencies ↔ ∃ t, pipfile = .ok (some t) ∧ EmptyKey t) :=
  ⟨read_eq_notAList_iff, fun _ => read_eq_beyond_iff, fun _ => read_eq_refused_iff,
    exists_read_eq_ok_iff, fun _ => names_of_read_eq_ok⟩

end Folders

/-! ## Two folders -/

section Instances

attribute [local instance] Host.standard

/-- A folder with all three manifests, which name the same package, and one of them the interpreter
too. -/
def declaring : FileSystem where
  top := [("Pipfile", .file (Utf8.encode "[packages]\nFlask = '*'\n".toList)),
    ("pyproject.toml", .file (Utf8.encode "[project]\ndependencies = ['flask ~= 2']\n".toList)),
    ("requirements.txt", .file (Utf8.encode "Python>=3\nflask\n".toList))]

/-- The package is all that is read of the three manifests. -/
theorem names_of_declaring :
    ReachesProject declaring [] ∧
    (Manifest.HeldWith declaring [] "pyproject.toml" fun t =>
      ¬ProjectUnlistable t ∧ ∀ limit, ¬ProjectBeyond limit t) ∧
    ∃ m, (read declaring []).result = .ok m ∧
      m.dependencies = ["flask".toList] ∧
      "python".toList ∉ m.dependencies ∧
      ¬∃ t, Manifest.held declaring [] "Pipfile" = .ok (some t) ∧ EmptyKey t := by
  have hread : (read declaring []).result = .ok {
      dependencies := ["flask"]
      sources := ["requirements.txt", "Pipfile", "pyproject.toml"] } := by
    decide +kernel
  obtain ⟨-, -, -, hiff, hnames⟩ := read_outcome declaring []
  obtain ⟨hreaches, hproject⟩ := hiff.1 ⟨_, hread⟩
  obtain ⟨hpython, hempty⟩ := hnames _ hread
  exact ⟨hreaches, hproject, _, hread, rfl, hpython, fun h => by simpa using hempty.2 h⟩

/-- The text of a project file that gives a keyword as an integer, in hexadecimal digits, which has
4302 decimal digits. -/
def longKeyword : Text :=
  "[project]\nkeywords = [0x1".toList ++ List.replicate 3572 '0' ++ "]\n".toList

theorem textOf_encode (t : Text) :
    FileSystem.textOf (Utf8.encode t) = .ok (Text.unifyNewlines t) := by
  simp only [FileSystem.textOf, Utf8.decode?_encode]

/-- A folder in which that project file is the only manifest. -/
def keyworded : FileSystem where
  top := [("pyproject.toml", .file (Utf8.encode longKeyword))]

/-- The only manifest gives nothing where dependencies are listed that lists nothing, and yet there
is no manifest read. -/
theorem no_manifest_of_longKeyword :
    Manifest.held keyworded [] "requirements.txt" = .ok none ∧
      Manifest.held keyworded [] "Pipfile" = .ok none ∧
      Manifest.held keyworded [] "pyproject.toml" = .ok (some longKeyword) ∧
      ¬ProjectUnlistable longKeyword ∧
      (read keyworded []).result = .error (.beyond .digits) := by
  have hrequirements : Manifest.held keyworded [] "requirements.txt" = .ok none := rfl
  have hpipfile : Manifest.held keyworded [] "Pipfile" = .ok none := rfl
  have hproject : Manifest.held keyworded [] "pyproject.toml" = .ok (some longKeyword) := by
    have hunified : Text.unifyNewlines longKeyword = longKeyword := by decide +kernel
    have hheld : Manifest.held keyworded [] "pyproject.toml" =
        .ok (some ((FileSystem.textOf (Utf8.encode longKeyword)).toOption.getD [])) := rfl
    rw [hheld, textOf_encode, hunified]
    rfl
  have hfails : (ofProject longKeyword).result = .error (.beyond .digits) := by decide +kernel
  have hlistable : ¬ProjectUnlistable longKeyword := by
    obtain ⟨h, -⟩ | ⟨limit, -, h, -⟩ := ofProject_eq_error_iff.1 hfails
    · simp at h
    · exact h
  refine ⟨hrequirements, hpipfile, hproject, hlistable, ?_⟩
  rw [result_read, hrequirements, hpipfile, hproject]
  simp [partOf, Except.bind, Except.map, hfails]

end Instances

end PythonManifest

end CodeSurvey
