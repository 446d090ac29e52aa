import CodeSurvey.Proofs.Manifest.Failures
import CodeSurvey.Proofs.Text.Boundaries

/-!
# Manifests do not disturb each other

What is read of the Python manifests of a folder is what is read of each alone, put together; the
description and the keywords come from the project file. A manifest that is not understood is read
as if it were not there. The limits of the interpreter make an exception: where one is met there is
no document either, but the failure is not got over, and it ends the reading of all manifests of its
kind.

## Main definitions

* `Folder`, `Folder.package`, `Folder.python`: how reading the manifests of a folder ends.
* `Folder.HoldsOnly name d e`: the folder `e` has one Python manifest of `d` and no other one.
* `Folder.LacksOnly name d e`: the folder `e` has all Python manifests of `d` but one.
* `Folder.PackageUnusable d`: the package manifest of `d` is nothing that could be read.
-/

namespace CodeSurvey

/-- A folder of a file system. -/
structure Folder where
  fs : FileSystem
  root : Location

namespace Folder

/-! ## Folders and their manifests -/

/-- How looking for a manifest of the folder ends. -/
def held (d : Folder) (name : Text) : Except ManifestFailure (Option Text) :=
  Manifest.held d.fs d.root name

/-- How reading the package manifest of the folder ends. -/
def package [Host] (d : Folder) : Except ManifestFailure PackageManifest :=
  (PackageManifest.read d.fs d.root).result

/-- How reading the Python manifests of the folder ends. -/
def python [Host] (d : Folder) : Except ManifestFailure PythonManifest :=
  (PythonManifest.read d.fs d.root).result

/-- The names of the Python manifests. -/
def pythonManifests : List Text := ["requirements.txt", "Pipfile", "pyproject.toml"]

/-- The names of those that are TOML documents. -/
def tomlManifests : List Text := ["Pipfile", "pyproject.toml"]

/-- A folder has the Python manifest of one name as another folder has it, and no other one. -/
structure HoldsOnly (name : Text) (d e : Folder) : Prop where
  same : e.held name = d.held name
  absent : ∀ other ∈ pythonManifests, other ≠ name → e.held other = .ok none

/-- A folder has the Python manifests that another folder has, but not the one of a name. -/
structure LacksOnly (name : Text) (d e : Folder) : Prop where
  absent : e.held name = .ok none
  same : ∀ other ∈ pythonManifests, other ≠ name → e.held other = d.held other

/-- Whether there is a package manifest that is no UTF-8, no JSON document or no object. -/
inductive PackageUnusable [Host] (d : Folder) : Prop
  | undecodable {l : Location} {content : ByteArray} {fault : Utf8.Fault}
      (stands : d.fs.ask d.root "package.json" = .ok (l, .file content))
      (undecoded : FileSystem.textOf content = .error fault)
  | malformed {t : Text} (held : d.held "package.json" = .ok (some t))
      (rejected : Json.parse t = .error .malformed)
  | notObject {t : Text} {v : Json} (held : d.held "package.json" = .ok (some t))
      (parsed : Json.parse t = .ok v) (noMembers : v.members? = none)

section Reading

variable [Host] {d e : Folder} {m : PythonManifest} {t : Text} {limit : Limit}

/-! ## The package manifest -/

theorem package_eq (d : Folder) : d.package = (d.held "package.json").bind fun t =>
    t.elim (.ok {}) fun t => (PackageManifest.ofText t).result := by
  rw [package, PackageManifest.read, Traced.result_bind, Manifest.result_text?, held]
  rcases Manifest.held d.fs d.root "package.json" with e | _ | t <;> rfl

theorem package_of_absent (h : d.held "package.json" = .ok none) : d.package = .ok {} := by
  rw [package_eq, h]
  rfl

theorem package_of_held (h : d.held "package.json" = .ok (some t)) :
    d.package = (PackageManifest.ofText t).result := by
  rw [package_eq, h]
  rfl

theorem package_of_unusable (h : d.PackageUnusable) : d.package = .ok {} := by
  rcases h with ⟨hstands, hundecoded⟩ | ⟨hheld, hrejected⟩ | ⟨hheld, hparsed, hmembers⟩
  · -- A text that cannot be decoded is read as the empty one, which is no document.
    have hheld : d.held "package.json" = .ok (some []) := by
      rw [held, Manifest.held, hstands]
      simp only [hundecoded, Except.toOption, Option.getD_none]
    rw [package_of_held hheld]
    rfl
  · rw [package_of_held hheld, PackageManifest.ofText, hrejected]
    rfl
  · rename_i v
    rw [package_of_held hheld, PackageManifest.ofText, hparsed]
    cases v with
    | object members => simp [Json.members?] at hmembers
    | _ => rfl

theorem package_of_beyond (hheld : d.held "package.json" = .ok (some t))
    (ht : Json.parse t = .error (.beyond limit)) : d.package = .error (.beyond limit) := by
  rw [package_of_held hheld, PackageManifest.ofText, ht]
  rfl

/-! ## The Python manifests -/

open PythonManifest

theorem python_eq (d : Folder) : d.python =
    (partOf (fun t => pure (ofRequirements t)) (d.held "requirements.txt")).bind fun requirements =>
      (partOf ofPipfile (d.held "Pipfile")).bind fun pipfile =>
        (partOf ofProject (d.held "pyproject.toml")).map fun project =>
          joined requirements pipfile project :=
  result_read d.fs d.root

theorem python_eq_ok_iff : d.python = .ok m ↔ ∃ requirements pipfile project,
    partOf (fun t => pure (ofRequirements t)) (d.held "requirements.txt") = .ok requirements ∧
      partOf ofPipfile (d.held "Pipfile") = .ok pipfile ∧
      partOf ofProject (d.held "pyproject.toml") = .ok project ∧
      joined requirements pipfile project = m :=
  read_eq_ok_iff

/-- If the Python manifests are read together, they are read alone, and together they say what they
say alone. -/
theorem python_union (h : d.python = .ok m) {r p j : Folder}
    (hr : HoldsOnly "requirements.txt" d r) (hp : HoldsOnly "Pipfile" d p)
    (hj : HoldsOnly "pyproject.toml" d j) :
    ∃ requirements pipfile project, r.python = .ok requirements ∧ p.python = .ok pipfile ∧
      j.python = .ok project ∧
      (∀ n, n ∈ m.dependencies ↔ n ∈ requirements.dependencies ∨ n ∈ pipfile.dependencies ∨
        n ∈ project.dependencies) ∧
      m.sources = requirements.sources ++ pipfile.sources ++ project.sources := by
  obtain ⟨a, b, c, ha, hb, hc, rfl⟩ := python_eq_ok_iff.1 h
  have hrequirements : r.python = .ok (joined a {} {}) := python_eq_ok_iff.2 ⟨a, {}, {},
    by rw [hr.same, ha], by rw [hr.absent "Pipfile" (by decide) (by decide), partOf_none],
    by rw [hr.absent "pyproject.toml" (by decide) (by decide), partOf_none], rfl⟩
  have hpipfile : p.python = .ok (joined {} b {}) := python_eq_ok_iff.2 ⟨{}, b, {},
    by rw [hp.absent "requirements.txt" (by decide) (by decide), partOf_none], by rw [hp.same, hb],
    by rw [hp.absent "pyproject.toml" (by decide) (by decide), partOf_none], rfl⟩
  have hproject : j.python = .ok (joined {} {} c) := python_eq_ok_iff.2 ⟨{}, {}, c,
    by rw [hj.absent "requirements.txt" (by decide) (by decide), partOf_none],
    by rw [hj.absent "Pipfile" (by decide) (by decide), partOf_none], by rw [hj.same, hc], rfl⟩
  refine ⟨_, _, _, hrequirements, hpipfile, hproject, fun n => ?_, ?_⟩
  · simp only [mem_dependencies_joined, List.not_mem_nil, false_or, or_false, or_and_right]
  · simp [joined, PythonManifest.append]

/-- The description and the keywords come from the project file. -/
theorem description_eq {m' : PythonManifest} (hd : d.python = .ok m) (he : e.python = .ok m')
    (hsame : e.held "pyproject.toml" = d.held "pyproject.toml") :
    m'.description = m.description ∧ m'.keywords = m.keywords := by
  obtain ⟨-, -, c, -, -, hc, rfl⟩ := python_eq_ok_iff.1 hd
  obtain ⟨-, -, c', -, -, hc', rfl⟩ := python_eq_ok_iff.1 he
  rw [hsame, hc] at hc'
  obtain rfl := Except.ok.inj hc'
  exact ⟨rfl, rfl⟩

/-! ## Python manifests that are not read -/

theorem partOf_ofPipfile_of_malformed (ht : Toml.parse t = .error .malformed) :
    partOf ofPipfile (.ok (some t)) = .ok {} := by
  refine partOf_eq_ok_iff.2 (.inr ⟨t, rfl, ?_⟩)
  rw [ofPipfile, ht]
  rfl

theorem partOf_ofProject_of_malformed (ht : Toml.parse t = .error .malformed) :
    partOf ofProject (.ok (some t)) = .ok {} := by
  refine partOf_eq_ok_iff.2 (.inr ⟨t, rfl, ?_⟩)
  rw [ofProject, ht]
  rfl

theorem partOf_ofPipfile_of_beyond (ht : Toml.parse t = .error (.beyond limit)) :
    partOf ofPipfile (.ok (some t)) = .error (.beyond limit) :=
  partOf_eq_error_iff.2 (.inr ⟨t, rfl, ofPipfile_eq_error_iff.2 ⟨limit, rfl, ht⟩⟩)

theorem partOf_ofProject_of_beyond (ht : Toml.parse t = .error (.beyond limit)) :
    partOf ofProject (.ok (some t)) = .error (.beyond limit) := by
  have hlistable : ¬ProjectUnlistable t := by simp [ProjectUnlistable, ht]
  exact partOf_eq_error_iff.2
    (.inr ⟨t, rfl, ofProject_eq_error_iff.2 (.inr ⟨limit, rfl, hlistable, .inl ht⟩)⟩)

/-- A manifest that is no TOML document is read as if it were not there. -/
theorem python_of_malformed {name : Text} (hname : name ∈ tomlManifests)
    (hheld : d.held name = .ok (some t)) (ht : Toml.parse t = .error .malformed)
    (he : LacksOnly name d e) : d.python = e.python := by
  have hrequirements := he.same "requirements.txt" (by decide)
  simp only [tomlManifests, List.mem_cons, List.not_mem_nil, or_false] at hname
  rcases hname with rfl | rfl
  · rw [python_eq, python_eq, he.absent, hheld, partOf_ofPipfile_of_malformed ht, partOf_none,
      hrequirements (by decide), he.same "pyproject.toml" (by decide) (by decide)]
  · rw [python_eq, python_eq, he.absent, hheld, partOf_ofProject_of_malformed ht, partOf_none,
      hrequirements (by decide), he.same "Pipfile" (by decide) (by decide)]

/-- With a manifest that meets a limit none of them is read. -/
theorem python_ne_ok_of_beyond {name : Text} (hname : name ∈ tomlManifests)
    (hheld : d.held name = .ok (some t)) (ht : Toml.parse t = .error (.beyond limit)) :
    d.python ≠ .ok m := by
  intro h
  obtain ⟨-, b, c, -, hb, hc, -⟩ := python_eq_ok_iff.1 h
  simp only [tomlManifests, List.mem_cons, List.not_mem_nil, or_false] at hname
  rcases hname with rfl | rfl
  · rw [hheld, partOf_ofPipfile_of_beyond ht] at hb
    cases hb
  · rw [hheld, partOf_ofProject_of_beyond ht] at hc
    cases hc

/-- If the others are read, then this one is what makes the reading fail. -/
theorem python_of_beyond {name : Text} (hname : name ∈ tomlManifests)
    (hheld : d.held name = .ok (some t)) (ht : Toml.parse t = .error (.beyond limit))
    (he : LacksOnly name d e) (hothers : e.python = .ok m) : d.python = .error (.beyond limit) := by
  obtain ⟨a, b, c, ha, hb, hc, -⟩ := python_eq_ok_iff.1 hothers
  rw [he.same "requirements.txt" (by decide)] at ha
  · simp only [tomlManifests, List.mem_cons, List.not_mem_nil, or_false] at hname
    rcases hname with rfl | rfl
    · rw [python_eq, ha, hheld, partOf_ofPipfile_of_beyond ht]
      rfl
    · rw [he.same "Pipfile" (by decide) (by decide)] at hb
      rw [python_eq, ha, hb, hheld, partOf_ofProject_of_beyond ht]
      rfl
  · rintro rfl
    simp [tomlManifests] at hname

/-- If the Python manifests of a folder are read, then they are also read where each is present
alone, and what they say together is what they say alone; the description and the keywords depend on
the project file only. One that is no TOML document is read as if it were not there, and so is a
package manifest that is no UTF-8, no JSON document or no object. A limit that one of them meets
ends the reading instead. -/
theorem manifests_isolated (d : Folder) :
    (∀ m, d.python = .ok m →
      (∀ r p j : Folder, HoldsOnly "requirements.txt" d r → HoldsOnly "Pipfile" d p →
        HoldsOnly "pyproject.toml" d j →
        ∃ requirements pipfile project, r.python = .ok requirements ∧ p.python = .ok pipfile ∧
          j.python = .ok project ∧
          (∀ n, n ∈ m.dependencies ↔ n ∈ requirements.dependencies ∨ n ∈ pipfile.dependencies ∨
            n ∈ project.dependencies) ∧
          m.sources = requirements.sources ++ pipfile.sources ++ project.sources) ∧
      ∀ (e : Folder) (m' : PythonManifest), e.python = .ok m' →
        e.held "pyproject.toml" = d.held "pyproject.toml" →
        m'.description = m.description ∧ m'.keywords = m.keywords) ∧
    (∀ name ∈ tomlManifests, ∀ t, d.held name = .ok (some t) →
      (Toml.parse t = .error .malformed → ∀ e, LacksOnly name d e → d.python = e.python) ∧
      ∀ limit, Toml.parse t = .error (.beyond limit) → (∀ m, d.python ≠ .ok m) ∧
        ∀ e m, LacksOnly name d e → e.python = .ok m → d.python = .error (.beyond limit)) ∧
    (d.PackageUnusable → ∀ e : Folder, e.held "package.json" = .ok none → d.package = e.package) ∧
    ∀ t, d.held "package.json" = .ok (some t) → ∀ limit, Json.parse t = .error (.beyond limit) →
      d.package = .error (.beyond limit) := by
  refine ⟨fun m h => ⟨fun r p j hr hp hj => python_union h hr hp hj,
    fun e m' he hsame => description_eq h he hsame⟩,
    fun name hname t hheld => ⟨fun ht e he => python_of_malformed hname hheld ht he,
      fun limit ht => ⟨fun m => python_ne_ok_of_beyond hname hheld ht,
        fun e m he hothers => python_of_beyond hname hheld ht he hothers⟩⟩,
    fun hd e he => ?_, fun t hheld limit ht => package_of_beyond hheld ht⟩
  rw [package_of_unusable hd, package_of_absent he]

end Reading

/-! ## Folders with broken manifests -/

attribute [local instance] Host.standard

/-- Whether a text is not read, and why, is told without comparing what texts are read as. -/
local instance {ε α : Type} [DecidableEq ε] (x : Except ε α) (e : ε) : Decidable (x = .error e) :=
  match x with
  | .ok _ => isFalse nofun
  | .error e' => decidable_of_iff (e' = e) (by simp)

/-- A folder of some files with the given texts. -/
def holding (files : List (Text × Text)) : Folder where
  fs := { top := files.map fun (name, t) => (name, .file (Utf8.encode t)) }
  root := []

theorem held_of_ask {d : Folder} {name t : Text} {l : Location}
    (h : d.fs.ask d.root name = .ok (l, .file (Utf8.encode t))) (ht : '\r' ∉ t) :
    d.held name = .ok (some t) := by
  rw [held, Manifest.held, h]
  simp only [PythonManifest.textOf_encode, Text.unifyNewlines_of_not_mem ht, Except.toOption,
    Option.getD_some]

/-- The digits of an integer that is too long. -/
def manyDigits : Text := List.replicate 4301 '1'

/-- A Pipfile that holds such an integer. -/
def numberedPipfile : Text × Text := ("Pipfile", "n = ".toList ++ manyDigits)

/-- A package manifest and a Pipfile that hold such an integer. -/
def numbered : Folder := holding [numberedPipfile, ("package.json", manyDigits)]

theorem held_numbered :
    numbered.held "Pipfile" = .ok (some numberedPipfile.2) ∧
      numbered.held "package.json" = .ok (some manyDigits) := by
  have hdigits : '\r' ∉ manyDigits := fun h => absurd (List.eq_of_mem_replicate h) (by decide)
  have hline : '\r' ∉ numberedPipfile.2 := fun h =>
    (List.mem_append.1 h).elim (by decide) hdigits
  exact ⟨held_of_ask rfl hline, held_of_ask rfl hdigits⟩

theorem lacksOnly_numbered : LacksOnly "Pipfile" numbered (holding []) where
  absent := rfl
  same := by decide +kernel

theorem json_parse_manyDigits : Json.parse manyDigits = .error (.beyond .digits) := by
  decide +kernel

set_option maxRecDepth 10000 in
theorem toml_parse_manyDigits : Toml.parse numberedPipfile.2 = .error (.beyond .digits) := by
  decide +kernel

theorem python_holding_nil : (holding []).python = .ok {} := by decide +kernel

/-- Without the two manifests there is nothing to say, and with them the reading of both kinds
fails. -/
theorem no_manifest_of_manyDigits :
    Json.parse manyDigits = .error (.beyond .digits) ∧
      numbered.held "package.json" = .ok (some manyDigits) ∧
      numbered.package = .error (.beyond .digits) ∧ numbered.python = .error (.beyond .digits) ∧
      (holding []).package = .ok {} ∧ (holding []).python = .ok {} := by
  obtain ⟨hpipfile, hpackage⟩ := held_numbered
  exact ⟨json_parse_manyDigits, hpackage, package_of_beyond hpackage json_parse_manyDigits,
    python_of_beyond (by decide) hpipfile toml_parse_manyDigits lacksOnly_numbered
      python_holding_nil, rfl, python_holding_nil⟩

/-- A list of requirements. -/
def listFile : Text × Text := ("requirements.txt", "Flask\n")

/-- A Pipfile that breaks off. -/
def brokenPipfile : Text × Text := ("Pipfile", "[packages")

/-- A project file that names the same package as the list. -/
def projectFile : Text × Text :=
  ("pyproject.toml", "[project]\ndescription = 'A site.'\ndependencies = ['flask']\n")

/-- The three of them and a package manifest that breaks off too. -/
def broken : Folder := holding [brokenPipfile, ("package.json", "[1"), projectFile, listFile]

/-- The list and the project file name the package also when they are alone, and the two other
manifests of that folder change nothing. In the other folder they are not read. -/
theorem manifests_of_broken :
    (∃ m a b c, broken.python = .ok m ∧ (holding [listFile]).python = .ok a ∧
      (holding [brokenPipfile]).python = .ok b ∧ (holding [projectFile]).python = .ok c ∧
      (∀ n, n ∈ m.dependencies ↔ n ∈ a.dependencies ∨ n ∈ b.dependencies ∨ n ∈ c.dependencies) ∧
      m.sources = a.sources ++ b.sources ++ c.sources ∧
      c.description = m.description ∧ m.description = "A site.") ∧
    broken.python = (holding [listFile, projectFile]).python ∧
    broken.package = (holding [listFile, projectFile]).package ∧
    numbered.python = .error (.beyond .digits) ∧ numbered.package = .error (.beyond .digits) := by
  have hread : broken.python = .ok {
      dependencies := ["flask"]
      sources := ["requirements.txt", "pyproject.toml"]
      description := "A site." } := by
    decide +kernel
  have hlist : HoldsOnly "requirements.txt" broken (holding [listFile]) :=
    ⟨by decide +kernel, by decide +kernel⟩
  have hpipfile : HoldsOnly "Pipfile" broken (holding [brokenPipfile]) :=
    ⟨by decide +kernel, by decide +kernel⟩
  have hproject : HoldsOnly "pyproject.toml" broken (holding [projectFile]) :=
    ⟨by decide +kernel, by decide +kernel⟩
  have hlacks : LacksOnly "Pipfile" broken (holding [listFile, projectFile]) :=
    ⟨by decide +kernel, by decide +kernel⟩
  have hmalformed : Toml.parse brokenPipfile.2 = .error .malformed := by
    decide +kernel
  have hunusable : broken.PackageUnusable :=
    .malformed (t := "[1") (by decide +kernel) (by decide +kernel)
  obtain ⟨htogether, htoml, hpackage, -⟩ := manifests_isolated broken
  obtain ⟨halone, hdescription⟩ := htogether _ hread
  obtain ⟨a, b, c, ha, hb, hc, hunion, hsources⟩ := halone _ _ _ hlist hpipfile hproject
  obtain ⟨hlongPipfile, hlongPackage⟩ := held_numbered
  obtain ⟨-, htomlLong, -, hpackageLong⟩ := manifests_isolated numbered
  exact ⟨⟨_, a, b, c, hread, ha, hb, hc, hunion, hsources,
      (hdescription _ c hc hproject.same).1, rfl⟩,
    (htoml "Pipfile" (by decide) _ (by decide +kernel)).1 hmalformed _ hlacks,
    hpackage hunusable _ (by decide +kernel),
    ((htomlLong "Pipfile" (by decide) _ hlongPipfile).2 _ toml_parse_manyDigits).2 _ _
      lacksOnly_numbered python_holding_nil,
    hpackageLong _ hlongPackage _ json_parse_manyDigits⟩

end Folder

end CodeSurvey
