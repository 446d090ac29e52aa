import CodeSurvey.Proofs.FileSystem.Additions
import CodeSurvey.Proofs.Layout.Markers

/-!
# Layouts of a growing repository

More markers and more packages are more evidence. No score goes down with them, so the kind of a
project does not become unknown, a project with both ends keeps both, and the architecture that is
told is none that is tried later. The exception is a server and a client in one package, which are a
monolith however many other marks there are.

## Main definitions

* `Architecture.place`: the order in which architectures are tried.
* `Surroundings.Within s s'`: all that `s` says of a layout `s'` says too.
-/

namespace CodeSurvey

/-- The place of an architecture in the order in which they are tried; a monolith is what is left.
-/
def Architecture.place : Architecture → Nat
  | microservices => 0
  | serverless => 1
  | jamstack => 2
  | mvc => 3
  | monolith => 4

theorem Architecture.place_le_monolith (a : Architecture) : a.place ≤ monolith.place := by
  cases a <;> decide

theorem ProjectKind.mem_all (kind : ProjectKind) : kind ∈ all := by
  cases kind <;> decide

/-! ## Markers -/

theorem kind_markers_subset (kind : ProjectKind) : kind.markers ⊆ layoutMarkers := by
  intro m hm
  have htable : m ∈ ProjectKind.all.flatMap ProjectKind.markers :=
    List.mem_flatMap.2 ⟨kind, kind.mem_all, hm⟩
  simp only [layoutMarkers, List.mem_append, htable, true_or]

theorem architecture_markers_subset {r : ArchitectureRule} (hr : r ∈ architectureRules) :
    r.markers ⊆ layoutMarkers := by
  intro m hm
  have htable : m ∈ architectureRules.flatMap (·.markers) := List.mem_flatMap.2 ⟨r, hr, hm⟩
  simp only [layoutMarkers, List.mem_append, htable, true_or, or_true]

theorem properName_of_mem_markerPath : ∀ m ∈ layoutMarkers,
    ∀ n ∈ Text.splitOn '/' (markerPath m), ProperName n := by
  decide +kernel

/-- A marker is looked up by its path, as a folder if it has a slash at its end. -/
theorem FileSystem.hasMarker_eq (fs : FileSystem) (root : Location) (m : Text) :
    fs.hasMarker root m =
      if m.getLast? == some '/' then fs.isFolder root (markerPath m)
      else fs.present root (markerPath m) := by
  rw [hasMarker, markerPath]
  split <;> rfl

/-- The markers of a repository of which everything is still found are still present. -/
theorem FileSystem.StillFound.hasMarker {fs fs' : FileSystem} {root root' : Location}
    (h : StillFound fs root fs' root') {m : Text} (hm : m ∈ layoutMarkers)
    (hmarker : fs.hasMarker root m = true) : fs'.hasMarker root' m = true := by
  have hnames : Path.ofNames (Text.splitOn '/' (markerPath m)) = markerPath m :=
    Text.joinWith_splitOn '/' _
  have hproper := properName_of_mem_markerPath m hm
  rw [hasMarker_eq, ← hnames] at hmarker ⊢
  split at hmarker
  · rename_i hslash
    rw [if_pos hslash]
    exact h.folder _ hproper hmarker
  · rename_i hslash
    rw [if_neg hslash]
    exact h.present _ hproper hmarker

/-! ## Scores -/

namespace Surroundings

/-- Whether all packages and all markers that some surroundings have are in others too. -/
structure Within (s s' : Surroundings) : Prop where
  packages : Table.names s.package.dependencies ⊆ Table.names s'.package.dependencies
  pythonPackages : s.python.dependencies ⊆ s'.python.dependencies
  markers : ∀ m ∈ layoutMarkers, s.hasMarker m = true → s'.hasMarker m = true

variable {s s' : Surroundings} {kind : ProjectKind} {n : Text}

theorem hasPackage_iff : s.hasPackage n = true ↔ n ∈ Table.names s.package.dependencies :=
  Table.has_iff_mem_names

theorem hasPythonPackage_iff : s.hasPythonPackage n = true ↔ n ∈ s.python.dependencies :=
  List.contains_iff_mem

namespace Within

theorem hasPackage (h : s.Within s') (hn : s.hasPackage n = true) : s'.hasPackage n = true :=
  hasPackage_iff.2 (h.packages (hasPackage_iff.1 hn))

theorem hasPythonPackage (h : s.Within s') (hn : s.hasPythonPackage n = true) :
    s'.hasPythonPackage n = true :=
  hasPythonPackage_iff.2 (h.pythonPackages (hasPythonPackage_iff.1 hn))

theorem kindScore_le (h : s.Within s') (kind : ProjectKind) :
    s.kindScore kind ≤ s'.kindScore kind := by
  have hmarkers : kind.markers.countP s.hasMarker ≤ kind.markers.countP s'.hasMarker :=
    List.countP_mono_left fun m hm => h.markers m (kind_markers_subset kind hm)
  have hpackages : kind.packages.countP s.hasPackage ≤ kind.packages.countP s'.hasPackage :=
    List.countP_mono_left fun n _ => h.hasPackage
  have hpython : kind.pythonPackages.countP s.hasPythonPackage ≤
      kind.pythonPackages.countP s'.hasPythonPackage :=
    List.countP_mono_left fun n _ => h.hasPythonPackage
  rw [kindScore, kindScore]
  omega

theorem architectureScore_le (h : s.Within s') {r : ArchitectureRule} (hr : r ∈ architectureRules) :
    s.architectureScore r ≤ s'.architectureScore r := by
  have hmarkers : r.markers.countP s.hasMarker ≤ r.markers.countP s'.hasMarker :=
    List.countP_mono_left fun m hm => h.markers m (architecture_markers_subset hr hm)
  have hpackages : (r.packages.any fun p => s.hasPackage p || s.hasPythonPackage p) = true →
      (r.packages.any fun p => s'.hasPackage p || s'.hasPythonPackage p) = true := by
    simp only [List.any_eq_true, Bool.or_eq_true]
    rintro ⟨p, hp, hnamed⟩
    exact ⟨p, hp, hnamed.imp h.hasPackage h.hasPythonPackage⟩
  rw [architectureScore, architectureScore]
  by_cases hboost : (r.packages.any fun p => s.hasPackage p || s.hasPythonPackage p) = true
  · rw [if_pos hboost, if_pos (hpackages hboost)]
    omega
  · rw [if_neg hboost]
    omega

end Within

/-! ## The kind of project -/

/-- There is a kind with the most points. -/
theorem exists_best_kind (s : Surroundings) :
    ∃ kind, (ProjectKind.all.map s.kindScore).foldl max 0 = s.kindScore kind ∧
      ∀ other, s.kindScore other ≤ s.kindScore kind := by
  obtain ⟨best, hbest⟩ : ∃ best, (ProjectKind.all.map s.kindScore).max? = some best := ⟨_, rfl⟩
  obtain ⟨hmem, hle⟩ := List.max?_eq_some_iff.1 hbest
  obtain ⟨kind, -, rfl⟩ := List.mem_map.1 hmem
  refine ⟨kind, ?_, fun other => hle _ (List.mem_map_of_mem other.mem_all)⟩
  rw [List.foldl_max, hbest]
  simp

theorem projectType_eq_unknown_iff : s.projectType = .unknown ↔ ∀ kind, s.kindScore kind = 0 := by
  obtain ⟨best, hbest, hle⟩ := s.exists_best_kind
  simp only [projectType, hbest]
  by_cases hzero : s.kindScore best = 0
  · rw [if_pos hzero]
    refine iff_of_true rfl fun kind => ?_
    have := hle kind
    omega
  · rw [if_neg hzero]
    refine iff_of_false ?_ fun h => hzero (h best)
    split
    · simp
    · have hfound :
          (ProjectKind.all.find? fun kind => s.kindScore kind == s.kindScore best).isSome :=
        List.find?_isSome.2 ⟨best, best.mem_all, by simp⟩
      obtain ⟨kind, hkind⟩ := Option.isSome_iff_exists.1 hfound
      simp [hkind]

theorem projectType_eq_fullstack_iff :
    s.projectType = .fullstack ↔ 0 < s.kindScore .frontend ∧ 0 < s.kindScore .backend := by
  obtain ⟨best, hbest, hle⟩ := s.exists_best_kind
  simp only [projectType, hbest]
  by_cases hboth : 0 < s.kindScore .frontend ∧ 0 < s.kindScore .backend
  · have hfrontend := hle .frontend
    rw [if_neg (by omega), if_pos hboth]
    exact iff_of_true rfl hboth
  · refine iff_of_false ?_ hboth
    rw [if_neg hboth]
    split
    · simp
    · split <;> simp

/-- A kind has no points exactly if nothing shows it. -/
theorem kindScore_eq_zero_iff : s.kindScore kind = 0 ↔
    (∀ m ∈ kind.markers, s.hasMarker m = false) ∧
      (∀ p ∈ kind.packages, p ∉ Table.names s.package.dependencies) ∧
      ∀ p ∈ kind.pythonPackages, p ∉ s.python.dependencies := by
  simp only [kindScore, Nat.add_eq_zero_iff, Nat.mul_eq_zero, OfNat.ofNat_ne_zero, false_or,
    List.countP_eq_zero, hasPackage_iff, hasPythonPackage_iff, Bool.not_eq_true, and_assoc]

/-! ## Architecture -/

/-- What is found first comes no later than anything that could be found. -/
theorem place_le_of_find? {rules : List ArchitectureRule} {p : ArchitectureRule → Bool}
    {r found : ArchitectureRule}
    (hsorted : rules.Pairwise fun a b => a.architecture.place ≤ b.architecture.place)
    (hfound : rules.find? p = some found) (hr : r ∈ rules) (hp : p r = true) :
    found.architecture.place ≤ r.architecture.place := by
  induction rules with
  | nil => simp at hr
  | cons first rules ih =>
      obtain ⟨hfirst, hrest⟩ := List.pairwise_cons.1 hsorted
      rw [List.find?_cons] at hfound
      split at hfound
      · obtain rfl := Option.some.inj hfound
        rcases List.mem_cons.1 hr with rfl | hr
        · exact le_rfl
        · exact hfirst r hr
      · rename_i hnot
        rcases List.mem_cons.1 hr with rfl | hr
        · simp [hp] at hnot
        · exact ih hrest hfound hr

theorem architectureRules_sorted :
    architectureRules.Pairwise fun a b => a.architecture.place ≤ b.architecture.place := by
  decide

/-- More evidence shows no architecture that is tried later, except that a server and a client in
one package make a monolith. -/
theorem Within.architecture_place_le (h : s.Within s')
    (hboth : ¬(s'.hasPackage "express" = true ∧ s'.hasPackage "react" = true)) :
    s'.architecture.place ≤ s.architecture.place := by
  have hboth₀ : ¬(s.hasPackage "express" = true ∧ s.hasPackage "react" = true) := fun hs =>
    hboth ⟨h.hasPackage hs.1, h.hasPackage hs.2⟩
  rw [← Bool.and_eq_true] at hboth hboth₀
  rw [architecture, architecture, if_neg hboth, if_neg hboth₀]
  cases hfound : architectureRules.find? fun r => 2 ≤ s.architectureScore r with
  | none => exact Architecture.place_le_monolith _
  | some r =>
      have hr := List.mem_of_find?_eq_some hfound
      have htwo : 2 ≤ s.architectureScore r := by simpa using List.find?_some hfound
      have htwo' : decide (2 ≤ s'.architectureScore r) = true :=
        decide_eq_true (htwo.trans (h.architectureScore_le hr))
      cases hfound' : architectureRules.find? fun r => 2 ≤ s'.architectureScore r with
      | none => exact absurd htwo' (List.find?_eq_none.1 hfound' r hr)
      | some r' => exact place_le_of_find? architectureRules_sorted hfound' hr htwo'

end Surroundings

/-! ## Repositories -/

section Repositories

open FileSystem

variable {fs fs' : FileSystem} {root root' : Location} {package package' : PackageManifest}
  {python python' : PythonManifest}

theorem FileSystem.StillFound.within (h : StillFound fs root fs' root')
    (hpackages : Table.names package.dependencies ⊆ Table.names package'.dependencies)
    (hpython : python.dependencies ⊆ python'.dependencies) :
    Surroundings.Within ⟨package, python, fs.hasMarker root⟩
      ⟨package', python', fs'.hasMarker root'⟩ :=
  ⟨hpackages, hpython, fun _ hm => h.hasMarker hm⟩

/-- If everything in a repository is still found and no package that it depends on is dropped, then
its architecture comes no later in the order than before, unless it depends on a server and a client
now. Its kind does not become unknown, and both ends of it stay. The kind is unknown exactly if
there is neither a marker of a kind nor a package of one. -/
theorem evidence_never_weakens_layout (hfound : StillFound fs root fs' root')
    (hpackages : Table.names package.dependencies ⊆ Table.names package'.dependencies)
    (hpython : python.dependencies ⊆ python'.dependencies) :
    let s : Surroundings := ⟨package, python, fs.hasMarker root⟩
    let s' : Surroundings := ⟨package', python', fs'.hasMarker root'⟩
    (¬("express".toList ∈ Table.names package'.dependencies ∧
        "react".toList ∈ Table.names package'.dependencies) →
      s'.architecture.place ≤ s.architecture.place) ∧
    (s.projectType ≠ .unknown → s'.projectType ≠ .unknown) ∧
    (s.projectType = .fullstack → s'.projectType = .fullstack) ∧
    (s.projectType = .unknown ↔ ∀ kind : ProjectKind,
      (∀ m ∈ kind.markers, fs.hasMarker root m = false) ∧
        (∀ p ∈ kind.packages, p ∉ Table.names package.dependencies) ∧
        ∀ p ∈ kind.pythonPackages, p ∉ python.dependencies) := by
  intro s s'
  have hwithin : s.Within s' := hfound.within hpackages hpython
  refine ⟨fun hboth => ?_, fun hknown hunknown => ?_, fun hfull => ?_, ?_⟩
  · refine hwithin.architecture_place_le fun h => hboth ?_
    exact ⟨Surroundings.hasPackage_iff.1 h.1, Surroundings.hasPackage_iff.1 h.2⟩
  · refine hknown (Surroundings.projectType_eq_unknown_iff.2 fun kind => ?_)
    have hzero := Surroundings.projectType_eq_unknown_iff.1 hunknown kind
    have hle := hwithin.kindScore_le kind
    omega
  · obtain ⟨hfrontend, hbackend⟩ := Surroundings.projectType_eq_fullstack_iff.1 hfull
    exact Surroundings.projectType_eq_fullstack_iff.2
      ⟨hfrontend.trans_le (hwithin.kindScore_le _), hbackend.trans_le (hwithin.kindScore_le _)⟩
  · rw [Surroundings.projectType_eq_unknown_iff]
    exact forall_congr' fun kind => Surroundings.kindScore_eq_zero_iff

/-- A server of which one folder for the deployment goes by two names. -/
def deployed : FileSystem where
  top := [("server.js", .file ⟨#[]⟩), ("deploy", .folder []), ("k8s", .link "deploy")]

/-- A list of containers. -/
def containers : Table Entry := [("docker-compose.yml", .file ⟨#[]⟩)]

/-- The same server with the list of containers. -/
def composed : FileSystem := ⟨deployed.top ++ containers⟩

/-- The folder is found by its second name too, and with the list of containers there are two marks
of microservices. The server and the client that it depends on still make both ends of a project. -/
theorem layout_of_composed :
    let package : PackageManifest := { dependencies := [("react", "18")] }
    let package' : PackageManifest := { dependencies := [("next", "14"), ("react", "18")] }
    let python' : PythonManifest := { dependencies := ["django"] }
    let s : Surroundings := ⟨package, {}, deployed.hasMarker []⟩
    let s' : Surroundings := ⟨package', python', composed.hasMarker []⟩
    StillFound deployed [] composed [] ∧
      s.architecture = .monolith ∧ s'.architecture = .microservices ∧
      s'.architecture.place ≤ s.architecture.place ∧
      s'.projectType ≠ .unknown ∧ s'.projectType = .fullstack := by
  intro package package' python' s s'
  have hfound : StillFound deployed [] composed [] :=
    (Enlarged.of_top_append deployed.top containers).stillFound []
  have hfull : s.projectType = .fullstack := by decide +kernel
  have hpackages : Table.names package.dependencies ⊆ Table.names package'.dependencies := by decide
  have hpython : ({} : PythonManifest).dependencies ⊆ python'.dependencies := by decide
  obtain ⟨harchitecture, hknown, hboth, -⟩ :=
    evidence_never_weakens_layout hfound hpackages hpython
  refine ⟨hfound, by decide +kernel, by decide +kernel, harchitecture (by decide), hknown ?_,
    hboth hfull⟩
  intro hunknown
  exact absurd (hunknown.symm.trans hfull) (by decide)

end Repositories

end CodeSurvey
