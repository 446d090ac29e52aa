import CodeSurvey.Proofs.Layout.Growth
import CodeSurvey.Proofs.Text.Pieces

/-!
# Tools and what shows them

A build system is listed for one of its files or for a word in a script, a test framework for one of
its packages or files, and nothing else puts a name on a list. Scripts are searched as one text, in
which no word is put together from two of them. A name that is shown in more than one way is listed
once, and more evidence takes no name away. -/

namespace CodeSurvey

/-! ## Lists of names -/

section Names

variable {β : Type} {table : List (Text × β)} {test : β → Bool} {listed : List Text} {n : Text}

theorem mem_names_filter_iff (table : List (Text × β)) (test : β → Bool) :
    n ∈ Table.names (table.filter fun p => test p.2) ↔ ∃ b, (n, b) ∈ table ∧ test b = true := by
  simp [Table.names]

theorem nodup_names_filter (h : (Table.names table).Nodup) (p : Text × β → Bool) :
    (Table.names (table.filter p)).Nodup :=
  h.sublist (List.filter_sublist.map _)

namespace Surroundings

theorem addWhere_cons (listed : List Text) (name : Text) (b : β) (table : List (Text × β))
    (test : β → Bool) :
    addWhere listed ((name, b) :: table) test =
      addWhere (if test b && !listed.contains name then listed ++ [name] else listed) table test :=
  rfl

/-- Names are added for the members of the table that succeed, -/
theorem mem_addWhere_iff :
    n ∈ addWhere listed table test ↔ n ∈ listed ∨ ∃ b, (n, b) ∈ table ∧ test b = true := by
  induction table generalizing listed with
  | nil => simp [addWhere]
  | cons p table ih =>
      obtain ⟨name, b⟩ := p
      rw [addWhere_cons, ih]
      by_cases htest : test b = true
      · by_cases hlisted : name ∈ listed
        · rw [if_neg (by simp [hlisted])]
          grind
        · rw [if_pos (by simp [htest, hlisted])]
          grind
      · rw [if_neg (by simp [htest])]
        grind

/-- and none of them twice. -/
theorem nodup_addWhere (h : listed.Nodup) : (addWhere listed table test).Nodup := by
  induction table generalizing listed with
  | nil => exact h
  | cons p table ih =>
      obtain ⟨name, b⟩ := p
      rw [addWhere_cons]
      refine ih ?_
      split
      · rename_i hnew
        simp only [Bool.and_eq_true, Bool.not_eq_true', List.contains_eq_mem,
          decide_eq_false_iff_not] at hnew
        exact List.nodup_append.2 ⟨h, List.nodup_singleton name, by grind⟩
      · exact h

end Surroundings
end Names

/-! ## Evidence for tools -/

namespace Surroundings

variable {s : Surroundings} {name : Text}

theorem scriptBuildSystems_words : ∀ p ∈ scriptBuildSystems, ' ' ∉ p.2 ∧ p.2 ≠ [] := by
  decide

/-- What is searched for in all scripts at once is found in one name or one command. -/
theorem mentioned_iff {needle : Text} (hspace : ' ' ∉ needle) (hne : needle ≠ [])
    (scripts : Table Text) :
    Text.occursIn needle
        (Text.joinWith [' '] (Table.names scripts ++ scripts.map (·.2))) = true ↔
      ∃ script ∈ scripts, needle <:+: script.1 ∨ needle <:+: script.2 := by
  rw [Text.occursIn_iff, Text.infix_joinWith_iff hspace hne]
  simp only [Table.names, List.mem_append, List.mem_map]
  constructor
  · rintro ⟨piece, ⟨script, hscript, rfl⟩ | ⟨script, hscript, rfl⟩, hpiece⟩
    · exact ⟨script, hscript, .inl hpiece⟩
    · exact ⟨script, hscript, .inr hpiece⟩
  · rintro ⟨script, hscript, hname | hcommand⟩
    · exact ⟨script.1, .inl ⟨script, hscript, rfl⟩, hname⟩
    · exact ⟨script.2, .inr ⟨script, hscript, rfl⟩, hcommand⟩

theorem mem_buildSystems_iff : name ∈ s.buildSystems ↔
    (∃ files, (name, files) ∈ buildSystemFiles ∧ ∃ f ∈ files, s.hasMarker f = true) ∨
      ∃ needle, (name, needle) ∈ scriptBuildSystems ∧
        ∃ script ∈ s.package.scripts, needle <:+: script.1 ∨ needle <:+: script.2 := by
  have hfiles :=
    mem_names_filter_iff (n := name) buildSystemFiles fun files => files.any s.hasMarker
  simp only [List.any_eq_true] at hfiles
  rw [buildSystems]
  refine mem_addWhere_iff.trans (or_congr hfiles ?_)
  refine exists_congr fun needle => and_congr_right fun hneedle => ?_
  obtain ⟨hspace, hne⟩ := scriptBuildSystems_words _ hneedle
  exact mentioned_iff hspace hne s.package.scripts

theorem nodup_buildSystems (s : Surroundings) : s.buildSystems.Nodup := by
  have hall : (Table.names buildSystemFiles).Nodup := by decide
  rw [buildSystems]
  exact nodup_addWhere (nodup_names_filter hall _)

theorem mem_testFrameworks_iff : name ∈ s.testFrameworks ↔
    (∃ packages, (name, packages) ∈ testPackages ∧
        ∃ p ∈ packages, p ∈ Table.names s.package.dependencies) ∨
      (∃ packages, (name, packages) ∈ testPythonPackages ∧
        ∃ p ∈ packages, p ∈ s.python.dependencies) ∨
      ∃ files, (name, files) ∈ testFiles ∧ ∃ f ∈ files, s.hasMarker f = true := by
  have hpackages := mem_names_filter_iff (n := name) testPackages fun ps => ps.any s.hasPackage
  have hpython := mem_names_filter_iff (n := name) testPythonPackages fun ps =>
    ps.any s.hasPythonPackage
  simp only [List.any_eq_true, hasPackage_iff] at hpackages
  simp only [List.any_eq_true, hasPythonPackage_iff] at hpython
  rw [testFrameworks]
  refine mem_addWhere_iff.trans ?_
  rw [List.mem_append, or_assoc]
  refine or_congr hpackages (or_congr hpython ?_)
  exact exists_congr fun files => and_congr_right fun _ => List.any_eq_true

/-- A framework has packages for one language, so the two lists by packages have no name in common.
-/
theorem nodup_testFrameworks (s : Surroundings) : s.testFrameworks.Nodup := by
  have hall : (Table.names testPackages ++ Table.names testPythonPackages).Nodup := by decide
  rw [testFrameworks]
  exact nodup_addWhere
    (hall.sublist ((List.filter_sublist.map _).append (List.filter_sublist.map _)))

end Surroundings

/-! ## Repositories -/

section Repositories

open FileSystem

theorem build_files_subset {name f : Text} {files : List Text}
    (h : (name, files) ∈ buildSystemFiles) (hf : f ∈ files) : f ∈ layoutMarkers := by
  have htable : f ∈ buildSystemFiles.flatMap (·.2) := List.mem_flatMap.2 ⟨_, h, hf⟩
  simp only [layoutMarkers, List.mem_append, htable, true_or, or_true]

theorem test_files_subset {name f : Text} {files : List Text} (h : (name, files) ∈ testFiles)
    (hf : f ∈ files) : f ∈ layoutMarkers := by
  have htable : f ∈ testFiles.flatMap (·.2) := List.mem_flatMap.2 ⟨_, h, hf⟩
  simp only [layoutMarkers, List.mem_append, htable, true_or, or_true]

/-- The markers of tools are files or folders of their names; none of them asks for a folder. -/
theorem hasMarker_tool (fs : FileSystem) (root : Location) {name f : Text} {files : List Text}
    (h : (name, files) ∈ buildSystemFiles ++ testFiles) (hf : f ∈ files) :
    fs.hasMarker root f = fs.present root f := by
  have hslash : ∀ p ∈ buildSystemFiles ++ testFiles, ∀ f ∈ p.2,
      (f.getLast? == some '/') = false := by
    decide
  rw [FileSystem.hasMarker, hslash _ h f hf]
  rfl

variable (fs : FileSystem) (root : Location) (package : PackageManifest) (python : PythonManifest)

/-- Build systems and test frameworks are listed once each. A build system is listed exactly if one
of its files is present or its word stands in the name or in the command of one script, a test
framework exactly if one of its packages for Node or for Python is a dependency or one of its files
is present. None of them disappears from a repository in which all is still found and which keeps
its scripts and its dependencies. -/
theorem tools_listed_by_evidence :
    let s : Surroundings := ⟨package, python, fs.hasMarker root⟩
    s.buildSystems.Nodup ∧ s.testFrameworks.Nodup ∧
    (∀ name, name ∈ s.buildSystems ↔
      (∃ files, (name, files) ∈ buildSystemFiles ∧ ∃ f ∈ files, fs.present root f = true) ∨
        ∃ needle, (name, needle) ∈ scriptBuildSystems ∧
          ∃ script ∈ package.scripts, needle <:+: script.1 ∨ needle <:+: script.2) ∧
    (∀ name, name ∈ s.testFrameworks ↔
      (∃ packages, (name, packages) ∈ testPackages ∧
          ∃ p ∈ packages, p ∈ Table.names package.dependencies) ∨
        (∃ packages, (name, packages) ∈ testPythonPackages ∧
          ∃ p ∈ packages, p ∈ python.dependencies) ∨
        ∃ files, (name, files) ∈ testFiles ∧ ∃ f ∈ files, fs.present root f = true) ∧
    ∀ fs' root' package' python', StillFound fs root fs' root' →
      let s' : Surroundings := ⟨package', python', fs'.hasMarker root'⟩
      (package.scripts ⊆ package'.scripts → s.buildSystems ⊆ s'.buildSystems) ∧
        (Table.names package.dependencies ⊆ Table.names package'.dependencies →
          python.dependencies ⊆ python'.dependencies → s.testFrameworks ⊆ s'.testFrameworks) := by
  intro s
  refine ⟨s.nodup_buildSystems, s.nodup_testFrameworks, fun name => ?_, fun name => ?_, ?_⟩
  · rw [Surroundings.mem_buildSystems_iff]
    refine or_congr_left (exists_congr fun files => and_congr_right fun hfiles => ?_)
    refine exists_congr fun f => and_congr_right fun hf => ?_
    exact Bool.eq_iff_iff.1 (hasMarker_tool fs root (List.mem_append_left _ hfiles) hf)
  · rw [Surroundings.mem_testFrameworks_iff]
    refine or_congr_right (or_congr_right
      (exists_congr fun files => and_congr_right fun hfiles => ?_))
    refine exists_congr fun f => and_congr_right fun hf => ?_
    exact Bool.eq_iff_iff.1 (hasMarker_tool fs root (List.mem_append_right _ hfiles) hf)
  · intro fs' root' package' python' hfound s'
    refine ⟨fun hscripts name hname => ?_, fun hpackages hpython name hname => ?_⟩
    · rw [Surroundings.mem_buildSystems_iff] at hname ⊢
      rcases hname with ⟨files, hfiles, f, hf, hmarker⟩ | ⟨needle, hneedle, script, hscript, hword⟩
      · exact .inl ⟨files, hfiles, f, hf, hfound.hasMarker (build_files_subset hfiles hf) hmarker⟩
      · exact .inr ⟨needle, hneedle, script, hscripts hscript, hword⟩
    · rw [Surroundings.mem_testFrameworks_iff] at hname ⊢
      rcases hname with ⟨ps, hps, p, hp, hnamed⟩ | ⟨ps, hps, p, hp, hnamed⟩ |
        ⟨files, hfiles, f, hf, hmarker⟩
      · exact .inl ⟨ps, hps, p, hp, hpackages hnamed⟩
      · exact .inr (.inl ⟨ps, hps, p, hp, hpython hnamed⟩)
      · exact .inr (.inr
          ⟨files, hfiles, f, hf, hfound.hasMarker (test_files_subset hfiles hf) hmarker⟩)

/-- A project with the files of a build system and of a test framework. -/
def bundled : FileSystem where
  top := [("vite.config.ts", .file ⟨#[]⟩), ("conftest.py", .file ⟨#[]⟩)]

/-- A script puts a second build system on the list, while two texts that make up the word of a
third do not. A build system and a framework that are listed stay when the project gets containers,
a script and a dependency. -/
theorem tools_of_bundled :
    let package : PackageManifest :=
      { dependencies := [("jest", "29")], scripts := [("bundle", "rollup -c"), ("web", "pack")] }
    let package' : PackageManifest :=
      { dependencies := [("jest", "29"), ("mocha", "10")],
        scripts := [("bundle", "rollup -c"), ("web", "pack"), ("lint", "eslint")] }
    let s : Surroundings := ⟨package, {}, bundled.hasMarker []⟩
    let s' : Surroundings := ⟨package', {}, hasMarker ⟨bundled.top ++ containers⟩ []⟩
    StillFound bundled [] ⟨bundled.top ++ containers⟩ [] ∧
      s.buildSystems = ["Vite".toList, "Rollup".toList] ∧
      s.testFrameworks = ["Jest".toList, "pytest".toList] ∧
      "Rollup".toList ∈ s'.buildSystems ∧ "pytest".toList ∈ s'.testFrameworks := by
  intro package package' s s'
  have hfound : StillFound bundled [] ⟨bundled.top ++ containers⟩ [] :=
    (Enlarged.of_top_append bundled.top containers).stillFound []
  have hbuild : s.buildSystems = ["Vite".toList, "Rollup".toList] := by decide +kernel
  have htests : s.testFrameworks = ["Jest".toList, "pytest".toList] := by decide +kernel
  obtain ⟨-, -, -, -, hgrows⟩ := tools_listed_by_evidence bundled [] package {}
  obtain ⟨hbuilds, hframeworks⟩ := hgrows ⟨bundled.top ++ containers⟩ [] package' {} hfound
  refine ⟨hfound, hbuild, htests, hbuilds (by decide) ?_, hframeworks (by decide) (by decide) ?_⟩
  · exact hbuild ▸ by decide
  · exact htests ▸ by decide

end Repositories

end CodeSurvey
