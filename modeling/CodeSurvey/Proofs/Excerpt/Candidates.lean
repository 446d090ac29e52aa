import CodeSurvey.Excerpt.Category
import CodeSurvey.Proofs.Glob.Components
import Mathlib.Tactic.MkIffOfInductiveProp

/-!
# The files that a category looks at

Which files a category looks at is told by globs. Read component by component, those for functions
and for components ask for a folder of some name anywhere on the way to the file, for an ending of
the file's name, and for functions that neither the name nor a folder is one of tests or of a page.

## Main definitions

* `IsTestName name`: the name is one of tests.
* `IsFunctionFile`, `IsComponentFile`: what a path over folders to a file has to be like.
-/

namespace CodeSurvey

open PathGlob

/-! ## Component by component -/

/-- Whether a file has a name as files of tests have it. -/
def IsTestName (name : Text) : Prop :=
  ".test.".toList <:+: name ∨ ".spec.".toList <:+: name ∨
    ("test_".toList <+: name ∧ ".py".toList <:+ name) ∨ "_test.py".toList <:+ name

instance : DecidablePred IsTestName := fun name =>
  letI (w : Text) : Decidable (w <:+: name) := decidable_of_iff _ Text.occursIn_iff
  inferInstanceAs (Decidable (_ ∨ _))

/-- Whether the path over some folders to a file of some name is one to look for functions at. -/
@[mk_iff isFunctionFile_iff]
structure IsFunctionFile (folders : List Text) (name : Text) : Prop where
  folder : ∃ f ∈ folders, f ∈ (["src", "lib", "utils", "helpers", "services"] : List Text)
  ending : ∃ e ∈ (["js", "ts", "py"] : List Text), '.' :: e <:+ name
  noTest : ¬IsTestName name
  elsewhere : ∀ f ∈ folders, f ∉ (["tests", "components", "pages"] : List Text)

instance (folders : List Text) (name : Text) : Decidable (IsFunctionFile folders name) :=
  letI (f : Text) (names : List Text) : Decidable (f ∈ names) :=
    decidable_of_iff _ List.contains_iff_mem
  decidable_of_iff' _ (isFunctionFile_iff folders name)

/-- Whether the path over some folders to a file of some name is one to look for components at. -/
def IsComponentFile (folders : List Text) (name : Text) : Prop :=
  ((∃ f ∈ folders, f ∈ (["components", "pages", "views"] : List Text)) ∧
    ∃ e ∈ (["js", "ts", "jsx", "tsx", "vue"] : List Text), '.' :: e <:+ name) ∨
  ∃ e ∈ (["js", "ts", "jsx", "tsx"] : List Text), ".component.".toList ++ e <:+ name

instance (folders : List Text) (name : Text) : Decidable (IsComponentFile folders name) :=
  letI (f : Text) (names : List Text) : Decidable (f ∈ names) :=
    decidable_of_iff _ List.contains_iff_mem
  inferInstanceAs (Decidable (_ ∨ _))

namespace Category

/-! ## The globs -/

/-- The glob of the files below a folder whose names have one of some endings. -/
def sourcesBelow (endings : List Text) (folder : Text) : List Piece :=
  below folder (.folders :: endingIn ['.'] endings)

theorem read_testGlobs : testGlobs.map read = [
    .folders :: .inside :: (spelled ".test.".toList ++ [.inside]),
    .folders :: .inside :: (spelled ".spec.".toList ++ [.inside]),
    .folders :: (spelled "test_".toList ++ .inside :: spelled ".py".toList),
    .folders :: .inside :: spelled "_test.py".toList,
    below "tests".toList [.anything]] := by decide

theorem read_included_function : function.included.map read =
    (["src", "lib", "utils", "helpers", "services"] : List Text).map
      (sourcesBelow ["js", "ts", "py"]) := by decide

theorem read_excluded_function : function.excluded.map read = testGlobs.map read ++
    (["components", "pages"] : List Text).map (below · [.anything]) := by decide

theorem read_included_component : (component.included.map read).Perm
    ((.folders :: endingIn ".component.".toList ["js", "ts", "jsx", "tsx"]) ::
      (["components", "pages", "views"] : List Text).map
        (sourcesBelow ["js", "ts", "jsx", "tsx", "vue"])) := by decide

variable {folders : List Text} {name : Text}

/-- A category looks at a path if one of the globs that it includes matches and none that it leaves
out does. -/
theorem mem_candidates_iff {c : Category} {files : List Text} {p : Text} (h : '\n' ∉ p) :
    p ∈ c.candidates files ↔ p ∈ files ∧ (∃ g ∈ c.included.map read, Cut g p) ∧
      ¬∃ g ∈ c.excluded.map read, Cut g p := by
  simp only [candidates, List.mem_filter, matchesAny, Bool.and_eq_true, Bool.not_eq_true',
    ← Bool.not_eq_true, List.any_eq_true, covers_iff_cut h]

section

variable (h : ∀ n ∈ folders ++ [name], '/' ∉ n)
include h

/-- One of the globs for the files below some folders matches. -/
theorem exists_sourcesBelow_iff {places endings : List Text} (hplaces : ∀ f ∈ places, '/' ∉ f)
    (hendings : ∀ e ∈ endings, '/' ∉ e) :
    (∃ g ∈ places.map (sourcesBelow endings), Cut g (Path.ofNames (folders ++ [name]))) ↔
      (∃ f ∈ folders, f ∈ places) ∧ ∃ e ∈ endings, '.' :: e <:+ name := by
  have hinside : ∀ p ∈ endingIn ['.'] endings, p.isInside = true := by
    simpa [endingIn, spelled, Piece.isInside] using hendings
  have hcut : ∀ f ∈ places, (Cut (sourcesBelow endings f) (Path.ofNames (folders ++ [name])) ↔
      f ∈ folders ∧ ∃ e ∈ endings, '.' :: e <:+ name) := by
    intro f hf
    rw [sourcesBelow, cut_below_folders_iff h (hplaces f hf) hinside,
      cut_endingIn_iff (h name (by simp))]
    rfl
  constructor
  · rintro ⟨_, hg, hmatch⟩
    obtain ⟨f, hf, rfl⟩ := List.mem_map.1 hg
    obtain ⟨hfolder, hending⟩ := (hcut f hf).1 hmatch
    exact ⟨⟨f, hfolder, hf⟩, hending⟩
  · rintro ⟨⟨f, hfolder, hf⟩, hending⟩
    exact ⟨_, List.mem_map_of_mem hf, (hcut f hf).2 ⟨hfolder, hending⟩⟩

/-- One of the globs for whatever stands below some folders matches. -/
theorem exists_below_iff {places : List Text} (hplaces : ∀ f ∈ places, '/' ∉ f) :
    (∃ g ∈ places.map (below · [.anything]), Cut g (Path.ofNames (folders ++ [name]))) ↔
      ∃ f ∈ folders, f ∈ places := by
  constructor
  · rintro ⟨_, hg, hmatch⟩
    obtain ⟨f, hf, rfl⟩ := List.mem_map.1 hg
    exact ⟨f, (cut_below_anything_iff h (hplaces f hf)).1 hmatch, hf⟩
  · rintro ⟨f, hfolder, hf⟩
    exact ⟨_, List.mem_map_of_mem hf, (cut_below_anything_iff h (hplaces f hf)).2 hfolder⟩

/-- One of the globs for tests matches the name of a test, or what is below a folder of tests. -/
theorem exists_testGlob_iff :
    (∃ g ∈ testGlobs.map read, Cut g (Path.ofNames (folders ++ [name]))) ↔
      IsTestName name ∨ "tests".toList ∈ folders := by
  have hname : '/' ∉ name := h name (by simp)
  have hpython : Cut (spelled "test_".toList ++ .inside :: spelled ".py".toList) name ↔
      "test_".toList <+: name ∧ ".py".toList <:+ name := cut_begins_ends_iff hname (by decide)
  simp only [read_testGlobs, List.mem_cons, List.not_mem_nil, or_false, exists_eq_or_imp,
    exists_eq_left, IsTestName, or_assoc]
  rw [cut_name_iff h (by decide), cut_name_iff h (by decide), cut_name_iff h (by decide),
    cut_name_iff h (by decide), cut_contains_iff hname, cut_contains_iff hname, hpython,
    cut_ends_iff hname, cut_below_anything_iff h (by decide)]

theorem exists_excluded_function_iff :
    (∃ g ∈ function.excluded.map read, Cut g (Path.ofNames (folders ++ [name]))) ↔
      IsTestName name ∨ ∃ f ∈ folders, f ∈ (["tests", "components", "pages"] : List Text) := by
  simp only [read_excluded_function, List.mem_append, or_and_right, exists_or]
  rw [exists_testGlob_iff h, exists_below_iff h (by decide), or_assoc]
  refine or_congr_right ?_
  simp only [List.mem_cons, List.not_mem_nil, or_false, and_or_left, exists_or, exists_eq_right]

theorem exists_included_component_iff :
    (∃ g ∈ component.included.map read, Cut g (Path.ofNames (folders ++ [name]))) ↔
      IsComponentFile folders name := by
  have hname : '/' ∉ name := h name (by simp)
  simp only [read_included_component.mem_iff, List.mem_cons, exists_eq_or_imp]
  rw [exists_sourcesBelow_iff h (by decide) (by decide), cut_name_iff h (by decide),
    cut_endingIn_iff hname, or_comm]
  rfl

end

/-- The paths to look for functions at, and for components, are told by the folders on the way to a
file and by its name. -/
theorem candidates_by_components (h : ∀ n ∈ folders ++ [name], '/' ∉ n ∧ '\n' ∉ n)
    (files : List Text) :
    (Path.ofNames (folders ++ [name]) ∈ function.candidates files ↔
      Path.ofNames (folders ++ [name]) ∈ files ∧ IsFunctionFile folders name) ∧
    (Path.ofNames (folders ++ [name]) ∈ component.candidates files ↔
      Path.ofNames (folders ++ [name]) ∈ files ∧ IsComponentFile folders name) := by
  have hslash : ∀ n ∈ folders ++ [name], '/' ∉ n := fun n hn => (h n hn).1
  have hline : '\n' ∉ Path.ofNames (folders ++ [name]) := by
    intro hmem
    rcases Path.mem_ofNames hmem with hc | ⟨n, hn, hc⟩
    · exact absurd hc (by decide)
    · exact (h n hn).2 hc
  rw [mem_candidates_iff hline, mem_candidates_iff hline]
  refine ⟨and_congr_right fun _ => ?_, and_congr_right fun _ => ?_⟩
  · rw [read_included_function, exists_sourcesBelow_iff hslash (by decide) (by decide),
      exists_excluded_function_iff hslash]
    constructor
    · rintro ⟨⟨hfolder, hending⟩, hexcluded⟩
      obtain ⟨htest, helsewhere⟩ := not_or.1 hexcluded
      exact ⟨hfolder, hending, htest, fun f hf hmem => helsewhere ⟨f, hf, hmem⟩⟩
    · rintro ⟨hfolder, hending, htest, helsewhere⟩
      exact ⟨⟨hfolder, hending⟩, not_or.2 ⟨htest, fun ⟨f, hf, hmem⟩ => helsewhere f hf hmem⟩⟩
  · rw [exists_included_component_iff hslash]
    simp [excluded]

/-- A path that comes through one folder twice, to a file with a name almost like one of tests. -/
theorem candidates_of_repeated_folder :
    (∀ n ∈ ["src".toList, "lib".toList, "src".toList] ++ ["my_test.ts".toList],
        '/' ∉ n ∧ '\n' ∉ n) ∧
      "src/lib/src/my_test.ts".toList ∈ function.candidates ["src/lib/src/my_test.ts"] ∧
      "src/lib/src/my_test.ts".toList ∉ component.candidates ["src/lib/src/my_test.ts"] := by
  have hproper : ∀ n ∈ ["src".toList, "lib".toList, "src".toList] ++ ["my_test.ts".toList],
      '/' ∉ n ∧ '\n' ∉ n := by decide
  have hpath : Path.ofNames (["src".toList, "lib".toList, "src".toList] ++ ["my_test.ts".toList]) =
      "src/lib/src/my_test.ts".toList := by decide
  have hiff := candidates_by_components hproper ["src/lib/src/my_test.ts"]
  rw [hpath] at hiff
  refine ⟨hproper, hiff.1.2 ⟨List.mem_singleton_self _, ?_⟩, fun hmem => ?_⟩
  · decide
  · exact absurd (hiff.2.1 hmem).2 (by decide)

end Category
end CodeSurvey
