import CodeSurvey.Proofs.Idiom.Uses
import Mathlib.Algebra.BigOperators.Group.List.Basic

/-!
# Uses of an idiom in joined files

Each file is held against an idiom for itself. So the use of an idiom in the files of two
collections is put together from its uses in each: the frequencies add up, and the first of the
excerpts of both illustrate it. This does not depend on how a file shows the idiom, only on its
being told from the path and the text of that file alone. The frequency does not depend on the order
of the files either, and files that do not show the idiom may be left out.

## Main definitions

* `IdiomUse.frequencyOf`, `IdiomUse.examplesOf`: frequency and excerpts of a use, if there is one.
* `Idiom.Signs.Miss s path t`: a file does not show what the signs tell.
-/

namespace CodeSurvey

/-- The frequency of a use; what is not used has none. -/
def IdiomUse.frequencyOf (u : Option IdiomUse) : Nat := (u.map frequency).getD 0

/-- The excerpts that show a use; what is not used has none. -/
def IdiomUse.examplesOf (u : Option IdiomUse) : List Excerpt := (u.map examples).getD []

namespace Idiom

open IdiomUse

/-- Whether a file does not show what the signs tell: its path is a wrong one, or nothing is found
in its text. -/
def Signs.Miss (s : Signs) (path t : Text) : Prop :=
  s.onPath path = false ∨ ∃ places, s.inText = some places ∧ places t = []

variable {i : Idiom} {s : Signs} {sources as bs : List (Text × Text)} {path t : Text}

/-! ## Files that show an idiom -/

/-- The files that show an idiom by some signs, each as how often it does and an excerpt. -/
def showingsBy (i : Idiom) (s : Signs) (sources : List (Text × Text)) : List (Nat × Excerpt) :=
  sources.filterMap fun (path, t) => i.showingBy? s path t

theorem showingBy?_eq_none (h : s.Miss path t) : i.showingBy? s path t = none := by
  rw [showingBy?]
  rcases h with hpath | ⟨places, hplaces, hnil⟩
  · rw [hpath]
    rfl
  · rw [hplaces]
    simp [hnil]

theorem showingsBy_append (i : Idiom) (s : Signs) (as bs : List (Text × Text)) :
    i.showingsBy s (as ++ bs) = i.showingsBy s as ++ i.showingsBy s bs :=
  List.filterMap_append

/-- Files that do not show the idiom may be left out. -/
theorem showingsBy_filter {keep : Text × Text → Bool}
    (h : ∀ source ∈ sources, keep source = false → s.Miss source.1 source.2) :
    i.showingsBy s (sources.filter keep) = i.showingsBy s sources := by
  rw [showingsBy, showingsBy, List.filterMap_filter]
  refine List.filterMap_congr fun source hsource => ?_
  split
  · rfl
  · rename_i hkeep
    exact (showingBy?_eq_none (h source hsource (by simpa using hkeep))).symm

/-! ## The use of an idiom -/

theorem useBy?_congr (h : i.showingsBy s as = i.showingsBy s bs) :
    i.useBy? s as = i.useBy? s bs := by
  rw [showingsBy, showingsBy] at h
  rw [useBy?, useBy?, h]

theorem useBy?_eq_none_iff : i.useBy? s sources = none ↔ i.showingsBy s sources = [] := by
  rw [useBy?, showingsBy]
  split
  · rename_i hnil
    simp [hnil]
  · rename_i hne
    simpa using hne

theorem frequencyOf_useBy? (i : Idiom) (s : Signs) (sources : List (Text × Text)) :
    frequencyOf (i.useBy? s sources) = ((i.showingsBy s sources).map (·.1)).sum := by
  rw [useBy?, showingsBy]
  split
  · rename_i hnil
    rw [hnil]
    rfl
  · rfl

theorem examplesOf_useBy? (i : Idiom) (s : Signs) (sources : List (Text × Text)) :
    examplesOf (i.useBy? s sources) = ((i.showingsBy s sources).map (·.2)).take exampleLimit := by
  rw [useBy?, showingsBy]
  split
  · rename_i hnil
    rw [hnil]
    rfl
  · rfl

/-! ## Joined files -/

theorem frequencyOf_useBy?_append :
    frequencyOf (i.useBy? s (as ++ bs)) =
      frequencyOf (i.useBy? s as) + frequencyOf (i.useBy? s bs) := by
  simp only [frequencyOf_useBy?, showingsBy_append, List.map_append, List.sum_append]

/-- Only the first excerpts of a part can be among the first of the whole. -/
theorem examplesOf_useBy?_append :
    examplesOf (i.useBy? s (as ++ bs)) =
      (examplesOf (i.useBy? s as) ++ examplesOf (i.useBy? s bs)).take exampleLimit := by
  simp only [examplesOf_useBy?, showingsBy_append, List.map_append]
  rw [List.take_append, List.take_append, List.take_take, List.take_take, List.length_take]
  congr 2
  omega

theorem useBy?_append_eq_none_iff :
    i.useBy? s (as ++ bs) = none ↔ i.useBy? s as = none ∧ i.useBy? s bs = none := by
  simp only [useBy?_eq_none_iff, showingsBy_append, List.append_eq_nil_iff]

theorem frequencyOf_useBy?_perm (h : as.Perm bs) :
    frequencyOf (i.useBy? s as) = frequencyOf (i.useBy? s bs) := by
  rw [frequencyOf_useBy?, frequencyOf_useBy?]
  exact ((h.filterMap _).map _).sum_eq

/-- Whatever tells an idiom, its use in some files followed by others has the frequencies of both
added up and the first three of the excerpts of both, and there is one exactly if there is one in
either. The frequency is the same in whatever order the files come, and files of which the path is a
wrong one or that have nothing to be found in them make no difference. -/
theorem uses_of_joined_files (i : Idiom) (s : Signs) :
    (∀ as bs : List (Text × Text),
      frequencyOf (i.useBy? s (as ++ bs)) =
          frequencyOf (i.useBy? s as) + frequencyOf (i.useBy? s bs) ∧
        examplesOf (i.useBy? s (as ++ bs)) =
          (examplesOf (i.useBy? s as) ++ examplesOf (i.useBy? s bs)).take 3 ∧
        (i.useBy? s (as ++ bs) = none ↔ i.useBy? s as = none ∧ i.useBy? s bs = none)) ∧
      (∀ as bs : List (Text × Text), as.Perm bs →
        frequencyOf (i.useBy? s as) = frequencyOf (i.useBy? s bs)) ∧
      ∀ (sources : List (Text × Text)) (keep : Text × Text → Bool),
        (∀ source ∈ sources, keep source = false → s.Miss source.1 source.2) →
          i.useBy? s (sources.filter keep) = i.useBy? s sources :=
  ⟨fun _ _ => ⟨frequencyOf_useBy?_append, examplesOf_useBy?_append, useBy?_append_eq_none_iff⟩,
    fun _ _ => frequencyOf_useBy?_perm, fun _ _ h => useBy?_congr (showingsBy_filter h)⟩

/-- Widgets are made three times, in two of three files. -/
def workshop : List (Text × Text) :=
  [("a.js", "widget() + widget()"), ("b.js", "gadget()"), ("c.js", "widget()")]

/-- The widgets are counted backwards as well, and without the file that makes none. -/
theorem uses_of_workshop :
    let i : Idiom := ⟨"Widgets", [], [], none, some (.literal "widget")⟩
    let makes : Text × Text → Bool := fun source => source.1 != "b.js".toList
    workshop.Perm workshop.reverse ∧
      (∀ source ∈ workshop, makes source = false → i.signs.Miss source.1 source.2) ∧
      frequencyOf (i.use? workshop.reverse) = 3 ∧
      i.use? (workshop.filter makes) = i.use? workshop := by
  intro i makes
  have hperm : workshop.Perm workshop.reverse := (List.reverse_perm _).symm
  have hmiss : ∀ source ∈ workshop, makes source = false → i.signs.Miss source.1 source.2 := by
    intro source hsource hmakes
    obtain rfl : source = ("b.js".toList, "gadget()".toList) := by
      revert source
      decide
    exact .inr ⟨_, rfl, by decide⟩
  obtain ⟨-, horder, hfilter⟩ := uses_of_joined_files i i.signs
  refine ⟨hperm, hmiss, (horder _ _ hperm).symm.trans ?_, hfilter workshop makes hmiss⟩
  decide +kernel

end Idiom
end CodeSurvey
