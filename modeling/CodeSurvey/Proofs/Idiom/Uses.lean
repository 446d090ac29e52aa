import CodeSurvey.Idiom.Detect
import CodeSurvey.Proofs.Excerpt.Range
import Mathlib.Algebra.GroupWithZero.Nat
import Mathlib.Data.List.Basic

/-!
# What the uses of idioms are made of

An example of an idiom comes from one source file that can be read, and it is a range of the lines
of that file. Where the code tells the idiom, the range holds the line of the first match.
-/

namespace CodeSurvey

open Regex

variable {read read' : Text → Except ReadFailure Text} {files : List Text}

/-! ## Sources -/

theorem mem_codeSources {p t : Text} :
    (p, t) ∈ codeSources read files ↔ p ∈ files ∧ isCode p = true ∧ read p = .ok t := by
  simp only [codeSources, List.mem_filterMap, List.mem_filter, Option.map_eq_some_iff,
    Prod.mk.injEq]
  constructor
  · rintro ⟨p', ⟨hmem, hcode⟩, t', ht, rfl, rfl⟩
    refine ⟨hmem, hcode, ?_⟩
    cases hr : read p' <;> simp_all [Except.toOption]
  · rintro ⟨hmem, hcode, ht⟩
    exact ⟨p, ⟨hmem, hcode⟩, t, by simp [ht, Except.toOption], rfl, rfl⟩

/-- Files that give the same texts show the same idioms. -/
theorem surveyIdioms_congr (h : ∀ p ∈ files, (read p).toOption = (read' p).toOption) :
    surveyIdioms read files = surveyIdioms read' files := by
  unfold surveyIdioms codeSources
  congr 1
  refine List.filterMap_congr fun p hp => ?_
  rw [h p (List.mem_filter.1 hp).1]

/-! ## Examples -/

namespace Idiom

variable {i : Idiom} {u : IdiomUse} {sources : List (Text × Text)} {e : Excerpt} {path t : Text}

/-- A file shows an idiom once, by its path, or at every place that is found in its text. -/
theorem showingBy?_eq_some {s : Signs} {n : Nat} (h : i.showingBy? s path t = some (n, e)) :
    (s.inText = none ∧ n = 1 ∧ e = i.fileExample path t) ∨
      ∃ places m rest, s.inText = some places ∧ places t = m :: rest ∧ n = rest.length + 1 ∧
        e = i.matchExample path t m := by
  unfold showingBy? at h
  split at h
  · split at h
    · rename_i hpath
      obtain ⟨rfl, rfl⟩ := Prod.mk.inj (Option.some.inj h)
      exact .inl ⟨hpath, rfl, rfl⟩
    · rename_i places hplaces
      split at h
      · simp at h
      · rename_i m rest hfind
        obtain ⟨rfl, rfl⟩ := Prod.mk.inj (Option.some.inj h)
        exact .inr ⟨places, m, rest, hplaces, hfind, rfl, rfl⟩
  · simp at h

/-- A file shows an idiom once, by its path, or as often as the code occurs in it. -/
theorem showing?_eq_some {n : Nat} (h : i.showing? path t = some (n, e)) :
    (i.code = none ∧ n = 1 ∧ e = i.fileExample path t) ∨
      ∃ r m rest, i.code = some r ∧ r.findAll t = m :: rest ∧ n = rest.length + 1 ∧
        e = i.matchExample path t m := by
  rcases showingBy?_eq_some h with ⟨hcode, hn, he⟩ | ⟨places, m, rest, hcode, hfind, hn, he⟩
  · exact .inl ⟨Option.map_eq_none_iff.1 hcode, hn, he⟩
  · obtain ⟨r, hr, rfl⟩ := Option.map_eq_some_iff.1 hcode
    exact .inr ⟨r, m, rest, hr, hfind, hn, he⟩

/-- The files that show an idiom, each as how often it does and an excerpt. -/
def showings (i : Idiom) (sources : List (Text × Text)) : List (Nat × Excerpt) :=
  sources.filterMap fun (path, content) => i.showing? path content

theorem mem_showings {n : Nat} :
    (n, e) ∈ i.showings sources ↔
      ∃ path t, (path, t) ∈ sources ∧ i.showing? path t = some (n, e) := by
  simp [showings]

/-- The use of an idiom is told by the files that show it. -/
theorem use?_eq_some (h : i.use? sources = some u) :
    i.showings sources ≠ [] ∧ u.name = i.name ∧
      u.frequency = ((i.showings sources).map (·.1)).sum ∧
      u.examples = ((i.showings sources).map (·.2)).take exampleLimit := by
  have hshown : (sources.filterMap fun (path, content) =>
      i.showingBy? i.signs path content) = i.showings sources := rfl
  rw [use?, useBy?, hshown] at h
  split at h
  · simp at h
  · rename_i hne
    obtain rfl := Option.some.inj h
    exact ⟨hne, rfl, rfl, rfl⟩

theorem name_of_use? (h : i.use? sources = some u) : u.name = i.name := (use?_eq_some h).2.1

theorem exists_showing_of_mem_examples (h : i.use? sources = some u) (he : e ∈ u.examples) :
    ∃ path t n, (path, t) ∈ sources ∧ i.showing? path t = some (n, e) := by
  rw [(use?_eq_some h).2.2.2] at he
  obtain ⟨⟨n, e'⟩, hmem, rfl⟩ := List.mem_map.1 (List.mem_of_mem_take he)
  obtain ⟨path, t, hsource, hshow⟩ := mem_showings.1 hmem
  exact ⟨path, t, n, hsource, hshow⟩

theorem isRangeOf_fileExample (i : Idiom) (path t : Text) : (i.fileExample path t).IsRangeOf t := by
  have hne := List.length_pos_iff.2 (Text.lines_ne_nil t)
  exact Excerpt.isRangeOf_build (Nat.le_refl _) (by simp only [fileLines]; omega) (by omega) _ _

theorem isRangeOf_matchExample (i : Idiom) (path t : Text) (m : Match) :
    (i.matchExample path t m).IsRangeOf t := by
  have hline := lineOfOffset_lt t m.start
  exact Excerpt.isRangeOf_build (by omega) (by omega) (by omega) _ _

theorem holdsLineOf_matchExample (i : Idiom) (path t : Text) (m : Match) :
    (i.matchExample path t m).HoldsLineOf t m.start := by
  have hline := lineOfOffset_lt t m.start
  constructor
  · simp only [matchExample, Excerpt.startLine_build]
    omega
  · simp only [matchExample, Excerpt.endLine_build]
    omega

/-- What holds of every excerpt that shows an idiom in a file: where there is code to look for, it
is the excerpt of the first match. -/
structure Shown (i : Idiom) (path t : Text) (e : Excerpt) : Prop where
  path_eq : e.path = path
  isRange : e.IsRangeOf t
  firstMatch : ∀ r, i.code = some r → ∃ m rest, r.findAll t = m :: rest ∧
    e = i.matchExample path t m ∧ m.text <+: t.drop m.start ∧ e.HoldsLineOf t m.start

theorem shown_of_showing? {n : Nat} (h : i.showing? path t = some (n, e)) : i.Shown path t e := by
  rcases showing?_eq_some h with ⟨hcode, -, rfl⟩ | ⟨r, m, rest, hcode, hfind, -, rfl⟩
  · exact ⟨rfl, isRangeOf_fileExample i path t, by simp [hcode]⟩
  · refine ⟨rfl, isRangeOf_matchExample i path t m, ?_⟩
    intro r' hr'
    obtain rfl : r = r' := by simpa [hcode] using hr'
    have hin := inText_of_mem_findAll (hfind ▸ List.mem_cons_self)
    exact ⟨m, rest, hfind, rfl, hin.prefix_text, holdsLineOf_matchExample i path t m⟩

end Idiom

/-- An example of an idiom that is in use shows the idiom of that name in a source file. -/
theorem exists_shown_of_mem_surveyIdioms {u : IdiomUse} {e : Excerpt}
    (hu : u ∈ surveyIdioms read files) (he : e ∈ u.examples) :
    ∃ i ∈ Idiom.catalog, i.name = u.name ∧ ∃ t, read e.path = .ok t ∧ i.Shown e.path t e := by
  obtain ⟨i, hi, huse⟩ := List.mem_filterMap.1 (List.mem_mergeSort.1 hu)
  obtain ⟨path, t, n, hsource, hshow⟩ := Idiom.exists_showing_of_mem_examples huse he
  have hshown := Idiom.shown_of_showing? hshow
  obtain rfl := hshown.path_eq
  exact ⟨i, hi, (Idiom.name_of_use? huse).symm, t, (mem_codeSources.1 hsource).2.2, hshown⟩

end CodeSurvey
