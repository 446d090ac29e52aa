import CodeSurvey.Proofs.Excerpt.Selection
import CodeSurvey.Proofs.Idiom.Uses

/-!
# Excerpts are verbatim

Whatever a survey shows of a file, as an excerpt of a category or as an example of an idiom, is a
range of the lines of that file as it can be read, and it holds the line it was made for.
-/

namespace CodeSurvey

/-- Every excerpt of a category and every example of an idiom is a range of lines of its file, taken
as it stands. Where a match led to it, the range holds the line on which the match starts. -/
theorem excerpts_are_ranges_of_files (fs : FileSystem) (root : Location) (s : Settings)
    (files : List Text) :
    let read := fs.readSource root (some s.maxFileSize)
    (∀ c : Category, ∀ e ∈ (ExcerptSet.select s read files).get c, ∃ t, read e.path = .ok t ∧
      e.IsRangeOf t ∧ (c.followsMatch = true → ∃ offset found,
        Category.Origin e.path t c e offset found ∧ found <+: t.drop offset ∧
          e.HoldsLineOf t offset)) ∧
    (∀ u ∈ surveyIdioms read files, ∀ e ∈ u.examples, ∃ t, read e.path = .ok t ∧
      e.IsRangeOf t ∧ ∃ i ∈ Idiom.catalog, i.name = u.name ∧ ∀ r, i.code = some r →
        ∃ m rest, r.findAll t = m :: rest ∧ e = i.matchExample e.path t m ∧
          m.text <+: t.drop m.start ∧ e.HoldsLineOf t m.start) := by
  intro read
  refine ⟨?_, ?_⟩
  · intro c e he
    rw [ExcerptSet.select, ExcerptSet.get_ofCategories] at he
    obtain ⟨p, -, t, hread, hfind⟩ := mem_gatherExcerpts.1 (mem_gatherExcerpts_of_mem_select he)
    have hshown := Category.shown_of_mem_find hfind
    obtain rfl := hshown.path_eq
    refine ⟨t, hread, hshown.isRange, fun hc => ?_⟩
    obtain ⟨offset, found, horigin, hholds⟩ := hshown.origin hc
    exact ⟨offset, found, horigin, horigin.prefix_found, hholds⟩
  · intro u hu e he
    obtain ⟨i, hi, hname, t, hread, hshown⟩ := exists_shown_of_mem_surveyIdioms hu he
    exact ⟨t, hread, hshown.isRange, i, hi, hname, hshown.firstMatch⟩

end CodeSurvey
