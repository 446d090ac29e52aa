import CodeSurvey.Excerpt.Select
import Mathlib.Data.List.Basic

/-!
# What a selection is made of

A selection of excerpts holds nothing that was not found in one of the sampled files, and it depends
on reading only through the texts of these files: why a file cannot be read does not matter.
-/

namespace CodeSurvey

variable {s : Settings} {read read' : Text → Except ReadFailure Text} {files : List Text}
  {c : Category} {e : Excerpt}

/-! ## Members -/

theorem mem_of_mem_dropSameStart {es : List Excerpt} (h : e ∈ dropSameStart es) : e ∈ es := by
  -- The fold moves excerpts from the list to those that are kept, and makes none.
  have hfold : ∀ kept : List Excerpt, e ∈ es.foldl (fun kept e =>
      if kept.any e.sameStart then kept else e :: kept) kept → e ∈ kept ∨ e ∈ es := by
    clear h
    induction es with
    | nil => exact fun _ h => .inl h
    | cons e' es ih =>
        intro kept h
        rw [List.foldl_cons] at h
        rcases ih _ h with h | h
        · split at h
          · exact .inl h
          · rcases List.mem_cons.1 h with rfl | h
            · exact .inr List.mem_cons_self
            · exact .inl h
        · exact .inr (List.mem_cons_of_mem _ h)
  simpa using hfold [] (by simpa [dropSameStart] using h)

theorem mem_gatherExcerpts :
    e ∈ gatherExcerpts s read c files ↔
      ∃ p ∈ sampledCandidates s c files, ∃ t, read p = .ok t ∧ e ∈ c.find p t := by
  rw [gatherExcerpts, List.mem_flatMap]
  refine exists_congr fun p => and_congr_right fun _ => ?_
  cases read p <;> simp

theorem mem_gatherExcerpts_of_mem_select (h : e ∈ selectExcerpts s read files c) :
    e ∈ gatherExcerpts s read c files := by
  unfold selectExcerpts at h
  split at h
  · simp at h
  · exact mem_of_mem_dropSameStart (List.mem_mergeSort.1 (List.mem_of_mem_take h))

theorem sampledCandidates_subset (s : Settings) (c : Category) (files : List Text) :
    sampledCandidates s c files ⊆ files := by
  intro p hp
  exact (List.mem_filter.1 ((Text.upTo_sublist _ _).mem hp)).1

/-! ## Reading -/

/-- Files that give the same texts give the same excerpts. -/
theorem gatherExcerpts_congr (h : ∀ p ∈ files, (read p).toOption = (read' p).toOption) :
    gatherExcerpts s read c files = gatherExcerpts s read' c files := by
  refine List.flatMap_congr fun p hp => ?_
  have hp := h p (sampledCandidates_subset s c files hp)
  cases hr : read p <;> cases hr' : read' p <;> simp_all [Except.toOption]

theorem ExcerptSet.select_congr (h : ∀ p ∈ files, (read p).toOption = (read' p).toOption) :
    ExcerptSet.select s read files = ExcerptSet.select s read' files := by
  unfold ExcerptSet.select
  congr 1
  funext c
  rw [selectExcerpts, selectExcerpts, gatherExcerpts_congr h]

end CodeSurvey
