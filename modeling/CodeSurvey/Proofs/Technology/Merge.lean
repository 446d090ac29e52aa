import CodeSurvey.Proofs.Technology.Entries

/-!
# Merged detections on exact numbers

On exact numbers the confidence of an entry is the highest that the detections give its name, so
that merging neither invents a technology nor weakens one.

## Main definitions

* `Technology.Tops t cs`: `t` has the highest confidence that the candidates give its name.
* `BorneOut ts ts'`: every technology of `ts` is in `ts'` with at least its confidence.
-/

namespace CodeSurvey

/-- Whether a technology has the highest confidence that some candidates give its name. -/
structure Technology.Tops (t : Technology Rat) (cs : List (Technology Rat)) : Prop where
  attained : ∃ c ∈ cs, c.name = t.name ∧ c.confidence = t.confidence
  highest : ∀ c ∈ cs, c.name = t.name → c.confidence ≤ t.confidence

section Exact

open Technology

variable {t : Technology Rat} {cs : List (Technology Rat)}

/-- What merging keeps of a name has the highest confidence of that name. -/
theorem tops_of_mem_mergeAll (h : t ∈ mergeAll cs) : t.Tops cs := by
  obtain ⟨c, hc, hconf, -⟩ := (mergedFrom_of_mem_mergeAll (comparedBy_id cs) h).strongest
  obtain ⟨hmem, hname⟩ := List.mem_filter.1 hc.mem
  refine ⟨⟨c, hmem, (eq_of_beq hname).symm, hconf.symm⟩, fun d hd hdname => ?_⟩
  rw [hconf]
  exact hc.le (List.mem_filter.2 ⟨hd, by simpa using hdname.symm⟩)

/-- Merging a part of the candidates first makes no difference to the highest confidence. -/
theorem Technology.Tops.of_mergeAll_append {ds : List (Technology Rat)}
    (h : t.Tops (mergeAll cs ++ ds)) : t.Tops (cs ++ ds) := by
  obtain ⟨⟨c, hc, hname, hconf⟩, hhighest⟩ := h
  constructor
  · rcases List.mem_append.1 hc with hc | hc
    · obtain ⟨b, hb, hbname, hbconf⟩ := (tops_of_mem_mergeAll hc).attained
      exact ⟨b, List.mem_append_left _ hb, hbname.trans hname, hbconf.trans hconf⟩
    · exact ⟨c, List.mem_append_right _ hc, hname, hconf⟩
  · intro d hd hdname
    rcases List.mem_append.1 hd with hd | hd
    · obtain ⟨m, hm, hmname⟩ := exists_mem_mergeAll hd
      have hle := (tops_of_mem_mergeAll hm).highest d hd hmname.symm
      exact hle.trans (hhighest m (List.mem_append_left _ hm) (hmname.trans hdname))
    · exact hhighest d (List.mem_append_right _ hd) hdname

/-! ## Comparing technologies -/

/-- Whether every technology of the first list is in the second with at least its confidence. -/
def BorneOut (ts ts' : List (Technology Rat)) : Prop :=
  ∀ t ∈ ts, ∃ t' ∈ ts', t'.name = t.name ∧ t.confidence ≤ t'.confidence

namespace BorneOut

variable {us us' ts ts' : List (Technology Rat)}

theorem trans (h : BorneOut ts ts') (h' : BorneOut ts' us) : BorneOut ts us := by
  intro t ht
  obtain ⟨t', ht', hname, hle⟩ := h t ht
  obtain ⟨u, hu, hname', hle'⟩ := h' t' ht'
  exact ⟨u, hu, hname'.trans hname, hle.trans hle'⟩

theorem append (h : BorneOut ts ts') (h' : BorneOut us us') : BorneOut (ts ++ us) (ts' ++ us') := by
  intro t ht
  rcases List.mem_append.1 ht with ht | ht
  · obtain ⟨t', ht', hle⟩ := h t ht
    exact ⟨t', List.mem_append_left _ ht', hle⟩
  · obtain ⟨t', ht', hle⟩ := h' t ht
    exact ⟨t', List.mem_append_right _ ht', hle⟩

/-- Merging loses nothing, -/
theorem mergeAll_right (cs : List (Technology Rat)) : BorneOut cs (mergeAll cs) := by
  intro c hc
  obtain ⟨t, ht, hname⟩ := exists_mem_mergeAll hc
  exact ⟨t, ht, hname, (tops_of_mem_mergeAll ht).highest c hc hname.symm⟩

/-- and it adds nothing. -/
theorem mergeAll_left (cs : List (Technology Rat)) : BorneOut (mergeAll cs) cs := by
  intro t ht
  obtain ⟨c, hc, hname, hconf⟩ := (tops_of_mem_mergeAll ht).attained
  exact ⟨c, hc, hname, hconf.ge⟩

theorem mergeAll (h : BorneOut ts ts') : BorneOut (mergeAll ts) (CodeSurvey.mergeAll ts') :=
  (mergeAll_left ts).trans (h.trans (mergeAll_right ts'))

theorem rank (h : BorneOut ts ts') : BorneOut (rank ts) (CodeSurvey.rank ts') := by
  intro t ht
  obtain ⟨t', ht', hle⟩ := h.mergeAll t (mem_rank.1 ht)
  exact ⟨t', mem_rank.2 ht', hle⟩

end BorneOut

end Exact
end CodeSurvey
