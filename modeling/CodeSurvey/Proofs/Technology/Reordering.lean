import CodeSurvey.Proofs.Ranking
import CodeSurvey.Proofs.Technology.Entries

/-!
# Ranking in whatever order detections come

Merging depends on the order of the detections, as the version of an entry and the order of its
evidence do. What entries are ranked by does not: in whatever order the detections come, ranking
gives the same names with confidences of the same measure, and for each name the same evidence. What
has been merged or ranked has no name twice, so that merging it again changes nothing.

## Main definitions

* `Technology.rankKey measure t`: what entries are ranked by.
-/

namespace CodeSurvey

section Distinct

variable {α : Type} [Quantity α] {cs ts : List (Technology α)}

/-! ## Distinct names -/

/-- There is nothing to merge where no name comes twice. -/
theorem mergeAll_eq_self (h : (ts.map Technology.name).Nodup) : mergeAll ts = ts := by
  have htable : ts.foldl addDetection [] = ts.map fun t => (t.name, t) := by
    induction ts using List.reverseRecOn with
    | nil => rfl
    | append_singleton ts t ih =>
        rw [List.map_append, List.nodup_append] at h
        have hnew : t.name ∉ Table.names (ts.map fun t => (t.name, t)) := by
          intro hmem
          refine h.2.2 t.name ?_ t.name (by simp) rfl
          simpa [Table.names] using hmem
        have hnone : Table.get? (ts.map fun t => (t.name, t)) t.name = none := by
          rw [← Option.not_isSome_iff_eq_none]
          exact fun hsome => hnew (Table.has_iff_mem_names.1 hsome)
        rw [List.foldl_append, List.foldl_cons, List.foldl_nil, ih h.1, addDetection_eq_put, hnone,
          Table.put_of_not_mem hnew, List.map_append]
        rfl
  rw [mergeAll, htable, List.map_map]
  exact List.map_id ts

theorem nodup_names_rank (cs : List (Technology α)) : ((rank cs).map Technology.name).Nodup :=
  ((List.mergeSort_perm _ _).map Technology.name).nodup_iff.2 (nodup_names_mergeAll cs)

end Distinct

/-! ## Keys -/

namespace Technology

variable {α β : Type} [LinearOrder β] {measure : α → β} {cs cs' ds ds' : List (Technology α)}
  {a b t t' : Technology α}

/-- What technologies are ranked by: the falling measure of the confidence, then the name. -/
def rankKey (measure : α → β) (t : Technology α) : Lex (βᵒᵈ × Text) :=
  toLex (OrderDual.toDual (measure t.confidence), t.name)

/-- Entries that are merged from the same detections in different orders are equally strong. -/
theorem MergedFrom.measure_eq (h : MergedFrom measure ds t) (h' : MergedFrom measure ds' t')
    (hsame : ∀ d, d ∈ ds ↔ d ∈ ds') : measure t.confidence = measure t'.confidence := by
  obtain ⟨c, hc, hconf, -⟩ := h.strongest
  obtain ⟨c', hc', hconf', -⟩ := h'.strongest
  rw [hconf, hconf']
  exact le_antisymm (hc'.le ((hsame c).1 hc.mem)) (hc.le ((hsame c').2 hc'.mem))

variable [Quantity α]

/-- Merged entries are as comparable as the detections. -/
theorem ComparedBy.mergeAll (h : ComparedBy measure cs) :
    ComparedBy measure (CodeSurvey.mergeAll cs) := by
  have hsource (t : Technology α) (ht : t ∈ CodeSurvey.mergeAll cs) :
      ∃ c ∈ cs, t.confidence = c.confidence := by
    obtain ⟨c, hc, hconf, -⟩ := (mergedFrom_of_mem_mergeAll h ht).strongest
    exact ⟨c, List.mem_of_mem_filter hc.mem, hconf⟩
  intro t ht t' ht'
  obtain ⟨c, hc, hconf⟩ := hsource t ht
  obtain ⟨c', hc', hconf'⟩ := hsource t' ht'
  rw [hconf, hconf']
  exact h c hc c' hc'

/-- Technologies are compared by their keys. -/
theorem ComparedBy.le_eq (h : ComparedBy measure cs) (ha : a ∈ cs) (hb : b ∈ cs) :
    le a b = decide (rankKey measure a ≤ rankKey measure b) := by
  rw [Bool.eq_iff_iff, decide_eq_true_eq, rankKey, rankKey, Prod.Lex.toLex_le_toLex,
    OrderDual.toDual_lt_toDual, OrderDual.toDual_inj, le, h b hb a ha, h a ha b hb,
    ← Text.le_eq_true_iff]
  rcases lt_trichotomy (measure a.confidence) (measure b.confidence) with hlt | heq | hgt
  · simp [hlt, hlt.not_gt, hlt.ne]
  · simp [heq]
  · simp [hgt]

/-- In another order the detections give every name an entry again, equally strong and with the same
evidence. -/
theorem exists_entry_of_perm (h : ComparedBy measure cs) (hperm : cs.Perm cs')
    (ht : t ∈ mergeAll cs) : ∃ t' ∈ mergeAll cs', t'.name = t.name ∧
      measure t'.confidence = measure t.confidence ∧ ∀ e, e ∈ t'.evidence ↔ e ∈ t.evidence := by
  have hname : t.name ∈ (mergeAll cs').map name := by
    rw [names_mergeAll, List.mem_eraseDups, ← (hperm.map name).mem_iff, ← List.mem_eraseDups,
      ← names_mergeAll]
    exact List.mem_map_of_mem ht
  obtain ⟨t', ht', hname⟩ := List.mem_map.1 hname
  have hentry := mergedFrom_of_mem_mergeAll h ht
  have hentry' := mergedFrom_of_mem_mergeAll (h.of_subset hperm.symm.subset) ht'
  have hsame (d : Technology α) : d ∈ cs'.filter (t'.name == ·.name) ↔
      d ∈ cs.filter (t.name == ·.name) := by
    rw [hname]
    exact (hperm.symm.filter _).mem_iff
  refine ⟨t', ht', hname, hentry'.measure_eq hentry hsame, fun e => ?_⟩
  rw [hentry'.mem_evidence, hentry.mem_evidence]
  exact exists_congr fun d => and_congr_left fun _ => hsame d

omit [LinearOrder β] in
/-- The entries have different keys. -/
theorem nodup_rankKeys_mergeAll (cs : List (Technology α)) :
    ((mergeAll cs).map (rankKey measure)).Nodup :=
  nodup_keys_of_part (fun k => (ofLex k).2) (fun _ => rfl) (nodup_names_mergeAll cs)

/-- In whatever order the detections come, the entries have the same keys. -/
theorem perm_rankKeys_mergeAll (h : ComparedBy measure cs) (hperm : cs.Perm cs') :
    ((mergeAll cs).map (rankKey measure)).Perm ((mergeAll cs').map (rankKey measure)) := by
  have hsubset {cs cs' : List (Technology α)} (h : ComparedBy measure cs) (hperm : cs.Perm cs') :
      (mergeAll cs).map (rankKey measure) ⊆ (mergeAll cs').map (rankKey measure) := by
    intro k hk
    obtain ⟨t, ht, rfl⟩ := List.mem_map.1 hk
    obtain ⟨t', ht', hname, hmeasure, -⟩ := exists_entry_of_perm h hperm ht
    rw [rankKey, ← hname, ← hmeasure]
    exact List.mem_map_of_mem ht'
  refine (List.perm_ext_iff_of_nodup (nodup_rankKeys_mergeAll cs)
    (nodup_rankKeys_mergeAll cs')).2 fun k => ?_
  exact ⟨fun hk => hsubset h hperm hk,
    fun hk => hsubset (h.of_subset hperm.symm.subset) hperm.symm hk⟩

/-! ## Sorted entries -/

theorem map_rankKey_rank (h : ComparedBy measure cs) :
    (rank cs).map (rankKey measure) =
      ((mergeAll cs).map (rankKey measure)).mergeSort fun k k' => decide (k ≤ k') :=
  List.map_mergeSort fun _ ha _ hb => h.mergeAll.le_eq ha hb

/-- Ranking puts technologies in the order by which it compares them. -/
theorem pairwise_rank (h : ComparedBy measure cs) :
    (rank cs).Pairwise fun a b => le a b = true := by
  have hsorted := RanksBy.decide_le.pairwise_mergeSort ((mergeAll cs).map (rankKey measure))
  rw [← map_rankKey_rank h, List.pairwise_map] at hsorted
  refine hsorted.imp_of_mem fun ha hb hab => ?_
  rw [h.mergeAll.le_eq (mem_rank.1 ha) (mem_rank.1 hb)]
  exact decide_eq_true hab

end Technology

section Ranks

open Technology

variable {α β : Type} [LinearOrder β] [Quantity α] {measure : α → β} {cs cs' : List (Technology α)}

theorem map_rankKey_rank_of_perm (h : ComparedBy measure cs) (hperm : cs.Perm cs') :
    (rank cs).map (rankKey measure) = (rank cs').map (rankKey measure) := by
  rw [map_rankKey_rank h, map_rankKey_rank (h.of_subset hperm.symm.subset)]
  refine RanksBy.decide_le.mergeSort_eq_of_perm ?_ (perm_rankKeys_mergeAll h hperm)
  rw [List.map_id]
  exact nodup_rankKeys_mergeAll cs

theorem rank_rank (h : ComparedBy measure cs) : rank (rank cs) = rank cs := by
  rw [rank, mergeAll_eq_self (nodup_names_rank cs)]
  exact List.mergeSort_of_pairwise (pairwise_rank h)

theorem rank_mergeAll (cs : List (Technology α)) : rank (mergeAll cs) = rank cs := by
  rw [rank, mergeAll_eq_self (nodup_names_mergeAll cs), rank]

/-- In whatever order detections come, ranking gives the same names in the same order with equally
high confidences, and for each name the same evidence. What has been ranked stays as it is when it
is ranked again, and what has been merged before is ranked alike. -/
theorem rank_whatever_order (h : ComparedBy measure cs) (hperm : cs.Perm cs') :
    (rank cs).map (fun t => (t.name, measure t.confidence)) =
        (rank cs').map (fun t => (t.name, measure t.confidence)) ∧
      (∀ t ∈ rank cs, ∀ t' ∈ rank cs', t.name = t'.name →
        ∀ e, e ∈ t.evidence ↔ e ∈ t'.evidence) ∧
      rank (rank cs) = rank cs ∧ rank (mergeAll cs) = rank cs := by
  refine ⟨?_, fun t ht t' ht' hname e => ?_, rank_rank h, rank_mergeAll cs⟩
  · have hkeys := congrArg (List.map fun k : Lex (βᵒᵈ × Text) =>
      ((ofLex k).2, OrderDual.ofDual (ofLex k).1)) (map_rankKey_rank_of_perm h hperm)
    simpa [Function.comp_def, rankKey] using hkeys
  · obtain ⟨t'', ht'', hname', -, hevidence⟩ := exists_entry_of_perm h hperm (mem_rank.1 ht)
    obtain rfl : t'' = t' := List.inj_on_of_nodup_map (nodup_names_mergeAll cs') ht''
      (mem_rank.1 ht') (hname'.trans hname)
    exact (hevidence e).symm

/-- The same detections the other way round give the evidence in another order and are ranked
alike. -/
theorem rank_of_reversed :
    ComparedBy id detectedTwice ∧ detectedTwice.Perm detectedTwice.reverse ∧
      (rank detectedTwice).map (fun t => (t.name, t.confidence)) =
        (rank detectedTwice.reverse).map (fun t => (t.name, t.confidence)) ∧
      rank (rank detectedTwice) = rank detectedTwice ∧
      rank (mergeAll detectedTwice) = rank detectedTwice := by
  have h := comparedBy_id detectedTwice
  have hperm : detectedTwice.Perm detectedTwice.reverse := (List.reverse_perm _).symm
  obtain ⟨hpairs, -, hagain, hmerged⟩ := rank_whatever_order h hperm
  exact ⟨h, hperm, hpairs, hagain, hmerged⟩

end Ranks
end CodeSurvey
